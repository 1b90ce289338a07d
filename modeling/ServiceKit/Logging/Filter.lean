import ServiceKit.Logging.Directive

/-!
Log filters: directives kept from the most specific to the least, one for each thing that can be
said. The first directive that concerns an event decides about it.
-/

namespace ServiceKit.Logging

/-- Puts a directive in its place; one that says something about the same events is replaced. -/
def insertDirective (d : Directive) : List Directive → List Directive
  | [] => [d]
  | e :: rest =>
    match d.compare e with
    | .gt => d :: e :: rest
    | .eq => d :: rest
    | .lt => e :: insertDirective d rest

structure Filter where
  statics : List Directive
  dynamics : List Directive
  deriving DecidableEq

namespace Filter

def initial : Filter := ⟨[.ofLevel .error], []⟩

def add (f : Filter) (d : Directive) : Filter :=
  if d.isDynamic then { f with dynamics := insertDirective d f.dynamics }
  else { f with statics := insertDirective d f.statics }

def render (f : Filter) : String :=
  ",".intercalate ((f.statics ++ f.dynamics).map Directive.render)

/-- Whether an event outside any span passes. Directives about spans and values have no say. -/
def passes (f : Filter) (target : String) (fields : List String) (level : Level) : Bool :=
  match f.statics.find? (·.concerns target fields) with
  | some d => level.rank ≤ d.level.rank
  | none => false

end Filter

end ServiceKit.Logging
