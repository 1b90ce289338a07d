import ServiceKit.Pattern.Scan

/-!
Reading patterns. A reader keeps what has been opened and not closed yet as a stack of levels, for
groups as for the sets within brackets.
-/

namespace ServiceKit.Pattern

/-- A bracketed set as far as it has been read: what stands before its last operator, and the
members behind that, the newest first. `fresh` until a member has been read, leading dashes apart. -/
structure SetLevel where
  negated : Bool
  left : Option Choice
  members : List Choice
  fresh : Bool

namespace SetLevel

def opened (spaced : Bool) (cs : List Char) : SetLevel × List Char :=
  match skip spaced cs with
  | '^' :: rest => (⟨true, none, [], true⟩, rest)
  | rest => (⟨false, none, [], true⟩, rest)

def add (l : SetLevel) (c : Choice) : SetLevel :=
  { l with members := c :: l.members, fresh := false }

def content (l : SetLevel) : Choice :=
  let right := Choice.ofList l.members.reverse
  match l.left with
  | none => right
  | some left => .combined left right

def operate (l : SetLevel) : SetLevel :=
  { l with left := some l.content, members := [], fresh := false }

def closed (l : SetLevel) : Choice := .bracketed l.negated l.content

end SetLevel

/-- Sets that have been opened around the one under way, the innermost first; or the finished set. -/
inductive SetProgress where
  | within (outer : List SetLevel) (here : SetLevel)
  | finished (c : Choice)

/-- Reads one thing within a set. At its front dashes stand for themselves, and so does a bracket
with nothing before it. -/
def setStep? (spaced : Bool) (outer : List SetLevel) (here : SetLevel) : Scanner SetProgress
  | [] => none
  | c :: rest =>
    let nested := SetLevel.opened spaced rest
    if here.fresh && c = '-' then
      some (.within outer { here.add (.letter ⟨c, false⟩) with fresh := true }, rest)
    else if here.fresh && here.members.isEmpty && c = ']' then
      some (.within outer (here.add (.letter ⟨c, false⟩)), rest)
    else if c = '[' then
      match namedSet? rest with
      | some (set, rest) => some (.within outer (here.add set), rest)
      | none => some (.within (here :: outer) nested.1, nested.2)
    else if c = ']' then
      match outer with
      | [] => some (.finished here.closed, rest)
      | l :: outer => some (.within outer (l.add here.closed), rest)
    else if (c = '&' || c = '-' || c = '~') && rest.head? = some c then
      some (.within outer here.operate, rest.drop 1)
    else (member? spaced (c :: rest)).map fun (m, rest) => (.within outer (here.add m), rest)

def set? (spaced : Bool) (outer : List SetLevel) (here : SetLevel) (cs : List Char) :
    Option (Choice × List Char) :=
  match setStep? spaced outer here (skip spaced cs) with
  | none => none
  | some (.finished c, rest) => some (c, rest)
  | some (.within outer here, rest) =>
    if rest.length < cs.length then set? spaced outer here rest else none
termination_by cs.length

/-- A group, or the whole pattern, as far as it has been read: the alternatives before the one
under way and the parts of that, the newest first. -/
structure Level where
  earlier : List Pattern
  parts : List Pattern
  spaced : Bool

namespace Level

def opened (spaced : Bool) : Level := ⟨[], [], spaced⟩

def add (l : Level) (p : Pattern) : Level := { l with parts := p :: l.parts }

def alternate (l : Level) : Level :=
  { l with earlier := ofParts l.parts.reverse :: l.earlier, parts := [] }

def closed (l : Level) : Pattern := ofAlternatives l.alternate.earlier.reverse

/-- Repeats the last part; flags cannot be repeated. -/
def repeat? (l : Level) : Option Level :=
  match l.parts with
  | [] => none
  | .switches _ :: _ => none
  | p :: rest => some { l with parts := .repeated p :: rest }

/-- Flags hold for the rest of their level. -/
def switch (l : Level) (s : Switches) : Level :=
  { l.add (.switches s) with spaced := (s.lookup .spaced).getD l.spaced }

end Level

structure Opened where
  around : Level
  name : Option String
  switches : Switches

/-- The groups around the level under way, the innermost first. -/
structure Progress where
  outer : List Opened
  here : Level

namespace Progress

def add (p : Progress) (part : Pattern) : Progress := { p with here := p.here.add part }

/-- Reads one thing. Nothing can be repeated a given number of times. -/
def step? (p : Progress) : Scanner Progress
  | [] => none
  | c :: rest =>
    let spaced := p.here.spaced
    if c = '(' then
      match front? (skip spaced rest) with
      | none => none
      | some (.switches s, rest) => some ({ p with here := p.here.switch s }, rest)
      | some (.group name s, rest) =>
        some (⟨⟨p.here, name, s⟩ :: p.outer, .opened ((s.lookup .spaced).getD spaced)⟩, rest)
    else if c = ')' then
      match p.outer with
      | [] => none
      | g :: outer => some (⟨outer, g.around.add (.group g.name g.switches p.here.closed)⟩, rest)
    else if c = '|' then some ({ p with here := p.here.alternate }, rest)
    else if c = '[' then
      let (level, rest) := SetLevel.opened spaced rest
      (set? spaced [] level rest).map fun (set, rest) => (p.add (.choice set), rest)
    else if c = '?' || c = '*' || c = '+' then
      p.here.repeat?.map fun here =>
        ({ p with here }, if rest.head? = some '?' then rest.drop 1 else rest)
    else if c = '\x7b' then none
    else if c = '\\' then (escape? spaced rest).map fun (part, rest) => (p.add part, rest)
    else if c = '.' then some (p.add .any, rest)
    else if c = '^' || c = '$' then some (p.add .edge, rest)
    else some (p.add (.letter ⟨c, false⟩), rest)

/-- Reads to the end of the text, where no group may be open. -/
def read? (p : Progress) (cs : List Char) : Option Pattern :=
  match skip p.here.spaced cs with
  | [] => if p.outer.isEmpty then some p.here.closed else none
  | c :: more =>
    match p.step? (c :: more) with
    | none => none
    | some (q, rest) => if rest.length < cs.length then q.read? rest else none
termination_by cs.length

end Progress

def depthLimit : Nat := 250

/-- Reads a pattern. Its groups have different names. -/
def ofText? (cs : List Char) : Option Pattern :=
  match Progress.read? ⟨[], .opened false⟩ cs with
  | none => none
  | some p => if p.depth ≤ depthLimit ∧ p.names.Nodup then some p else none

end ServiceKit.Pattern
