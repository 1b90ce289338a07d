import ServiceKit.Decimal.Shortest
import ServiceKit.Logging.Level
import ServiceKit.Pattern.Support
import ServiceKit.Text.Alphanumeric
import ServiceKit.Text.Blank
import ServiceKit.Text.Offset

/-!
Filter directives: a level for the events of a target, of a span, or with given fields. The written
form is `target[span{field=value,..}]=level`, where each part but the level may be missing.
-/

namespace ServiceKit.Logging

inductive FieldTest where
  | boolean (b : Bool)
  | natural (n : Nat)
  | integer (n : Int)
  | float (x : Decimal.Binary)
  | notANumber
  | pattern (text : String)
  deriving DecidableEq

namespace FieldTest

/-- A value is read as the first of these kinds that fits. -/
def ofText (cs : List Char) : Except PatternFault FieldTest :=
  if cs = "true".toList then .ok (.boolean true)
  else if cs = "false".toList then .ok (.boolean false)
  else
    match Text.readNatural Text.wordLimit cs, Text.readSigned Text.signLimit cs,
      Decimal.Binary.ofText? cs with
    | .ok n, _, _ => .ok (.natural n)
    | _, .ok n, _ => .ok (.integer n)
    | _, _, some .notANumber => .ok .notANumber
    | _, _, some x => .ok (.float x)
    | _, _, none =>
      match Pattern.fault? cs with
      | some f => .error f
      | none => .ok (.pattern (String.ofList cs))

def render : FieldTest → String
  | .boolean b => if b then "true" else "false"
  | .natural n => toString n
  | .integer n => toString n
  | .float x => x.render
  | .notANumber => "NaN"
  | .pattern text => text

def place : FieldTest → Nat
  | .boolean _ => 0
  | .float _ => 1
  | .notANumber => 2
  | .natural _ => 3
  | .integer _ => 4
  | .pattern _ => 5

def compare : FieldTest → FieldTest → Ordering
  | .boolean a, .boolean b => Ord.compare a b
  | .float x, .float y => x.compare y
  | .natural a, .natural b => Ord.compare a b
  | .integer a, .integer b => Ord.compare a b
  | .pattern a, .pattern b => Ord.compare a b
  | a, b => Ord.compare a.place b.place

end FieldTest

/-- A field that an event must have, and what its value must be, if that matters. -/
structure FieldMatch where
  name : String
  value : Option FieldTest
  deriving DecidableEq

/-- Orders optional things: nothing comes first. -/
def compareOptional {α : Type} (compare : α → α → Ordering) : Option α → Option α → Ordering
  | none, none => .eq
  | none, some _ => .lt
  | some _, none => .gt
  | some a, some b => compare a b

/-- Orders lists by their first difference; a list comes before those that continue it. -/
def compareLists {α : Type} (compare : α → α → Ordering) : List α → List α → Ordering
  | [], [] => .eq
  | [], _ :: _ => .lt
  | _ :: _, [] => .gt
  | a :: as, b :: bs => (compare a b).then (compareLists compare as bs)

namespace FieldMatch

/-- Text after a second equals sign is ignored. -/
def ofText (cs : List Char) : Except PatternFault FieldMatch :=
  let name := String.ofList (cs.takeWhile (· ≠ '='))
  match cs.dropWhile (· ≠ '=') with
  | [] => .ok ⟨name, none⟩
  | _ :: rest => (FieldTest.ofText (rest.takeWhile (· ≠ '='))).map fun v => ⟨name, some v⟩

def render (m : FieldMatch) : String :=
  match m.value with
  | none => m.name
  | some v => m.name ++ "=" ++ v.render

/-- Fields with a value come after fields without one. -/
def compare (a b : FieldMatch) : Ordering :=
  ((Ord.compare a.value.isSome b.value.isSome).then (Ord.compare a.name b.name)).then
    (compareOptional FieldTest.compare a.value b.value)

end FieldMatch

structure Directive where
  target : Option String
  span : Option String
  fields : List FieldMatch
  level : Level
  deriving DecidableEq

namespace Directive

def ofLevel (level : Level) : Directive := ⟨none, none, [], level⟩

/-- A directive about spans or about values cannot be decided from an event alone. -/
def isDynamic (d : Directive) : Bool :=
  d.span.isSome || d.fields.any (·.value.isSome)

def renderScope (d : Directive) : String :=
  if d.span.isNone && d.fields.isEmpty then ""
  else
    let fields :=
      if d.fields.isEmpty then ""
      else "\x7b" ++ ",".intercalate (d.fields.map FieldMatch.render) ++ "\x7d"
    "[" ++ d.span.getD "" ++ fields ++ "]"

def render (d : Directive) : String :=
  let selector := d.target.getD "" ++ d.renderScope
  if d.target.isNone && d.span.isNone && d.fields.isEmpty then d.level.word
  else selector ++ "=" ++ d.level.word

/-- The order of specificity, which ignores the level: longer targets are more specific, then spans,
then more fields; what these leave open is settled by the texts. -/
def compare (a b : Directive) : Ordering :=
  (((((compareOptional Ord.compare (a.target.map String.utf8ByteSize)
      (b.target.map String.utf8ByteSize)).then
    (Ord.compare a.span.isSome b.span.isSome)).then
    (Ord.compare a.fields.length b.fields.length)).then
    (compareOptional Ord.compare a.target b.target)).then
    (compareOptional Ord.compare a.span b.span)).then
    (compareLists FieldMatch.compare a.fields b.fields)

def concerns (d : Directive) (target : String) (fields : List String) : Bool :=
  (d.target.all fun t => t.toList.isPrefixOf target.toList)
    && d.fields.all fun f => fields.contains f.name

end Directive

inductive DirectiveFault where
  | malformed
  | level
  | field (f : PatternFault)
  deriving DecidableEq

def DirectiveFault.reason : DirectiveFault → String
  | .malformed => "invalid filter directive"
  | .level => Level.unknown
  | .field f => "invalid field filter: " ++ f.message

/-- Where a reader of directives stands, with the offset at which the part it is in began. -/
inductive Place where
  | start
  | levelOrTarget (first : Nat)
  | span (first : Nat)
  | field (first : Nat)
  | fields
  | target
  | level (first : Nat)
  | complete
  deriving DecidableEq

structure Progress where
  place : Place
  directive : Directive
  deriving DecidableEq

namespace Progress

/-- What a written level means; where nothing is written everything is meant. -/
def levelOf (cs : List Char) : Except DirectiveFault Level :=
  if cs.isEmpty then .ok .trace
  else
    match Level.ofText? cs with
    | some l => .ok l
    | none => .error .level

def orMalformed {α : Type} : Option α → Except DirectiveFault α
  | some a => .ok a
  | none => .error .malformed

/-- A directive that ends while it may still be a level or a target. -/
def levelOrTarget (cs : List Char) (d : Directive) : Directive :=
  if cs.isEmpty then { d with level := .trace, target := none }
  else
    match Level.ofText? cs with
    | some level => { d with level, target := none }
    | none => { d with level := .trace, target := some (String.ofList cs) }

/-- Reads the character at an offset. The parts are cut out of `text`. -/
def step (text : List Char) (p : Progress) (offset : Nat) (c : Char) :
    Except DirectiveFault Progress := do
  let d := p.directive
  let cut (first : Nat) : Except DirectiveFault (List Char) :=
    orMalformed (Text.piece? first offset text)
  match p.place with
  | .start =>
    if c = '[' then return ⟨.span (offset + 1), d⟩
    else if c = '-' ∨ c = ':' ∨ c = '_' ∨ Text.isAlphanumeric c then
      return ⟨.levelOrTarget offset, d⟩
    else .error .malformed
  | .levelOrTarget first =>
    if c = '=' then
      return ⟨.level (offset + 1), { d with target := some (String.ofList (← cut first)) }⟩
    else if c = '[' then
      return ⟨.span (offset + 1), { d with target := some (String.ofList (← cut first)) }⟩
    else if c = ',' then
      return ⟨.complete, levelOrTarget (← orMalformed (Text.fromOffset? first text)) d⟩
    else return p
  | .span first =>
    if c = ']' then
      return ⟨.target, { d with span := some (String.ofList (← cut first)) }⟩
    else if c = '\x7b' then
      let name ← cut first
      return ⟨.field (offset + 1),
        { d with span := if name.isEmpty then none else some (String.ofList name) }⟩
    else return p
  | .field first =>
    if c = '\x7d' ∨ c = ',' then
      let field ← cut first
      if field.isEmpty then .error .malformed
      else
        let m ← (FieldMatch.ofText field).mapError DirectiveFault.field
        let d := { d with fields := d.fields ++ [m] }
        return ⟨if c = ',' then .field (offset + 1) else .fields, d⟩
    else return p
  | .fields => if c = ']' then return ⟨.target, d⟩ else .error .malformed
  | .target => if c = '=' then return ⟨.level (offset + 1), d⟩ else .error .malformed
  | .level first =>
    if c = ',' then return ⟨.complete, { d with level := ← levelOf (← cut first) }⟩
    else return p
  | .complete => .error .malformed

/-- Reads characters one after another, the first of them at the given offset. -/
def walk (text : List Char) (p : Progress) (offset : Nat) :
    List Char → Except DirectiveFault Progress
  | [] => .ok p
  | c :: rest =>
    match step text p offset c with
    | .error e => .error e
    | .ok q => walk text q (offset + c.utf8Size) rest

def finish (text : List Char) (p : Progress) : Except DirectiveFault Directive :=
  match p.place with
  | .levelOrTarget first => do
    return levelOrTarget (← orMalformed (Text.fromOffset? first text)) p.directive
  | .level first => do
    return { p.directive with level := ← levelOf (← orMalformed (Text.fromOffset? first text)) }
  | .target | .complete => .ok p.directive
  | _ => .error .malformed

end Progress

/-- Reads a directive. The reader walks over the text without the white space around it, but cuts
its parts out of the whole text, so that leading white space shifts them. -/
def Directive.ofText (text : List Char) : Except DirectiveFault Directive :=
  match Progress.walk text ⟨.start, .ofLevel .trace⟩ 0 (Text.trim text) with
  | .error e => .error e
  | .ok p => p.finish text

end ServiceKit.Logging
