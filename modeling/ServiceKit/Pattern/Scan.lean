import ServiceKit.Pattern.Basic
import ServiceKit.Text.Alphanumeric
import ServiceKit.Text.Blank
import ServiceKit.Text.Hex

/-!
The small parts of a written pattern: filler, escaped characters, the fronts of groups, and the
members of bracketed sets. Where a pattern is spaced, filler may stand between its parts: white
space, and comments up to the end of their line.
-/

namespace ServiceKit.Pattern

/-- A scanner takes a thing off the front of a text. -/
abbrev Scanner (α : Type) : Type := List Char → Option (α × List Char)

/-- The text behind filler; a comment may be under way already. -/
def skipFiller (inComment : Bool) : List Char → List Char
  | [] => []
  | c :: rest =>
    if inComment then skipFiller (c ≠ '\n') rest
    else if c = '#' then skipFiller true rest
    else if Text.isBlank c then skipFiller false rest
    else c :: rest

def skip (spaced : Bool) (cs : List Char) : List Char :=
  if spaced then skipFiller false cs else cs

/-! ### Escaped characters -/

def hexDigit? (c : Char) : Option Nat :=
  if c.toNat < 0x80 then Text.Hex.value? (UInt8.ofNat c.toNat) else none

def hexNumber? (spaced : Bool) : Nat → Nat → Scanner Nat
  | 0, value, cs => some (value, cs)
  | _ + 1, _, [] => none
  | count + 1, value, c :: rest =>
    match hexDigit? c with
    | some d => hexNumber? spaced count (16 * value + d) (skip spaced rest)
    | none => none

def numbered? (spaced : Bool) (count : Nat) : Scanner Pattern := fun cs => do
  let (n, rest) ← hexNumber? spaced count 0 (skip spaced cs)
  if n.isValidChar then return (.letter ⟨Char.ofNat n, count = 2⟩, rest) else none

def controlOf? : Char → Option Char
  | 'a' => some '\x07'
  | 't' => some '\t'
  | 'n' => some '\n'
  | 'v' => some '\x0b'
  | 'f' => some '\x0c'
  | 'r' => some '\x0d'
  | _ => none

/-- What stands behind a backslash. Characters that are neither letters nor digits stand for
themselves, but for the edges of words; properties are not supported. -/
def escape? (spaced : Bool) : Scanner Pattern
  | [] => none
  | c :: rest =>
    if c = 'x' then numbered? spaced 2 rest
    else if c = 'u' then numbered? spaced 4 rest
    else if c = 'U' then numbered? spaced 8 rest
    else if c = 'd' || c = 's' || c = 'w' then some (.shorthand false, rest)
    else if c = 'D' || c = 'S' || c = 'W' then some (.shorthand true, rest)
    else if c = 'A' || c = 'z' then some (.edge, rest)
    else if c = 'b' || c = 'B' || c = '<' || c = '>' then some (.wordEdge, rest)
    else if c.toNat < 0x80 && !c.isAlphanum then some (.letter ⟨c, false⟩, rest)
    else (controlOf? c).map fun control => (.letter ⟨control, false⟩, rest)

/-! ### Fronts of groups -/

def Flag.ofLetter? : Char → Option Flag
  | 'i' => some .ignoreCase
  | 'm' => some .everyLine
  | 's' => some .everyCharacter
  | 'U' => some .shortestFirst
  | 'u' => some .unicode
  | 'R' => some .carriageReturns
  | 'x' => some .spaced
  | _ => none

/-- Flags, each at most once; those behind a dash are switched off, and a dash is never the last. -/
def flags? (on : Bool) (before : Switches) : List Char → Option Switches
  | [] => some before.reverse
  | c :: rest =>
    if c = '-' then if on && !rest.isEmpty then flags? false before rest else none
    else
      match Flag.ofLetter? c with
      | none => none
      | some f => if (before.lookup f).isSome then none else flags? on ((f, on) :: before) rest

def isNameCharacter (c : Char) : Bool :=
  c = '_' || c = '.' || c = '[' || c = ']' || Text.isAlphanumeric c

def name? : Scanner String := fun cs =>
  match cs.takeWhile (· ≠ '>'), cs.dropWhile (· ≠ '>') with
  | c :: more, _ :: rest =>
    if (c = '_' || Text.isAlphabetic c) && more.all isNameCharacter then
      some (String.ofList (c :: more), rest)
    else none
  | _, _ => none

/-- How a parenthesis goes on: as a group, or as flags alone. -/
inductive Front where
  | group (name : Option String) (s : Switches)
  | switches (s : Switches)
  deriving DecidableEq

/-- Flags up to a colon, which opens a group, or to the end of the parenthesis. -/
def flagged? : Scanner Front := fun cs => do
  let s ← flags? true [] (cs.takeWhile fun c => c ≠ ':' && c ≠ ')')
  match cs.dropWhile fun c => c ≠ ':' && c ≠ ')' with
  | ':' :: rest => return (.group none s, rest)
  | _ :: rest => if s.isEmpty then none else return (.switches s, rest)
  | [] => none

/-- What stands behind an opening parenthesis. Looking ahead or behind is not supported. -/
def front? : Scanner Front
  | '?' :: '=' :: _ => none
  | '?' :: '!' :: _ => none
  | '?' :: '<' :: '=' :: _ => none
  | '?' :: '<' :: '!' :: _ => none
  | '?' :: 'P' :: '<' :: rest => (name? rest).map fun (n, rest) => (.group (some n) [], rest)
  | '?' :: '<' :: rest => (name? rest).map fun (n, rest) => (.group (some n) [], rest)
  | '?' :: rest => flagged? rest
  | rest => some (.group none [], rest)

/-! ### Members of bracketed sets -/

def setNames : List String :=
  ["alnum", "alpha", "ascii", "blank", "cntrl", "digit", "graph", "lower", "print", "punct",
    "space", "upper", "word", "xdigit"]

def namedSet? : Scanner Choice
  | ':' :: rest =>
    let negated := rest.head? = some '^'
    let rest := if negated then rest.drop 1 else rest
    match rest.dropWhile (· ≠ ':') with
    | ':' :: ']' :: last =>
      if setNames.contains (String.ofList (rest.takeWhile (· ≠ ':'))) then
        some (.named negated, last)
      else none
    | _ => none
  | _ => none

def memberPart? (spaced : Bool) : Scanner Pattern
  | [] => none
  | '\\' :: rest => escape? spaced rest
  | c :: rest => some (.letter ⟨c, false⟩, rest)

def Choice.ofPart? : Pattern → Option Choice
  | .letter l => some (.letter l)
  | .shorthand negated => some (.shorthand negated)
  | _ => none

/-- The character that decides what a dash before it means. -/
def afterDash? (spaced : Bool) (cs : List Char) : Option Char :=
  if spaced then
    match cs.dropWhile Text.isBlank with
    | '#' :: rest => (rest.dropWhile Text.isBlank).head?
    | rest => rest.head?
  else cs.head?

/-- A character, a shorthand or a range. A dash makes no range before a closing bracket or another
dash. -/
def member? (spaced : Bool) : Scanner Choice := fun cs => do
  let (first, rest) ← memberPart? spaced cs
  match skip spaced rest with
  | '-' :: more =>
    let next := afterDash? spaced more
    if next = some ']' || next = some '-' then return (← Choice.ofPart? first, '-' :: more)
    else
      match first, ← memberPart? spaced (skip spaced more) with
      | .letter low, (.letter high, rest) =>
        if low.value ≤ high.value then return (.range low high, rest) else none
      | _, _ => none
  | rest => return (← Choice.ofPart? first, rest)

end ServiceKit.Pattern
