import ServiceKit.Pattern.Reader

/-!
Which patterns can be matched. A matcher works on bytes, has no tables of Unicode properties, and
never leaves off inside a character: so letter case and the sets that have a shorthand are for ASCII
alone, and ASCII alone must not be left there.
-/

namespace ServiceKit

inductive PatternFault where
  | unmatchable
  | unicodeWordEdge
  deriving DecidableEq

def PatternFault.message : PatternFault → String
  | .unmatchable => "error building NFA"
  | .unicodeWordEdge =>
    "unsupported regex feature for DFAs: cannot build DFAs for regexes with Unicode word boundaries; "
      ++ "switch to ASCII word boundaries, or heuristically enable Unicode word boundaries "
      ++ "or use a different regex engine"

namespace Pattern

/-- The flags that decide what can be matched. -/
structure Modes where
  unicode : Bool
  ignoreCase : Bool
  deriving DecidableEq

namespace Modes

def start : Modes := ⟨true, false⟩

def switch (m : Modes) (s : Switches) : Modes :=
  ⟨(s.lookup .unicode).getD m.unicode, (s.lookup .ignoreCase).getD m.ignoreCase⟩

end Modes

def Letter.isWide (l : Letter) : Bool := 0x80 ≤ l.value.toNat

namespace Choice

mutual

def supported (m : Modes) : Choice → Bool
  | .letter l => if m.unicode then !m.ignoreCase else !l.isWide
  | .range low high => if m.unicode then !m.ignoreCase else !low.isWide && !high.isWide
  | .named negated => if m.unicode then !m.ignoreCase else !negated
  | .shorthand negated => !m.unicode && !negated
  | .union choices => supportedAll m choices
  | .bracketed negated content => (m.unicode || !negated) && content.supported m
  | .combined left right => left.supported m && right.supported m

def supportedAll (m : Modes) : List Choice → Bool
  | [] => true
  | c :: rest => c.supported m && supportedAll m rest

end

end Choice

/-- The modes that a walk over a pattern has come to, and what it has met. -/
structure Survey where
  modes : Modes
  supported : Bool
  unicodeWordEdge : Bool
  deriving DecidableEq

namespace Survey

def start : Survey := ⟨.start, true, false⟩

def require (s : Survey) (ok : Bool) : Survey := { s with supported := s.supported && ok }

end Survey

mutual

/-- Walks over a pattern from left to right. Flags hold up to the end of the group that they stand
in. -/
def survey (s : Survey) : Pattern → Survey
  | .letter l => s.require (if s.modes.unicode then !s.modes.ignoreCase else !(l.byte && l.isWide))
  | .any => s.require s.modes.unicode
  | .shorthand negated => s.require (!s.modes.unicode && !negated)
  | .edge => s
  | .wordEdge => { s with unicodeWordEdge := s.unicodeWordEdge || s.modes.unicode }
  | .choice c => s.require (c.supported s.modes)
  | .switches flags => { s with modes := s.modes.switch flags }
  | .repeated p => survey s p
  | .group _ flags p =>
    { survey { s with modes := s.modes.switch flags } p with modes := s.modes }
  | .sequence parts => surveyAll s parts
  | .alternatives parts => surveyAll s parts

def surveyAll (s : Survey) : List Pattern → Survey
  | [] => s
  | p :: rest => surveyAll (survey s p) rest

end

/-- What keeps a text from being matched as a pattern. -/
def fault? (cs : List Char) : Option PatternFault :=
  match ofText? cs with
  | none => some .unmatchable
  | some p =>
    let s := survey .start p
    if !s.supported then some .unmatchable
    else if s.unicodeWordEdge then some .unicodeWordEdge
    else none

end Pattern

end ServiceKit
