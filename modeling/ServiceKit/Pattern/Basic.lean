/-!
Patterns, which the values of fields are matched with: their form, and how deep it is nested.
-/

namespace ServiceKit

namespace Pattern

inductive Flag where
  | ignoreCase
  | everyLine
  | everyCharacter
  | shortestFirst
  | unicode
  | carriageReturns
  | spaced
  deriving DecidableEq

abbrev Switches : Type := List (Flag × Bool)

/-- A character that stands for itself. One written by two hexadecimal digits may be meant as a
byte. -/
structure Letter where
  value : Char
  byte : Bool
  deriving DecidableEq

/-- A set of characters, of which one has to match. -/
inductive Choice where
  | letter (l : Letter)
  | range (low high : Letter)
  | named (negated : Bool)
  | shorthand (negated : Bool)
  | union (choices : List Choice)
  | bracketed (negated : Bool) (content : Choice)
  | combined (left right : Choice)

namespace Choice

/-- A single choice is no union. -/
def ofList : List Choice → Choice
  | [c] => c
  | choices => .union choices

mutual

def depth : Choice → Nat
  | .letter _ => 0
  | .range _ _ => 0
  | .named _ => 0
  | .shorthand _ => 0
  | .union [] => 0
  | .union (c :: rest) => max c.depth (depthAll rest) + 1
  | .bracketed _ content => content.depth + 1
  | .combined left right => max left.depth right.depth + 1

def depthAll : List Choice → Nat
  | [] => 0
  | c :: rest => max c.depth (depthAll rest)

end

end Choice

end Pattern

open Pattern in
/-- A pattern. Edges are those of the text or of a line, and word edges those of words. -/
inductive Pattern where
  | letter (l : Letter)
  | any
  | shorthand (negated : Bool)
  | edge
  | wordEdge
  | choice (c : Choice)
  | switches (s : Switches)
  | repeated (p : Pattern)
  | group (name : Option String) (s : Switches) (p : Pattern)
  | sequence (parts : List Pattern)
  | alternatives (parts : List Pattern)

namespace Pattern

/-- A single part is no sequence. -/
def ofParts : List Pattern → Pattern
  | [p] => p
  | parts => .sequence parts

/-- A single alternative is no alternative. -/
def ofAlternatives : List Pattern → Pattern
  | [p] => p
  | parts => .alternatives parts

mutual

def depth : Pattern → Nat
  | .letter _ => 0
  | .any => 0
  | .shorthand _ => 0
  | .edge => 0
  | .wordEdge => 0
  | .choice c => c.depth
  | .switches _ => 0
  | .repeated p => p.depth + 1
  | .group _ _ p => p.depth + 1
  | .sequence [] => 0
  | .sequence (p :: rest) => max p.depth (depthAll rest) + 1
  | .alternatives [] => 0
  | .alternatives (p :: rest) => max p.depth (depthAll rest) + 1

def depthAll : List Pattern → Nat
  | [] => 0
  | p :: rest => max p.depth (depthAll rest)

end

mutual

def names : Pattern → List String
  | .repeated p => p.names
  | .group name _ p => name.toList ++ p.names
  | .sequence parts => namesAll parts
  | .alternatives parts => namesAll parts
  | _ => []

def namesAll : List Pattern → List String
  | [] => []
  | p :: rest => p.names ++ namesAll rest

end

end Pattern

end ServiceKit
