/-!
Control sequences: which characters of a text a terminal shows, and which ones steer it. The
characters are taken one at a time, as a terminal does, so that a sequence which the text breaks off
swallows whatever would still belong to it.
-/

namespace ServiceKit.Text.Terminal

inductive Mode where
  | ground
  | escape
  | escapeIntermediate
  | control
  | controlParameters
  | controlIntermediate
  | controlIgnored
  | device
  | deviceParameters
  | deviceIntermediate
  | deviceIgnored
  | devicePayload
  | string
  | systemCommand
  deriving DecidableEq

namespace Mode

/-- Between the escape character and the end of a sequence without a payload; line breaks and tabs
are still shown there. -/
def isOpen : Mode → Bool
  | .ground | .escape | .escapeIntermediate => true
  | .control | .controlParameters | .controlIntermediate | .controlIgnored => true
  | _ => false

/-- Payloads that the eight-bit terminator ends. -/
def endsAtTerminator : Mode → Bool
  | .deviceIgnored | .devicePayload | .string => true
  | _ => false

/-- The mode behind an ASCII character that is no control character of its own. -/
def following (m : Mode) (c : Char) : Mode :=
  let within (low high : Char) : Bool := low ≤ c && c ≤ high
  match m with
  | .ground => .ground
  | .escape =>
    if within ' ' '/' then .escapeIntermediate
    else if c = '[' then .control
    else if c = ']' then .systemCommand
    else if c = 'P' then .device
    else if c = 'X' || c = '^' || c = '_' then .string
    else if within '0' '~' then .ground
    else .escape
  | .escapeIntermediate => if within '0' '~' then .ground else m
  | .control =>
    if within ' ' '/' then .controlIntermediate
    else if c = ':' then .controlIgnored
    else if within '0' '?' then .controlParameters
    else if within '@' '~' then .ground
    else m
  | .controlParameters =>
    if within ' ' '/' then .controlIntermediate
    else if within '<' '?' then .controlIgnored
    else if within '@' '~' then .ground
    else m
  | .controlIntermediate =>
    if within '0' '?' then .controlIgnored else if within '@' '~' then .ground else m
  | .controlIgnored => if within '@' '~' then .ground else m
  | .device =>
    if within ' ' '/' then .deviceIntermediate
    else if c = ':' then .deviceIgnored
    else if within '0' '?' then .deviceParameters
    else if within '@' '~' then .devicePayload
    else m
  | .deviceParameters =>
    if within ' ' '/' then .deviceIntermediate
    else if c = ':' || within '<' '?' then .deviceIgnored
    else if within '@' '~' then .devicePayload
    else m
  | .deviceIntermediate =>
    if within '0' '?' then .deviceIgnored else if within '@' '~' then .devicePayload else m
  | .systemCommand => if c = '\x07' then .ground else m
  | .deviceIgnored | .devicePayload | .string => m

end Mode

def isWide (c : Char) : Bool := 0x80 ≤ c.toNat

/-- Line breaks, form feeds and tabs move the cursor, and count as text. -/
def isLayout (c : Char) : Bool := c = '\t' || c = '\n' || c = '\x0c' || c = '\x0d'

def isVisible (c : Char) : Bool := ' ' ≤ c && c ≤ '~'

def isCancel (c : Char) : Bool := c = '\x18' || c = '\x1a'

/-- One of the bytes of the character is the eight-bit terminator. -/
def holdsTerminator (c : Char) : Bool := (String.utf8EncodeChar c).contains 0x9c

/-- A terminal's mode, and whether it is in the middle of text that it shows. Such text goes on
until a control character, whatever sequence was under way before it. -/
structure State where
  mode : Mode
  showing : Bool
  deriving DecidableEq

namespace State

def start : State := ⟨.ground, false⟩

def shows (s : State) (c : Char) : Bool :=
  if s.showing || s.mode = .ground then isVisible c || isLayout c || isWide c
  else s.mode.isOpen && isLayout c

def step (s : State) (c : Char) : State :=
  if s.shows c then ⟨if isWide c then .ground else s.mode, true⟩
  else if c = '\x1b' then ⟨.escape, false⟩
  else if isCancel c then ⟨.ground, false⟩
  else if s.showing then { s with showing := false }
  else if isWide c then
    ⟨if s.mode.endsAtTerminator && holdsTerminator c then .ground else s.mode, false⟩
  else ⟨s.mode.following c, false⟩

end State

/-- The characters that a terminal in state `s` shows of a text. -/
def shownFrom (s : State) : List Char → List Char
  | [] => []
  | c :: rest => (if s.shows c then [c] else []) ++ shownFrom (s.step c) rest

def shown (text : String) : String := String.ofList (shownFrom .start text.toList)

end ServiceKit.Text.Terminal
