import ServiceKit.Text.Quoted

/-!
Bytes written as pairs of hexadecimal digits.
-/

namespace ServiceKit.Text.Hex

def digit (d : Nat) : Char :=
  if d < 10 then Char.ofNat (0x30 + d) else Char.ofNat (0x61 + (d - 10))

/-- The value of a digit in either letter case. -/
def value? (b : UInt8) : Option Nat :=
  let n := b.toNat
  if 0x30 ≤ n ∧ n ≤ 0x39 then some (n - 0x30)
  else if 0x61 ≤ n ∧ n ≤ 0x66 then some (n - 0x61 + 10)
  else if 0x41 ≤ n ∧ n ≤ 0x46 then some (n - 0x41 + 10)
  else none

def encodeByte (b : UInt8) : List Char :=
  [digit (b.toNat / 16), digit (b.toNat % 16)]

def encode (bytes : List UInt8) : String :=
  String.ofList (bytes.flatMap encodeByte)

inductive DecodeError where
  | oddLength
  | invalidDigit (byte : UInt8) (index : Nat)
  deriving DecidableEq

/-- An offending byte is shown as the character of that number. -/
def DecodeError.message : DecodeError → String
  | .oddLength => "Odd number of digits"
  | .invalidDigit b i =>
    "Invalid character " ++ quoteCharacter (Char.ofNat b.toNat) ++ " at position " ++ toString i

/-- Reads the pairs from the left; `index` is the place of the first digit. -/
def decodeFrom (index : Nat) : List UInt8 → Except DecodeError (List UInt8)
  | [] => .ok []
  | [_] => .error .oddLength
  | high :: low :: rest =>
    match value? high with
    | none => .error (.invalidDigit high index)
    | some h =>
      match value? low with
      | none => .error (.invalidDigit low (index + 1))
      | some l => (decodeFrom (index + 2) rest).map (UInt8.ofNat (16 * h + l) :: ·)

/-- An odd count is reported before any digit is looked at. -/
def decodeBytes (digits : List UInt8) : Except DecodeError (List UInt8) :=
  if digits.length % 2 = 1 then .error .oddLength else decodeFrom 0 digits

def decode (text : List Char) : Except DecodeError (List UInt8) :=
  decodeBytes (String.ofList text).toUTF8.data.toList

end ServiceKit.Text.Hex
