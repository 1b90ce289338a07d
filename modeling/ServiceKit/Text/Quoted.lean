import ServiceKit.Text.Extending
import ServiceKit.Text.Printable

/-!
Text between quotes, as diagnostics show it: what cannot be seen is written by its number.
-/

namespace ServiceKit.Text

/-- The code point in lowercase hexadecimal, as in `\u{7f}`. -/
def escapeByNumber (c : Char) : List Char :=
  "\\u\x7b".toList ++ Nat.toDigits 16 c.toNat ++ ['\x7d']

/-- Combining characters count as invisible, for they would change the character before them. -/
def escapeInvisible (c : Char) : List Char :=
  if isExtending c then escapeByNumber c
  else if isPrintable c then [c]
  else escapeByNumber c

def escape (quotes : Char) (c : Char) : List Char :=
  if c = '\x00' then ['\\', '0']
  else if c = '\t' then ['\\', 't']
  else if c = '\r' then ['\\', 'r']
  else if c = '\n' then ['\\', 'n']
  else if c = '\\' then ['\\', '\\']
  else if c = quotes then ['\\', quotes]
  else if 0x20 ≤ c.toNat ∧ c.toNat < 0x7f then [c]
  else escapeInvisible c

def quote (s : String) : String :=
  String.ofList ('"' :: s.toList.flatMap (escape '"') ++ ['"'])

/-- A character between single quotes; a double quote stays as it is. -/
def quoteCharacter (c : Char) : String :=
  String.ofList ('\'' :: escape '\'' c ++ ['\''])

end ServiceKit.Text
