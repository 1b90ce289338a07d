import ServiceKit.Text.Hex

/-!
JSON objects whose members are single values, on one line or with a line for each member.
-/

namespace ServiceKit.Text.JsonObject

inductive Scalar where
  | natural (n : Nat)
  | boolean (b : Bool)
  | text (s : String)
  deriving DecidableEq

/-- Only quotes, backslashes and control characters below the space are escaped. -/
def escape (c : Char) : List Char :=
  if c = '"' then ['\\', '"']
  else if c = '\\' then ['\\', '\\']
  else if c = '\x08' then ['\\', 'b']
  else if c = '\t' then ['\\', 't']
  else if c = '\n' then ['\\', 'n']
  else if c = '\x0c' then ['\\', 'f']
  else if c = '\r' then ['\\', 'r']
  else if c.toNat < 0x20 then "\\u00".toList ++ Hex.encodeByte (UInt8.ofNat c.toNat)
  else [c]

def quote (s : String) : String :=
  String.ofList ('"' :: s.toList.flatMap escape ++ ['"'])

def Scalar.render : Scalar → String
  | .natural n => toString n
  | .boolean b => if b then "true" else "false"
  | .text s => quote s

abbrev Members := List (String × Scalar)

def compact (members : Members) : String :=
  "\x7b" ++ ",".intercalate (members.map fun (name, v) => quote name ++ ":" ++ v.render) ++ "\x7d"

def indented (members : Members) : String :=
  "\x7b\n"
    ++ ",\n".intercalate (members.map fun (name, v) => "  " ++ quote name ++ ": " ++ v.render)
    ++ "\n\x7d"

end ServiceKit.Text.JsonObject
