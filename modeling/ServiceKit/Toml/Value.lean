import ServiceKit.Decimal.Shortest

/-!
Values of a TOML document. A table keeps its entries in the order in which their keys were first
written.
-/

namespace ServiceKit.Toml

inductive Value where
  | text (s : String)
  | integer (n : Int)
  | float (x : Decimal.Binary)
  | boolean (b : Bool)
  | moment (written : String)
  | list (items : List Value)
  | table (entries : List (String × Value))

/-- What stands at one place of a document: a key with its value, the header of a table, or the
header of another table in an array of them. -/
inductive Statement where
  | assign (path : List String) (value : Value)
  | header (path : List String)
  | arrayHeader (path : List String)

end ServiceKit.Toml
