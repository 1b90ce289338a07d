import ServiceKit.Text.Quoted

/-!
The diagnostic text of a value: one shape for all values, laid out on one line or one item a line.
-/

namespace ServiceKit.Text

/-- What a value looks like: a word, a record, a tagged tuple, a list, or a table of entries. A
record that is not `whole` keeps some of its fields to itself. -/
inductive Shown where
  | word (text : String)
  | record (name : String) (fields : List (String × Shown)) (whole : Bool)
  | tuple (name : String) (items : List Shown)
  | list (items : List Shown)
  | table (entries : List (String × Shown))

namespace Shown

def natural (n : Nat) : Shown := .word (toString n)

def whole (n : Int) : Shown := .word (toString n)

def text (s : String) : Shown := .word (quote s)

def option : Option Shown → Shown
  | none => .word "None"
  | some s => .tuple "Some" [s]

def joined (opening closing : String) (items : List String) : String :=
  opening ++ ", ".intercalate items ++ closing

/-- Items on lines of their own, a step further in than the line that opens them. -/
def stacked (depth : Nat) (opening closing : String) (items : List String) : String :=
  let pad := String.ofList (List.replicate (4 * depth) ' ')
  opening ++ "\n" ++ String.join (items.map fun i => pad ++ "    " ++ i ++ "\n") ++ pad ++ closing

mutual

def compact : Shown → String
  | .word t => t
  | .record name fields whole =>
    match fields, whole with
    | [], true => name
    | _, true => joined (name ++ " \x7b ") " \x7d" (compactFields fields)
    | _, false => joined (name ++ " \x7b ") " \x7d" (compactFields fields ++ [".."])
  | .tuple name items => if items.isEmpty then name else joined (name ++ "(") ")" (compactItems items)
  | .list items => joined "[" "]" (compactItems items)
  | .table entries => joined "\x7b" "\x7d" (compactFields entries)

def compactItems : List Shown → List String
  | [] => []
  | s :: rest => compact s :: compactItems rest

def compactFields : List (String × Shown) → List String
  | [] => []
  | (name, s) :: rest => (name ++ ": " ++ compact s) :: compactFields rest

end

mutual

/-- The value with every item on a line of its own, when it starts at `depth`. -/
def indented (depth : Nat) : Shown → String
  | .word t => t
  | .record name fields whole =>
    match fields, whole with
    | [], true => name
    | [], false => name ++ " \x7b .. \x7d"
    | _, true => stacked depth (name ++ " \x7b") "\x7d" (indentedFields (depth + 1) fields)
    | _, false =>
      stacked depth (name ++ " \x7b") "\x7d" (indentedFields (depth + 1) fields ++ [".."])
  | .tuple name items =>
    if items.isEmpty then name
    else stacked depth (name ++ "(") ")" (indentedItems (depth + 1) items)
  | .list items =>
    if items.isEmpty then "[]" else stacked depth "[" "]" (indentedItems (depth + 1) items)
  | .table entries =>
    if entries.isEmpty then "\x7b\x7d"
    else stacked depth "\x7b" "\x7d" (indentedFields (depth + 1) entries)

def indentedItems (depth : Nat) : List Shown → List String
  | [] => []
  | s :: rest => (indented depth s ++ ",") :: indentedItems depth rest

def indentedFields (depth : Nat) : List (String × Shown) → List String
  | [] => []
  | (name, s) :: rest => (name ++ ": " ++ indented depth s ++ ",") :: indentedFields depth rest

end

end Shown

end ServiceKit.Text
