import ServiceKit.Toml.Number
import ServiceKit.Toml.Quotation
import ServiceKit.Toml.Table

/-!
The grammar of TOML documents: keys, values, and the statements that a document consists of.
-/

namespace ServiceKit.Toml

/-- Keys with this many parts, and values nested this deep, are refused. -/
def depthLimit : Nat := 80

def keyPart? : Scanner String
  | '"' :: rest => quotedLine? ('"' :: rest)
  | '\'' :: rest => quotedLine? ('\'' :: rest)
  | cs =>
    let name := cs.takeWhile isBareKeyCharacter
    if name.isEmpty then none else some (String.ofList name, cs.dropWhile isBareKeyCharacter)

/-- The parts of a key, with points and blanks between them. -/
def keyParts? (cs : List Char) : Option (List String × List Char) :=
  match keyPart? (skipBlanks cs) with
  | none => none
  | some (part, rest) =>
    match skipBlanks rest with
    | '.' :: more =>
      if more.length < cs.length then
        (keyParts? more).map fun (parts, last) => (part :: parts, last)
      else none
    | last => some ([part], last)
termination_by cs.length

def key? : Scanner (List String) := fun cs =>
  match keyParts? cs with
  | some (parts, rest) => if parts.length < depthLimit then some (parts, rest) else none
  | none => none

def keyValue? (value : Scanner Value) : Scanner (List String × Value) := fun cs => do
  let (path, rest) ← key? cs
  let (v, rest) ← value (skipBlanks (← expect? '=' rest))
  return ((path, v), rest)

/-- The items of a list, behind its opening bracket. A comma may follow the last one. -/
def listBody? (value : Scanner Value) : Scanner Value := fun cs =>
  let item : Scanner Value := fun cs =>
    (value (skipFiller cs)).map fun (v, rest) => (v, skipFiller rest)
  let (items, rest) := separated item cs
  let rest :=
    match rest with
    | ',' :: more => if items.isEmpty then rest else more
    | _ => rest
  (expect? ']' (skipFiller rest)).map fun rest => (.list items, rest)

/-- The entries of a table on one line, behind its opening brace. -/
def inlineBody? (value : Scanner Value) : Scanner Value := fun cs => do
  let entry : Scanner (List String × Value) := fun cs =>
    (keyValue? value cs).map fun (e, rest) => (e, skipBlanks rest)
  let (entries, rest) := separated entry cs
  let rest ← expect? '\x7d' (skipBlanks rest)
  return (← inlineTable? entries, rest)

def word? (cs : List Char) : Option (Value × List Char) :=
  match cs with
  | 't' :: 'r' :: 'u' :: 'e' :: rest => some (.boolean true, rest)
  | 'f' :: 'a' :: 'l' :: 's' :: 'e' :: rest => some (.boolean false, rest)
  | _ => none

/-- A value in which lists and tables are nested no deeper than `depth`. -/
def value? (depth : Nat) : Scanner Value := fun cs =>
  match depth, cs with
  | 0, '[' :: _ => none
  | 0, '\x7b' :: _ => none
  | depth + 1, '[' :: rest => listBody? (value? depth) rest
  | depth + 1, '\x7b' :: rest => inlineBody? (value? depth) rest
  | _, '"' :: rest => (quoted? ('"' :: rest)).map fun (s, last) => (.text s, last)
  | _, '\'' :: rest => (quoted? ('\'' :: rest)).map fun (s, last) => (.text s, last)
  | _, cs => ((moment? cs).or (number? cs)).or (word? cs)

/-- The statement that stands at the front of a text, up to the end of its line. -/
def statement? : Scanner Statement
  | '[' :: '[' :: rest => do
    let (path, rest) ← key? rest
    let rest ← endOfLine? (← expect? ']' (← expect? ']' rest))
    return (.arrayHeader path, rest)
  | '[' :: rest => do
    let (path, rest) ← key? rest
    let rest ← endOfLine? (← expect? ']' rest)
    return (.header path, rest)
  | cs => do
    let ((path, v), rest) ← keyValue? (value? (depthLimit - 1)) cs
    return (.assign path v, ← endOfLine? rest)

def statements? (cs : List Char) : Option (List Statement) :=
  match skipBlanks cs with
  | [] => some []
  | c :: rest =>
    if c = '#' ∨ c = '\n' ∨ c = '\r' then
      match endOfLine? (c :: rest) with
      | none => none
      | some last => if last.length < cs.length then statements? last else none
    else
      match statement? (c :: rest) with
      | none => none
      | some (s, last) =>
        if last.length < cs.length then (statements? last).map (s :: ·) else none
termination_by cs.length

/-- The entries of a document. A byte order mark may stand in front of it. -/
def document? (text : String) : Option (List (String × Value)) :=
  let cs :=
    match text.toList with
    | c :: rest => if c.toNat = 0xfeff then rest else c :: rest
    | [] => []
  (statements? cs).bind assemble?

end ServiceKit.Toml
