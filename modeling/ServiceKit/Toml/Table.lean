import ServiceKit.Toml.Value

/-!
Tables put together from the statements of a document. Each table is defined once: by a header, by
keys with points in them, or by being mentioned in the path to another one, which a later header may
make good. A header moves a table that was only mentioned so far to the end of its parent.
-/

namespace ServiceKit.Toml

/-- How a table under construction came about: by a header of its own, by mention in the path of a
header, or by a key with points. -/
inductive Origin where
  | defined
  | mentioned
  | dotted
  deriving DecidableEq

inductive Node where
  | leaf (v : Value)
  | table (origin : Origin) (entries : List (String × Node))
  | tables (elements : List (List (String × Node)))

abbrev Entries : Type := List (String × Node)

namespace Entries

def find? (key : String) (es : Entries) : Option Node := es.lookup key

def set (key : String) (n : Node) : Entries → Entries
  | [] => [(key, n)]
  | e :: rest => if e.1 = key then (key, n) :: rest else e :: set key n rest

def erase (key : String) (es : Entries) : Entries := es.filter (·.1 ≠ key)

/-- Replaces the last of some tables. -/
def updateLast (f : Entries → Option Entries) : List Entries → Option (List Entries)
  | [] => none
  | [es] => (f es).map ([·])
  | es :: rest => (updateLast f rest).map (es :: ·)

/-- Changes the entries of the table at the end of a header's path. Tables on the way that do not
exist yet are mentioned from now on; of an array of tables the last one is meant. -/
def within (f : Entries → Option Entries) : List String → Entries → Option Entries
  | [], es => f es
  | key :: path, es =>
    match find? key es with
    | none => (within f path []).map fun inner => set key (.table .mentioned inner) es
    | some (.table origin inner) =>
      (within f path inner).map fun inner => set key (.table origin inner) es
    | some (.tables elements) =>
      (updateLast (within f path) elements).map fun elements => set key (.tables elements) es
    | some (.leaf _) => none

def addLeaf (key : String) (v : Value) (es : Entries) : Option Entries :=
  match find? key es with
  | none => some (es ++ [(key, .leaf v)])
  | some _ => none

/-- Adds a value under a key with points. The tables on the way are not those of headers, and the
last of them exists by such keys only. -/
def assign (v : Value) : List String → Entries → Option Entries
  | [], _ => none
  | [key], es => addLeaf key v es
  | key :: path, es =>
    match find? key es with
    | none => (assign v path []).map fun inner => es ++ [(key, .table .dotted inner)]
    | some (.table .defined _) => none
    | some (.table .mentioned inner) =>
      if path.length = 1 then none
      else (assign v path inner).map fun inner => set key (.table .mentioned inner) es
    | some (.table .dotted inner) =>
      (assign v path inner).map fun inner => set key (.table .dotted inner) es
    | some (.tables elements) =>
      if path.length = 1 then none
      else (updateLast (assign v path) elements).map fun elements => set key (.tables elements) es
    | some (.leaf _) => none

/-- Adds the values of the statements, up to the next header. -/
def assignAll (es : Entries) : List (List String × Value) → Option Entries
  | [] => some es
  | (path, v) :: rest =>
    match assign v path es with
    | none => none
    | some es => assignAll es rest

/-- A table by its header, on top of what was there while it was only mentioned. -/
def addTable (values : List (List String × Value)) (key : String) (es : Entries) :
    Option Entries :=
  match find? key es with
  | none => (assignAll [] values).map fun inner => es ++ [(key, .table .defined inner)]
  | some (.table .mentioned inner) =>
    (assignAll inner values).map fun inner => erase key es ++ [(key, .table .defined inner)]
  | some _ => none

def addElement (values : List (List String × Value)) (key : String) (es : Entries) :
    Option Entries :=
  match find? key es with
  | none => (assignAll [] values).map fun inner => es ++ [(key, .tables [inner])]
  | some (.tables elements) =>
    (assignAll [] values).map fun inner => set key (.tables (elements ++ [inner])) es
  | some _ => none

/-- Applies an addition at the table that all but the last part of a path lead to. -/
def atPath (add : String → Entries → Option Entries) (path : List String) (es : Entries) :
    Option Entries :=
  match path.getLast? with
  | none => none
  | some key => within (add key) path.dropLast es

end Entries

mutual

def Node.value : Node → Value
  | .leaf v => v
  | .table _ entries => .table (nodeValues entries)
  | .tables elements => .list (tableValues elements)

def nodeValues : List (String × Node) → List (String × Value)
  | [] => []
  | (key, n) :: rest => (key, n.value) :: nodeValues rest

def tableValues : List (List (String × Node)) → List Value
  | [] => []
  | es :: rest => .table (nodeValues es) :: tableValues rest

end

/-- A table on one line, whose keys may have points too. -/
def inlineTable? (entries : List (List String × Value)) : Option Value :=
  (Entries.assignAll [] entries).map fun es => .table (nodeValues es)

/-- The values in front of the next header, and the statements from it on. -/
def splitValues : List Statement → List (List String × Value) × List Statement
  | .assign path v :: rest => ((path, v) :: (splitValues rest).1, (splitValues rest).2)
  | rest => ([], rest)

theorem length_splitValues_le (ss : List Statement) :
    (splitValues ss).2.length ≤ ss.length := by
  induction ss with
  | nil => simp [splitValues]
  | cons s ss ih =>
    cases s with
    | assign path v => simp only [splitValues, List.length_cons]; omega
    | _ => simp [splitValues]

def addTables (es : Entries) (ss : List Statement) : Option Entries :=
  match ss with
  | [] => some es
  | .assign .. :: _ => none
  | .header path :: rest =>
    match es.atPath (Entries.addTable (splitValues rest).1) path with
    | none => none
    | some es => addTables es (splitValues rest).2
  | .arrayHeader path :: rest =>
    match es.atPath (Entries.addElement (splitValues rest).1) path with
    | none => none
    | some es => addTables es (splitValues rest).2
termination_by ss.length
decreasing_by
  all_goals
    have := length_splitValues_le rest
    simp only [List.length_cons]
    omega

def assemble? (ss : List Statement) : Option (List (String × Value)) := do
  let es ← Entries.assignAll [] (splitValues ss).1
  return nodeValues (← addTables es (splitValues ss).2)

end ServiceKit.Toml
