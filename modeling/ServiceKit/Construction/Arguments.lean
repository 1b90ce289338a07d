import ServiceKit.Construction.Family

/-!
Arguments on their way into a constructor: a queue of values, taken from the front at the types that
the constructor expects.
-/

namespace ServiceKit.Construction

variable {Ty : Type} [Family Ty]

/-- The values not yet taken, and how many have been. -/
structure Arguments (Ty : Type) [Family Ty] where
  values : List (Instance Ty)
  taken : Nat

/-- A place whose value is missing or is not of the expected type. -/
structure Mismatch (Ty : Type) where
  index : Nat
  expected : Ty
  deriving DecidableEq

def Mismatch.message (m : Mismatch Ty) : String :=
  "argument " ++ toString m.index ++ " must be " ++ Family.name m.expected

namespace Arguments

def ofList (values : List (Instance Ty)) : Arguments Ty := ⟨values, 0⟩

def push (a : Arguments Ty) (v : Instance Ty) : Arguments Ty :=
  { a with values := a.values ++ [v] }

def types (a : Arguments Ty) : List Ty := a.values.map (·.type)

/-- Takes the oldest value at type `t`. A value of another type is used up all the same; a take from
an empty list changes nothing. -/
def take [DecidableEq Ty] (t : Ty) (a : Arguments Ty) :
    Except (Mismatch Ty) (Value t) × Arguments Ty :=
  match a.values with
  | [] => (.error ⟨a.taken, t⟩, a)
  | v :: rest =>
    match v.at? t with
    | some x => (.ok x, ⟨rest, a.taken + 1⟩)
    | none => (.error ⟨a.taken, t⟩, ⟨rest, a.taken + 1⟩)

def shown (a : Arguments Ty) : Text.Shown :=
  .record "Arguments"
    [("remaining", .natural a.values.length), ("taken", .natural a.taken)] true

@[simp]
theorem take_nil [DecidableEq Ty] (t : Ty) (n : Nat) :
    take t (⟨[], n⟩ : Arguments Ty) = (.error ⟨n, t⟩, ⟨[], n⟩) := rfl

@[simp]
theorem values_take [DecidableEq Ty] (t : Ty) (a : Arguments Ty) :
    (a.take t).2.values = a.values.tail := by
  unfold take
  split
  · rename_i h
    simp [h]
  · rename_i h
    split <;> simp [h]

@[simp]
theorem taken_take [DecidableEq Ty] (t : Ty) (a : Arguments Ty) :
    (a.take t).2.taken = a.taken + (a.values.take 1).length := by
  unfold take
  split
  · rename_i h
    simp [h]
  · rename_i h
    split <;> simp [h]

end Arguments

end ServiceKit.Construction
