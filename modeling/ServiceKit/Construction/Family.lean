import ServiceKit.Text.Shown

/-!
Types as run-time values. A family is a type of codes; each code stands for a type of values and
has a name for diagnostics. What is told apart is the code, never the name.
-/

namespace ServiceKit.Construction

class Family (Ty : Type) where
  Value : Ty → Type
  name : Ty → String

export Family (Value)

variable {Ty : Type} [Family Ty]

/-- A value whose type is known only at run time. -/
structure Instance (Ty : Type) [Family Ty] where
  type : Ty
  value : Value type

/-- The value at a requested type; there is none when its type is another. -/
def Instance.at? [DecidableEq Ty] (i : Instance Ty) (t : Ty) : Option (Value t) :=
  if h : i.type = t then some (h ▸ i.value) else none

@[simp]
theorem Instance.at?_self [DecidableEq Ty] (t : Ty) (v : Value t) :
    (Instance.mk t v).at? t = some v := by
  simp [Instance.at?]

theorem Instance.at?_eq_none_iff [DecidableEq Ty] (i : Instance Ty) (t : Ty) :
    i.at? t = none ↔ i.type ≠ t := by
  unfold Instance.at?
  split <;> simp_all

theorem Instance.at?_eq_some_iff [DecidableEq Ty] (i : Instance Ty) (t : Ty) (v : Value t) :
    i.at? t = some v ↔ i = ⟨t, v⟩ := by
  obtain ⟨u, x⟩ := i
  unfold Instance.at?
  split
  · rename_i h
    subst h
    simp
  · rename_i h
    simp [h]

def renderSignature (signature : List Ty) : String :=
  ", ".intercalate (signature.map Family.name)

def shownType (t : Ty) : Text.Shown :=
  .word ("TypeKey(" ++ Family.name t ++ ")")

/-- What a constructor is looked up by: the type to build and its parameter types in order. -/
structure Key (Ty : Type) where
  target : Ty
  signature : List Ty
  deriving DecidableEq

def Key.render (k : Key Ty) : String :=
  Family.name k.target ++ "(" ++ renderSignature k.signature ++ ")"

def Key.shown (k : Key Ty) : Text.Shown :=
  .record "FactoryKey"
    [("target", shownType k.target), ("args", .list (k.signature.map shownType))] true

end ServiceKit.Construction
