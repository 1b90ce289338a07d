import ServiceKit.Construction.Factory

/-!
Types under names of one's choice. The names stand in ascending order of their code points, which is
also the order of their encoded bytes.
-/

namespace ServiceKit.Construction

variable {Ty : Type} [Family Ty]

structure Registry (Ty : Type) where
  entries : List (String × Ty)

namespace Registry

def empty : Registry Ty := ⟨[]⟩

/-- Puts a type under a name, in the name's place. -/
def insert (name : String) (t : Ty) : List (String × Ty) → List (String × Ty)
  | [] => [(name, t)]
  | e :: rest =>
    if name = e.1 then (name, t) :: rest
    else if name < e.1 then (name, t) :: e :: rest
    else e :: insert name t rest

def find? (r : Registry Ty) (name : String) : Option Ty := r.entries.lookup name

def register (r : Registry Ty) (name : String) (t : Ty) : Option Ty × Registry Ty :=
  (r.find? name, ⟨insert name t r.entries⟩)

def lookup (r : Registry Ty) (name : String) : Except (ConstructionError Ty) Ty :=
  match r.find? name with
  | some t => .ok t
  | none => .error (.unregistered name)

/-- Puts the type found under one name under another as well. -/
def addAlias (r : Registry Ty) (source name : String) :
    Except (ConstructionError Ty) (Option Ty) × Registry Ty :=
  match r.lookup source with
  | .error e => (.error e, r)
  | .ok t =>
    let (replaced, after) := r.register name t
    (.ok replaced, after)

def contains (r : Registry Ty) (name : String) : Bool := (r.find? name).isSome

def names (r : Registry Ty) : List String := r.entries.map (·.1)

def shownHandle (t : Ty) : Text.Shown :=
  .tuple "TypeHandle" [.text (Family.name t)]

def shown (r : Registry Ty) : Text.Shown :=
  .record "TypeRegistry"
    [("types", .table (r.entries.map fun e => (Text.quote e.1, shownHandle e.2)))] true

end Registry

/-- Creates an instance of the type under a name. An unknown name leaves the factory alone. -/
def Factory.buildNamed [DecidableEq Ty] (declared : Ty → List (Constructor Ty))
    (registry : Registry Ty) (name : String) (signature : List Ty) (a : Arguments Ty)
    (f : Factory Ty) : Outcome (Factory Ty) (Except (ConstructionError Ty) (Instance Ty)) :=
  match registry.lookup name with
  | .error e => ⟨.error e, [], f⟩
  | .ok t => build declared t signature a f

end ServiceKit.Construction
