import ServiceKit.Construction.Constructor
import ServiceKit.Event

/-!
A factory finds the declared constructor for a type and its parameter types, keeps what it found,
and from then on answers from what it keeps. A constructor that a factory found can be called
whatever its visibility.
-/

namespace ServiceKit.Construction

variable {Ty : Type} [Family Ty]

/-- A constructor that a factory found. Handles are the same exactly when their numbers are. -/
structure Handle (Ty : Type) [Family Ty] where
  constructor : Constructor Ty
  number : Nat

namespace Handle

def same (h g : Handle Ty) : Bool := h.number == g.number

def call [DecidableEq Ty] (h : Handle Ty) (a : Arguments Ty) :
    Except (ConstructionError Ty) (Instance Ty) :=
  ((h.constructor.callNoted a (.handle h.number)).run []).1

/-- A handle asks for no permission. -/
@[simp]
theorem call_eq_run [DecidableEq Ty] (h : Handle Ty) (a : Arguments Ty) :
    h.call a = h.constructor.run a := rfl

def shown (h : Handle Ty) : Text.Shown :=
  .record "ConstructorHandle" [("inner", h.constructor.shown)] true

end Handle

/-- What has been found so far, the number of searches, and the number of answers without one. -/
structure Factory (Ty : Type) [Family Ty] where
  cache : List (Key Ty × Handle Ty)
  resolutions : Nat
  hits : Nat

namespace Factory

def empty : Factory Ty := ⟨[], 0, 0⟩

def origin : String := "quorum_factory::factory"

def resolving (k : Key Ty) : Event :=
  ⟨origin, "resolving constructor",
    [("target", .quoted (Family.name k.target)), ("arity", .number k.signature.length)]⟩

variable [DecidableEq Ty]

def lookup? (f : Factory Ty) (k : Key Ty) : Option (Handle Ty) := f.cache.lookup k

/-- Keeps a handle, in the place of an earlier one for the same key. -/
def keep (k : Key Ty) (h : Handle Ty) : List (Key Ty × Handle Ty) → List (Key Ty × Handle Ty)
  | [] => [(k, h)]
  | e :: rest => if e.1 = k then (k, h) :: rest else e :: keep k h rest

variable (declared : Ty → List (Constructor Ty))

/-- The first declared constructor that builds the target from these parameter types. -/
def search (k : Key Ty) : Option (Constructor Ty) :=
  (declared k.target).find? (·.answers k)

/-- The handle for a type and its parameter types. A handle found by a search takes that search's
number. -/
def resolve (target : Ty) (signature : List Ty) (f : Factory Ty) :
    Outcome (Factory Ty) (Except (ConstructionError Ty) (Handle Ty)) :=
  let k : Key Ty := ⟨target, signature⟩
  match f.lookup? k with
  | some h => ⟨.ok h, [], { f with hits := f.hits + 1 }⟩
  | none =>
    let counted := { f with resolutions := f.resolutions + 1 }
    match search declared k with
    | none => ⟨.error (.undeclared target signature), [resolving k], counted⟩
    | some c =>
      let h : Handle Ty := ⟨c, f.resolutions⟩
      ⟨.ok h, [resolving k], { counted with cache := keep k h f.cache }⟩

/-- Resolves and calls; the instance's type is known only at run time. -/
def build (target : Ty) (signature : List Ty) (a : Arguments Ty) (f : Factory Ty) :
    Outcome (Factory Ty) (Except (ConstructionError Ty) (Instance Ty)) :=
  let r := resolve declared target signature f
  ⟨r.result.bind (·.call a), r.events, r.state⟩

/-- Resolves, calls, and hands the instance out at its own type. -/
def buildValue (target : Ty) (signature : List Ty) (a : Arguments Ty) (f : Factory Ty) :
    Outcome (Factory Ty) (Except (ConstructionError Ty) (Value target)) :=
  let r := build declared target signature a f
  let typed := r.result.bind fun i =>
    match i.at? target with
    | some v => .ok v
    | none => .error (.wrongType target)
  ⟨typed, r.events, r.state⟩

def buildDefault (target : Ty) (f : Factory Ty) :
    Outcome (Factory Ty) (Except (ConstructionError Ty) (Value target)) :=
  buildValue declared target [] (.ofList []) f

def shown (f : Factory Ty) : Text.Shown :=
  .record "TypedFactory"
    [("stats", .record "FactoryStats"
      [("resolutions", .natural f.resolutions), ("cache_hits", .natural f.hits),
        ("cached", .natural f.cache.length)] true)] true

end Factory

end ServiceKit.Construction
