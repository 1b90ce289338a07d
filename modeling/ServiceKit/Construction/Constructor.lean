import ServiceKit.Construction.Arguments

/-!
Constructors: what each builds, from which parameter types, who may call it, and its body. A body
runs only on arguments that match the declared parameters in number and in type.
-/

namespace ServiceKit.Construction

variable {Ty : Type} [Family Ty]

/-- Why a body built nothing: it refused, or a take within it went wrong. -/
inductive Failure (Ty : Type) where
  | refused (reason : String)
  | mismatch (m : Mismatch Ty)
  deriving DecidableEq

def Failure.message : Failure Ty → String
  | .refused reason => reason
  | .mismatch m => m.message

/-- A computation that takes from an argument list and may fail. What a failed take used up stays
used up. -/
abbrev Body (Ty : Type) [Family Ty] (α : Type) : Type :=
  ExceptT (Failure Ty) (StateM (Arguments Ty)) α

def Body.take [DecidableEq Ty] (t : Ty) : Body Ty (Value t) := fun a =>
  match a.take t with
  | (.ok v, rest) => (.ok v, rest)
  | (.error m, rest) => (.error (.mismatch m), rest)

def Body.refuse {α : Type} (reason : String) : Body Ty α := fun a => (.error (.refused reason), a)

inductive Visibility where
  | anyone
  | factoryOnly
  deriving DecidableEq

def Visibility.word : Visibility → String
  | .anyone => "Public"
  | .factoryOnly => "Private"

structure Constructor (Ty : Type) [Family Ty] where
  target : Ty
  signature : List Ty
  visibility : Visibility
  body : Body Ty (Value target)

inductive ConstructionError (Ty : Type) where
  | unregistered (name : String)
  | undeclared (target : Ty) (signature : List Ty)
  | reserved (target : Ty) (signature : List Ty)
  | arityMismatch (target : Ty) (expected actual : Nat)
  | argumentMismatch (m : Mismatch Ty)
  | bodyFailed (target : Ty) (source : Failure Ty)
  | wrongType (expected : Ty)
  deriving DecidableEq

namespace ConstructionError

def message : ConstructionError Ty → String
  | .unregistered name => "unknown type: " ++ name
  | .undeclared target signature =>
    "no constructor " ++ Family.name target ++ "(" ++ renderSignature signature ++ ")"
  | .reserved target signature =>
    "constructor " ++ Family.name target ++ "(" ++ renderSignature signature ++ ") is not public"
  | .arityMismatch target expected actual =>
    Family.name target ++ " expects " ++ toString expected ++ " argument(s), got "
      ++ toString actual
  | .argumentMismatch m => m.message
  | .bodyFailed target source =>
    "failed to construct " ++ Family.name target ++ ": " ++ source.message
  | .wrongType expected => "constructed instance is not a " ++ Family.name expected

def source? : ConstructionError Ty → Option String
  | .bodyFailed _ source => some source.message
  | _ => none

end ConstructionError

/-- How a call reaches a constructor: through a handle that a factory gave out, or directly. -/
inductive Route where
  | handle (number : Nat)
  | direct

/-- A computation that notes the argument lists it runs bodies on. -/
abbrev Noting (Ty : Type) [Family Ty] (α : Type) : Type := StateM (List (Arguments Ty)) α

/-- The first place, from `index` on, whose value is not of the declared type. -/
def firstMismatch? [DecidableEq Ty] (index : Nat) :
    List (Instance Ty) → List Ty → Option (Mismatch Ty)
  | v :: values, t :: signature =>
    if v.type = t then firstMismatch? (index + 1) values signature else some ⟨index, t⟩
  | _, _ => none

namespace Constructor

/-- Matches the arguments against the parameters: first their number, then each type in turn. -/
def fit [DecidableEq Ty] (c : Constructor Ty) (a : Arguments Ty) :
    Except (ConstructionError Ty) Unit :=
  if a.values.length ≠ c.signature.length then
    .error (.arityMismatch c.target c.signature.length a.values.length)
  else
    match firstMismatch? 0 a.values c.signature with
    | some m => .error (.argumentMismatch m)
    | none => .ok ()

/-- What a run comes to when its body does. -/
def conclude (c : Constructor Ty) :
    Except (Failure Ty) (Value c.target) → Except (ConstructionError Ty) (Instance Ty)
  | .ok v => .ok ⟨c.target, v⟩
  | .error f => .error (.bodyFailed c.target f)

def bodyNoted (c : Constructor Ty) (a : Arguments Ty) :
    Noting Ty (Except (Failure Ty) (Value c.target)) := do
  modify (· ++ [a])
  return (c.body a).1

/-- Runs the body on matching arguments, whoever may call it. -/
def runNoted [DecidableEq Ty] (c : Constructor Ty) (a : Arguments Ty) :
    Noting Ty (Except (ConstructionError Ty) (Instance Ty)) :=
  match c.fit a with
  | .error e => return .error e
  | .ok () => return c.conclude (← c.bodyNoted a)

/-- A direct call is refused when only a factory may make it, before anything else is looked at. -/
def callNoted [DecidableEq Ty] (c : Constructor Ty) (a : Arguments Ty) (route : Route) :
    Noting Ty (Except (ConstructionError Ty) (Instance Ty)) :=
  match route, c.visibility with
  | .direct, .factoryOnly => return .error (.reserved c.target c.signature)
  | _, _ => c.runNoted a

def run [DecidableEq Ty] (c : Constructor Ty) (a : Arguments Ty) :
    Except (ConstructionError Ty) (Instance Ty) :=
  ((c.runNoted a).run []).1

def call [DecidableEq Ty] (c : Constructor Ty) (a : Arguments Ty) :
    Except (ConstructionError Ty) (Instance Ty) :=
  ((c.callNoted a .direct).run []).1

theorem callNoted_of_factoryOnly [DecidableEq Ty] {c : Constructor Ty}
    (h : c.visibility = .factoryOnly) (a : Arguments Ty) :
    c.callNoted a .direct = pure (.error (.reserved c.target c.signature)) := by
  simp only [callNoted, h]

theorem callNoted_of_anyone [DecidableEq Ty] {c : Constructor Ty} (h : c.visibility = .anyone)
    (a : Arguments Ty) : c.callNoted a .direct = c.runNoted a := by
  simp only [callNoted, h]

theorem call_of_factoryOnly [DecidableEq Ty] {c : Constructor Ty} (h : c.visibility = .factoryOnly)
    (a : Arguments Ty) : c.call a = .error (.reserved c.target c.signature) := by
  rw [call, callNoted_of_factoryOnly h]
  rfl

theorem call_of_anyone [DecidableEq Ty] {c : Constructor Ty} (h : c.visibility = .anyone)
    (a : Arguments Ty) : c.call a = c.run a := by
  rw [call, callNoted_of_anyone h, run]

def answers [DecidableEq Ty] (c : Constructor Ty) (k : Key Ty) : Bool :=
  c.target = k.target && c.signature = k.signature

theorem answers_iff [DecidableEq Ty] {c : Constructor Ty} {k : Key Ty} :
    c.answers k = true ↔ c.target = k.target ∧ c.signature = k.signature := by
  simp [answers]

def shown (c : Constructor Ty) : Text.Shown :=
  .record "Constructor"
    [("target", shownType c.target), ("signature", .list (c.signature.map shownType)),
      ("visibility", .word c.visibility.word)] false

end Constructor

end ServiceKit.Construction
