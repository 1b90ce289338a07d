import ServiceKit.Construction.Factory

/-!
Many threads that resolve constructors with one factory. A request looks into what is kept; if the
handle is there it is counted as a hit, and otherwise the request counts a search, searches, and
keeps what it found. Each of these is a step of its own, and the steps of different threads come in
any order.
-/

namespace ServiceKit.Construction

variable {Ty : Type} [Family Ty]

abbrev Thread := Nat

/-- How far a thread's request for a key has come. -/
inductive Phase (Ty : Type) [Family Ty] where
  | idle
  | looking (k : Key Ty)
  | hitting (k : Key Ty) (h : Handle Ty)
  | missing (k : Key Ty)
  | searching (k : Key Ty) (number : Nat)
  | keeping (k : Key Ty) (h : Handle Ty)

/-- What a request came to, and whether it was answered without a search. -/
structure Resolved (Ty : Type) [Family Ty] where
  result : Except (ConstructionError Ty) (Handle Ty)
  hit : Bool

/-- What can be seen from outside, in its order. -/
inductive Occasion (Ty : Type) [Family Ty] where
  | began (t : Thread) (k : Key Ty)
  | ended (t : Thread) (k : Key Ty) (r : Resolved Ty)

/-- A turn of the schedule: a thread begins a request, or goes on with the one it made. -/
inductive Turn (Ty : Type) where
  | ask (t : Thread) (k : Key Ty)
  | go (t : Thread)

structure Threads (Ty : Type) [Family Ty] where
  factory : Factory Ty
  phase : Thread → Phase Ty
  history : List (Occasion Ty)

namespace Threads

def start : Threads Ty := ⟨.empty, fun _ => .idle, []⟩

def enter (t : Thread) (p : Phase Ty) (s : Threads Ty) : Threads Ty :=
  { s with phase := fun u => if u = t then p else s.phase u }

def record (o : Occasion Ty) (s : Threads Ty) : Threads Ty :=
  { s with history := s.history ++ [o] }

def finish (t : Thread) (k : Key Ty) (r : Resolved Ty) (s : Threads Ty) : Threads Ty :=
  (s.enter t .idle).record (.ended t k r)

variable [DecidableEq Ty] (declared : Ty → List (Constructor Ty))

def step (t : Thread) (s : Threads Ty) : Threads Ty :=
  match s.phase t with
  | .idle => s
  | .looking k =>
    match s.factory.lookup? k with
    | some h => s.enter t (.hitting k h)
    | none => s.enter t (.missing k)
  | .hitting k h =>
    { s.finish t k ⟨.ok h, true⟩ with factory := { s.factory with hits := s.factory.hits + 1 } }
  | .missing k =>
    { s.enter t (.searching k s.factory.resolutions) with
      factory := { s.factory with resolutions := s.factory.resolutions + 1 } }
  | .searching k number =>
    match Factory.search declared k with
    | none => s.finish t k ⟨.error (.undeclared k.target k.signature), false⟩
    | some c => s.enter t (.keeping k ⟨c, number⟩)
  | .keeping k h =>
    { s.finish t k ⟨.ok h, false⟩ with
      factory := { s.factory with cache := Factory.keep k h s.factory.cache } }

/-- A thread begins a request when it has none under way. -/
def ask (t : Thread) (k : Key Ty) (s : Threads Ty) : Threads Ty :=
  match s.phase t with
  | .idle => (s.enter t (.looking k)).record (.began t k)
  | _ => s

def take (s : Threads Ty) : Turn Ty → Threads Ty
  | .ask t k => s.ask t k
  | .go t => s.step declared t

def execute (schedule : List (Turn Ty)) (s : Threads Ty) : Threads Ty :=
  schedule.foldl (take declared) s

def Quiet (s : Threads Ty) : Prop := ∀ t, s.phase t = .idle

def ended (s : Threads Ty) : List (Key Ty × Resolved Ty) :=
  s.history.filterMap fun
    | .began .. => none
    | .ended _ k r => some (k, r)

omit [DecidableEq Ty] in
@[simp]
theorem phase_enter_self (t : Thread) (p : Phase Ty) (s : Threads Ty) :
    (s.enter t p).phase t = p := by
  simp [enter]

omit [DecidableEq Ty] in
theorem phase_enter_of_ne {t u : Thread} (h : u ≠ t) (p : Phase Ty) (s : Threads Ty) :
    (s.enter t p).phase u = s.phase u := by
  simp [enter, h]

/-- A thread that no other one disturbs does to the factory what one resolution does. -/
theorem factory_execute_alone (t : Thread) (k : Key Ty) {s : Threads Ty} (h : s.phase t = .idle) :
    (s.execute declared [.ask t k, .go t, .go t, .go t, .go t]).factory
      = (s.factory.resolve declared k.target k.signature).state := by
  cases hl : s.factory.lookup? k with
  | some g => simp [execute, take, ask, h, step, enter, record, finish, Factory.resolve, hl]
  | none =>
    cases hs : Factory.search declared k <;>
      simp [execute, take, ask, h, step, enter, record, finish, Factory.resolve, hl, hs]

end Threads

end ServiceKit.Construction
