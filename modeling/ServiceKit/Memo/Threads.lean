import ServiceKit.Memo.Cell

/-!
Many threads that ask one cell. A request looks for the value, waits for the lock if there is none,
looks again, and runs the initializer while it holds the lock. Each of these is a step of its own,
and the steps of different threads come in any order.
-/

namespace ServiceKit.Memo

abbrev Thread := Nat

/-- How far a thread's request has come. From `holding` to `leaving` the thread has the lock. -/
inductive Phase (α : Type) where
  | idle
  | looking
  | waiting
  | holding
  | running (run : Nat)
  | storing (a : α)
  | leaving (answer : Answer α)
  deriving DecidableEq

def Phase.locks {α : Type} : Phase α → Bool
  | .idle | .looking | .waiting => false
  | .holding | .running _ | .storing _ | .leaving _ => true

/-- A cell among threads. A run that panics poisons the lock, which can be taken all the same. -/
structure Threads (α : Type) where
  initializer : Nat → Attempt α
  runs : Nat
  kept : Option α
  holder : Option Thread
  spoilt : Bool
  phase : Thread → Phase α
  answers : List (Thread × Answer α)

namespace Threads

variable {α : Type}

def start (initializer : Nat → Attempt α) : Threads α :=
  ⟨initializer, 0, none, none, false, fun _ => .idle, []⟩

def enter (t : Thread) (p : Phase α) (s : Threads α) : Threads α :=
  { s with phase := fun u => if u = t then p else s.phase u }

def give (t : Thread) (a : Answer α) (s : Threads α) : Threads α :=
  { s.enter t .idle with answers := s.answers ++ [(t, a)] }

def afterRun : Attempt α → Phase α
  | .value a => .storing a
  | .absent => .leaving (.error .absent)
  | .failed cause => .leaving (.error (.failed cause))
  | .aborted message => .leaving (.aborted message)

def isAbort : Answer α → Bool
  | .aborted _ => true
  | _ => false

/-- The next step of a thread, if it can make one: it cannot while another one has the lock that it
waits for. A value is stored only where none is kept. -/
def step? (t : Thread) (s : Threads α) : Option (Threads α) :=
  match s.phase t with
  | .idle => some (s.enter t .looking)
  | .looking =>
    match s.kept with
    | some a => some (s.give t (.value a))
    | none => some (s.enter t .waiting)
  | .waiting =>
    match s.holder with
    | some _ => none
    | none => some { s.enter t .holding with holder := some t }
  | .holding =>
    match s.kept with
    | some a => some (s.enter t (.leaving (.value a)))
    | none => some { s.enter t (.running s.runs) with runs := s.runs + 1 }
  | .running run => some (s.enter t (afterRun (s.initializer run)))
  | .storing a =>
    some { s.enter t (.leaving (.value (s.kept.getD a))) with kept := some (s.kept.getD a) }
  | .leaving answer =>
    some { s.give t answer with holder := none, spoilt := s.spoilt || isAbort answer }

/-- A thread's turn; one that cannot go on lets it pass. -/
def turn (s : Threads α) (t : Thread) : Threads α := (s.step? t).getD s

def execute (schedule : List Thread) (s : Threads α) : Threads α := schedule.foldl turn s

def Quiet (s : Threads α) : Prop := ∀ t, s.phase t = .idle

def failures (s : Threads α) : List (Thread × Answer α) :=
  s.answers.filter fun (_, a) =>
    match a with
    | .value _ => false
    | _ => true

@[simp]
theorem phase_enter_self (t : Thread) (p : Phase α) (s : Threads α) :
    (s.enter t p).phase t = p := by
  simp [enter]

theorem phase_enter_of_ne {t u : Thread} (h : u ≠ t) (p : Phase α) (s : Threads α) :
    (s.enter t p).phase u = s.phase u := by
  simp [enter, h]

@[simp]
theorem execute_cons (t : Thread) (rest : List Thread) (s : Threads α) :
    s.execute (t :: rest) = (s.turn t).execute rest := rfl

/-- The cell as a single caller sees it. -/
def cell (s : Threads α) : Cell α := ⟨s.initializer, s.runs, s.kept⟩

/-- A thread that no other one disturbs does to the cell what one request does. -/
theorem cell_execute_alone (typeName : String) (t : Thread) {s : Threads α}
    (hp : s.phase t = .idle) (hh : s.holder = none) :
    (s.execute (List.replicate 7 t)).cell = (s.cell.get typeName).state := by
  cases hk : s.kept with
  | some a =>
    simp [execute, turn, step?, hp, hk, enter, give, cell, Cell.get, List.replicate]
  | none =>
    cases hr : s.initializer s.runs <;>
      simp [execute, turn, step?, hp, hk, hh, hr, enter, give, cell, Cell.get, Cell.fill,
        afterRun, List.replicate]

end Threads

end ServiceKit.Memo
