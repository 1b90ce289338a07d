import ServiceKit.Event
import ServiceKit.Text.Shown

/-!
Memo cells: an initializer runs when a value is first asked for, its first value is kept for good,
and a run that gives no value leaves the cell empty, so that the next caller tries again.
-/

namespace ServiceKit.Memo

inductive Attempt (α : Type) where
  | value (a : α)
  | absent
  | failed (cause : String)
  | aborted (message : String)
  deriving DecidableEq

inductive MemoError where
  | absent
  | failed (cause : String)
  deriving DecidableEq

namespace MemoError

def message : MemoError → String
  | .absent => "initializer produced no value"
  | .failed cause => "initializer failed: " ++ cause

def source? : MemoError → Option String
  | .absent => none
  | .failed cause => some cause

def shown : MemoError → Text.Shown
  | .absent => .word "Absent"
  | .failed cause => .tuple "Failed" [.text cause]

end MemoError

/-- What a caller of `get` receives: the memoized value, the error of the run it made, or that
run's panic. -/
inductive Answer (α : Type) where
  | value (a : α)
  | error (e : MemoError)
  | aborted (message : String)
  deriving DecidableEq

/-- A cell: how the initializer's runs end, how many there have been, and the value kept. -/
structure Cell (α : Type) where
  initializer : Nat → Attempt α
  runs : Nat
  kept : Option α

namespace Cell

variable {α : Type}

def new (initializer : Nat → Attempt α) : Cell α := ⟨initializer, 0, none⟩

/-- An empty cell whose initializer cannot fail, except by a panic. -/
def ofTotal (initializer : Nat → Except String α) : Cell α :=
  new fun run =>
    match initializer run with
    | .ok a => .value a
    | .error message => .aborted message

/-- An empty cell whose initializer may come back without a value. -/
def ofOptional (initializer : Nat → Except String (Option α)) : Cell α :=
  new fun run =>
    match initializer run with
    | .ok (some a) => .value a
    | .ok none => .absent
    | .error message => .aborted message

def isPopulated (c : Cell α) : Bool := c.kept.isSome

def origin : String := "quorum_lazy::cell"

def populated (typeName : String) : Event :=
  ⟨origin, "lazy cell populated", [("type_name", .quoted typeName)]⟩

def stillEmpty (typeName : String) (e : MemoError) : Event :=
  ⟨origin, "lazy initializer failed; cell remains empty",
    [("type_name", .quoted typeName), ("error", .plain e.message)]⟩

/-- One run of the initializer: what the caller receives, what is logged, what the cell keeps. -/
def fill (typeName : String) (c : Cell α) : Outcome (Cell α) (Answer α) :=
  let after : Cell α := { c with runs := c.runs + 1 }
  match c.initializer c.runs with
  | .value a => ⟨.value a, [populated typeName], { after with kept := some a }⟩
  | .absent => ⟨.error .absent, [stillEmpty typeName .absent], after⟩
  | .failed cause => ⟨.error (.failed cause), [stillEmpty typeName (.failed cause)], after⟩
  | .aborted message => ⟨.aborted message, [], after⟩

/-- The memoized value, from a run of the initializer if none is kept yet. -/
def get (typeName : String) (c : Cell α) : Outcome (Cell α) (Answer α) :=
  match c.kept with
  | some a => ⟨.value a, [], c⟩
  | none => fill typeName c

def getMany (typeName : String) : Nat → Cell α → Outcome (Cell α) (List (Answer α))
  | 0, c => ⟨[], [], c⟩
  | n + 1, c =>
    let first := get typeName c
    let rest := getMany typeName n first.state
    ⟨first.result :: rest.result, first.events ++ rest.events, rest.state⟩

/-- The cell in diagnostics, given what its values look like. -/
def shown (showValue : α → Text.Shown) (c : Cell α) : Text.Shown :=
  .record "LazyCell" [("value", .option (c.kept.map showValue))] false

@[simp]
theorem get_of_kept {typeName : String} {c : Cell α} {a : α} (h : c.kept = some a) :
    get typeName c = ⟨.value a, [], c⟩ := by
  simp [get, h]

theorem get_of_empty {typeName : String} {c : Cell α} (h : c.kept = none) :
    get typeName c = fill typeName c := by
  simp [get, h]

end Cell

end ServiceKit.Memo
