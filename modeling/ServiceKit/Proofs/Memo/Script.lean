import Mathlib.Data.ENat.Lattice
import ServiceKit.Proofs.Memo.SingleRun

/-!
One memo cell asked again and again. The script of its initializer settles everything: requests for
the value run it until a run gives one, that value answers all later ones, and requests that only
look leave the cell alone.
-/

namespace ServiceKit.Memo

variable {α : Type}

/-- What fills a cell, told by how each run ends: an initializer of any kind, one that fails by a
panic only, or one that may come back without a value. -/
inductive Supplier (α : Type) where
  | fallible (script : Nat → Attempt α)
  | total (script : Nat → Except String α)
  | optional (script : Nat → Except String (Option α))

/-- What may be asked of a cell: its value, which may take a run, or only a look at it. -/
inductive Request where
  | get
  | peek
  | isPopulated
  | inspect
  deriving DecidableEq

inductive Reply (α : Type) where
  | answered (a : Answer α)
  | kept (value : Option α)
  | populated (yes : Bool)
  | shown (s : Text.Shown)

def Attempt.answer : Attempt α → Answer α
  | .value a => .value a
  | .absent => .error .absent
  | .failed cause => .error (.failed cause)
  | .aborted message => .aborted message

namespace Answer

def value? : Answer α → Option α
  | .value a => some a
  | .error _ | .aborted _ => none

def report (typeName : String) : Answer α → List Event
  | .value _ => [Cell.populated typeName]
  | .error e => [Cell.stillEmpty typeName e]
  | .aborted _ => []

end Answer

namespace Supplier

def cell : Supplier α → Cell α
  | .fallible script => .new script
  | .total script => .ofTotal script
  | .optional script => .ofOptional script

def outcome : Supplier α → Nat → Answer α
  | .fallible script, n => (script n).answer
  | .total script, n =>
    match script n with
    | .ok a => .value a
    | .error message => .aborted message
  | .optional script, n =>
    match script n with
    | .ok (some a) => .value a
    | .ok none => .error .absent
    | .error message => .aborted message

/-- How many runs give no value before the first one that does, if ever one does. -/
noncomputable def lead (s : Supplier α) : ℕ∞ :=
  ⨅ (n : ℕ) (_ : ∃ a, s.outcome n = .value a), (n : ℕ∞)

theorem answer_initializer (s : Supplier α) (n : Nat) :
    (s.cell.initializer n).answer = s.outcome n := by
  cases s with
  | fallible script => rfl
  | total script =>
    cases h : script n <;> simp [cell, Cell.ofTotal, Cell.new, outcome, Attempt.answer, h]
  | optional script =>
    rcases h : script n with message | (_ | a) <;>
      simp [cell, Cell.ofOptional, Cell.new, outcome, Attempt.answer, h]

@[simp]
theorem kept_cell (s : Supplier α) : s.cell.kept = none := by
  cases s <;> rfl

@[simp]
theorem runs_cell (s : Supplier α) : s.cell.runs = 0 := by
  cases s <;> rfl

end Supplier

theorem Attempt.answer_eq_value {a : Attempt α} {v : α} : a.answer = .value v ↔ a = .value v := by
  cases a <;> simp [answer]

namespace Cell

section Serving

variable (typeName : String) (showValue : α → Text.Shown)

/-- Meets a request: what comes back, what is logged, and the cell afterwards. -/
def serve : Request → Cell α → Outcome (Cell α) (Reply α)
  | .get, c =>
    let answer := c.get typeName
    ⟨.answered answer.result, answer.events, answer.state⟩
  | .peek, c => ⟨.kept c.kept, [], c⟩
  | .isPopulated, c => ⟨.populated c.isPopulated, [], c⟩
  | .inspect, c => ⟨.shown (c.shown showValue), [], c⟩

def serveAll : List Request → Cell α → List Event × Cell α
  | [], c => ([], c)
  | r :: rest, c =>
    let first := serve typeName showValue r c
    let more := serveAll rest first.state
    (first.events ++ more.1, more.2)

/-- However one looks at the cell, it tells `value`, logs nothing and stays as it is. -/
def Shows (value : Option α) (c : Cell α) : Prop :=
  serve typeName showValue .peek c = ⟨.kept value, [], c⟩ ∧
    serve typeName showValue .isPopulated c = ⟨.populated value.isSome, [], c⟩ ∧
    serve typeName showValue .inspect c =
      ⟨.shown (.record "LazyCell" [("value", .option (value.map showValue))] false), [], c⟩

theorem shows_kept (c : Cell α) : c.Shows typeName showValue c.kept := ⟨rfl, rfl, rfl⟩

theorem get_eq_of_empty {c : Cell α} (h : c.kept = none) :
    c.get typeName =
      ⟨(c.initializer c.runs).answer, (c.initializer c.runs).answer.report typeName,
        ⟨c.initializer, c.runs + 1, (c.initializer c.runs).answer.value?⟩⟩ := by
  rw [get_of_empty h]
  unfold fill
  cases c.initializer c.runs <;> simp [Attempt.answer, Answer.report, Answer.value?, h]

def logged (c : Cell α) : List Event :=
  (List.range c.runs).flatMap fun n => (c.initializer n).answer.report typeName

theorem initializer_serve (r : Request) (c : Cell α) :
    (serve typeName showValue r c).state.initializer = c.initializer := by
  cases r with
  | get =>
    rw [serve]
    cases hk : c.kept with
    | some a => rw [get_of_kept hk]
    | none => rw [get_eq_of_empty typeName hk]
  | peek => rfl
  | isPopulated => rfl
  | inspect => rfl

theorem logged_serve (r : Request) (c : Cell α) :
    (serve typeName showValue r c).state.logged typeName
      = c.logged typeName ++ (serve typeName showValue r c).events := by
  cases r with
  | get =>
    rw [serve]
    cases hk : c.kept with
    | some a => simp [get_of_kept hk]
    | none => simp [get_eq_of_empty typeName hk, logged, List.range_succ]
  | peek => exact (List.append_nil _).symm
  | isPopulated => exact (List.append_nil _).symm
  | inspect => exact (List.append_nil _).symm

theorem initializer_serveAll (requests : List Request) (c : Cell α) :
    (serveAll typeName showValue requests c).2.initializer = c.initializer := by
  induction requests generalizing c with
  | nil => rfl
  | cons r rest ih =>
    unfold serveAll
    exact (ih _).trans (initializer_serve typeName showValue r c)

theorem logged_serveAll (requests : List Request) (c : Cell α) :
    (serveAll typeName showValue requests c).2.logged typeName
      = c.logged typeName ++ (serveAll typeName showValue requests c).1 := by
  induction requests generalizing c with
  | nil => exact (List.append_nil _).symm
  | cons r rest ih =>
    unfold serveAll
    rw [ih, logged_serve, List.append_assoc]

end Serving

/-- How a cell stands after `j` requests for its value: each of them made a run until one gave a
value, and there was none after that. -/
structure Asked (j : Nat) (c : Cell α) : Prop where
  settled : c.Settled
  runs_le : c.runs ≤ j
  runs_eq : c.kept = none → c.runs = j

variable {typeName : String} {showValue : α → Text.Shown} {c : Cell α} {j : Nat}

theorem Settled.failsBelow (h : c.Settled) (hk : c.kept = none) : c.FailsBelow c.runs := by
  simpa [Settled, hk] using h

theorem Asked.get (h : c.Asked j) : (c.get typeName).state.Asked (j + 1) := by
  cases hk : c.kept with
  | some a =>
    rw [get_of_kept hk]
    exact ⟨h.settled, Nat.le_succ_of_le h.runs_le, fun hn => by simp [hk] at hn⟩
  | none =>
    have hruns : c.runs = j := h.runs_eq hk
    have hbelow := h.settled.failsBelow hk
    rw [get_eq_of_empty typeName hk]
    refine ⟨?_, by simp [hruns], fun _ => by simp [hruns]⟩
    unfold Settled
    cases hv : (c.initializer c.runs).answer with
    | value v => exact ⟨c.runs, rfl, Attempt.answer_eq_value.mp hv, hbelow⟩
    | error e =>
      exact hbelow.succ fun v h => by simp [h, Attempt.answer] at hv
    | aborted message =>
      exact hbelow.succ fun v h => by simp [h, Attempt.answer] at hv

theorem Asked.serve (h : c.Asked j) (r : Request) :
    (serve typeName showValue r c).state.Asked (j + [r].count .get) := by
  cases r with
  | get => exact h.get
  | peek => exact h
  | isPopulated => exact h
  | inspect => exact h

theorem Asked.serveAll (h : c.Asked j) (requests : List Request) :
    (serveAll typeName showValue requests c).2.Asked (j + requests.count .get) := by
  induction requests generalizing c j with
  | nil => exact h
  | cons r rest ih =>
    rw [← List.singleton_append, List.count_append, ← Nat.add_assoc]
    exact ih (h.serve r)

end Cell

namespace Supplier

variable {s : Supplier α} {c : Cell α} {j n : Nat}

theorem asked_cell (s : Supplier α) : s.cell.Asked 0 where
  settled := by
    unfold Cell.Settled
    rw [s.kept_cell, s.runs_cell]
    exact fun r hr => absurd hr (Nat.not_lt_zero r)
  runs_le := by simp
  runs_eq := by simp

/-- A run gives no value exactly if it is among those in the lead. -/
theorem failsBelow_iff (hc : c.initializer = s.cell.initializer) :
    c.FailsBelow n ↔ (n : ℕ∞) ≤ s.lead := by
  unfold Cell.FailsBelow lead
  rw [le_iInf₂_iff]
  constructor
  · rintro h m ⟨a, ha⟩
    rw [← s.answer_initializer, Attempt.answer_eq_value, ← hc] at ha
    exact Nat.cast_le.mpr (Nat.le_of_not_lt fun hm => h m hm a ha)
  · intro h m hm a ha
    rw [hc, ← Attempt.answer_eq_value, s.answer_initializer] at ha
    exact absurd (Nat.cast_le.mp (h m ⟨a, ha⟩)) (Nat.not_le_of_lt hm)

/-- The lead ends where a run gives the first value. -/
theorem lead_eq_iff (hc : c.initializer = s.cell.initializer) :
    s.lead = n ↔ c.FailsBelow n ∧ ∃ a, c.initializer n = .value a := by
  constructor
  · intro h
    have hbelow : c.FailsBelow n := (failsBelow_iff hc).mpr h.ge
    refine ⟨hbelow, Classical.byContradiction fun hnone => ?_⟩
    have hmore : c.FailsBelow (n + 1) := hbelow.succ fun a ha => hnone ⟨a, ha⟩
    have hle : ((n + 1 : ℕ) : ℕ∞) ≤ n := h ▸ (failsBelow_iff hc).mp hmore
    exact Nat.not_succ_le_self n (Nat.cast_le.mp hle)
  · rintro ⟨hbelow, a, ha⟩
    apply le_antisymm
    · unfold lead
      rw [hc, ← Attempt.answer_eq_value, s.answer_initializer] at ha
      exact iInf₂_le n ⟨a, ha⟩
    · exact (failsBelow_iff hc).mp hbelow

/-- A cell that is still empty has asked for runs of the lead only. -/
theorem le_lead_of_empty (hc : c.initializer = s.cell.initializer) (h : c.Asked j)
    (hk : c.kept = none) : (j : ℕ∞) ≤ s.lead := by
  rw [← failsBelow_iff hc, ← h.runs_eq hk]
  exact h.settled.failsBelow hk

/-- A populated cell has made the lead's runs and one more, whose value it keeps. -/
theorem lead_of_kept (hc : c.initializer = s.cell.initializer) (h : c.Asked j) {a : α}
    (hk : c.kept = some a) :
    ∃ k : ℕ, s.lead = k ∧ s.outcome k = .value a ∧ c.runs = k + 1 ∧ k < j := by
  obtain ⟨k, hruns, ha, hbelow⟩ := h.settled.lastGave hk
  have hle := h.runs_le
  refine ⟨k, (lead_eq_iff hc).mpr ⟨hbelow, a, ha⟩, ?_, hruns, by omega⟩
  rw [← s.answer_initializer, ← hc, ha]
  rfl

theorem outcome_ne_value (h : (n : ℕ∞) < s.lead) (a : α) : s.outcome n ≠ .value a := by
  intro ha
  have hle : s.lead ≤ n := iInf₂_le n ⟨a, ha⟩
  exact absurd h (not_lt_of_ge hle)

theorem exists_first_value {k : ℕ} (h : s.lead = k) : ∃ v, s.outcome k = .value v := by
  obtain ⟨-, v, hv⟩ := (lead_eq_iff (c := s.cell) rfl).mp h
  exact ⟨v, by rw [← s.answer_initializer, hv]; rfl⟩

end Supplier

theorem Answer.value?_eq_none {answer : Answer α} (h : ∀ a, answer ≠ .value a) :
    answer.value? = none := by
  cases answer with
  | value a => exact absurd rfl (h a)
  | error e => rfl
  | aborted message => rfl

open Cell in
/-- After `j` requests for the value, with the first value in the script after `k` others, `min j (k
+ 1)` runs were made and logged. While `j < k` the next one is answered by run `j`, where `j = k` by
the first value, and then by that value for ever. -/
theorem serveAll_of_script (typeName : String) (showValue : α → Text.Shown) (s : Supplier α)
    (requests : List Request) :
    let done := serveAll typeName showValue requests s.cell
    let j := requests.count .get
    let next := serve typeName showValue .get done.2
    (done.2.runs : ℕ∞) = min (j : ℕ∞) (s.lead + 1) ∧
      done.1 = (List.range done.2.runs).flatMap (fun n => (s.outcome n).report typeName) ∧
      ((j : ℕ∞) < s.lead → (∀ a, s.outcome j ≠ .value a) ∧
        next = ⟨.answered (s.outcome j), (s.outcome j).report typeName,
          ⟨s.cell.initializer, j + 1, none⟩⟩) ∧
      ((j : ℕ∞) ≤ s.lead → done.2.Shows typeName showValue none) ∧
      ∀ k : ℕ, s.lead = k → ∃ v, s.outcome k = .value v ∧
        (j = k → next = ⟨.answered (.value v), [populated typeName],
          ⟨s.cell.initializer, k + 1, some v⟩⟩) ∧
        (k < j → next = ⟨.answered (.value v), [], done.2⟩ ∧
          done.2.Shows typeName showValue (some v)) := by
  intro done j next
  have hinit : done.2.initializer = s.cell.initializer :=
    initializer_serveAll typeName showValue requests s.cell
  have hasked : done.2.Asked j := by
    have h : done.2.Asked (0 + j) := s.asked_cell.serveAll requests
    rwa [Nat.zero_add] at h
  have hlogged : done.1 = (List.range done.2.runs).flatMap fun n => (s.outcome n).report typeName := by
    have h := logged_serveAll typeName showValue requests s.cell
    simp only [logged, s.runs_cell, List.range_zero, List.flatMap_nil, List.nil_append] at h
    simp only [done, ← h, ← s.answer_initializer]
    rw [← hinit]
  cases hk : done.2.kept with
  | none =>
    have hle : (j : ℕ∞) ≤ s.lead := Supplier.le_lead_of_empty hinit hasked hk
    have hruns : done.2.runs = j := hasked.runs_eq hk
    have hnext : next = ⟨.answered (s.outcome j), (s.outcome j).report typeName,
        ⟨s.cell.initializer, j + 1, (s.outcome j).value?⟩⟩ := by
      simp only [next, serve, get_eq_of_empty typeName hk, hruns, hinit, s.answer_initializer]
    refine ⟨?_, hlogged, fun hlt => ?_, fun _ => ?_, fun k hlead => ?_⟩
    · rw [hruns, min_eq_left (hle.trans le_self_add)]
    · have hnone := Supplier.outcome_ne_value hlt
      rw [Answer.value?_eq_none hnone] at hnext
      exact ⟨hnone, hnext⟩
    · have h := shows_kept typeName showValue done.2
      rwa [hk] at h
    · obtain ⟨v, hv⟩ := Supplier.exists_first_value hlead
      refine ⟨v, hv, fun hjk => ?_, fun hkj => ?_⟩
      · rw [hnext, hjk, hv]
        rfl
      · rw [hlead] at hle
        exact absurd (Nat.cast_le.mp hle) (Nat.not_le_of_lt hkj)
  | some a =>
    obtain ⟨n, hlead, hn, hruns, hnj⟩ := Supplier.lead_of_kept hinit hasked hk
    have hlt : s.lead < (j : ℕ∞) := by
      rw [hlead]
      exact Nat.cast_lt.mpr hnj
    refine ⟨?_, hlogged, fun h => absurd h (not_lt_of_gt hlt), fun h => absurd h (not_le_of_gt hlt),
      fun k hk' => ?_⟩
    · rw [hruns, hlead, min_eq_right]
      · rfl
      · exact Nat.cast_le.mpr hnj
    · obtain rfl : n = k := Nat.cast_inj.mp (hlead.symm.trans hk')
      refine ⟨a, hn, fun hjn => absurd hjn (Nat.ne_of_gt hnj), fun _ => ⟨?_, ?_⟩⟩
      · simp only [next, serve, get_of_kept hk]
      · have h := shows_kept typeName showValue done.2
        rwa [hk] at h

/-- A stored `none` is a value like any other: the cell is populated by the third request. -/
example :
    let s : Supplier (Option Nat) :=
      .fallible fun n => if n = 0 then .absent else if n = 1 then .aborted "torn" else .value none
    (Cell.serveAll "Option" (fun _ => .word "") [.get, .get, .inspect] s.cell).2.kept = none ∧
      (Cell.serveAll "Option" (fun _ => .word "") [.get, .get, .peek, .get] s.cell).2.kept
        = some none := by
  decide

end ServiceKit.Memo
