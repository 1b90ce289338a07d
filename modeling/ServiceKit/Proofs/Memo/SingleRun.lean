import ServiceKit.Memo.Threads

/-!
Threads that ask one memo cell, their steps in any order. The lock keeps the runs of the initializer
apart, and the phase of the thread that has it tells how the cell stands: at most one run gives a
value, and each of the others is accounted for by one request that failed.
-/

namespace ServiceKit.Memo

variable {α : Type}

namespace Cell

def FailsBelow (c : Cell α) (n : Nat) : Prop := ∀ r < n, ∀ a, c.initializer r ≠ .value a

/-- The last run gave `a`, and no run before it gave a value. -/
def LastGave (c : Cell α) (a : α) : Prop :=
  ∃ n, c.runs = n + 1 ∧ c.initializer n = .value a ∧ c.FailsBelow n

/-- What is kept is what the last run gave; where nothing is kept, no run gave a value. -/
def Settled (c : Cell α) : Prop :=
  match c.kept with
  | none => c.FailsBelow c.runs
  | some a => c.LastGave a

theorem FailsBelow.succ {c : Cell α} {n : Nat} (h : c.FailsBelow n)
    (hn : ∀ a, c.initializer n ≠ .value a) : c.FailsBelow (n + 1) := by
  intro r hr
  rcases Nat.lt_succ_iff_lt_or_eq.mp hr with hlt | rfl
  · exact h r hlt
  · exact hn

theorem LastGave.unique {c : Cell α} {a b : α} {n : Nat} (h : c.LastGave a) (hn : n < c.runs)
    (hb : c.initializer n = .value b) : c.runs = n + 1 := by
  obtain ⟨m, hm, _, hf⟩ := h
  have : ¬ n < m := fun hlt => hf n hlt b hb
  omega

end Cell

/-- How the cell stands while the thread that has the lock is in this phase. -/
def Phase.Fits (c : Cell α) : Phase α → Prop
  | .idle | .looking | .waiting | .holding => c.Settled
  | .running n => c.kept = none ∧ c.runs = n + 1 ∧ c.FailsBelow n
  | .storing a => c.kept = none ∧ c.LastGave a
  | .leaving (.value a) => c.kept = some a ∧ c.Settled
  | .leaving (.error _) | .leaving (.aborted _) => c.kept = none ∧ c.Settled

/-- The runs that neither an answer nor the value kept accounts for yet. -/
def Phase.owed : Phase α → Nat
  | .idle | .looking | .waiting | .holding | .leaving (.value _) => 0
  | .running _ | .storing _ | .leaving (.error _) | .leaving (.aborted _) => 1

theorem Cell.Settled.runs_of_value {c : Cell α} {a : α} {n : Nat} (h : c.Settled)
    (hn : n < c.runs) (ha : c.initializer n = .value a) : c.runs = n + 1 := by
  unfold Cell.Settled at h
  split at h
  · exact absurd ha (h n hn a)
  · exact h.unique hn ha

theorem Phase.Fits.runs_of_value {c : Cell α} {p : Phase α} {a : α} {n : Nat} (h : p.Fits c)
    (hn : n < c.runs) (ha : c.initializer n = .value a) : c.runs = n + 1 := by
  cases p with
  | idle => exact Cell.Settled.runs_of_value h hn ha
  | looking => exact Cell.Settled.runs_of_value h hn ha
  | waiting => exact Cell.Settled.runs_of_value h hn ha
  | holding => exact Cell.Settled.runs_of_value h hn ha
  | running m =>
    obtain ⟨-, hm, hf⟩ := h
    have : ¬ n < m := fun hlt => hf n hlt a ha
    omega
  | storing b => exact h.2.unique hn ha
  | leaving answer =>
    cases answer <;> exact h.2.runs_of_value hn ha

theorem Cell.Settled.lastGave {c : Cell α} {a : α} (h : c.Settled) (hk : c.kept = some a) :
    c.LastGave a := by
  simpa [Cell.Settled, hk] using h

theorem Phase.Fits.lastGave {c : Cell α} {p : Phase α} {a : α} (h : p.Fits c)
    (hk : c.kept = some a) : c.LastGave a := by
  cases p with
  | idle => exact Cell.Settled.lastGave h hk
  | looking => exact Cell.Settled.lastGave h hk
  | waiting => exact Cell.Settled.lastGave h hk
  | holding => exact Cell.Settled.lastGave h hk
  | running m => simp [h.1] at hk
  | storing b => simp [h.1] at hk
  | leaving answer => cases answer <;> exact h.2.lastGave hk

namespace Threads

variable {s : Threads α} {t u : Thread}

def critical (s : Threads α) : Phase α := (s.holder.map s.phase).getD .idle

/-- The requests that were answered by a value found it kept, and those that failed, the value and
the lock's holder together account for every run. -/
structure Consistent (s : Threads α) : Prop where
  locks_iff : ∀ t, (s.phase t).locks = true ↔ s.holder = some t
  fits : s.critical.Fits s.cell
  given : ∀ t a, (t, .value a) ∈ s.answers → s.kept = some a
  counted : s.runs = s.failures.length + (if s.kept.isSome then 1 else 0) + s.critical.owed

@[simp]
theorem holder_enter (t : Thread) (p : Phase α) (s : Threads α) :
    (s.enter t p).holder = s.holder := rfl

theorem critical_of_holder (h : s.holder = some t) : s.critical = s.phase t := by
  simp [critical, h]

theorem critical_of_free (h : s.holder = none) : s.critical = .idle := by
  simp [critical, h]

/-- A step of a thread without the lock is not seen by the one that has it. -/
theorem critical_enter (h : s.holder ≠ some t) (p : Phase α) :
    (s.enter t p).critical = s.critical := by
  cases hh : s.holder with
  | none => rw [critical_of_free hh, critical_of_free (s := s.enter t p) hh]
  | some u =>
    have hu : u ≠ t := fun e => h (by rw [hh, e])
    rw [critical_of_holder hh, critical_of_holder (s := s.enter t p) hh, phase_enter_of_ne hu]

/-- Whoever changes phase has the lock afterwards exactly when the new phase says so. -/
theorem locks_enter {p : Phase α} {g : Option Thread}
    (h : ∀ u, (s.phase u).locks = true ↔ s.holder = some u)
    (hp : p.locks = true ↔ g = some t) (hg : ∀ u ≠ t, g = some u ↔ s.holder = some u)
    (u : Thread) : ((s.enter t p).phase u).locks = true ↔ g = some u := by
  by_cases hu : u = t
  · subst hu
    rwa [phase_enter_self]
  · rw [phase_enter_of_ne hu, hg u hu]
    exact h u

namespace Consistent

theorem start (initializer : Nat → Attempt α) : Consistent (start initializer) where
  locks_iff t := by simp [Threads.start, Phase.locks]
  fits r hr := absurd hr (Nat.not_lt_zero r)
  given t a h := by simp [Threads.start] at h
  counted := rfl

theorem holder_ne (h : Consistent s) (hl : (s.phase t).locks = false) : s.holder ≠ some t := by
  intro hh
  rw [← h.locks_iff, hl] at hh
  contradiction

theorem fits_phase (h : Consistent s) (hl : (s.phase t).locks = true) :
    (s.phase t).Fits s.cell := by
  rw [← critical_of_holder ((h.locks_iff t).mp hl)]
  exact h.fits

theorem counted_phase (h : Consistent s) (hl : (s.phase t).locks = true) :
    s.runs = s.failures.length + (if s.kept.isSome then 1 else 0) + (s.phase t).owed := by
  rw [← critical_of_holder ((h.locks_iff t).mp hl)]
  exact h.counted

theorem enter (h : Consistent s) {p : Phase α} (hl : (s.phase t).locks = false)
    (hp : p.locks = false) : Consistent (s.enter t p) where
  locks_iff := locks_enter h.locks_iff (by simpa [hp] using h.holder_ne hl) fun _ _ => Iff.rfl
  fits := by
    rw [critical_enter (h.holder_ne hl)]
    exact h.fits
  given := h.given
  counted := by
    rw [critical_enter (h.holder_ne hl)]
    exact h.counted

theorem give (h : Consistent s) {a : α} (hl : (s.phase t).locks = false)
    (hk : s.kept = some a) : Consistent (s.give t (.value a)) := by
  have he := h.enter hl (p := .idle) rfl
  refine ⟨he.locks_iff, he.fits, fun u b hb => ?_, ?_⟩
  · rcases List.mem_append.mp hb with hb | hb
    · exact h.given u b hb
    · obtain ⟨-, hb⟩ := Prod.mk.inj (List.mem_singleton.mp hb)
      rw [show (s.give t (.value a)).kept = some a from hk, Answer.value.inj hb]
  · have hf : (s.give t (.value a)).failures = s.failures := by simp [failures, Threads.give]
    rw [hf]
    exact he.counted

theorem acquire (h : Consistent s) (hh : s.holder = none) :
    Consistent { s.enter t .holding with holder := some t } := by
  have hc : critical { s.enter t .holding with holder := some t } = .holding :=
    (critical_of_holder rfl).trans (phase_enter_self t .holding s)
  have hf := h.fits
  have hn := h.counted
  rw [critical_of_free hh] at hf hn
  refine ⟨locks_enter h.locks_iff (by simp [Phase.locks]) fun u hu => ?_, ?_, h.given, ?_⟩
  · simp [hh, Ne.symm hu]
  · rw [hc]
    exact hf
  · rw [hc]
    exact hn

/-- The thread with the lock goes on with it, and may change the cell. -/
theorem advance (h : Consistent s) {p : Phase α} {runs : Nat} {kept : Option α}
    (hl : (s.phase t).locks = true) (hp : p.locks = true)
    (hf : p.Fits ⟨s.initializer, runs, kept⟩) (hk : ∀ a, s.kept = some a → kept = some a)
    (hc : runs = s.failures.length + (if kept.isSome then 1 else 0) + p.owed) :
    Consistent { s.enter t p with runs, kept } := by
  have hh := (h.locks_iff t).mp hl
  have hcrit : critical { s.enter t p with runs, kept } = p :=
    (critical_of_holder (s := { s.enter t p with runs, kept }) hh).trans (phase_enter_self t p s)
  refine ⟨locks_enter h.locks_iff (by simpa [hp] using hh) fun _ _ => Iff.rfl, ?_, ?_, ?_⟩
  · rw [hcrit]
    exact hf
  · exact fun u a ha => hk a (h.given u a ha)
  · rw [hcrit]
    exact hc

theorem release (h : Consistent s) {answer : Answer α} {spoilt : Bool}
    (hp : s.phase t = .leaving answer) :
    Consistent { s.give t answer with holder := none, spoilt } := by
  have hl : (s.phase t).locks = true := by rw [hp]; rfl
  have hh := (h.locks_iff t).mp hl
  have hf := h.fits_phase hl
  have hn := h.counted_phase hl
  rw [hp] at hf hn
  have hc : critical { s.give t answer with holder := none, spoilt } = .idle :=
    critical_of_free rfl
  refine ⟨locks_enter h.locks_iff (by simp [Phase.locks]) fun u hu => ?_, ?_, ?_, ?_⟩
  · simp [hh, Ne.symm hu]
  · rw [hc]
    cases answer <;> exact hf.2
  · intro u b hb
    rcases List.mem_append.mp hb with hb | hb
    · exact h.given u b hb
    · obtain ⟨-, rfl⟩ := Prod.mk.inj (List.mem_singleton.mp hb)
      exact hf.1
  · rw [hc]
    cases answer <;> simp_all [failures, Threads.give, Threads.enter, Phase.owed] <;> omega

theorem turn (h : Consistent s) (t : Thread) : Consistent (s.turn t) := by
  cases hp : s.phase t with
  | idle =>
    simp only [Threads.turn, step?, hp, Option.getD_some]
    exact h.enter (by rw [hp]; rfl) rfl
  | looking =>
    have hl : (s.phase t).locks = false := by rw [hp]; rfl
    cases hk : s.kept with
    | some a =>
      simp only [Threads.turn, step?, hp, hk, Option.getD_some]
      exact h.give hl hk
    | none =>
      simp only [Threads.turn, step?, hp, hk, Option.getD_some]
      exact h.enter hl rfl
  | waiting =>
    cases hh : s.holder with
    | some u => simpa only [Threads.turn, step?, hp, hh, Option.getD_none] using h
    | none =>
      simp only [Threads.turn, step?, hp, hh, Option.getD_some]
      exact h.acquire hh
  | holding =>
    have hl : (s.phase t).locks = true := by rw [hp]; rfl
    have hf := h.fits_phase hl
    have hn := h.counted_phase hl
    rw [hp] at hf hn
    cases hk : s.kept with
    | some a =>
      simp only [Threads.turn, step?, hp, hk, Option.getD_some]
      exact h.advance hl rfl ⟨hk, hf⟩ (fun _ ha => ha) hn
    | none =>
      have hempty : s.cell.FailsBelow s.runs := by
        simpa [Phase.Fits, Cell.Settled, cell, hk] using hf
      simp only [Threads.turn, step?, hp, hk, Option.getD_some]
      refine h.advance hl rfl ⟨hk, rfl, hempty⟩ (fun _ ha => ha) ?_
      rw [hn]
      rfl
  | running n =>
    have hl : (s.phase t).locks = true := by rw [hp]; rfl
    obtain ⟨hk, hr, hb⟩ : (Phase.running n).Fits s.cell := hp ▸ h.fits_phase hl
    have hn := h.counted_phase hl
    rw [hp] at hn
    -- A run that gave no value leaves the cell empty and settled.
    have hfailed (hv : ∀ a, s.initializer n ≠ .value a) :
        s.cell.kept = none ∧ s.cell.Settled := by
      refine ⟨hk, ?_⟩
      unfold Cell.Settled
      rw [hk, hr]
      exact hb.succ hv
    simp only [Threads.turn, step?, hp, Option.getD_some]
    cases hi : s.initializer n with
    | value a => exact h.advance hl rfl ⟨hk, n, hr, hi, hb⟩ (fun _ ha => ha) hn
    | absent => exact h.advance hl rfl (hfailed (by simp [hi])) (fun _ ha => ha) hn
    | failed cause => exact h.advance hl rfl (hfailed (by simp [hi])) (fun _ ha => ha) hn
    | aborted message => exact h.advance hl rfl (hfailed (by simp [hi])) (fun _ ha => ha) hn
  | storing a =>
    have hl : (s.phase t).locks = true := by rw [hp]; rfl
    obtain ⟨hk, hg⟩ : (Phase.storing a).Fits s.cell := hp ▸ h.fits_phase hl
    have hn := h.counted_phase hl
    have hk : s.kept = none := hk
    rw [hp, hk] at hn
    simp only [Threads.turn, step?, hp, hk, Option.getD_some, Option.getD_none]
    exact h.advance hl rfl ⟨rfl, hg⟩ (by simp [hk]) hn
  | leaving answer =>
    simp only [Threads.turn, step?, hp, Option.getD_some]
    exact h.release hp

theorem execute (h : Consistent s) (schedule : List Thread) : Consistent (s.execute schedule) := by
  induction schedule generalizing s with
  | nil => exact h
  | cons t rest ih => exact ih (h.turn t)

theorem exclusive (h : Consistent s) (ht : (s.phase t).locks = true)
    (hu : (s.phase u).locks = true) : t = u :=
  Option.some.inj (((h.locks_iff t).mp ht).symm.trans ((h.locks_iff u).mp hu))

theorem value_of_kept (h : Consistent s) {a : α} (hk : s.kept = some a) :
    ∃ n, s.runs = n + 1 ∧ s.initializer n = .value a := by
  obtain ⟨n, hr, ha, -⟩ := h.fits.lastGave hk
  exact ⟨n, hr, ha⟩

theorem kept_of_running (h : Consistent s) {n : Nat} (hp : s.phase t = .running n) :
    s.kept = none := by
  have hl : (s.phase t).locks = true := by rw [hp]; rfl
  have hf : (Phase.running n).Fits s.cell := hp ▸ h.fits_phase hl
  exact hf.1

/-- A cell that nobody asks just now accounts for its runs by itself and the failures. -/
theorem runs_of_quiet (h : Consistent s) (hq : s.Quiet) :
    s.runs = s.failures.length + if s.kept.isSome then 1 else 0 := by
  have hc : s.critical = .idle := by
    cases hh : s.holder with
    | none => exact critical_of_free hh
    | some t => rw [critical_of_holder hh, hq t]
  have hn := h.counted
  rwa [hc] at hn

end Consistent

@[simp]
theorem initializer_turn (s : Threads α) (t : Thread) :
    (s.turn t).initializer = s.initializer := by
  unfold turn step?
  cases s.phase t <;> cases s.kept <;> cases s.holder <;> rfl

theorem initializer_execute (schedule : List Thread) (s : Threads α) :
    (s.execute schedule).initializer = s.initializer := by
  induction schedule generalizing s with
  | nil => rfl
  | cons t rest ih => rw [execute_cons, ih, initializer_turn]

/-- A populated cell keeps its value, and its initializer is not run again. -/
theorem turn_of_kept {a : α} (hk : s.kept = some a) (t : Thread) :
    (s.turn t).kept = some a ∧ (s.turn t).runs = s.runs := by
  unfold turn step?
  cases s.phase t <;> cases s.holder <;> simp [hk, enter, give]

theorem execute_of_kept {a : α} (hk : s.kept = some a) (schedule : List Thread) :
    (s.execute schedule).kept = some a ∧ (s.execute schedule).runs = s.runs := by
  induction schedule generalizing s with
  | nil => exact ⟨hk, rfl⟩
  | cons t rest ih =>
    obtain ⟨hkt, hrt⟩ := turn_of_kept hk t
    rw [execute_cons, ← hrt]
    exact ih hkt

/-- No two runs overlap, at most one gives a value, and none starts once the cell is populated.
Every request that succeeds receives that value, and between requests each run is one that failed or
the one whose value is kept. -/
theorem execute_start_single_run (initializer : Nat → Attempt α) (schedule : List Thread) :
    let s := (start initializer).execute schedule
    (∀ t u n m, s.phase t = .running n → s.phase u = .running m → t = u) ∧
    (∀ n < s.runs, ∀ m < s.runs, ∀ a b,
      initializer n = .value a → initializer m = .value b → n = m) ∧
    (∀ a, s.kept = some a → (∀ t n, s.phase t ≠ .running n) ∧
      ∀ rest, (s.execute rest).kept = some a ∧ (s.execute rest).runs = s.runs) ∧
    (∀ t a, (t, .value a) ∈ s.answers →
      s.kept = some a ∧ ∃ n < s.runs, initializer n = .value a) ∧
    (∀ n, s.runs = n + 1 → (∀ a, initializer n ≠ .value a) → s.kept = none) ∧
    (s.Quiet → s.runs = s.failures.length + if s.kept.isSome then 1 else 0) := by
  intro s
  have h : Consistent s := (Consistent.start initializer).execute schedule
  have hi : s.initializer = initializer := initializer_execute schedule _
  refine ⟨?_, ?_, ?_, ?_, ?_, h.runs_of_quiet⟩
  · intro t u n m ht hu
    exact h.exclusive (by rw [ht]; rfl) (by rw [hu]; rfl)
  · intro n hn m hm a b ha hb
    rw [← hi] at ha hb
    have hrn : s.runs = n + 1 := h.fits.runs_of_value hn ha
    have hrm : s.runs = m + 1 := h.fits.runs_of_value hm hb
    omega
  · intro a hk
    refine ⟨fun t n hp => ?_, execute_of_kept hk⟩
    simp [h.kept_of_running hp] at hk
  · intro t a ha
    have hk := h.given t a ha
    obtain ⟨n, hr, hn⟩ := h.value_of_kept hk
    exact ⟨hk, n, by omega, hi ▸ hn⟩
  · intro n hr hf
    cases hk : s.kept with
    | none => rfl
    | some a =>
      obtain ⟨m, hm, hv⟩ := h.value_of_kept hk
      obtain rfl : n = m := by omega
      exact absurd (hi ▸ hv) (hf a)

/-- The second thread waits while the first one's run panics, and then takes the spoilt lock. -/
example :
    ((start fun n => if n = 0 then .aborted "torn" else .value n).execute
      [0, 1, 0, 1, 0, 1, 0, 0, 0, 1, 1, 1, 1, 1]).answers
        = [(0, .aborted "torn"), (1, .value 1)] := by
  decide

end Threads

end ServiceKit.Memo
