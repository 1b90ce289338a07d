import ServiceKit.Proofs.Transfer.Turns
import ServiceKit.Transfer.Recorded

/-!
The course of a transfer: the calls it makes, the stream after each, and what it comes to. Every
transfer takes one, whatever the reader answers, and what is said about the calls is read off it.
-/

namespace ServiceKit.Transfer

open Text (wordLimit)

def Call.asked : Call → Nat
  | .read room _ => room
  | .skip n _ => n

/-- How far an answer brings a transfer: by the count answered, but no further than was asked. -/
def Call.gain (c : Call) : Nat :=
  match c.answer with
  | .ok n => min n c.asked
  | .error _ => 0

def gained : List Call → Nat
  | [] => 0
  | c :: rest => c.gain + gained rest

@[simp]
theorem gained_append (first rest : List Call) :
    gained (first ++ rest) = gained first + gained rest := by
  induction first with
  | nil => simp [gained]
  | cons c first ih => simp only [List.cons_append, gained, ih, Nat.add_assoc]

theorem length_le_gained {calls : List Call} (h : ∀ c ∈ calls, 0 < c.gain) :
    calls.length ≤ gained calls := by
  induction calls with
  | nil => exact Nat.le_refl 0
  | cons c rest ih =>
    have hc := h c List.mem_cons_self
    have hrest := ih fun d hd => h d (List.mem_cons_of_mem c hd)
    simp only [List.length_cons, gained]
    omega

theorem Call.gain_of_zero {c : Call} (h : c.answer = .ok 0) : c.gain = 0 := by
  simp [gain, h]

theorem Call.gain_of_error {c : Call} {stop : Stop} (h : c.answer = .error stop) :
    c.gain = 0 := by
  simp [gain, h]

theorem gained_moved (asked n : Nat) (made : List Call) :
    gained (.skip asked (.ok n) :: made) = min n asked + gained made := rfl

theorem gained_probed (asked n : Nat) (made : List Call) :
    gained (.skip asked (.ok 0) :: .read 1 (.ok (n + 1)) :: made) = 1 + gained made := by
  simp only [gained, Call.gain, Call.answer, Call.asked]
  omega

/-- The count that a call was answered with, whatever it was asked for. -/
def Call.count (c : Call) : Nat :=
  match c.answer with
  | .ok n => n
  | .error _ => 0

def reported : List Call → Nat
  | [] => 0
  | c :: rest => c.count + reported rest

theorem reported_append_singleton (before : List Call) (c : Call) :
    reported (before ++ [c]) = reported before + c.count := by
  induction before with
  | nil => exact Nat.add_comm _ _
  | cons b before ih => rw [List.cons_append, reported, reported, ih, Nat.add_assoc]

theorem reported_delivered (asked n : Nat) (made : List Call) :
    reported (.read asked (.ok n) :: made) = n + reported made := rfl

variable {σ : Type} [Reader σ]

def Recorded.start (s : σ) : Recorded σ := ⟨s, []⟩

theorem Recorded.read_eq {s after : σ} {room : Nat} {answer : ReadAnswer}
    (h : Reader.read room s = (answer, after)) (calls : List Call) :
    Reader.read room (⟨s, calls⟩ : Recorded σ) =
      (answer, ⟨after, calls ++ [.read room answer.outcome]⟩) := by
  simp only [Reader.read, Recorded.read] at h ⊢
  rw [h]

theorem Recorded.skip_eq [Skipping σ] {s after : σ} {n : Nat} {answer : Except Stop Nat}
    (h : Skipping.skip n s = (answer, after)) (calls : List Call) :
    Skipping.skip n (⟨s, calls⟩ : Recorded σ) = (answer, ⟨after, calls ++ [.skip n answer]⟩) := by
  simp only [Skipping.skip, Recorded.skip] at h ⊢
  rw [h]

section Fetching

/-- The course of a fetch: position, missing bytes and stream at its start, the calls, and all that
`fetch` gives. -/
inductive Fetching : Nat → Nat → σ → List Call → List Patch × Fetched × σ → Prop
  | full {position : Nat} {s : σ} : Fetching position 0 s [] ([], .full, s)
  | ended {position missing : Nat} {s after : σ} {wrote : List UInt8} (hm : missing ≠ 0)
      (h : Reader.read missing s = (⟨wrote, .ok 0⟩, after)) :
      Fetching position missing s [.read missing (.ok 0)] ([⟨wrote, 0⟩], .ended missing, after)
  | stopped {position missing : Nat} {s after : σ} {wrote : List UInt8} {stop : Stop}
      (hm : missing ≠ 0) (h : Reader.read missing s = (⟨wrote, .error stop⟩, after)) :
      Fetching position missing s [.read missing (.error stop)]
        ([⟨wrote, 0⟩], .stopped stop, after)
  | overflow {position missing n : Nat} {s after : σ} {wrote : List UInt8} (hm : missing ≠ 0)
      (hp : wordLimit ≤ position + (n + 1))
      (h : Reader.read missing s = (⟨wrote, .ok (n + 1)⟩, after)) :
      Fetching position missing s [.read missing (.ok (n + 1))] ([⟨wrote, 0⟩], .overflow, after)
  | delivered {position missing n : Nat} {s after : σ} {wrote : List UInt8} {made : List Call}
      {out : List Patch × Fetched × σ} (hm : missing ≠ 0) (hp : position + (n + 1) < wordLimit)
      (h : Reader.read missing s = (⟨wrote, .ok (n + 1)⟩, after))
      (rest : Fetching (position + (n + 1)) (missing - (n + 1)) after made out) :
      Fetching position missing s (.read missing (.ok (n + 1)) :: made)
        (⟨wrote, n + 1⟩ :: out.1, out.2)

theorem exists_fetching (position missing : Nat) (s : σ) :
    ∃ made, Fetching position missing s made (fetch position missing s) ∧
      ∀ calls, fetch position missing (⟨s, calls⟩ : Recorded σ) =
        ((fetch position missing s).1, (fetch position missing s).2.1,
          ⟨(fetch position missing s).2.2, calls ++ made⟩) := by
  induction missing using Nat.strongRecOn generalizing position s with
  | ind missing ih =>
  by_cases hm : missing = 0
  · subst hm
    refine ⟨[], ?_, fun calls => ?_⟩
    · rw [fetch_zero]
      exact .full
    · rw [fetch_zero, fetch_zero, List.append_nil]
  rcases hread : Reader.read missing s with ⟨⟨wrote, outcome⟩, after⟩
  have hrecorded := Recorded.read_eq hread
  cases outcome with
  | error stop =>
    refine ⟨[.read missing (.error stop)], ?_, fun calls => ?_⟩
    · rw [fetch_of_stop hm hread]
      exact .stopped hm hread
    · rw [fetch_of_stop hm hread, fetch_of_stop hm (hrecorded calls)]
  | ok n =>
    cases n with
    | zero =>
      refine ⟨[.read missing (.ok 0)], ?_, fun calls => ?_⟩
      · rw [fetch_of_end hm hread]
        exact .ended hm hread
      · rw [fetch_of_end hm hread, fetch_of_end hm (hrecorded calls)]
    | succ n =>
      by_cases hp : position + (n + 1) < wordLimit
      · obtain ⟨made, hcourse, hmade⟩ :=
          ih (missing - (n + 1)) (by omega) (position + (n + 1)) after
        refine ⟨.read missing (.ok (n + 1)) :: made, ?_, fun calls => ?_⟩
        · rw [fetch_of_delivery hm hp hread]
          exact .delivered hm hp hread hcourse
        · rw [fetch_of_delivery hm hp hread, fetch_of_delivery hm hp (hrecorded calls), hmade,
            List.append_assoc, List.singleton_append]
      · have hp : wordLimit ≤ position + (n + 1) := Nat.le_of_not_lt hp
        refine ⟨[.read missing (.ok (n + 1))], ?_, fun calls => ?_⟩
        · rw [fetch_of_overflow hm hp hread]
          exact .overflow hm hp hread
        · rw [fetch_of_overflow hm hp hread, fetch_of_overflow hm hp (hrecorded calls)]

theorem Fetching.gained_le {position missing : Nat} {s : σ} {made : List Call}
    {out : List Patch × Fetched × σ} (h : Fetching position missing s made out) :
    gained made ≤ missing := by
  induction h with
  | full => exact Nat.le_refl 0
  | ended => exact Nat.zero_le _
  | stopped => exact Nat.zero_le _
  | overflow => exact Nat.min_le_right _ _
  | delivered hm hp h rest ih =>
    simp only [gained, Call.gain, Call.answer, Call.asked]
    omega

/-- How a fetch ends: all reads handed something over and nothing is missing, or the last one did not
and says why it ended. -/
theorem Fetching.ending {position missing : Nat} {s : σ} {made : List Call}
    {out : List Patch × Fetched × σ} (h : Fetching position missing s made out) :
    (out.2.1 = .full ∧ (∀ c ∈ made, 0 < c.gain) ∧ gained made = missing) ∨
      ∃ before c, made = before ++ [c] ∧ (∀ d ∈ before, 0 < d.gain) ∧ gained before < missing ∧
        (c.answer = .ok 0 ∧ out.2.1 = .ended (missing - gained before) ∨
          (∃ stop, c.answer = .error stop ∧ out.2.1 = .stopped stop) ∨ out.2.1 = .overflow) := by
  induction h with
  | full => exact .inl ⟨rfl, by simp, rfl⟩
  | ended hm h =>
    exact .inr ⟨[], _, rfl, by simp, Nat.pos_of_ne_zero hm, .inl ⟨rfl, rfl⟩⟩
  | stopped hm h =>
    exact .inr ⟨[], _, rfl, by simp, Nat.pos_of_ne_zero hm, .inr (.inl ⟨_, rfl, rfl⟩)⟩
  | overflow hm hp h =>
    exact .inr ⟨[], _, rfl, by simp, Nat.pos_of_ne_zero hm, .inr (.inr rfl)⟩
  | @delivered position missing n s after wrote made out hm hp h rest ih =>
    have hgain : (Call.read missing (.ok (n + 1))).gain = min (n + 1) missing := rfl
    have hpos : 0 < (Call.read missing (.ok (n + 1))).gain := by omega
    rcases ih with ⟨hfull, hmade, hall⟩ | ⟨before, c, rfl, hbefore, hlt, hend⟩
    · refine .inl ⟨hfull, List.forall_mem_cons.mpr ⟨hpos, hmade⟩, ?_⟩
      simp only [gained, hgain]
      omega
    · refine .inr ⟨_ :: before, c, rfl, List.forall_mem_cons.mpr ⟨hpos, hbefore⟩, ?_, ?_⟩
      · simp only [gained, hgain]
        omega
      · have hmissing : missing - gained (Call.read missing (.ok (n + 1)) :: before)
            = missing - (n + 1) - gained before := by
          simp only [gained, hgain]
          omega
        rwa [hmissing]

theorem fillRange_inside {buffer : List UInt8} {offset length : Nat}
    (h : offset + length ≤ buffer.length) (s : σ) :
    fillRange buffer offset length s =
      (⟨(concludeRead length (fetch offset length s).2.1).1,
        (concludeRead length (fetch offset length s).2.1).2, (fetch offset length s).2.2⟩,
        patchRange (fetch offset length s).1 offset length buffer) :=
  if_pos h

theorem fillRange_outside {buffer : List UInt8} {offset length : Nat}
    (h : buffer.length < offset + length) (s : σ) :
    fillRange buffer offset length s =
      (⟨.error (.error (.outsideBuffer offset length buffer.length)), [], s⟩, buffer) :=
  if_neg (Nat.not_le_of_lt h)

/-- Filling a range inside its buffer takes the same course whether a record is kept or not. -/
theorem exists_filling {buffer : List UInt8} {offset length : Nat}
    (h : offset + length ≤ buffer.length) (s : σ) :
    ∃ made out, Fetching offset length s made out ∧
      fillRange buffer offset length s =
        (⟨(concludeRead length out.2.1).1, (concludeRead length out.2.1).2, out.2.2⟩,
          patchRange out.1 offset length buffer) ∧
      fillRange buffer offset length (Recorded.start s) =
        (⟨(concludeRead length out.2.1).1, (concludeRead length out.2.1).2, ⟨out.2.2, made⟩⟩,
          patchRange out.1 offset length buffer) := by
  obtain ⟨made, hcourse, hrecorded⟩ := exists_fetching offset length s
  refine ⟨made, _, hcourse, fillRange_inside h s, ?_⟩
  rw [fillRange_inside h, Recorded.start, hrecorded]
  rfl

end Fetching

section Passing

variable [Skipping σ]

/-- The course of a skip of `length` bytes: what remains of it and the stream at its start, the calls,
and all that the skip gives. -/
inductive Passing (length : Nat) : Nat → σ → List Call → Run σ Unit → Prop
  | done {s : σ} : Passing length 0 s [] ⟨.ok (), [], s⟩
  | stopped {remaining : Nat} {s after : σ} {stop : Stop} (hr : remaining ≠ 0)
      (h : Skipping.skip remaining s = (.error stop, after)) :
      Passing length remaining s [.skip remaining (.error stop)]
        ⟨.error (.ofStop stop), [], after⟩
  | moved {remaining n : Nat} {s after : σ} {made : List Call} {run : Run σ Unit}
      (hr : remaining ≠ 0) (h : Skipping.skip remaining s = (.ok (n + 1), after))
      (rest : Passing length (remaining - min (n + 1) remaining) after made run) :
      Passing length remaining s (.skip remaining (.ok (n + 1)) :: made) run
  | probeStopped {remaining : Nat} {s after last : σ} {wrote : List UInt8} {stop : Stop}
      (hr : remaining ≠ 0) (h : Skipping.skip remaining s = (.ok 0, after))
      (hp : Reader.read 1 after = (⟨wrote, .error stop⟩, last)) :
      Passing length remaining s [.skip remaining (.ok 0), .read 1 (.error stop)]
        ⟨.error (.ofStop stop), [], last⟩
  | ended {remaining : Nat} {s after last : σ} {wrote : List UInt8} (hr : remaining ≠ 0)
      (h : Skipping.skip remaining s = (.ok 0, after))
      (hp : Reader.read 1 after = (⟨wrote, .ok 0⟩, last)) :
      Passing length remaining s [.skip remaining (.ok 0), .read 1 (.ok 0)]
        ⟨.error (.error (.unexpectedEnd .skip length (length - remaining))),
          [.ended .skip length (length - remaining)], last⟩
  | probed {remaining n : Nat} {s after last : σ} {wrote : List UInt8} {made : List Call}
      {run : Run σ Unit} (hr : remaining ≠ 0) (h : Skipping.skip remaining s = (.ok 0, after))
      (hp : Reader.read 1 after = (⟨wrote, .ok (n + 1)⟩, last))
      (rest : Passing length (remaining - 1) last made run) :
      Passing length remaining s (.skip remaining (.ok 0) :: .read 1 (.ok (n + 1)) :: made) run

theorem exists_passing (length remaining : Nat) (s : σ) :
    ∃ made, Passing length remaining s made (skipRemaining length remaining s) ∧
      ∀ calls, skipRemaining length remaining (⟨s, calls⟩ : Recorded σ) =
        ⟨(skipRemaining length remaining s).result, (skipRemaining length remaining s).notices,
          ⟨(skipRemaining length remaining s).state, calls ++ made⟩⟩ := by
  induction remaining, s using skipRemaining.induct with
  | case1 s =>
    refine ⟨[], ?_, fun calls => ?_⟩
    · rw [skipRemaining_zero]
      exact .done
    · rw [skipRemaining_zero, skipRemaining_zero, List.append_nil]
  | case2 remaining s hr stop after hskip =>
    refine ⟨[.skip remaining (.error stop)], ?_, fun calls => ?_⟩
    · rw [skipRemaining_of_stop hr hskip]
      exact .stopped hr hskip
    · rw [skipRemaining_of_stop hr hskip, skipRemaining_of_stop hr (Recorded.skip_eq hskip calls)]
  | case3 remaining s hr n after hskip ih =>
    obtain ⟨made, hcourse, hmade⟩ := ih
    refine ⟨.skip remaining (.ok (n + 1)) :: made, ?_, fun calls => ?_⟩
    · rw [skipRemaining_of_progress hr hskip]
      exact .moved hr hskip hcourse
    · rw [skipRemaining_of_progress hr hskip,
        skipRemaining_of_progress hr (Recorded.skip_eq hskip calls), hmade, List.append_assoc,
        List.singleton_append]
  | case4 remaining s hr after hskip wrote stop last hprobe =>
    refine ⟨[.skip remaining (.ok 0), .read 1 (.error stop)], ?_, fun calls => ?_⟩
    · rw [skipRemaining_of_probe_stop hr hskip hprobe]
      exact .probeStopped hr hskip hprobe
    · rw [skipRemaining_of_probe_stop hr hskip hprobe,
        skipRemaining_of_probe_stop hr (Recorded.skip_eq hskip calls) (Recorded.read_eq hprobe _),
        List.append_assoc, List.singleton_append]
  | case5 remaining s hr after hskip wrote last hprobe =>
    refine ⟨[.skip remaining (.ok 0), .read 1 (.ok 0)], ?_, fun calls => ?_⟩
    · rw [skipRemaining_of_probe_end hr hskip hprobe]
      exact .ended hr hskip hprobe
    · rw [skipRemaining_of_probe_end hr hskip hprobe,
        skipRemaining_of_probe_end hr (Recorded.skip_eq hskip calls) (Recorded.read_eq hprobe _),
        List.append_assoc, List.singleton_append]
  | case6 remaining s hr after hskip wrote n last hprobe ih =>
    obtain ⟨made, hcourse, hmade⟩ := ih
    refine ⟨.skip remaining (.ok 0) :: .read 1 (.ok (n + 1)) :: made, ?_, fun calls => ?_⟩
    · rw [skipRemaining_of_probe_byte hr hskip hprobe]
      exact .probed hr hskip hprobe hcourse
    · rw [skipRemaining_of_probe_byte hr hskip hprobe,
        skipRemaining_of_probe_byte hr (Recorded.skip_eq hskip calls) (Recorded.read_eq hprobe _),
        hmade, List.append_assoc, List.append_assoc, List.singleton_append, List.singleton_append]

theorem exists_skipping (length : Nat) (s : σ) :
    ∃ made run, Passing length length s made run ∧ skipExactly length s = run ∧
      skipExactly length (Recorded.start s) =
        ⟨run.result, run.notices, ⟨run.state, made⟩⟩ := by
  obtain ⟨made, hcourse, hrecorded⟩ := exists_passing length length s
  exact ⟨made, _, hcourse, rfl, hrecorded []⟩

namespace Passing

variable {length remaining : Nat} {s : σ} {made : List Call} {run : Run σ Unit}

theorem gained_le (h : Passing length remaining s made run) : gained made ≤ remaining := by
  induction h with
  | done => exact Nat.le_refl 0
  | stopped => exact Nat.zero_le _
  | moved hr h rest ih =>
    rw [gained_moved]
    omega
  | probeStopped => simp [gained, Call.gain, Call.answer]
  | ended => simp [gained, Call.gain, Call.answer]
  | probed hr h hp rest ih =>
    rw [gained_probed]
    omega

theorem ok_iff (h : Passing length remaining s made run) :
    run.result = .ok () ↔ gained made = remaining := by
  induction h with
  | done => simp [gained]
  | stopped hr => simpa [gained, Call.gain, Call.answer] using hr.symm
  | moved hr h rest ih =>
    have hle := rest.gained_le
    rw [ih, gained_moved]
    omega
  | probeStopped hr => simpa [gained, Call.gain, Call.answer] using hr.symm
  | ended hr => simpa [gained, Call.gain, Call.answer] using hr.symm
  | probed hr h hp rest ih =>
    have hle := rest.gained_le
    rw [ih, gained_probed]
    omega

/-- How a skip ends: well, with an empty probe after a skip of nothing, or with the error that answers
its last call. -/
theorem ending (h : Passing length remaining s made run) :
    run.result = .ok () ∨
      (∃ before n, made = before ++ [.skip n (.ok 0), .read 1 (.ok 0)] ∧
        (∀ c ∈ before, ∃ m, c.answer = .ok m) ∧ gained before < remaining ∧
        run.result = .error
          (.error (.unexpectedEnd .skip length (length - (remaining - gained before))))) ∨
      ∃ before c stop, made = before ++ [c] ∧ c.answer = .error stop ∧
        (∀ d ∈ before, ∃ m, d.answer = .ok m) ∧ run.result = .error (.ofStop stop) := by
  induction h with
  | done => exact .inl rfl
  | stopped hr h => exact .inr (.inr ⟨[], _, _, rfl, rfl, by simp, rfl⟩)
  | moved hr h rest ih =>
    rcases ih with hok | ⟨before, m, rfl, hbefore, hlt, hrun⟩ | ⟨before, c, stop, rfl, hc, hd, hrun⟩
    · exact .inl hok
    · refine .inr (.inl ⟨_ :: before, m, rfl, List.forall_mem_cons.mpr ⟨⟨_, rfl⟩, hbefore⟩, ?_, ?_⟩)
      · rw [gained_moved]
        omega
      · rw [hrun, gained_moved, Nat.sub_sub]
    · exact .inr (.inr ⟨_ :: before, c, stop, rfl, hc, List.forall_mem_cons.mpr ⟨⟨_, rfl⟩, hd⟩, hrun⟩)
  | probeStopped hr h hp =>
    exact .inr (.inr ⟨[_], _, _, rfl, rfl, by simp [Call.answer], rfl⟩)
  | ended hr h hp =>
    exact .inr (.inl ⟨[], _, rfl, by simp, Nat.pos_of_ne_zero hr, rfl⟩)
  | probed hr h hp rest ih =>
    have hturn {before : List Call} (hbefore : ∀ c ∈ before, ∃ m, c.answer = .ok m) {m r : Nat} :
        ∀ c ∈ Call.skip r (.ok 0) :: Call.read 1 (.ok m) :: before, ∃ k, c.answer = .ok k :=
      List.forall_mem_cons.mpr ⟨⟨_, rfl⟩, List.forall_mem_cons.mpr ⟨⟨_, rfl⟩, hbefore⟩⟩
    rcases ih with hok | ⟨before, m, rfl, hbefore, hlt, hrun⟩ | ⟨before, c, stop, rfl, hc, hd, hrun⟩
    · exact .inl hok
    · refine .inr (.inl ⟨_ :: _ :: before, m, rfl, hturn hbefore, ?_, ?_⟩)
      · rw [gained_probed]
        omega
      · rw [hrun, gained_probed, Nat.sub_sub]
    · exact .inr (.inr ⟨_ :: _ :: before, c, stop, rfl, hc, hturn hd, hrun⟩)

theorem ended_of_probe (h : Passing length remaining s made run) {before after : List Call}
    {n : Nat} (hsplit : made = before ++ .skip n (.ok 0) :: .read 1 (.ok 0) :: after) :
    after = [] ∧ run.result = .error
      (.error (.unexpectedEnd .skip length (length - (remaining - gained before)))) := by
  induction h generalizing before with
  | done => simp at hsplit
  | stopped => cases before <;> simp at hsplit
  | moved hr h rest ih =>
    cases before with
    | nil => simp at hsplit
    | cons b before =>
      obtain ⟨rfl, hmore⟩ := List.cons.inj hsplit
      obtain ⟨hafter, hrun⟩ := ih hmore
      exact ⟨hafter, by rw [hrun, gained_moved, Nat.sub_sub]⟩
  | probeStopped =>
    rcases before with _ | ⟨b, _ | ⟨b', before⟩⟩ <;> simp at hsplit
  | ended hr h hp =>
    rcases before with _ | ⟨b, _ | ⟨b', before⟩⟩
    · obtain ⟨-, hmore⟩ := List.cons.inj hsplit
      exact ⟨(List.cons.inj hmore).2.symm, rfl⟩
    · simp at hsplit
    · simp at hsplit
  | probed hr h hp rest ih =>
    rcases before with _ | ⟨b, _ | ⟨b', before⟩⟩
    · simp at hsplit
    · simp at hsplit
    · obtain ⟨rfl, hturn⟩ := List.cons.inj hsplit
      obtain ⟨rfl, hmore⟩ := List.cons.inj hturn
      obtain ⟨hafter, hrun⟩ := ih hmore
      exact ⟨hafter, by rw [hrun, gained_probed, Nat.sub_sub]⟩

theorem outcome (h : Passing length length s made run) :
    run.result = .ok () ∨
      (∃ before n, made = before ++ [.skip n (.ok 0), .read 1 (.ok 0)] ∧
        (∀ c ∈ before, ∃ m, c.answer = .ok m) ∧ gained before = gained made ∧
        gained made < length ∧
        run.result = .error (.error (.unexpectedEnd .skip length (gained made)))) ∨
      ∃ before c stop, made = before ++ [c] ∧ c.answer = .error stop ∧
        run.result = .error (.ofStop stop) := by
  rcases h.ending with hok | ⟨before, n, rfl, hbefore, hlt, hrun⟩ |
    ⟨before, c, stop, hmade, hc, -, hrun⟩
  · exact .inl hok
  · have hgained : gained (before ++ [.skip n (.ok 0), .read 1 (.ok 0)]) = gained before := by
      rw [gained_append]
      rfl
    rw [Nat.sub_sub_self (Nat.le_of_lt hlt)] at hrun
    exact .inr (.inl ⟨before, n, rfl, hbefore, hgained.symm, hgained ▸ hlt, hgained ▸ hrun⟩)
  · exact .inr (.inr ⟨before, c, stop, hmade, hc, hrun⟩)

/-- A byte found after a skip of nothing can end a skip only well. -/
theorem ok_of_probed (h : Passing length remaining s made run) {before : List Call} {n m : Nat}
    (hsplit : made = before ++ [.skip n (.ok 0), .read 1 (.ok (m + 1))]) : run.result = .ok () := by
  rcases h.ending with hok | ⟨earlier, k, hends, -⟩ | ⟨earlier, c, stop, hends, hc, -⟩
  · exact hok
  · simpa using congrArg List.getLast? (hsplit.symm.trans hends)
  · have hlast : Call.read 1 (.ok (m + 1)) = c := by
      simpa using congrArg List.getLast? (hsplit.symm.trans hends)
    subst hlast
    cases hc

end Passing

end Passing

end ServiceKit.Transfer
