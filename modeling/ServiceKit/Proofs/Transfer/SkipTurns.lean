import ServiceKit.Proofs.Transfer.Courses
import ServiceKit.Transfer.Scripted

/-!
Skipping in any stream, whatever its calls are answered with. A skip goes in turns. Each asks the
stream to skip all that is missing, and reads one byte where that moved nothing. Every turn but the
last brings the skip on, and none by more than was missing, so that `length` bytes take at most
`length` turns.
-/

namespace ServiceKit.Transfer

open Text (wordLimit)

/-- A turn of a skip, with what was missing before it: the answer to its skip, or the answer to the
probe behind a skip of nothing. -/
inductive Turn where
  | skipped (missing : Nat) (answer : Except Stop Nat)
  | probed (missing : Nat) (answer : Except Stop Nat)

namespace Turn

def missing : Turn → Nat
  | .skipped missing _ => missing
  | .probed missing _ => missing

def answer : Turn → Except Stop Nat
  | .skipped _ answer => answer
  | .probed _ answer => answer

def calls : Turn → List Call
  | .skipped missing answer => [.skip missing answer]
  | .probed missing answer => [.skip missing (.ok 0), .read 1 answer]

/-- The progress that a turn reports: the count skipped, or one byte where a probe found any. -/
def progress : Turn → Nat
  | .skipped _ (.ok n) => n
  | .probed _ (.ok (_ + 1)) => 1
  | _ => 0

def gain (t : Turn) : Nat := min t.progress t.missing

end Turn

def covered : List Turn → Nat
  | [] => 0
  | t :: rest => t.gain + covered rest

theorem covered_append_singleton (before : List Turn) (t : Turn) :
    covered (before ++ [t]) = covered before + t.gain := by
  induction before with
  | nil => exact Nat.add_comm _ _
  | cons b before ih => rw [List.cons_append, covered, covered, ih, Nat.add_assoc]

theorem length_le_covered {turns : List Turn} (h : ∀ t ∈ turns, 0 < t.gain) :
    turns.length ≤ covered turns := by
  induction turns with
  | nil => exact Nat.le_refl 0
  | cons t rest ih =>
    have ht := h t List.mem_cons_self
    have hrest := ih fun u hu => h u (List.mem_cons_of_mem t hu)
    simp only [List.length_cons, covered]
    omega

/-- Turns that follow one another: each is made for what those before it have left over, and only
the last may leave all of that as it was. -/
def Linked (missing : Nat) (turns : List Turn) : Prop :=
  ∀ before t after, turns = before ++ t :: after →
    0 < t.missing ∧ covered before + t.missing = missing ∧ (after ≠ [] → 0 < t.progress)

theorem linked_nil (missing : Nat) : Linked missing [] := by
  intro before t after h
  simp at h

theorem linked_singleton {t : Turn} (h : 0 < t.missing) : Linked t.missing [t] := by
  intro before u after hsplit
  cases before with
  | nil =>
    obtain ⟨rfl, rfl⟩ := List.cons.inj hsplit
    exact ⟨h, Nat.zero_add _, fun hne => absurd rfl hne⟩
  | cons b before => simp at hsplit

theorem Linked.cons {t : Turn} {turns : List Turn} {left : Nat} (h : Linked left turns)
    (hm : 0 < t.missing) (hp : 0 < t.progress) (hleft : t.gain + left = t.missing) :
    Linked t.missing (t :: turns) := by
  intro before u after hsplit
  cases before with
  | nil =>
    obtain ⟨rfl, rfl⟩ := List.cons.inj hsplit
    exact ⟨hm, Nat.zero_add _, fun _ => hp⟩
  | cons b before =>
    obtain ⟨rfl, hmore⟩ := List.cons.inj hsplit
    obtain ⟨hpos, hrest, hgoes⟩ := h before u after hmore
    exact ⟨hpos, by rw [covered, Nat.add_assoc, hrest, hleft], hgoes⟩

namespace Linked

variable {missing : Nat} {turns : List Turn}

theorem gain_pos (h : Linked missing turns) {before : List Turn} {last : Turn}
    (hlast : turns = before ++ [last]) : ∀ t ∈ before, 0 < t.gain := by
  intro t ht
  obtain ⟨earlier, later, rfl⟩ := List.append_of_mem ht
  have hsplit : turns = earlier ++ t :: (later ++ [last]) := by simpa using hlast
  obtain ⟨hpos, -, hgoes⟩ := h earlier t (later ++ [last]) hsplit
  exact Nat.lt_min.mpr ⟨hgoes (by simp), hpos⟩

/-- Turns bring a skip on by no more than was missing, and each takes some of it. -/
theorem bounds (h : Linked missing turns) : covered turns ≤ missing ∧ turns.length ≤ missing := by
  rcases List.eq_nil_or_concat turns with rfl | ⟨before, last, hturns⟩
  · exact ⟨Nat.zero_le _, Nat.zero_le _⟩
  rw [List.concat_eq_append] at hturns
  obtain ⟨hpos, hleft, -⟩ := h before last [] hturns
  have hgain : last.gain ≤ last.missing := Nat.min_le_right _ _
  have hbefore := length_le_covered (h.gain_pos hturns)
  rw [hturns, covered_append_singleton, List.length_append, List.length_singleton]
  omega

end Linked

/-- How turns for `missing` bytes of a skip of `length` end it: there is nothing left to skip, a
probe finds nothing, or a call is stopped. -/
inductive Ends (length : Nat) : Nat → List Turn → Except Halt Unit → Prop
  | done {missing : Nat} {turns : List Turn} (h : covered turns = missing) :
      Ends length missing turns (.ok ())
  | short {missing : Nat} (before : List Turn) (left : Nat) :
      Ends length missing (before ++ [.probed left (.ok 0)])
        (.error (.error (.unexpectedEnd .skip length (length - left))))
  | stopped {missing : Nat} (before : List Turn) (last : Turn) (stop : Stop)
      (h : last.answer = .error stop) :
      Ends length missing (before ++ [last]) (.error (.ofStop stop))

theorem Ends.cons {length left : Nat} {turns : List Turn} {result : Except Halt Unit}
    (h : Ends length left turns result) (t : Turn) (hleft : t.gain + left = t.missing) :
    Ends length t.missing (t :: turns) result := by
  cases h with
  | done h => exact .done (by rw [covered, h, hleft])
  | short before left => exact .short (t :: before) left
  | stopped before last stop h => exact .stopped (t :: before) last stop h

namespace Passing

variable {σ : Type} [Reader σ] [Skipping σ] {length remaining : Nat} {s : σ} {made : List Call}
  {run : Run σ Unit}

theorem exists_turns (h : Passing length remaining s made run) :
    ∃ turns, made = turns.flatMap Turn.calls ∧ Linked remaining turns ∧
      Ends length remaining turns run.result := by
  induction h with
  | done => exact ⟨[], rfl, linked_nil 0, .done rfl⟩
  | @stopped remaining s after stop hr h =>
    exact ⟨[.skipped remaining (.error stop)], rfl, linked_singleton (Nat.pos_of_ne_zero hr),
      .stopped [] _ stop rfl⟩
  | @moved remaining n s after made run hr h rest ih =>
    obtain ⟨turns, rfl, hlinked, hends⟩ := ih
    have hleft : min (n + 1) remaining + (remaining - min (n + 1) remaining) = remaining := by omega
    exact ⟨.skipped remaining (.ok (n + 1)) :: turns, rfl,
      hlinked.cons (Nat.pos_of_ne_zero hr) (Nat.succ_pos n) hleft, hends.cons (.skipped _ _) hleft⟩
  | @probeStopped remaining s after last wrote stop hr h hp =>
    exact ⟨[.probed remaining (.error stop)], rfl, linked_singleton (Nat.pos_of_ne_zero hr),
      .stopped [] _ stop rfl⟩
  | @ended remaining s after last wrote hr h hp =>
    exact ⟨[.probed remaining (.ok 0)], rfl, linked_singleton (Nat.pos_of_ne_zero hr),
      .short [] remaining⟩
  | @probed remaining n s after last wrote made run hr h hp rest ih =>
    obtain ⟨turns, rfl, hlinked, hends⟩ := ih
    have hleft : min 1 remaining + (remaining - 1) = remaining := by omega
    exact ⟨.probed remaining (.ok (n + 1)) :: turns, rfl,
      hlinked.cons (Nat.pos_of_ne_zero hr) Nat.one_pos hleft, hends.cons (.probed _ _) hleft⟩

end Passing

variable {σ : Type} [Reader σ] [Skipping σ]

/-- A skip makes at most `length` turns, each of one skip and at most one read, for what the turns
before it have left over. It ends with nothing left over, with a call that was stopped, or with an
empty probe, which tells the progress made. -/
theorem skipExactly_turns (length : Nat) (s : σ) :
    let run := skipExactly length (Recorded.start s)
    skipExactly length s = ⟨run.result, run.notices, run.state.inner⟩ ∧
      ∃ turns : List Turn, run.state.calls = turns.flatMap Turn.calls ∧
        turns.length ≤ length ∧ covered turns ≤ length ∧
        (∀ before t after, turns = before ++ t :: after →
          0 < t.missing ∧ covered before + t.missing = length ∧ (after ≠ [] → 0 < t.progress)) ∧
        (run.result = .ok () ∧ covered turns = length ∨
          (∃ before last stop, turns = before ++ [last] ∧ last.answer = .error stop ∧
            run.result = .error (.ofStop stop)) ∨
          ∃ before missing, turns = before ++ [.probed missing (.ok 0)] ∧ covered before < length ∧
            run.result = .error (.error (.unexpectedEnd .skip length (covered before)))) := by
  intro run
  obtain ⟨made, plain, hcourse, hplain, hrecorded⟩ := exists_skipping length s
  have hrun : run = _ := hrecorded
  obtain ⟨turns, hmade, hlinked, hends⟩ := hcourse.exists_turns
  obtain ⟨hcovered, hlength⟩ := hlinked.bounds
  rw [hrun]
  refine ⟨hplain, turns, hmade, hlength, hcovered, hlinked, ?_⟩
  generalize plain.result = result at hends
  cases hends with
  | done h => exact .inl ⟨rfl, h⟩
  | short before missing =>
    obtain ⟨hpos, hleft, -⟩ := hlinked before _ [] rfl
    have hmissing : (Turn.probed missing (.ok 0)).missing = missing := rfl
    rw [hmissing] at hpos hleft
    have htold : length - missing = covered before := by omega
    rw [htold]
    exact .inr (.inr ⟨before, missing, rfl, by omega, rfl⟩)
  | stopped before last stop h => exact .inr (.inl ⟨before, last, stop, rfl, h, rfl⟩)

/-- A stream whose probe reports more than any buffer holds, and whose skips report what they like.
-/
theorem skipExactly_turns_claims :
    let script : Scripted :=
      ⟨[], [.claim (wordLimit - 1), .claim 0], [.claim 0, .claim 3, .claim 0]⟩
    let run := skipExactly 10 (Recorded.start script)
    run.result = .error (.error (.unexpectedEnd .skip 10 4)) ∧
      ∃ before missing, run.state.calls = (before ++ [.probed missing (.ok 0)]).flatMap Turn.calls ∧
        before.length < 10 ∧ covered before = 4 := by
  intro script run
  have hended : run.result = .error (.error (.unexpectedEnd .skip 10 4)) := by
    have h : run = skipRemaining 10 10 (Recorded.start script) := rfl
    rw [h, skipRemaining_of_probe_byte (by decide) rfl rfl,
      skipRemaining_of_progress (by decide) rfl, skipRemaining_of_probe_end (by decide) rfl rfl]
    rfl
  obtain ⟨-, turns, hcalls, hlength, -, -, ⟨hresult, -⟩ | ⟨-, -, stop, -, -, hresult⟩ |
    ⟨before, missing, hturns, -, hresult⟩⟩ := skipExactly_turns 10 script
  · cases hended.symm.trans hresult
  · cases stop <;> cases hended.symm.trans hresult
  · rw [hturns] at hcalls hlength
    rw [List.length_append, List.length_singleton] at hlength
    have htold := hended.symm.trans hresult
    injection htold with htold
    injection htold with htold
    injection htold with _ _ htold
    exact ⟨hended, before, missing, hcalls, hlength, htold.symm⟩

end ServiceKit.Transfer
