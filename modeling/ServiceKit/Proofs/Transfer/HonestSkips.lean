import ServiceKit.Proofs.Transfer.Honest

/-!
Skipping in an honest stream. Skips and probes move it on by what they answer, a probed byte counts
once, and a skip takes an empty probe after a skip of nothing, and nothing else, for the end.
-/

namespace ServiceKit.Transfer

variable {σ : Type} [Reader σ] [Skipping σ]

namespace HonestSkipping

variable {source : Stream' UInt8} {R : σ → Nat → Prop} {length remaining p : Nat} {s : σ}
  {made : List Call} {run : Run σ Unit}

/-- A skip moves on by what its calls answered, and by more only where one of them failed. -/
theorem exists_taken (hR : HonestSkipping source R) (h : Passing length remaining s made run)
    (hs : R s p) :
    ∃ taken, R run.state (p + taken) ∧ gained made ≤ taken ∧ taken ≤ remaining ∧
      (taken = gained made ∨
        taken < remaining ∧ ∃ f, run.result = .error (.error (.fault f))) := by
  induction h generalizing p with
  | done => exact ⟨0, hs, Nat.le_refl 0, Nat.le_refl 0, .inl rfl⟩
  | stopped hr h =>
    obtain ⟨⟨f, rfl⟩, lost, hle, hafter⟩ := hR.stuck hs h
    exact ⟨lost, hafter, Nat.zero_le _, by omega, .inr ⟨by omega, f, rfl⟩⟩
  | @moved remaining n s after made run hr h rest ih =>
    obtain ⟨hle, hafter⟩ := hR.moved hs h
    obtain ⟨taken, hlast, hmade, htaken, hends⟩ := ih hafter
    rw [gained_moved, Nat.min_eq_left hle]
    rw [Nat.min_eq_left hle] at htaken hends
    refine ⟨n + 1 + taken, by rwa [← Nat.add_assoc], by omega, by omega, ?_⟩
    exact hends.imp (by omega) (And.imp_left (by omega))
  | probeStopped hr h hp =>
    exact ⟨0, (hR.failed (hR.moved hs h).2 hp).2.2, Nat.le_refl 0, Nat.zero_le _, .inl rfl⟩
  | ended hr h hp =>
    exact ⟨0, (hR.delivered (hR.moved hs h).2 hp).2.2, Nat.le_refl 0, Nat.zero_le _, .inl rfl⟩
  | @probed remaining n s after last wrote made run hr h hp rest ih =>
    obtain ⟨hle, -, hlast⟩ := hR.delivered (hR.moved hs h).2 hp
    -- There is room for one byte only.
    have hn : n = 0 := by omega
    subst hn
    obtain ⟨taken, hlast, hmade, htaken, hends⟩ := ih hlast
    rw [gained_probed]
    refine ⟨1 + taken, by rwa [← Nat.add_assoc], by omega, by omega, ?_⟩
    exact hends.imp (by omega) (And.imp_left (by omega))

theorem ne_overrun (hR : HonestSkipping source R) (h : Passing length remaining s made run)
    (hs : R s p) : run.result ≠ .error .overrun := by
  induction h generalizing p with
  | done => simp
  | stopped hr h =>
    obtain ⟨f, rfl⟩ := (hR.stuck hs h).1
    simp [Halt.ofStop]
  | moved hr h rest ih => exact ih (hR.moved hs h).2
  | probeStopped hr h hp =>
    obtain ⟨f, rfl⟩ := (hR.failed (hR.moved hs h).2 hp).2.1
    simp [Halt.ofStop]
  | ended hr h hp => simp
  | probed hr h hp rest ih => exact ih (hR.delivered (hR.moved hs h).2 hp).2.2

end HonestSkipping

/-- A skip of an honest stream never takes more than `length` bytes, and succeeds exactly where it
has taken so many. The end is exactly an empty probe after a skip of nothing, and is told with the
number of bytes taken. -/
theorem skipExactly_of_honest {source : Stream' UInt8} {R : σ → Nat → Prop}
    (hR : HonestSkipping source R) {s : σ} {p : Nat} (hs : R s p) (length : Nat) :
    let run := skipExactly length (Recorded.start s)
    let calls := run.state.calls
    skipExactly length s = ⟨run.result, run.notices, run.state.inner⟩ ∧
      ∃ taken, R run.state.inner (p + taken) ∧ taken ≤ length ∧
        (run.result = .ok () ↔ taken = length) ∧
        (taken = gained calls ∨ ∃ f, run.result = .error (.error (.fault f))) ∧
        (∀ before n m, calls = before ++ [.skip n (.ok 0), .read 1 (.ok (m + 1))] →
          run.result = .ok ()) ∧
        (∀ told, run.result = .error (.error (.unexpectedEnd .skip length told)) ↔
          told = taken ∧ taken < length ∧ ∃ before n after,
            calls = before ++ .skip n (.ok 0) :: .read 1 (.ok 0) :: after ∧
              (∀ c ∈ before, ∃ m, c.answer = .ok m) ∧ gained before = taken) ∧
        (run.result = .ok () ∨
          run.result = .error (.error (.unexpectedEnd .skip length taken)) ∨
          ∃ before c f, calls = before ++ [c] ∧ c.answer = .error (.fault f) ∧
            run.result = .error (.error (.fault f))) := by
  intro run calls
  obtain ⟨made, plain, hcourse, hplain, hrecorded⟩ := exists_skipping length s
  obtain ⟨taken, htaken, hmade, hle, hends⟩ := hR.exists_taken hcourse hs
  have hrun : run = _ := hrecorded
  have hcalls : calls = made := by simp only [calls, hrun]
  -- Where no call failed, the calls answered all that was taken.
  have heq (h : ∀ f, plain.result ≠ .error (.error (.fault f))) : taken = gained made :=
    hends.resolve_right fun ⟨_, f, hf⟩ => h f hf
  rw [hcalls, hrun]
  refine ⟨hplain, taken, htaken, hle, ⟨fun hok => ?_, fun hall => ?_⟩, hends.imp_right And.right,
    fun _ _ _ hsplit => hcourse.ok_of_probed hsplit, fun told => ⟨fun htold => ?_, ?_⟩, ?_⟩
  · rw [heq fun f hf => by cases hok.symm.trans hf]
    exact hcourse.ok_iff.mp hok
  · have hsame : taken = gained made := hends.resolve_right fun ⟨hlt, _⟩ => by omega
    exact hcourse.ok_iff.mpr (hsame ▸ hall)
  · have hsame := heq fun f hf => by cases htold.symm.trans hf
    rcases hcourse.outcome with hok | ⟨before, n, hmade, hbefore, hgained, hlt, hended⟩ |
      ⟨-, -, stop, -, -, hstopped⟩
    · cases hok.symm.trans htold
    · cases hended.symm.trans htold
      exact ⟨hsame.symm, hsame ▸ hlt, before, n, [], hmade, hbefore, hgained.trans hsame.symm⟩
    · cases stop <;> cases hstopped.symm.trans htold
  · rintro ⟨rfl, -, before, n, after, hsplit, -, hbefore⟩
    obtain ⟨-, hended⟩ := hcourse.ended_of_probe hsplit
    rw [hbefore, Nat.sub_sub_self hle] at hended
    exact hended
  · rcases hcourse.outcome with hok | ⟨-, -, -, -, -, -, hended⟩ |
      ⟨before, c, stop, hmade, hc, hstopped⟩
    · exact .inl hok
    · have hsame := heq fun f hf => by cases hended.symm.trans hf
      exact .inr (.inl (hsame ▸ hended))
    · cases stop with
      | fault f => exact .inr (.inr ⟨before, c, f, hmade, hc, hstopped⟩)
      | overrun => exact absurd hstopped (hR.ne_overrun hcourse hs)

/-- A script that skips two bytes, then none, where a probe finds one, and then none at the end. -/
theorem skipExactly_of_honest_script :
    let script : Scripted := ⟨[1, 2, 3, 4, 5], [.upTo 1, .upTo 0], [.upTo 2, .upTo 0, .upTo 0]⟩
    let source := script.rest ++ₛ Stream'.const 0
    let run := skipExactly 5 (Recorded.start script)
    Scripted.At source script 0 ∧
      run.result = .error (.error (.unexpectedEnd .skip 5 3)) ∧
      Scripted.At source run.state.inner 3 := by
  intro script source run
  have hscript : Scripted.At source script 0 := ⟨rfl, by simp [script], by simp [script]⟩
  have hended : run.result = .error (.error (.unexpectedEnd .skip 5 3)) := by
    have h : run = skipRemaining 5 5 (Recorded.start script) := rfl
    rw [h, skipRemaining_of_progress (by decide) rfl,
      skipRemaining_of_probe_byte (by decide) rfl rfl,
      skipRemaining_of_probe_end (by decide) rfl rfl]
    rfl
  obtain ⟨-, taken, hafter, -, -, -, -, hend, -⟩ :=
    skipExactly_of_honest (scripted_honest source) hscript 5
  obtain ⟨rfl, -⟩ := (hend 3).mp hended
  rw [Nat.zero_add] at hafter
  exact ⟨hscript, hended, hafter⟩

end ServiceKit.Transfer
