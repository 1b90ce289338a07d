import ServiceKit.Proofs.Transfer.Draining
import ServiceKit.Proofs.Transfer.Honest
import ServiceKit.Settings.Basic

/-!
Draining honest streams. A drain counts what the stream handed over up to the first read that came
back empty, and leaves the stream behind just that much. Where no read fails, that is all there was,
however large the reads and the pieces are. Without a buffer to read into, nothing is read.
-/

namespace ServiceKit.Transfer

open Text (wordLimit)

namespace Honest

variable {σ : Type} [Reader σ] {source : Stream' UInt8} {R : σ → Nat → Prop} {size p : Nat}
  {s last : σ} {made : List Call} {verdict : Except Stop Unit}

theorem emptied (hR : Honest source R) (h : Emptying size s made verdict last) (hs : R s p) :
    reported made = gained made ∧ R last (p + gained made) ∧
      (verdict = .ok () ∨ ∃ f, verdict = .error (.fault f)) := by
  induction h generalizing p with
  | ended h => exact ⟨rfl, (hR.delivered hs h).2.2, .inl rfl⟩
  | stopped h =>
    obtain ⟨-, ⟨f, rfl⟩, hafter⟩ := hR.failed hs h
    exact ⟨rfl, hafter, .inr ⟨f, rfl⟩⟩
  | @delivered s after last wrote n made verdict h rest ih =>
    obtain ⟨hle, -, hafter⟩ := hR.delivered hs h
    obtain ⟨hcounts, hlast, hends⟩ := ih hafter
    have hgain : (Call.read size (.ok (n + 1))).gain = n + 1 := Nat.min_eq_left hle
    rw [reported_delivered, hcounts, gained, hgain, ← Nat.add_assoc]
    exact ⟨rfl, hlast, hends⟩

end Honest

section

variable (σ : Type) [Reader σ] [Ending σ]

/-- Reads of one size empty an honest stream, and the drain that makes them comes to what they came
to: the bytes handed over up to the empty read, as many as sixty-four bits can count, or the fault
that came before one. -/
def DrainsHonestly : Prop :=
  ∀ (source : Stream' UInt8) (R : σ → Nat → Prop), Honest source R →
    ∀ (s : σ) (p size : Nat), R s p → size ≠ 0 →
      (∃ made verdict last, Emptying size s made verdict last) ∧
        ∀ made verdict last, Emptying size s made verdict last → gained made < wordLimit →
          let run := drain size (Recorded.start s)
          R last (p + gained made) ∧ run.state = ⟨last, made⟩ ∧
            drain size s = ⟨run.result, run.notices, last⟩ ∧
            (verdict = .ok () ∧ run.result = .ok (gained made) ∨
              ∃ f, verdict = .error (.fault f) ∧ run.result = .error (.error (.fault f)))

/-- Bytes that come in pieces without a fault are counted to the last one, whatever the sizes of the
pieces and of the buffer. -/
def DrainsWhole : Prop :=
  ∀ R : σ → List UInt8 → Prop, Steady R → ∀ (s : σ) (rest : List UInt8) (size : Nat), R s rest →
    size ≠ 0 → rest.length < wordLimit →
      (drain size s).result = .ok rest.length ∧ R (drain size s).state []

/-- Without a buffer a drain fails and makes no call, be the size asked for or in the settings. -/
def RefusesEmptyBuffer : Prop :=
  ∀ s : σ, drain 0 s = ⟨.error (.error .emptyBuffer), [], s⟩ ∧
    drain 0 (Recorded.start s) = ⟨.error (.error .emptyBuffer), [], ⟨s, []⟩⟩ ∧
    ∀ settings : Settings.TransferSettings, settings.drainSize = 0 →
      settings.drain s = ⟨.error (.error .emptyBuffer), [], s⟩ ∧
        settings.drain (Recorded.start s) = ⟨.error (.error .emptyBuffer), [], ⟨s, []⟩⟩

variable {σ}

theorem drain_zero (s : σ) : drain 0 s = ⟨.error (.error .emptyBuffer), [], s⟩ := if_pos rfl

theorem drain_of_settings {settings : Settings.TransferSettings} (h : settings.drainSize = 0)
    (s : σ) : settings.drain s = ⟨.error (.error .emptyBuffer), [], s⟩ := by
  rw [Settings.TransferSettings.drain, h, drain_zero]

variable (σ)

theorem drainsHonestly : DrainsHonestly σ := by
  intro source R hR s p size hs hsize
  refine ⟨exists_emptying size s, fun made verdict last hmade hfit => ?_⟩
  obtain ⟨hcounts, hlast, hends⟩ := hR.emptied hmade hs
  obtain ⟨hplain, hrecorded⟩ := hmade.drain_eq hsize (hcounts ▸ hfit)
  rw [hrecorded, ← hcounts]
  refine ⟨hcounts ▸ hlast, rfl, hplain, ?_⟩
  rcases hends with rfl | ⟨f, rfl⟩
  · exact .inl ⟨rfl, rfl⟩
  · exact .inr ⟨f, rfl, rfl⟩

theorem drainsWhole : DrainsWhole σ := by
  intro R hR s rest size hs hsize hfit
  have hfit : 0 + rest.length < wordLimit := by rwa [Nat.zero_add]
  obtain ⟨after, hdrain, hafter⟩ := hR.drainFrom hs hsize hfit
  rw [Nat.zero_add] at hdrain
  rw [drain, if_neg hsize, hdrain]
  exact ⟨rfl, hafter⟩

theorem refusesEmptyBuffer : RefusesEmptyBuffer σ := fun s =>
  ⟨drain_zero s, drain_zero (Recorded.start s), fun _ h =>
    ⟨drain_of_settings h s, drain_of_settings h (Recorded.start s)⟩⟩

end

end ServiceKit.Transfer
