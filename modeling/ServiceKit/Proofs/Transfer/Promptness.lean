import ServiceKit.Proofs.Transfer.Calls

/-!
Transfers are as prompt as the calls they make. What is assumed of a stream speaks of one read and of
one skip; the loops of the transfers add nothing to it. Skipping by reading is another matter: it
makes interrupted reads again.
-/

namespace ServiceKit.Transfer

variable {κ σ : Type} [Answered κ] [Reader σ] {log : σ → List κ} {again : κ → Fault → Prop}

def ReadsPromptly (log : σ → List κ) (again : κ → Fault → Prop) : Prop :=
  ∀ room s, RunsPromptly log again s (Reader.read room s).2
    ((Reader.read room s).1.outcome.mapError Halt.ofStop)

def StepsPromptly [Skipping σ] (log : σ → List κ) (again : κ → Fault → Prop) : Prop :=
  ∀ n s, RunsPromptly log again s (Skipping.skip n s).2
    ((Skipping.skip n s).1.mapError Halt.ofStop)

theorem StepsPromptly.answer [Skipping σ] {n : Nat} {s after : σ} {outcome : Except Stop Nat}
    (hS : StepsPromptly log again) (h : Skipping.skip n s = (outcome, after)) :
    RunsPromptly log again s after (outcome.mapError Halt.ofStop) := by
  have hskip := hS n s
  rwa [h] at hskip

namespace ReadsPromptly

theorem answer {room : Nat} {s after : σ} {wrote : List UInt8} {outcome : Except Stop Nat}
    (hR : ReadsPromptly log again) (h : Reader.read room s = (⟨wrote, outcome⟩, after)) :
    RunsPromptly log again s after (outcome.mapError Halt.ofStop) := by
  have hread := hR room s
  rwa [h] at hread

theorem fetch (hR : ReadsPromptly log again) (position missing length : Nat) (s : σ) :
    RunsPromptly log again s (fetch position missing s).2.2
      (concludeRead length (fetch position missing s).2.1).1 := by
  induction position, missing, s using fetch.induct with
  | case1 position s =>
    rw [fetch_zero]
    exact .refl s _
  | case2 position missing s hm wrote stop after hread =>
    rw [fetch_of_stop hm hread]
    exact (hR.answer hread).of_error
  | case3 position missing s hm wrote after hread =>
    rw [fetch_of_end hm hread]
    exact (hR.answer hread).of_ok _
  | case4 position missing s hm wrote n after hread hp ih =>
    rw [fetch_of_delivery hm hp hread]
    exact (hR.answer hread).trans ih
  | case5 position missing s hm wrote n after hread hp =>
    rw [fetch_of_overflow hm (Nat.not_lt.mp hp) hread]
    exact (hR.answer hread).of_ok _

theorem fillRange (hR : ReadsPromptly log again) (buffer : List UInt8) (offset length : Nat)
    (s : σ) :
    RunsPromptly log again s (fillRange buffer offset length s).1.state
      (fillRange buffer offset length s).1.result := by
  unfold Transfer.fillRange
  split
  · exact hR.fetch offset length length s
  · exact .refl s _

theorem drainFrom [Ending σ] (hR : ReadsPromptly log again) (size total : Nat) (s : σ) :
    RunsPromptly log again s (drainFrom size total s).state (drainFrom size total s).result := by
  induction total, s using drainFrom.induct (σ := σ) size with
  | case1 total s wrote stop after hread =>
    rw [drainFrom_of_stop hread]
    exact (hR.answer hread).of_error
  | case2 total s wrote after hread =>
    rw [drainFrom_of_end hread]
    exact (hR.answer hread).of_ok _
  | case3 total s wrote n after hread ht ih =>
    rw [drainFrom_of_delivery ht hread]
    exact (hR.answer hread).trans ih
  | case4 total s wrote n after hread ht =>
    rw [drainFrom_of_overflow (Nat.not_lt.mp ht) hread]
    exact (hR.answer hread).of_ok _

theorem drain [Ending σ] (hR : ReadsPromptly log again) (size : Nat) (s : σ) :
    RunsPromptly log again s (drain size s).state (drain size s).result := by
  unfold Transfer.drain
  split
  · exact .refl s _
  · exact hR.drainFrom size 0 s

theorem skipRemaining [Skipping σ] (hR : ReadsPromptly log again)
    (hS : StepsPromptly log again) (length remaining : Nat) (s : σ) :
    RunsPromptly log again s (skipRemaining length remaining s).state
      (skipRemaining length remaining s).result := by
  induction remaining, s using skipRemaining.induct with
  | case1 s =>
    rw [skipRemaining_zero]
    exact .refl s _
  | case2 remaining s hr stop after hskip =>
    rw [skipRemaining_of_stop hr hskip]
    exact (hS.answer hskip).of_error
  | case3 remaining s hr n after hskip ih =>
    rw [skipRemaining_of_progress hr hskip]
    exact (hS.answer hskip).trans ih
  | case4 remaining s hr after hskip wrote stop last hprobe =>
    rw [skipRemaining_of_probe_stop hr hskip hprobe]
    exact (hS.answer hskip).trans (hR.answer hprobe).of_error
  | case5 remaining s hr after hskip wrote last hprobe =>
    rw [skipRemaining_of_probe_end hr hskip hprobe]
    exact (hS.answer hskip).trans ((hR.answer hprobe).of_ok _)
  | case6 remaining s hr after hskip wrote n last hprobe ih =>
    rw [skipRemaining_of_probe_byte hr hskip hprobe]
    exact (hS.answer hskip).trans ((hR.answer hprobe).trans ih)

end ReadsPromptly

/-- Each read asks the reader beneath once nothing is held back, and after a fault nothing is. -/
structure Relays (log : σ → List κ) (dry : σ → Prop) : Prop where
  reads : ReadsPromptly log never
  asks : ∀ room s, dry s → (log s).length < (log (Reader.read room s).2).length
  dry_of_fault : ∀ room s f, (Reader.read room s).1.outcome = .error (.fault f) →
    dry (Reader.read room s).2

namespace Relays

variable {dry : σ → Prop}

theorem asks_of_read (hR : Relays log dry) {room : Nat} {s after : σ} {answer : ReadAnswer}
    (h : Reader.read room s = (answer, after)) (hdry : dry s) :
    (log s).length < (log after).length := by
  have hasks := hR.asks room s hdry
  rwa [h] at hasks

theorem dry_of_interruption (hR : Relays log dry) {room : Nat} {s after : σ}
    {wrote : List UInt8} {stop : Stop} (hi : stop.isInterruption = true)
    (h : Reader.read room s = (⟨wrote, .error stop⟩, after)) : dry after := by
  cases stop with
  | overrun => cases hi
  | fault f =>
    have hdry := hR.dry_of_fault room s f (by rw [h])
    rwa [h] at hdry

/-- Skipping by reading is prompt but for interruptions, and it makes a call when nothing is held
back. -/
theorem passBy [Patient σ] (hR : Relays log dry) (left passed : Nat) (s : σ) :
    RunsPromptly log interrupted s (passBy left passed s).2
        ((passBy left passed s).1.mapError Halt.ofStop) ∧
      (left ≠ 0 → dry s → (log s).length < (log (passBy left passed s).2).length) := by
  induction left, passed, s using passBy.induct with
  | case1 passed s =>
    rw [passBy_zero]
    exact ⟨.refl s _, fun h => absurd rfl h⟩
  | case2 left passed s hl room wrote after hread =>
    rw [passBy_of_end hl hread]
    exact ⟨(hR.reads.answer hread).of_never_ok.of_ok _, fun _ hdry => hR.asks_of_read hread hdry⟩
  | case3 left passed s hl room wrote n after hread hn ih =>
    rw [passBy_of_delivery hl hn hread]
    refine ⟨(hR.reads.answer hread).of_never_ok.trans ih.1, fun _ hdry => ?_⟩
    exact Nat.lt_of_lt_of_le (hR.asks_of_read hread hdry) ih.1.length_le
  | case4 left passed s hl room wrote n after hread hn =>
    rw [passBy_of_overrun hl (Nat.not_le.mp hn) hread]
    exact ⟨(hR.reads.answer hread).of_never_ok.of_ok _, fun _ hdry => hR.asks_of_read hread hdry⟩
  | case5 left passed s hl room wrote stop after hread hi ih =>
    have hmore := ih.2 hl (hR.dry_of_interruption hi hread)
    rw [passBy_of_interruption hl hi hread]
    refine ⟨(hR.reads.answer hread).trans_interruption hi hmore ih.1, fun _ hdry => ?_⟩
    exact Nat.lt_trans (hR.asks_of_read hread hdry) hmore
  | case6 left passed s hl room wrote stop after hread hi =>
    rw [passBy_of_stop hl (Bool.eq_false_iff.mpr hi) hread]
    refine ⟨(hR.reads.answer hread).of_never_stop (Bool.eq_false_iff.mpr hi), fun _ hdry => ?_⟩
    exact hR.asks_of_read hread hdry

end Relays

end ServiceKit.Transfer
