import ServiceKit.Proofs.Transfer.Courses
import ServiceKit.Settings.Basic

/-!
What transfers log. A premature end is told twice, by the error to the caller and by an event to the
log, and both tell the same; nothing else that can become of a filled range or of a skip is logged.
A drain logs what it has counted, and that only when it gives the count.
-/

namespace ServiceKit.Transfer

/-- What the result of a bounded operation of `length` bytes and the events beside it are together: a
premature end with one event of the same counts, or anything else and no event. -/
inductive TellsEnd {α : Type} (operation : Operation) (message : String) (length : Nat) :
    Except Halt α → List Event → Prop
  | quiet {result : Except Halt α}
      (h : ∀ told requested transferred,
        result ≠ .error (.error (.unexpectedEnd told requested transferred))) :
      TellsEnd operation message length result []
  | ended (transferred : Nat) :
      TellsEnd operation message length
        (.error (.error (.unexpectedEnd operation length transferred)))
        [⟨"quorum_io::transfer", message,
          [("requested", .number length), ("transferred", .number transferred)]⟩]

/-- The same for a drain: a total with one event that tells it and the size of the reads, or a failure
and no event. -/
inductive TellsTotal (size : Nat) : Except Halt Nat → List Event → Prop
  | drained (total : Nat) :
      TellsTotal size (.ok total)
        [⟨"quorum_io::transfer", "stream drained",
          [("total", .number total), ("buffer_size", .number size)]⟩]
  | failed (halt : Halt) : TellsTotal size (.error halt) []

namespace TellsEnd

variable {α β : Type} {operation : Operation} {message : String} {length : Nat}

theorem of_ok (a : α) : TellsEnd operation message length (.ok a) [] :=
  .quiet nofun

theorem of_stop (stop : Stop) :
    TellsEnd operation message length (.error (.ofStop stop) : Except Halt α) [] := by
  apply quiet
  intro told requested transferred
  cases stop with
  | fault f => simp [Halt.ofStop]
  | overrun => simp [Halt.ofStop]

theorem map {result : Except Halt α} {events : List Event}
    (h : TellsEnd operation message length result events) (g : α → β) :
    TellsEnd operation message length (result.map g) events := by
  cases h with
  | ended transferred => exact .ended transferred
  | quiet h =>
    apply quiet
    intro told requested transferred hmap
    cases result with
    | ok a => cases hmap
    | error halt => exact h told requested transferred (by cases hmap; rfl)

end TellsEnd

theorem concludeRead_tells (length : Nat) (fetched : Fetched) :
    TellsEnd .read "premature EOF while reading" length (concludeRead length fetched).1
      ((concludeRead length fetched).2.map Notice.event) := by
  cases fetched with
  | full => exact .of_ok ()
  | ended missing => exact .ended (length - missing)
  | stopped stop => exact .of_stop stop
  | overflow => exact .quiet nofun

variable {σ : Type} [Reader σ]

theorem fillRange_tells (buffer : List UInt8) (offset length : Nat) (s : σ) :
    let run := (fillRange buffer offset length s).1
    TellsEnd .read "premature EOF while reading" length run.result run.events := by
  intro run
  rcases Nat.lt_or_ge buffer.length (offset + length) with hout | hin
  · have hrun : run = _ := congrArg Prod.fst (fillRange_outside hout s)
    rw [hrun]
    exact .quiet nofun
  · have hrun : run = _ := congrArg Prod.fst (fillRange_inside hin s)
    rw [hrun]
    exact concludeRead_tells length _

theorem readExactly_tells (length : Nat) (s : σ) :
    let run := readExactly length s
    TellsEnd .read "premature EOF while reading" length run.result run.events :=
  (concludeRead_tells length _).map _

theorem Passing.tells [Skipping σ] {length remaining : Nat} {s : σ} {made : List Call}
    {run : Run σ Unit} (h : Passing length remaining s made run) :
    TellsEnd .skip "premature EOF while skipping" length run.result run.events := by
  induction h with
  | done => exact .of_ok ()
  | stopped => exact .of_stop _
  | moved hr h rest ih => exact ih
  | probeStopped => exact .of_stop _
  | ended => exact .ended _
  | probed hr h hp rest ih => exact ih

theorem drainFrom_tells [Ending σ] (size total : Nat) (s : σ) :
    TellsTotal size (drainFrom size total s).result (drainFrom size total s).events := by
  induction total, s using drainFrom.induct (σ := σ) size with
  | case1 total s wrote stop after hread =>
    rw [drainFrom_of_stop hread]
    exact .failed _
  | case2 total s wrote after hread =>
    rw [drainFrom_of_end hread]
    exact .drained total
  | case3 total s wrote n after hread ht ih =>
    rw [drainFrom_of_delivery ht hread]
    exact ih
  | case4 total s wrote n after hread ht =>
    rw [drainFrom_of_overflow (Nat.not_lt.mp ht) hread]
    exact .failed _

theorem drain_tells [Ending σ] (size : Nat) (s : σ) :
    TellsTotal size (drain size s).result (drain size s).events := by
  unfold drain
  split
  · exact .failed _
  · exact drainFrom_tells size 0 s

/-- Filling a range and skipping log each premature end that they fail with, once and with the
counts of the error, and a drain logs each total that it gives. Nothing else is logged. -/
theorem transfers_tell (σ : Type) [Reader σ] :
    (∀ buffer offset length (s : σ),
        let run := (fillRange buffer offset length s).1
        TellsEnd .read "premature EOF while reading" length run.result run.events) ∧
      (∀ length (s : σ),
        let run := readExactly length s
        TellsEnd .read "premature EOF while reading" length run.result run.events) ∧
      (∀ [Skipping σ] length (s : σ),
        let run := skipExactly length s
        TellsEnd .skip "premature EOF while skipping" length run.result run.events) ∧
      ∀ [Ending σ] (s : σ),
        (∀ size, TellsTotal size (drain size s).result (drain size s).events) ∧
        ∀ settings : Settings.TransferSettings,
          TellsTotal settings.drainSize (settings.drain s).result (settings.drain s).events := by
  refine ⟨fillRange_tells, readExactly_tells, ?_, ?_⟩
  · intro _ length s
    obtain ⟨made, run, hcourse, hrun, -⟩ := exists_skipping length s
    rw [hrun]
    exact hcourse.tells
  · intro _ s
    exact ⟨fun size => drain_tells size s, fun settings => drain_tells settings.drainSize s⟩

end ServiceKit.Transfer
