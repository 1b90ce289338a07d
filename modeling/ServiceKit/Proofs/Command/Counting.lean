import ServiceKit.Proofs.Command.Tasks
import ServiceKit.Proofs.Transfer.HonestDrains

/-!
Counting bytes. What a drain counts is what its stream handed over up to the first empty read, and
all that there was where none failed; a run that is left without a buffer counts nothing and reads
nothing.
-/

namespace ServiceKit.Command

open Files (Tree)
open Host (Platform)
open Transfer (Reader Ending Scripted Emptying DrainsHonestly DrainsWhole RefusesEmptyBuffer drain)

variable {host : Platform} {t : Tree} {i : Invocation} {words : List String} {r : DrainRequest}

theorem countOf_zero {σ : Type} [Reader σ] [Ending σ] (s : σ) :
    countOf 0 s = .failed (.draining (.error .emptyBuffer)) := by
  rw [countOf, Transfer.drain_zero]
  rfl

theorem countBytes_zero {path : String} {entry : Files.Entry}
    (hopen : t.openToRead path = .ok entry) :
    countBytes t path 0 = .failed (.draining (.error .emptyBuffer)) := by
  rw [countBytes, hopen]
  cases entry with
  | file content => exact countOf_zero _
  | directory => exact countOf_zero _
  | device d => exact countOf_zero _

theorem chunk_eq_zero {settings : Settings.TransferSettings}
    (h : r.size = some 0 ∨ r.size = none ∧ settings.drainSize = 0) : r.chunk settings = 0 := by
  rcases h with h | ⟨h, hsettings⟩
  · rw [DrainRequest.chunk, h]
    rfl
  · rw [DrainRequest.chunk, h, ← hsettings]
    rfl

/-- A prepared run whose task fails reports just that. -/
theorem carryOut_of_failed {prepared : Settings × Logging.Control × String} {f : Failure}
    (hp : prepare t i = .ok prepared)
    (hf : (perform host prepared.1 i.format t i.task).1.result = .error f) :
    ∃ logged, (carryOut host t i).1 = .ofFailure logged f := by
  obtain ⟨settings, control, filter⟩ := prepared
  rw [carryOut, hp]
  simp only [Conclusion.ofPerformed]
  rw [hf]
  exact ⟨_, rfl⟩

theorem run_of_empty_buffer {prepared : Settings × Logging.Control × String} {entry : Files.Entry}
    (hline : readLine words = .ok i) (htask : i.task = .drain r)
    (hprepared : prepare t i = .ok prepared) (hopen : t.openToRead r.path = .ok entry)
    (hsize : r.size = some 0 ∨ r.size = none ∧ prepared.1.transfer.drainSize = 0) :
    ∃ logged, (run host t words).1 = .ofFailure logged (.draining (.error .emptyBuffer)) := by
  have hcount := countBytes_zero hopen
  rw [← chunk_eq_zero hsize] at hcount
  have hf : (perform host prepared.1 i.format t i.task).1.result
      = .error (.draining (.error .emptyBuffer)) := by
    rw [htask, perform, hcount]
    rfl
  rw [run_of_line hline]
  exact carryOut_of_failed hprepared hf

/-- An honest stream is counted up to the first read that comes back empty, unless a fault comes
first, and one that comes whole is counted to its end, by buffers of every size. An empty buffer is
refused before any read. -/
theorem drain_counts_delivered (σ : Type) [Reader σ] [Ending σ] :
    DrainsHonestly σ ∧ DrainsWhole σ ∧ RefusesEmptyBuffer σ ∧
      ∀ (host : Platform) (t : Tree) (words : List String) (i : Invocation) (r : DrainRequest)
        (prepared : Settings × Logging.Control × String) (entry : Files.Entry),
        readLine words = .ok i → i.task = .drain r → prepare t i = .ok prepared →
        t.openToRead r.path = .ok entry →
        r.size = some 0 ∨ r.size = none ∧ prepared.1.transfer.drainSize = 0 →
        ∃ logged, (run host t words).1 = .ofFailure logged (.draining (.error .emptyBuffer)) := by
  refine ⟨Transfer.drainsHonestly σ, Transfer.drainsWhole σ, Transfer.refusesEmptyBuffer σ, ?_⟩
  intro host t words i r prepared entry hline htask hprepared hopen hsize
  exact run_of_empty_buffer hline htask hprepared hopen hsize

/-- A stream that comes back empty before its end, one that fails, one that does neither, read by
small and by large buffers, and a run without a buffer. -/
theorem drain_counts_delivered_pieces :
    let pausing : Scripted := ⟨[1, 2, 3, 4, 5], [.upTo 2, .upTo 1, .upTo 0], []⟩
    let failing : Scripted := ⟨[1, 2, 3], [.upTo 1, .fail (.system 5)], []⟩
    let flowing : Scripted := ⟨[1, 2, 3, 4, 5], [.upTo 2, .upTo 1], []⟩
    let host : Platform := ⟨.linux, "x86_64"⟩
    let t : Tree := ⟨["home"], Files.devices ++ [(["home", "segment"], .file [1, 2, 3])], .usual⟩
    (drain 4 pausing).result = .ok 3 ∧
      (drain 4 failing).result = .error (.error (.fault (.system 5))) ∧
      (drain 1 flowing).result = .ok 5 ∧ (drain 4 flowing).result = .ok 5 ∧
      (run host t ["drain", "segment", "--buffer-size", "0"]).1.status = 1 := by
  intro pausing failing flowing host t
  obtain ⟨hhonest, hwhole, -, hrun⟩ := drain_counts_delivered Scripted
  have hread (script : Scripted) (h : script.At (script.rest ++ₛ Stream'.const 0) 0) :=
    (hhonest _ _ (Transfer.scripted_honest _).toHonest script 0 4 h (by decide)).2
  have hpausing : Emptying 4 pausing [.read 4 (.ok 2), .read 4 (.ok 1), .read 4 (.ok 0)] (.ok ())
      ⟨[4, 5], [], []⟩ := .delivered rfl (.delivered rfl (.ended rfl))
  have hfailing : Emptying 4 failing [.read 4 (.ok 1), .read 4 (.error (.fault (.system 5)))]
      (.error (.fault (.system 5))) ⟨[2, 3], [], []⟩ := .delivered rfl (.stopped rfl)
  have hflowing : flowing.Generous ∧ flowing.rest = [1, 2, 3, 4, 5] := by
    simp [flowing, Scripted.Generous]
  refine ⟨?_, ?_, ?_, ?_, ?_⟩
  · have hat : pausing.At (pausing.rest ++ₛ Stream'.const 0) 0 :=
      ⟨rfl, by simp [pausing], by simp [pausing]⟩
    obtain ⟨-, -, hplain, ⟨-, hresult⟩ | ⟨f, hverdict, -⟩⟩ :=
      hread pausing hat _ _ _ hpausing (by decide)
    · rw [hplain]
      exact hresult
    · cases hverdict
  · have hat : failing.At (failing.rest ++ₛ Stream'.const 0) 0 :=
      ⟨rfl, by simp [failing], by simp [failing]⟩
    obtain ⟨-, -, hplain, ⟨hverdict, -⟩ | ⟨f, hverdict, hresult⟩⟩ :=
      hread failing hat _ _ _ hfailing (by decide)
    · cases hverdict
    · cases hverdict
      rw [hplain]
      exact hresult
  · exact (hwhole _ Transfer.scripted_steady flowing _ 1 hflowing (by decide) (by decide)).1
  · exact (hwhole _ Transfer.scripted_steady flowing _ 4 hflowing (by decide) (by decide)).1
  · let i : Invocation := ⟨.drain ⟨"segment", some 0⟩, none, none, .text⟩
    have hline : readLine ["drain", "segment", "--buffer-size", "0"] = .ok i := by rfl
    obtain ⟨prepared, hprepared⟩ := exists_prepare (t := t) (i := i) rfl rfl
    obtain ⟨logged, hended⟩ := hrun host t _ i ⟨"segment", some 0⟩ prepared (.file [1, 2, 3]) hline
      rfl hprepared (by rfl) (.inl rfl)
    rw [hended]
    rfl

end ServiceKit.Command
