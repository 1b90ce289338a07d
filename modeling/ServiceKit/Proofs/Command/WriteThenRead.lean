import ServiceKit.Proofs.Command.Numbers
import ServiceKit.Proofs.Command.Tasks
import ServiceKit.Proofs.Files.Reopening

/-!
A write and a read after it, each a run of the program. The write, when it succeeds, leaves the file
with the bytes that were spelled out laid over its content, and the read shows any range of that.
-/

namespace ServiceKit.Command

open Channel (Overwritten written)
open Files (Tree)
open Host (Platform)
open Text.Hex (Spells)

variable {host : Platform} {t : Tree} {i : Invocation} {words : List String}

/-- The file named by a path for which a write is asked: the one that is there, or an empty one in the
place of nothing if it may be created. -/
def WriteRequest.Meets (r : WriteRequest) (t : Tree) (content : List UInt8) : Prop :=
  t.openToRead r.path = .ok (.file content) ∨
    t.openToRead r.path = .error Files.missing ∧ r.create = true ∧ content = []

theorem tree_of_write {r : WriteRequest} {d : List UInt8} (hline : readLine words = .ok i)
    (htask : i.task = .write r) (hhex : Spells r.hex.toList d)
    (hok : (run host t words).1.status = 0) :
    ∃ l old opened, t.openToWrite r.path r.create = .ok (l, .file old, opened) ∧
      (run host t words).2 = opened.put l (.file (written d r.position old)) := by
  rw [run_of_line hline] at hok ⊢
  obtain ⟨settings, out, hout, htree⟩ := of_status_eq_zero hok
  rw [htask, result_perform_write] at hout
  rw [htask, tree_perform_write] at htree
  obtain ⟨n, hwritten, -⟩ := map_eq_ok hout
  obtain ⟨l, old, opened, hopen, hleft⟩ := writeBytes_eq_ok (decodeData_of_spells hhex) hwritten
  exact ⟨l, old, opened, hopen, htree.trans hleft⟩

/-- A prepared run that writes into a file it can open, within the largest size, ends well. -/
theorem status_of_write {r : WriteRequest} {d : List UInt8} {l : Files.Location}
    {content : List UInt8} {opened : Tree} {prepared : Settings × Logging.Control × String}
    (hline : readLine words = .ok i) (htask : i.task = .write r) (hhex : Spells r.hex.toList d)
    (hprepared : prepare t i = .ok prepared)
    (hopen : t.openToWrite r.path r.create = .ok (l, .file content, opened))
    (hfits : r.position + d.length ≤ t.volume.sizeLimit) :
    (run host t words).1.status = 0 := by
  have hwritten := writeBytes_of_fits (decodeData_of_spells hhex) hopen hfits
  have hshown : (perform host prepared.1 i.format t i.task).1.result
      = .ok (showWritten r d.length i.format) := by
    rw [htask, result_perform_write, hwritten]
    rfl
  rw [run_of_line hline]
  exact (carryOut_of_prepared hprepared hshown).1

/-- A prepared run that reads a range which is in the file ends well and shows it. -/
theorem output_of_read {r : ReadRequest} {content : List UInt8}
    {prepared : Settings × Logging.Control × String} (hline : readLine words = .ok i)
    (htask : i.task = .read r) (hopen : t.openToRead r.path = .ok (.file content))
    (hrange : r.offset + r.length ≤ content.length) (hprepared : prepare t i = .ok prepared) :
    (run host t words).1.status = 0 ∧
      (run host t words).1.output
        = showRange r ((content.drop r.offset).take r.length) i.format := by
  have hbounded := bounded_of_readLine hline
  rw [htask] at hbounded
  have hread := fileRange_of_file hopen hrange hbounded.2
  have hshown : (perform host prepared.1 i.format t i.task).1.result
      = .ok (showRange r ((content.drop r.offset).take r.length) i.format) := by
    rw [htask, result_perform_read, hread]
    rfl
  rw [run_of_line hline]
  exact carryOut_of_prepared hprepared hshown

end ServiceKit.Command
