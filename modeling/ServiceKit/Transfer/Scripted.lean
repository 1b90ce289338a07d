import ServiceKit.Transfer.Memory

/-!
A stream that answers by a script. It may fall short, fail, or report counts that have nothing to do
with what it did; when the script has run out it reads as much as fits and skips nothing.
-/

namespace ServiceKit.Transfer

/-- What a call does: deliver a number of bytes at most, report a count and do nothing, or fail. -/
inductive Act where
  | upTo (n : Nat)
  | claim (n : Nat)
  | fail (f : Fault)
  deriving DecidableEq

structure Scripted where
  rest : List UInt8
  reads : List Act
  skips : List Act
  deriving DecidableEq

namespace Scripted

def read (room : Nat) (s : Scripted) : ReadAnswer × Scripted :=
  match s.reads with
  | [] => (deliver room s.rest, { s with rest := s.rest.drop room })
  | .upTo n :: reads =>
    (deliver (min room n) s.rest, { s with rest := s.rest.drop (min room n), reads })
  | .claim n :: reads => (⟨[], .ok n⟩, { s with reads })
  | .fail f :: reads => (⟨[], .error (.fault f)⟩, { s with reads })

def skip (n : Nat) (s : Scripted) : Except Stop Nat × Scripted :=
  match s.skips with
  | [] => (.ok 0, s)
  | .upTo k :: skips =>
    (.ok (min (min n k) s.rest.length), { s with rest := s.rest.drop (min n k), skips })
  | .claim k :: skips => (.ok k, { s with skips })
  | .fail f :: skips => (.error (.fault f), { s with skips })

end Scripted

instance : Reader Scripted where
  read room s := s.read room

instance : Patient Scripted where
  patience s := s.reads.length
  patience_lt room s h := by
    simp only [Reader.read, Scripted.read] at h ⊢
    split <;> simp_all only [deliver_isInterruption, Bool.false_eq_true, List.length_cons] <;> omega

instance : Skipping Scripted where
  skip n s := s.skip n

instance : Ending Scripted where
  supply s := s.reads.length + s.rest.length
  supply_lt room s n h := by
    simp only [Reader.read, Scripted.read] at h ⊢
    split at h <;> simp_all only [List.length_cons]
    · have := supply_lt_of_deliver h
      omega
    · simp only [List.length_drop]
      omega
    · omega
    · simp at h

end ServiceKit.Transfer
