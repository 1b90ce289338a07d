import ServiceKit.Channel.Store
import ServiceKit.Files.Tree
import ServiceKit.Transfer.Memory

/-!
What entries other than regular files are when they are open: a directory refuses to be read, the
zero and full devices hand out zeros, the null device has ended already, and only the full device
refuses bytes.
-/

namespace ServiceKit.Files

open Transfer

structure OpenDirectory where

/-- A stream of zeros; no transfer can count more of them than there are. -/
structure Zeros where
  left : Nat
  deriving DecidableEq

def Device.stream : Device → Zeros
  | .null => ⟨0⟩
  | .zero | .full => ⟨Text.wordLimit⟩

instance : Reader OpenDirectory where
  read _ s := (⟨[], .error (.fault isDirectory)⟩, s)

instance : Patient OpenDirectory where
  patience _ := 0
  patience_lt _ _ h := absurd h Bool.false_ne_true

instance : Skipping OpenDirectory where
  skip n s := discardUpTo n s

instance : Ending OpenDirectory where
  supply _ := 0
  supply_lt _ _ _ h := by simp at h

instance : Reader Zeros where
  read room z := (deliver room (List.replicate (min room z.left) 0), ⟨z.left - min room z.left⟩)

instance : Patient Zeros where
  patience _ := 0
  patience_lt _ _ h := by simp [Reader.read] at h

instance : Skipping Zeros where
  skip n z := discardUpTo n z

theorem Zeros.left_lt {room n : Nat} {z : Zeros}
    (h : (Reader.read room z).1.outcome = .ok (n + 1)) : (Reader.read room z).2.left < z.left := by
  simp only [Reader.read, deliver, List.length_take, List.length_replicate,
    Except.ok.injEq] at h ⊢
  omega

instance : Ending Zeros where
  supply z := z.left
  supply_lt _ _ _ h := Zeros.left_lt h

structure WritableDevice where
  device : Device

/-- The full device has no room; the others take everything. -/
def WritableDevice.offer (data : List UInt8) (position : Nat) (s : WritableDevice) :
    Except Fault Nat × WritableDevice :=
  if Channel.filePositionLimit ≤ position + data.length then (.error (.system 22), s)
  else
    match s.device with
    | .full => (if data.isEmpty then .ok 0 else .error (.system 28), s)
    | _ => (.ok data.length, s)

theorem WritableDevice.offer_ne_zero {data : List UInt8} {position : Nat} {s : WritableDevice}
    (hd : data ≠ []) : (s.offer data position).1 ≠ .ok 0 := by
  simp only [WritableDevice.offer]
  split
  · simp
  · split <;> simp [hd]

instance : Channel WritableDevice where
  offer data position s := s.offer data position
  slack _ := 0
  slack_lt _ _ _ hd h := absurd h (WritableDevice.offer_ne_zero hd)

end ServiceKit.Files
