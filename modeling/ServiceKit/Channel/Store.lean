import ServiceKit.Channel.Basic

/-!
Channels that keep what is written to them: bytes in memory, a file, and one that takes what a
script tells it to.
-/

namespace ServiceKit.Channel

open Text (wordLimit)

/-- Content with `data` at `position`; a gap before it is filled with zeros. -/
def overwrite (data : List UInt8) (position : Nat) (content : List UInt8) : List UInt8 :=
  content.take position ++ List.replicate (position - content.length) 0 ++ data
    ++ content.drop (position + data.length)

structure Memory where
  content : List UInt8
  deriving DecidableEq

/-- Takes all it is offered. An empty offer, too, makes the content reach the position. -/
def Memory.offer (data : List UInt8) (position : Nat) (m : Memory) :
    Except Fault Nat × Memory :=
  if wordLimit ≤ position + data.length then
    (.error (.carrying .invalidInput (.text "write extends past address space")), m)
  else (.ok data.length, ⟨overwrite data position m.content⟩)

theorem Memory.offer_ne_zero {data : List UInt8} {position : Nat} {m : Memory}
    (hd : data ≠ []) : (m.offer data position).1 ≠ .ok 0 := by
  unfold Memory.offer
  split
  · simp
  · simp [hd]

instance : Channel Memory where
  offer data position m := m.offer data position
  slack _ := 0
  slack_lt _ _ _ hd h := absurd h (Memory.offer_ne_zero hd)

def filePositionLimit : Nat := Text.signLimit

/-- What keeps the content of files: the largest size that one can have there, and how much is taken
at once of so many bytes offered at a position. -/
structure Volume where
  sizeLimit : Nat
  share : Nat → Nat → Nat
  sizeLimit_lt : sizeLimit < filePositionLimit
  share_pos : ∀ position offered, 0 < offered → 0 < share position offered

/-- Takes everything at once, up to sixteen tebibytes less a page. -/
def Volume.usual : Volume where
  sizeLimit := (1 <<< 44) - 4096
  share _ offered := offered
  sizeLimit_lt := by decide
  share_pos _ _ h := h

structure WritableFile where
  content : List UInt8
  volume : Volume

/-- Takes a part of what it is offered, as far as a file can reach; an empty offer changes nothing. -/
def WritableFile.offer (data : List UInt8) (position : Nat) (f : WritableFile) :
    Except Fault Nat × WritableFile :=
  if filePositionLimit ≤ position ∨ filePositionLimit ≤ position + data.length then
    (.error (.system 22), f)
  else if data.isEmpty then (.ok 0, f)
  else if f.volume.sizeLimit ≤ position then (.error (.system 27), f)
  else
    let taken := data.take
      (min (f.volume.sizeLimit - position) (f.volume.share position data.length))
    (.ok taken.length, { f with content := overwrite taken position f.content })

theorem WritableFile.offer_ne_zero {data : List UInt8} {position : Nat} {f : WritableFile}
    (hd : data ≠ []) : (f.offer data position).1 ≠ .ok 0 := by
  have hpos := List.length_pos_iff.mpr hd
  have hshare := f.volume.share_pos position data.length hpos
  simp only [WritableFile.offer, List.isEmpty_iff, hd, if_false]
  split
  · simp
  · split
    · simp
    · simp only [List.length_take, ne_eq, Except.ok.injEq]
      omega

instance : Channel WritableFile where
  offer data position f := f.offer data position
  slack _ := 0
  slack_lt _ _ _ hd h := absurd h (WritableFile.offer_ne_zero hd)

/-- What a call does: take a number of bytes at most, report a count and do nothing, or fail. -/
inductive Act where
  | upTo (n : Nat)
  | claim (n : Nat)
  | fail (f : Fault)
  deriving DecidableEq

structure Scripted where
  memory : Memory
  acts : List Act
  deriving DecidableEq

namespace Scripted

/-- A script that has run out takes everything. -/
def offer (data : List UInt8) (position : Nat) (s : Scripted) : Except Fault Nat × Scripted :=
  match s.acts with
  | [] => ((s.memory.offer data position).1, { s with memory := (s.memory.offer data position).2 })
  | .upTo n :: acts =>
    ((s.memory.offer (data.take n) position).1,
      ⟨(s.memory.offer (data.take n) position).2, acts⟩)
  | .claim n :: acts => (.ok n, { s with acts })
  | .fail f :: acts => (.error f, { s with acts })

theorem slack_lt {data : List UInt8} {position : Nat} {s : Scripted} (hd : data ≠ [])
    (h : (s.offer data position).1 = .ok 0) :
    (s.offer data position).2.acts.length < s.acts.length := by
  unfold offer at h ⊢
  split at h
  · exact absurd h (Memory.offer_ne_zero hd)
  all_goals simp_all

end Scripted

instance : Channel Scripted where
  offer data position s := s.offer data position
  slack s := s.acts.length
  slack_lt _ _ _ hd h := Scripted.slack_lt hd h

end ServiceKit.Channel
