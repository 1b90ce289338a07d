import ServiceKit.Transfer.Bounded

/-!
The transfers of a build without overflow checks, where counts come round at sixty-four bits. A range
is filled on from wherever its position has come to, also from in front of its offset, and the total
of a drain starts again. As long as nothing comes round they are the transfers of a checked build.
-/

namespace ServiceKit.Transfer.Wrapping

open Text (wordLimit)

variable {σ : Type} [Reader σ]

/-- A range under way: where the next read is laid down, and what the reads so far have left. -/
structure Filling (σ : Type) where
  position : Nat
  buffer : List UInt8
  stream : σ

/-- A position that comes round again and again may never reach the end of the range. -/
def Filling.finish (offset length : Nat) (f : Filling σ) : Option (Run σ Unit × List UInt8) :=
  if offset + length ≤ f.position then some (⟨.ok (), [], f.stream⟩, f.buffer)
  else
    let missing := offset + length - f.position
    let laid (wrote : List UInt8) := patchRange [⟨wrote, 0⟩] f.position missing f.buffer
    match Reader.read missing f.stream with
    | (⟨wrote, .error stop⟩, after) => some (⟨.error (.ofStop stop), [], after⟩, laid wrote)
    | (⟨wrote, .ok 0⟩, after) =>
      -- the distance from the offset comes round with the position
      let transferred := (f.position + wordLimit - offset) % wordLimit
      some (⟨.error (.error (.unexpectedEnd .read length transferred)),
        [.ended .read length transferred], after⟩, laid wrote)
    | (⟨wrote, .ok (n + 1)⟩, after) =>
      (⟨(f.position + (n + 1)) % wordLimit, laid wrote, after⟩ : Filling σ) |>.finish offset length
partial_fixpoint

def fillRange (buffer : List UInt8) (offset length : Nat) (s : σ) :
    Option (Run σ Unit × List UInt8) :=
  if offset + length ≤ buffer.length then Filling.finish offset length ⟨offset, buffer, s⟩
  else some (⟨.error (.error (.outsideBuffer offset length buffer.length)), [], s⟩, buffer)

def drainFrom [Ending σ] (size total : Nat) (s : σ) : Run σ Nat :=
  match h : Reader.read size s with
  | (⟨_, .error stop⟩, after) => ⟨.error (.ofStop stop), [], after⟩
  | (⟨_, .ok 0⟩, after) => ⟨.ok total, [.drained total size], after⟩
  | (⟨_, .ok (n + 1)⟩, after) => drainFrom size ((total + (n + 1)) % wordLimit) after
termination_by Ending.supply s
decreasing_by
  have := Ending.supply_lt size s n (by rw [h])
  rwa [h] at this

def drain [Ending σ] (size : Nat) (s : σ) : Run σ Nat :=
  if size = 0 then ⟨.error (.error .emptyBuffer), [], s⟩ else drainFrom size 0 s

end ServiceKit.Transfer.Wrapping
