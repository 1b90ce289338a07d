import ServiceKit.Fault.Conversion
import ServiceKit.Text.Integer

/-!
Channels that are written to at a position, and the transfer that writes all of a buffer to one. A
channel may take a part of what it is offered, nothing for a while, or claim more than was offered.
-/

namespace ServiceKit

/-- A channel tells how many bytes it took. Only so often can it take none of what it is offered. -/
class Channel (σ : Type) where
  offer : List UInt8 → Nat → σ → Except Fault Nat × σ
  slack : σ → Nat
  slack_lt : ∀ data position s, data ≠ [] → (offer data position s).1 = .ok 0 →
    slack (offer data position s).2 < slack s

namespace Channel

open Text (wordLimit)

variable {σ : Type} [Channel σ]

/-- Offers what is left of `data` until nothing is. -/
def writeRemaining (data : List UInt8) (position : Nat) (s : σ) : Except TransferFault Unit × σ :=
  if _hd : data = [] then (.ok (), s)
  else
    match _h : Channel.offer data position s with
    | (.error f, after) => (.error (.fault f), after)
    | (.ok n, after) =>
      writeRemaining (data.drop n) (position + min n data.length) after
termination_by (data.length, Channel.slack s)
decreasing_by
  have hpos : 0 < data.length := List.length_pos_iff.mpr _hd
  cases n with
  | zero =>
    refine Prod.Lex.right' _ (by simp) ?_
    have := Channel.slack_lt data position s _hd (by rw [_h])
    rwa [_h] at this
  | succ n => exact Prod.Lex.left _ _ (by simp only [List.length_drop]; omega)

/-- Writes all of `data` from `position` on. A range that sixty-four bits cannot hold is refused
before anything is written. -/
def writeAll (data : List UInt8) (position : Nat) (s : σ) : Except TransferFault Unit × σ :=
  if wordLimit ≤ position + data.length then
    (.error (.fault (.carrying .invalidInput (.text "write range extends past u64::MAX"))), s)
  else writeRemaining data position s

structure Call where
  position : Nat
  offered : Nat
  answer : Except Fault Nat

structure Recorded (σ : Type) where
  inner : σ
  calls : List Call

def Recorded.offer (data : List UInt8) (position : Nat) (r : Recorded σ) :
    Except Fault Nat × Recorded σ :=
  ((Channel.offer data position r.inner).1,
    ⟨(Channel.offer data position r.inner).2,
      r.calls ++ [⟨position, data.length, (Channel.offer data position r.inner).1⟩]⟩)

instance : Channel (Recorded σ) where
  offer data position r := r.offer data position
  slack r := Channel.slack r.inner
  slack_lt data position r hd h := Channel.slack_lt data position r.inner hd h

end Channel

end ServiceKit
