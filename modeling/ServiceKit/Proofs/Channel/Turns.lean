import ServiceKit.Channel.Basic

/-!
One turn of the loop that writes all of a buffer, told by the channel's answer to what it is offered.
-/

namespace ServiceKit.Channel

variable {σ : Type} [Channel σ] {data : List UInt8} {position : Nat} {s after : σ}

@[simp]
theorem writeRemaining_nil (position : Nat) (s : σ) : writeRemaining [] position s = (.ok (), s) := by
  rw [writeRemaining, dif_pos rfl]

theorem writeRemaining_of_fault {f : Fault} (hd : data ≠ [])
    (h : Channel.offer data position s = (.error f, after)) :
    writeRemaining data position s = (.error (.fault f), after) := by
  rw [writeRemaining, dif_neg hd]
  split <;> rename_i heq <;> rw [h] at heq <;> cases heq
  rfl

theorem writeRemaining_of_taken {n : Nat} (hd : data ≠ [])
    (h : Channel.offer data position s = (.ok n, after)) :
    writeRemaining data position s
      = writeRemaining (data.drop n) (position + min n data.length) after := by
  rw [writeRemaining, dif_neg hd]
  split <;> rename_i heq <;> rw [h] at heq <;> cases heq
  rfl

end ServiceKit.Channel
