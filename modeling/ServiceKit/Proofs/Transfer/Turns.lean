import ServiceKit.Transfer.Bounded

/-!
One turn of each loop of a transfer, told by the answer to the call that it makes. Whatever is proved
about whole transfers goes through these equations and leaves the loops themselves alone.
-/

namespace ServiceKit.Transfer

open Text (wordLimit)

variable {σ : Type} [Reader σ] {s after last : σ} {wrote : List UInt8} {stop : Stop} {n : Nat}

section Passing

variable [Patient σ] {left passed : Nat}

@[simp]
theorem passBy_zero (passed : Nat) (s : σ) : passBy 0 passed s = (.ok passed, s) := by
  rw [passBy, if_pos rfl]

theorem passBy_of_end (hl : left ≠ 0)
    (h : Reader.read (min chunkSize left) s = (⟨wrote, .ok 0⟩, after)) :
    passBy left passed s = (.ok passed, after) := by
  rw [passBy, if_neg hl]
  dsimp only
  split <;> rename_i heq <;> rw [h] at heq <;> cases heq
  rfl

theorem passBy_of_delivery (hl : left ≠ 0) (hn : n + 1 ≤ min chunkSize left)
    (h : Reader.read (min chunkSize left) s = (⟨wrote, .ok (n + 1)⟩, after)) :
    passBy left passed s = passBy (left - (n + 1)) (passed + (n + 1)) after := by
  rw [passBy, if_neg hl]
  dsimp only
  split <;> rename_i heq <;> rw [h] at heq <;> cases heq
  exact if_pos hn

theorem passBy_of_overrun (hl : left ≠ 0) (hn : min chunkSize left < n + 1)
    (h : Reader.read (min chunkSize left) s = (⟨wrote, .ok (n + 1)⟩, after)) :
    passBy left passed s = (.error .overrun, after) := by
  rw [passBy, if_neg hl]
  dsimp only
  split <;> rename_i heq <;> rw [h] at heq <;> cases heq
  exact if_neg (Nat.not_le.mpr hn)

theorem passBy_of_interruption (hl : left ≠ 0) (hi : stop.isInterruption = true)
    (h : Reader.read (min chunkSize left) s = (⟨wrote, .error stop⟩, after)) :
    passBy left passed s = passBy left passed after := by
  rw [passBy, if_neg hl]
  dsimp only
  split <;> rename_i heq <;> rw [h] at heq <;> cases heq
  exact dif_pos hi

theorem passBy_of_stop (hl : left ≠ 0) (hi : stop.isInterruption = false)
    (h : Reader.read (min chunkSize left) s = (⟨wrote, .error stop⟩, after)) :
    passBy left passed s = (.error stop, after) := by
  rw [passBy, if_neg hl]
  dsimp only
  split <;> rename_i heq <;> rw [h] at heq <;> cases heq
  exact dif_neg (Bool.eq_false_iff.mp hi)

end Passing

section Fetching

variable {position missing : Nat}

@[simp]
theorem fetch_zero (position : Nat) (s : σ) : fetch position 0 s = ([], .full, s) := by
  rw [fetch, if_pos rfl]

theorem fetch_of_end (hm : missing ≠ 0)
    (h : Reader.read missing s = (⟨wrote, .ok 0⟩, after)) :
    fetch position missing s = ([⟨wrote, 0⟩], .ended missing, after) := by
  rw [fetch, if_neg hm, h]

theorem fetch_of_delivery (hm : missing ≠ 0) (hp : position + (n + 1) < wordLimit)
    (h : Reader.read missing s = (⟨wrote, .ok (n + 1)⟩, after)) :
    fetch position missing s =
      (⟨wrote, n + 1⟩ :: (fetch (position + (n + 1)) (missing - (n + 1)) after).1,
        (fetch (position + (n + 1)) (missing - (n + 1)) after).2) := by
  rw [fetch, if_neg hm, h]
  simp only [if_pos hp]

theorem fetch_of_overflow (hm : missing ≠ 0) (hp : wordLimit ≤ position + (n + 1))
    (h : Reader.read missing s = (⟨wrote, .ok (n + 1)⟩, after)) :
    fetch position missing s = ([⟨wrote, 0⟩], .overflow, after) := by
  rw [fetch, if_neg hm, h]
  simp only [if_neg (Nat.not_lt.mpr hp)]

theorem fetch_of_stop (hm : missing ≠ 0)
    (h : Reader.read missing s = (⟨wrote, .error stop⟩, after)) :
    fetch position missing s = ([⟨wrote, 0⟩], .stopped stop, after) := by
  rw [fetch, if_neg hm, h]

end Fetching

section Skipping

variable [Skipping σ] {length remaining : Nat}

@[simp]
theorem skipRemaining_zero (length : Nat) (s : σ) :
    skipRemaining length 0 s = ⟨.ok (), [], s⟩ := by
  rw [skipRemaining, if_pos rfl]

theorem skipRemaining_of_stop (hr : remaining ≠ 0)
    (h : Skipping.skip remaining s = (.error stop, after)) :
    skipRemaining length remaining s = ⟨.error (.ofStop stop), [], after⟩ := by
  rw [skipRemaining, if_neg hr, h]

theorem skipRemaining_of_progress (hr : remaining ≠ 0)
    (h : Skipping.skip remaining s = (.ok (n + 1), after)) :
    skipRemaining length remaining s
      = skipRemaining length (remaining - min (n + 1) remaining) after := by
  rw [skipRemaining, if_neg hr, h]

theorem skipRemaining_of_probe_stop (hr : remaining ≠ 0)
    (h : Skipping.skip remaining s = (.ok 0, after))
    (hp : Reader.read 1 after = (⟨wrote, .error stop⟩, last)) :
    skipRemaining length remaining s = ⟨.error (.ofStop stop), [], last⟩ := by
  rw [skipRemaining, if_neg hr, h]
  simp only [hp]

theorem skipRemaining_of_probe_end (hr : remaining ≠ 0)
    (h : Skipping.skip remaining s = (.ok 0, after))
    (hp : Reader.read 1 after = (⟨wrote, .ok 0⟩, last)) :
    skipRemaining length remaining s
      = ⟨.error (.error (.unexpectedEnd .skip length (length - remaining))),
          [.ended .skip length (length - remaining)], last⟩ := by
  rw [skipRemaining, if_neg hr, h]
  simp only [hp]

theorem skipRemaining_of_probe_byte (hr : remaining ≠ 0)
    (h : Skipping.skip remaining s = (.ok 0, after))
    (hp : Reader.read 1 after = (⟨wrote, .ok (n + 1)⟩, last)) :
    skipRemaining length remaining s = skipRemaining length (remaining - 1) last := by
  rw [skipRemaining, if_neg hr, h]
  simp only [hp]

end Skipping

section Draining

variable [Ending σ] {size total : Nat}

theorem drainFrom_of_end (h : Reader.read size s = (⟨wrote, .ok 0⟩, after)) :
    drainFrom size total s = ⟨.ok total, [.drained total size], after⟩ := by
  rw [drainFrom]
  split <;> rename_i heq <;> rw [h] at heq <;> cases heq
  rfl

theorem drainFrom_of_delivery (ht : total + (n + 1) < wordLimit)
    (h : Reader.read size s = (⟨wrote, .ok (n + 1)⟩, after)) :
    drainFrom size total s = drainFrom size (total + (n + 1)) after := by
  rw [drainFrom]
  split <;> rename_i heq <;> rw [h] at heq <;> cases heq
  exact if_pos ht

theorem drainFrom_of_overflow (ht : wordLimit ≤ total + (n + 1))
    (h : Reader.read size s = (⟨wrote, .ok (n + 1)⟩, after)) :
    drainFrom size total s = ⟨.error .overflow, [], after⟩ := by
  rw [drainFrom]
  split <;> rename_i heq <;> rw [h] at heq <;> cases heq
  exact if_neg (Nat.not_lt.mpr ht)

theorem drainFrom_of_stop (h : Reader.read size s = (⟨wrote, .error stop⟩, after)) :
    drainFrom size total s = ⟨.error (.ofStop stop), [], after⟩ := by
  rw [drainFrom]
  split <;> rename_i heq <;> rw [h] at heq <;> cases heq
  rfl

end Draining

end ServiceKit.Transfer
