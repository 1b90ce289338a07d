import ServiceKit.Transfer.Reader

/-!
A stream read through a buffer. A read of at least the buffer's capacity goes past an empty buffer;
any other is served from the buffer, which is filled by one read when it is empty. A skip drops what
is buffered, and reads on only when nothing is.
-/

namespace ServiceKit.Transfer

/-- The stream beneath, the buffered bytes still to be served, and the whole page that the last fill
left behind. -/
structure Buffered (σ : Type) where
  inner : σ
  capacity : Nat
  pending : List UInt8
  page : List UInt8

namespace Buffered

variable {σ : Type} [Reader σ]

def ofReader (capacity : Nat) (inner : σ) : Buffered σ :=
  ⟨inner, capacity, [], List.replicate capacity 0⟩

def serve (room : Nat) (b : Buffered σ) : ReadAnswer × Buffered σ :=
  (deliver room b.pending, { b with pending := b.pending.drop room })

/-- Fills the empty buffer by one read and serves from it. -/
def refill (room : Nat) (b : Buffered σ) : ReadAnswer × Buffered σ :=
  match Reader.read b.capacity b.inner with
  | (⟨wrote, .ok n⟩, inner) =>
    let page := layOver wrote b.page
    if n ≤ b.capacity then serve room { b with inner, page, pending := page.take n }
    else (⟨[], .error .overrun⟩, { b with inner, page })
  | (⟨wrote, .error stop⟩, inner) =>
    (⟨[], .error stop⟩, { b with inner, page := layOver wrote b.page })

def bypass (room : Nat) (b : Buffered σ) : ReadAnswer × Buffered σ :=
  ((Reader.read room b.inner).1, { b with inner := (Reader.read room b.inner).2 })

def read (room : Nat) (b : Buffered σ) : ReadAnswer × Buffered σ :=
  if b.pending ≠ [] then serve room b
  else if b.capacity ≤ room then bypass room b
  else refill room b

theorem read_of_pending {room : Nat} {b : Buffered σ} (h : b.pending ≠ []) :
    b.read room = serve room b := by
  simp [read, h]

theorem read_of_large {room : Nat} {b : Buffered σ} (h : b.pending = [])
    (hc : b.capacity ≤ room) : b.read room = bypass room b := by
  simp [read, h, hc]

theorem read_of_small {room : Nat} {b : Buffered σ} (h : b.pending = [])
    (hc : room < b.capacity) : b.read room = refill room b := by
  simp [read, h, Nat.not_le.mpr hc]

theorem refill_patience_lt [Patient σ] {room : Nat} {b : Buffered σ}
    (h : (refill room b).1.isInterruption = true) :
    Patient.patience (refill room b).2.inner < Patient.patience b.inner := by
  have hr := Patient.patience_lt b.capacity b.inner
  unfold refill at h ⊢
  split at h
  · split at h
    · simp [serve] at h
    · simp [ReadAnswer.isInterruption, Stop.isInterruption] at h
  · rename_i heq
    rw [heq] at hr
    exact hr h

theorem patience_lt [Patient σ] {room : Nat} {b : Buffered σ}
    (h : (b.read room).1.isInterruption = true) :
    Patient.patience (b.read room).2.inner < Patient.patience b.inner := by
  by_cases hp : b.pending = []
  · by_cases hc : b.capacity ≤ room
    · rw [read_of_large hp hc] at h ⊢
      exact Patient.patience_lt room b.inner h
    · rw [read_of_small hp (by omega)] at h ⊢
      exact refill_patience_lt h
  · rw [read_of_pending hp] at h
    simp [serve] at h

instance : Reader (Buffered σ) where
  read room b := b.read room

instance [Patient σ] : Patient (Buffered σ) where
  patience b := Patient.patience b.inner
  patience_lt _ _ h := patience_lt h

/-- Drops buffered bytes, or skips by reading when there are none. -/
def skip [Patient σ] (n : Nat) (b : Buffered σ) : Except Stop Nat × Buffered σ :=
  if b.pending ≠ [] then
    (.ok (min n b.pending.length), { b with pending := b.pending.drop n })
  else discardUpTo n b

instance [Patient σ] : Skipping (Buffered σ) where
  skip n b := b.skip n

theorem skip_of_pending [Patient σ] {b : Buffered σ} (h : b.pending ≠ []) (n : Nat) :
    Skipping.skip n b = (.ok (min n b.pending.length), { b with pending := b.pending.drop n }) :=
  if_pos h

theorem skip_of_empty [Patient σ] {b : Buffered σ} (h : b.pending = []) (n : Nat) :
    Skipping.skip n b = discardUpTo n b :=
  if_neg (not_not_intro h)

/-- A fill costs the stream beneath at least one report, which outweighs a page of bytes. -/
def supply [Ending σ] (b : Buffered σ) : Nat :=
  Ending.supply b.inner * (b.capacity + 1) + b.pending.length

theorem serve_supply_lt [Ending σ] {room n : Nat} {b : Buffered σ}
    (h : (serve room b).1.outcome = .ok (n + 1)) : supply (serve room b).2 < supply b := by
  simp only [serve, deliver, List.length_take, Except.ok.injEq] at h
  simp only [serve, supply, List.length_drop]
  omega

theorem refill_supply_lt [Ending σ] {room n : Nat} {b : Buffered σ}
    (h : (refill room b).1.outcome = .ok (n + 1)) : supply (refill room b).2 < supply b := by
  have hs := Ending.supply_lt b.capacity b.inner
  unfold refill at h ⊢
  split at h
  · rename_i wrote m inner heq
    rw [heq] at hs
    split at h
    · rename_i hm
      rw [if_pos hm]
      simp only [serve, deliver, List.length_take, Except.ok.injEq] at h
      obtain ⟨k, rfl⟩ : ∃ k, m = k + 1 := ⟨m - 1, by omega⟩
      have hle : (Ending.supply inner + 1) * (b.capacity + 1)
          ≤ Ending.supply b.inner * (b.capacity + 1) := Nat.mul_le_mul_right _ (hs k rfl)
      rw [Nat.add_mul] at hle
      simp only [serve, supply, List.length_drop, List.length_take]
      omega
    · simp at h
  · simp at h

theorem supply_lt [Ending σ] {room n : Nat} {b : Buffered σ}
    (h : (b.read room).1.outcome = .ok (n + 1)) : supply (b.read room).2 < supply b := by
  by_cases hp : b.pending = []
  · by_cases hc : b.capacity ≤ room
    · rw [read_of_large hp hc] at h ⊢
      have := Ending.supply_lt room b.inner n h
      simp only [bypass, supply, hp, List.length_nil, Nat.add_zero]
      exact Nat.mul_lt_mul_of_pos_right this (Nat.succ_pos _)
    · rw [read_of_small hp (by omega)] at h ⊢
      exact refill_supply_lt h
  · rw [read_of_pending hp] at h ⊢
    exact serve_supply_lt h

instance [Ending σ] : Ending (Buffered σ) where
  supply b := b.supply
  supply_lt _ _ _ h := supply_lt h

end Buffered

end ServiceKit.Transfer
