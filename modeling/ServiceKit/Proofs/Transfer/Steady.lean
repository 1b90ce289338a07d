import ServiceKit.Proofs.Transfer.Turns

/-!
Steady streams: what is still to come is a list of bytes, every read hands over the next of them, and
none fails or comes back empty before the end. However large the pieces are, a transfer from such a
stream takes what it was asked for, or all that was left.
-/

namespace ServiceKit.Transfer

open Text (wordLimit)

variable {σ : Type} [Reader σ]

/-- `R s rest` says that `rest` is still to come from `s`. Each read hands over a piece of it, which
is empty only at the end or where there is no room. -/
structure Steady (R : σ → List UInt8 → Prop) : Prop where
  read : ∀ {s rest}, R s rest → ∀ room, ∃ n after,
    Reader.read room s = (⟨rest.take n, .ok n⟩, after) ∧ R after (rest.drop n) ∧
      n ≤ room ∧ n ≤ rest.length ∧ (n = 0 → room = 0 ∨ rest = [])

/-- A steady stream whose skips move past a piece of what is still to come. -/
structure SteadySkipping [Skipping σ] (R : σ → List UInt8 → Prop) : Prop extends Steady R where
  skip : ∀ {s rest}, R s rest → ∀ n, ∃ r after,
    Skipping.skip n s = (.ok r, after) ∧ R after (rest.drop r) ∧ r ≤ n ∧ r ≤ rest.length

theorem take_layOver {n : Nat} {wrote room : List UInt8} (hn : n ≤ wrote.length)
    (hr : n ≤ room.length) : (layOver wrote room).take n = wrote.take n := by
  have hlen : n ≤ (wrote.take room.length).length := by
    rw [List.length_take]
    omega
  rw [layOver, List.take_append_of_le_length hlen, List.take_take, Nat.min_eq_left hr]

theorem patch_cons_take {n : Nat} {rest room : List UInt8} (ps : List Patch)
    (hn : n ≤ rest.length) (hr : n ≤ room.length) :
    patch (⟨rest.take n, n⟩ :: ps) room = rest.take n ++ patch ps (room.drop n) := by
  have hlen : (rest.take n).length = n := List.length_take_of_le hn
  have hlaid : layOver (rest.take n) room = rest.take n ++ room.drop n := by
    rw [layOver, hlen, List.take_take, Nat.min_eq_right hr]
  rw [patch, hlaid, List.take_left' hlen, List.drop_left' hlen]

variable {R : σ → List UInt8 → Prop} {s : σ} {rest : List UInt8}

namespace Steady

theorem passBy [Patient σ] (hR : Steady R) (h : R s rest) (left passed : Nat) :
    ∃ after, Transfer.passBy left passed s = (.ok (passed + min left rest.length), after) ∧
      R after (rest.drop left) := by
  induction left using Nat.strongRecOn generalizing s rest passed with
  | ind left ih =>
  by_cases hl : left = 0
  · subst hl
    exact ⟨s, by simp, h⟩
  obtain ⟨n, after, hread, hafter, hroom, hlen, hzero⟩ := hR.read h (min chunkSize left)
  cases n with
  | zero =>
    have hrest : rest = [] := (hzero rfl).resolve_left (by unfold chunkSize; omega)
    subst hrest
    exact ⟨after, by rw [passBy_of_end hl hread]; simp, by simpa using hafter⟩
  | succ n =>
    obtain ⟨last, hlast, hR'⟩ := ih (left - (n + 1)) (by omega) hafter (passed + (n + 1))
    refine ⟨last, ?_, ?_⟩
    · rw [passBy_of_delivery hl hroom hread, hlast, List.length_drop]
      congr 2
      omega
    · rwa [List.drop_drop, Nat.add_sub_cancel' (by omega)] at hR'

theorem fetch (hR : Steady R) (h : R s rest) {position missing : Nat}
    (hp : position + missing < wordLimit) :
    ∃ ps after,
      Transfer.fetch position missing s =
        (ps, if missing ≤ rest.length then .full else .ended (missing - rest.length), after) ∧
      R after (rest.drop missing) ∧
      ∀ room, room.length = missing → patch ps room = rest.take missing ++ room.drop rest.length := by
  induction missing using Nat.strongRecOn generalizing s rest position with
  | ind missing ih =>
  by_cases hm : missing = 0
  · subst hm
    refine ⟨[], s, by simp, h, fun room hroom => ?_⟩
    simp [patch, List.length_eq_zero_iff.mp hroom]
  obtain ⟨n, after, hread, hafter, hroom, hlen, hzero⟩ := hR.read h missing
  cases n with
  | zero =>
    have hrest : rest = [] := (hzero rfl).resolve_left hm
    subst hrest
    refine ⟨[⟨[], 0⟩], after, ?_, by simpa using hafter, fun room _ => ?_⟩
    · rw [fetch_of_end hm hread, if_neg (by simpa using hm)]
      rfl
    · simp [patch, layOver]
  | succ n =>
    have hpos : position + (n + 1) + (missing - (n + 1)) < wordLimit := by omega
    obtain ⟨ps, last, hlast, hR', hps⟩ := ih (missing - (n + 1)) (by omega) hafter hpos
    refine ⟨⟨rest.take (n + 1), n + 1⟩ :: ps, last, ?_, ?_, fun room hroom' => ?_⟩
    · rw [fetch_of_delivery hm (by omega) hread, hlast, List.length_drop]
      by_cases hle : missing ≤ rest.length
      · rw [if_pos hle, if_pos (by omega)]
      · have hmore : missing - (n + 1) - (rest.length - (n + 1)) = missing - rest.length := by omega
        rw [if_neg hle, if_neg (by omega), hmore]
    · rwa [List.drop_drop, Nat.add_sub_cancel' (by omega)] at hR'
    · rw [patch_cons_take ps hlen (by omega), hps _ (by rw [List.length_drop, hroom'])]
      rw [List.drop_drop, List.length_drop, Nat.add_sub_cancel' hlen, ← List.append_assoc,
        ← List.take_add, Nat.add_sub_cancel' (by omega)]

theorem drainFrom [Ending σ] (hR : Steady R) (h : R s rest) {size total : Nat} (hs : size ≠ 0)
    (ht : total + rest.length < wordLimit) :
    ∃ after, Transfer.drainFrom size total s
        = ⟨.ok (total + rest.length), [.drained (total + rest.length) size], after⟩ ∧
      R after [] := by
  induction hk : rest.length using Nat.strongRecOn generalizing s rest total with
  | ind k ih =>
  rw [hk] at ht
  obtain ⟨n, after, hread, hafter, -, hlen, hzero⟩ := hR.read h size
  cases n with
  | zero =>
    have hrest : rest = [] := (hzero rfl).resolve_left hs
    subst hrest hk
    exact ⟨after, drainFrom_of_end hread, hafter⟩
  | succ n =>
    have hmore : total + (n + 1) + (rest.drop (n + 1)).length = total + k := by
      rw [List.length_drop]
      omega
    obtain ⟨last, hlast, hR'⟩ := ih (rest.drop (n + 1)).length (by rw [List.length_drop]; omega)
      hafter (hmore ▸ ht) rfl
    rw [hmore] at hlast
    exact ⟨last, by rw [drainFrom_of_delivery (by omega) hread, hlast], hR'⟩

end Steady

/-- How a skip of `length` bytes comes out when `missing` of them were not there. -/
def concludeSkip (length missing : Nat) : Except Halt Unit × List Notice :=
  if missing = 0 then (.ok (), [])
  else
    (.error (.error (.unexpectedEnd .skip length (length - missing))),
      [.ended .skip length (length - missing)])

theorem SteadySkipping.skipRemaining [Skipping σ] (hR : SteadySkipping R) (h : R s rest)
    (length remaining : Nat) :
    ∃ after, Transfer.skipRemaining length remaining s
        = ⟨(concludeSkip length (remaining - rest.length)).1,
            (concludeSkip length (remaining - rest.length)).2, after⟩ ∧
      R after (rest.drop remaining) := by
  induction remaining using Nat.strongRecOn generalizing s rest with
  | ind remaining ih =>
  by_cases hr : remaining = 0
  · subst hr
    exact ⟨s, by simp [concludeSkip], h⟩
  -- What is left after `m` of the remaining bytes have gone by.
  have hgo (m : Nat) (t : σ) (hm : 0 < m) (hmr : m ≤ remaining) (hml : m ≤ rest.length)
      (ht : R t (rest.drop m)) :
      ∃ after, Transfer.skipRemaining length (remaining - m) t
          = ⟨(concludeSkip length (remaining - rest.length)).1,
              (concludeSkip length (remaining - rest.length)).2, after⟩ ∧
        R after (rest.drop remaining) := by
    obtain ⟨last, hlast, hR'⟩ := ih (remaining - m) (by omega) ht
    have hmiss : remaining - m - (rest.length - m) = remaining - rest.length := by omega
    rw [List.length_drop, hmiss] at hlast
    rw [List.drop_drop, Nat.add_sub_cancel' hmr] at hR'
    exact ⟨last, hlast, hR'⟩
  obtain ⟨r, after, hskip, hafter, hrn, hrl⟩ := hR.skip h remaining
  cases r with
  | succ r =>
    rw [skipRemaining_of_progress hr hskip, Nat.min_eq_left hrn]
    exact hgo (r + 1) after (by omega) hrn hrl hafter
  | zero =>
    rw [List.drop_zero] at hafter
    obtain ⟨n, last, hread, hlast, hn, hnl, hzero⟩ := hR.read hafter 1
    cases n with
    | zero =>
      have hrest : rest = [] := (hzero rfl).resolve_left Nat.one_ne_zero
      subst hrest
      refine ⟨last, ?_, by simpa using hlast⟩
      rw [skipRemaining_of_probe_end hr hskip hread]
      simp [concludeSkip, hr]
    | succ n =>
      obtain rfl : n = 0 := by omega
      rw [skipRemaining_of_probe_byte hr hskip hread]
      exact hgo 1 last Nat.one_pos (by omega) hnl hlast

end ServiceKit.Transfer
