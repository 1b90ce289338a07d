import Mathlib.Data.List.Rotate
import ServiceKit.Host.Rotation

/-!
Going round a list. Each turn asks for the element behind the one that the turn before gave. Over
distinct elements the turns take the places of the list in order, one after another, and begin again
at the first place behind the last.
-/

namespace ServiceKit.Host

variable {α : Type} {isGiven : α → Bool} {x : α} {before l : List α}

theorem behindMatch?_cons_of_neg (hx : isGiven x = false) (rest : List α) :
    behindMatch? isGiven (x :: rest) = behindMatch? isGiven rest := by
  cases rest with
  | nil => rfl
  | cons y rest => simp [behindMatch?, hx]

theorem behindMatch?_cons_of_pos (hx : isGiven x = true) (rest : List α) :
    behindMatch? isGiven (x :: rest) = rest.head? := by
  cases rest with
  | nil => rfl
  | cons y rest => simp [behindMatch?, hx]

theorem behindMatch?_append (h : ∀ a ∈ before, isGiven a = false) (rest : List α) :
    behindMatch? isGiven (before ++ rest) = behindMatch? isGiven rest := by
  induction before with
  | nil => rfl
  | cons b before ih =>
    obtain ⟨hb, hbefore⟩ := List.forall_mem_cons.mp h
    rw [List.cons_append, behindMatch?_cons_of_neg hb, ih hbefore]

def roundAt (l : List α) (hl : 0 < l.length) (k : Nat) : α := l.get ⟨k % l.length, Nat.mod_lt k hl⟩

theorem roundAt_of_lt {i : Nat} (hi : i < l.length) (hl : 0 < l.length) :
    roundAt l hl i = l[i] := by
  simp only [roundAt, List.get_eq_getElem, Nat.mod_eq_of_lt hi]

theorem roundAt_mod (hl : 0 < l.length) (k : Nat) : roundAt l hl (k % l.length) = roundAt l hl k := by
  simp only [roundAt, Nat.mod_mod]

/-- The elements from a place on, as many as there are, are the list turned by so many places. -/
theorem map_roundAt (hl : 0 < l.length) (k : Nat) :
    ((List.range l.length).map fun j => roundAt l hl (k + j)) = l.rotate k := by
  apply List.ext_getElem
  · simp
  · intro j _ _
    simp only [List.getElem_map, List.getElem_range, List.getElem_rotate, roundAt,
      List.get_eq_getElem, Nat.add_comm]

theorem following_of_first {i : Nat} (hi : i < l.length) (hmatch : isGiven l[i] = true)
    (hbefore : ∀ a ∈ l.take i, isGiven a = false) (hl : 0 < l.length) :
    following isGiven l = .ok (roundAt l hl (i + 1)) := by
  have hbehind : behindMatch? isGiven l = l[i + 1]? := by
    have hsplit : l = l.take i ++ l[i] :: l.drop (i + 1) := by simp
    calc behindMatch? isGiven l
        = behindMatch? isGiven (l.take i ++ l[i] :: l.drop (i + 1)) := by rw [← hsplit]
      _ = (l.drop (i + 1)).head? := by
        rw [behindMatch?_append hbefore, behindMatch?_cons_of_pos hmatch]
      _ = l[i + 1]? := List.head?_drop
  obtain ⟨first, rest, rfl⟩ := List.exists_cons_of_length_pos hl
  rw [following, hbehind]
  rcases Nat.lt_or_ge (i + 1) (first :: rest).length with hmore | hlast
  · rw [List.getElem?_eq_getElem hmore, roundAt_of_lt hmore]
    rfl
  · have hend : i + 1 = (first :: rest).length := Nat.le_antisymm hi hlast
    rw [List.getElem?_eq_none hlast, ← roundAt_mod, hend, Nat.mod_self, roundAt_of_lt hl]
    rfl

theorem following_of_none (h : ∀ a ∈ l, isGiven a = false) (hl : 0 < l.length) :
    following isGiven l = .ok (roundAt l hl 0) := by
  have hbehind := behindMatch?_append h []
  rw [List.append_nil] at hbehind
  obtain ⟨first, rest, rfl⟩ := List.exists_cons_of_length_pos hl
  rw [following, hbehind, roundAt_of_lt hl]
  rfl

section Turns

variable [BEq α]

def turn (l : List α) (given : α) : Except HostFault α := following (· == given) l

/-- So many turns, each from what the turn before gave. -/
def turns (l : List α) : Nat → α → Except HostFault α
  | 0, given => .ok given
  | k + 1, given => do turn l (← turns l k given)

theorem turns_succ {k : Nat} {given reached : α} (h : turns l k given = .ok reached) :
    turns l (k + 1) given = turn l reached := by
  rw [turns, h]
  rfl

/-- No element matches one that comes before it. -/
def Distinct (l : List α) : Prop := l.Pairwise fun a b => (a == b) = false

variable [ReflBEq α]

theorem Distinct.turn_roundAt (hd : Distinct l) (hl : 0 < l.length) (k : Nat) :
    turn l (roundAt l hl k) = .ok (roundAt l hl (k + 1)) := by
  have hi : k % l.length < l.length := Nat.mod_lt k hl
  have hplace : roundAt l hl k = l[k % l.length] := rfl
  have hbefore : ∀ a ∈ l.take (k % l.length), (a == l[k % l.length]) = false := by
    intro a ha
    obtain ⟨j, hj, rfl⟩ := List.mem_take_iff_getElem.mp ha
    exact List.pairwise_iff_getElem.mp hd j _ (by omega) hi (by omega)
  have hnext : turn l l[k % l.length] = .ok (roundAt l hl (k % l.length + 1)) :=
    @following_of_first α (· == l[k % l.length]) l _ hi BEq.rfl hbefore hl
  rw [hplace, hnext, ← roundAt_mod, Nat.mod_add_mod, roundAt_mod]

theorem Distinct.turns_roundAt (hd : Distinct l) (hl : 0 < l.length) (i k : Nat) :
    turns l k (roundAt l hl i) = .ok (roundAt l hl (i + k)) := by
  induction k with
  | zero => rfl
  | succ k ih => rw [turns_succ ih, hd.turn_roundAt hl, Nat.add_assoc]

theorem turns_of_absent (hd : Distinct l) (hl : 0 < l.length) {given : α}
    (habsent : ∀ a ∈ l, (a == given) = false) (k : Nat) :
    turns l (k + 1) given = .ok (roundAt l hl k) := by
  induction k with
  | zero => exact following_of_none habsent hl
  | succ k ih => rw [turns_succ ih, hd.turn_roundAt hl]

/-- Turns over distinct elements go on one place each from the element they begin at, or from the
first one for a value that is not there; as many as there are elements give each once and come back.
`ReflBEq` leaves out values that are not equal to themselves. -/
theorem turns_of_distinct (hl : 0 < l.length) (hd : Distinct l) :
    (∀ i (hi : i < l.length) k, turns l k l[i] = .ok (roundAt l hl (i + k))) ∧
      (∀ i (hi : i < l.length), turns l l.length l[i] = .ok l[i]) ∧
      (∀ i (hi : i < l.length) k,
        ((List.range l.length).map fun j => turns l (k + j) l[i]).Perm (l.map .ok)) ∧
      ∀ given, (∀ a ∈ l, (a == given) = false) →
        ∀ k, 1 ≤ k → turns l k given = .ok (roundAt l hl (k - 1)) := by
  have hplace (i : Nat) (hi : i < l.length) (k : Nat) :
      turns l k l[i] = .ok (roundAt l hl (i + k)) := by
    rw [← roundAt_of_lt hi hl]
    exact hd.turns_roundAt hl i k
  refine ⟨hplace, ?_, ?_, ?_⟩
  · intro i hi
    rw [hplace i hi, ← roundAt_mod, Nat.add_mod_right, roundAt_mod, roundAt_of_lt hi]
  · intro i hi k
    have hround : ((List.range l.length).map fun j => turns l (k + j) l[i])
        = (l.rotate (i + k)).map .ok := by
      rw [← map_roundAt hl, List.map_map]
      refine List.map_congr_left fun j _ => ?_
      rw [hplace i hi, ← Nat.add_assoc]
      rfl
    rw [hround]
    exact (l.rotate_perm (i + k)).map _
  · intro given habsent k hk
    obtain ⟨k, rfl⟩ := Nat.exists_eq_add_of_le' hk
    exact turns_of_absent hd hl habsent k

/-- Three peers, the turns from the last of them and from a stranger. -/
theorem turns_of_distinct_peers :
    let peers := ["s1", "s2", "s3"]
    Distinct peers ∧ turns peers 2 "s3" = .ok "s2" ∧ turns peers 4 "s9" = .ok "s1" := by
  intro peers
  have hd : Distinct peers := by unfold Distinct; decide
  have hthird : roundAt peers (by decide) (2 + 2) = "s2" := by decide
  have hfirst : roundAt peers (by decide) (4 - 1) = "s1" := by decide
  obtain ⟨hplace, -, -, habsent⟩ := turns_of_distinct (by decide) hd
  refine ⟨hd, ?_, ?_⟩
  · exact hthird ▸ hplace 2 (by decide) 2
  · exact hfirst ▸ habsent "s9" (by decide) 4 (by decide)

end Turns

end ServiceKit.Host
