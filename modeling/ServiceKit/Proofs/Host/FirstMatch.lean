import ServiceKit.Proofs.Host.RoundRobin

/-!
The element behind the first match, by its place in the list. Later matches do not count. What stands
behind the element found can be left out; where that element is the first one, because the match is
the last or there is none, something else in its place may match.
-/

namespace ServiceKit.Host

variable {α : Type} {isGiven : α → Bool} {l : List α} {i : Nat}

theorem following_singleton (isGiven : α → Bool) (x : α) : following isGiven [x] = .ok x := rfl

theorem following_eq_error_iff {e : HostFault} :
    following isGiven l = .error e ↔ l = [] ∧ e = .brokenState "iteration is empty" := by
  cases l with
  | nil => simp [eq_comm]
  | cons first rest => simp [following]

theorem following_take_one (isGiven : α → Bool) (hl : 0 < l.length) :
    following isGiven (l.take 1) = .ok (roundAt l hl 0) := by
  obtain ⟨first, rest, rfl⟩ := List.exists_cons_of_length_pos hl
  rw [roundAt_of_lt hl]
  exact following_singleton isGiven first

theorem forall_mem_take_of_findIdx? (h : l.findIdx? isGiven = some i) :
    ∀ a ∈ l.take i, isGiven a = false := by
  obtain ⟨hi, -, hearlier⟩ := List.findIdx?_eq_some_iff_getElem.mp h
  intro a ha
  obtain ⟨j, hj, rfl⟩ := List.mem_take_iff_getElem.mp ha
  exact Bool.eq_false_iff.mpr (hearlier j (by omega))

theorem following_take_append (h : l.findIdx? isGiven = some i) (hi : i + 1 < l.length)
    (rest : List α) : following isGiven (l.take (i + 2) ++ rest) = .ok l[i + 1] := by
  obtain ⟨hmatch, -⟩ := (List.findIdx?_eq_some_iff_getElem.mp h).2
  have htake : (l.take (i + 2)).length = i + 2 := List.length_take_of_le hi
  have hmore : i + 1 < (l.take (i + 2) ++ rest).length := by
    rw [List.length_append, htake]
    omega
  have hplace (j : Nat) (hj : j < (l.take (i + 2)).length) (hjl : j < l.length)
      (hjall : j < (l.take (i + 2) ++ rest).length) : (l.take (i + 2) ++ rest)[j] = l[j] := by
    rw [List.getElem_append_left hj, List.getElem_take]
  have hbefore : (l.take (i + 2) ++ rest).take i = l.take i := by
    rw [List.take_append_of_le_length (by omega), List.take_take, Nat.min_eq_left (by omega)]
  have hfound : isGiven (l.take (i + 2) ++ rest)[i] = true := by
    rwa [hplace i (by omega) (by omega)]
  rw [following_of_first (Nat.lt_of_succ_lt hmore) hfound
    (hbefore ▸ forall_mem_take_of_findIdx? h) (Nat.zero_lt_of_lt hmore), roundAt_of_lt hmore,
    hplace (i + 1) (by omega)]

/-- What follows, by its place: the element behind the first match, coming round at the end, and the
first one where nothing matches. The elements behind the answer can all be left out, and those behind
an answer that stands behind its match can be any others. -/
theorem following_place (isGiven : α → Bool) (l : List α) :
    (∀ e, following isGiven l = .error e ↔ l = [] ∧ e = .brokenState "iteration is empty") ∧
      ∀ hl : 0 < l.length,
        (∀ i, l.findIdx? isGiven = some i →
          following isGiven l = .ok (roundAt l hl (i + 1)) ∧
            following isGiven (l.take ((i + 1) % l.length + 1)) = .ok (roundAt l hl (i + 1)) ∧
            (i + 1 < l.length → ∀ rest,
              following isGiven (l.take (i + 2) ++ rest) = .ok (roundAt l hl (i + 1)))) ∧
        (l.findIdx? isGiven = none →
          following isGiven l = .ok (roundAt l hl 0) ∧
            following isGiven (l.take 1) = .ok (roundAt l hl 0)) := by
  refine ⟨fun e => following_eq_error_iff, fun hl => ⟨fun i hfirst => ?_, fun habsent => ?_⟩⟩
  · obtain ⟨hi, hmatch, -⟩ := List.findIdx?_eq_some_iff_getElem.mp hfirst
    have hanswer := following_of_first hi hmatch (forall_mem_take_of_findIdx? hfirst) hl
    rcases Nat.lt_or_ge (i + 1) l.length with hmore | hlast
    · have hrest (rest : List α) :
          following isGiven (l.take (i + 2) ++ rest) = .ok (roundAt l hl (i + 1)) := by
        rw [following_take_append hfirst hmore, roundAt_of_lt hmore]
      refine ⟨hanswer, ?_, fun _ => hrest⟩
      rw [Nat.mod_eq_of_lt hmore, ← hrest [], List.append_nil]
    · have hend : i + 1 = l.length := Nat.le_antisymm hi hlast
      refine ⟨hanswer, ?_, fun hmore => absurd hmore (Nat.not_lt.mpr hlast)⟩
      rw [← roundAt_mod, hend, Nat.mod_self]
      exact following_take_one isGiven hl
  · exact ⟨following_of_none (List.findIdx?_eq_none_iff.mp habsent) hl,
      following_take_one isGiven hl⟩

/-- A list with a match in two places, one with its only match at the end, and one without any. -/
theorem following_place_peers :
    (["s2", "s5", "s2", "s7"].findIdx? (· == "s2") = some 0 ∧
        following (· == "s2") ["s2", "s5", "s2", "s7"] = .ok "s5") ∧
      (["s1", "s2"].findIdx? (· == "s2") = some 1 ∧
        following (· == "s2") ["s1", "s2"] = .ok "s1") ∧
      ["s1", "s2"].findIdx? (· == "s9") = none ∧
        following (· == "s9") ["s1", "s2"] = .ok "s1" := by
  have htwice := (following_place (· == "s2") ["s2", "s5", "s2", "s7"]).2 (by decide)
  have hlast := (following_place (· == "s2") ["s1", "s2"]).2 (by decide)
  have hnowhere := (following_place (· == "s9") ["s1", "s2"]).2 (by decide)
  exact ⟨⟨by decide, (htwice.1 0 (by decide)).1⟩, ⟨by decide, (hlast.1 1 (by decide)).1⟩,
    by decide, (hnowhere.2 (by decide)).1⟩

/-- Where the first element is the answer for want of a match, an element behind it can be the match. -/
theorem following_of_later_match :
    following (· == 9) [1, 2, 3] = .ok 1 ∧ [1, 9, 7].take 1 = [1, 2, 3].take 1 ∧
      following (· == 9) [1, 9, 7] = .ok 7 :=
  ⟨rfl, rfl, rfl⟩

end ServiceKit.Host
