import Mathlib.Data.List.Basic
import ServiceKit.Channel.Store
import ServiceKit.Proofs.Channel.Turns

/-!
Writing over content. Each byte of the result is the one written there, else the one that was there
before, else zero. A channel that lays down what it takes of each offer therefore ends, once all is
taken, with the content that one offer of the whole gives.
-/

namespace ServiceKit.Channel

/-- The byte that `data` at `position` has for place `q`, if it covers that place. -/
def byteAt? (data : List UInt8) (position q : Nat) : Option UInt8 :=
  if position ≤ q then data[q - position]? else none

@[simp]
theorem byteAt?_nil (position q : Nat) : byteAt? [] position q = none := by simp [byteAt?]

theorem byteAt?_eq_none_iff {data : List UInt8} {position q : Nat} :
    byteAt? data position q = none ↔ q < position ∨ position + data.length ≤ q := by
  unfold byteAt?
  split
  · rw [List.getElem?_eq_none_iff]
    omega
  · simp only [true_iff]
    omega

theorem byteAt?_append (first rest : List UInt8) (position q : Nat) :
    byteAt? (first ++ rest) position q
      = (byteAt? rest (position + first.length) q).or (byteAt? first position q) := by
  unfold byteAt?
  by_cases hq : position ≤ q
  · by_cases hfirst : q - position < first.length
    · have hbefore : ¬ position + first.length ≤ q := by omega
      rw [if_pos hq, if_pos hq, if_neg hbefore, List.getElem?_append_left hfirst, Option.none_or]
    · have hbehind : position + first.length ≤ q := by omega
      have hnone : first[q - position]? = none := List.getElem?_eq_none (by omega)
      have hstep : q - position - first.length = q - (position + first.length) := by omega
      rw [if_pos hq, if_pos hq, if_pos hbehind, List.getElem?_append_right (by omega), hnone,
        Option.or_none, hstep]
  · have hbefore : ¬ position + first.length ≤ q := by omega
    simp only [if_neg hq, if_neg hbefore, Option.or_none]

section

variable (data : List UInt8) (position : Nat) (content : List UInt8)

theorem length_overwrite :
    (overwrite data position content).length
      = max content.length (position + data.length) := by
  simp only [overwrite, List.length_append, List.length_take, List.length_replicate,
    List.length_drop]
  omega

/-- The byte written, else the byte before, else zero. -/
theorem getElem?_overwrite (q : Nat) :
    (overwrite data position content)[q]? =
      if q < max content.length (position + data.length) then
        some ((byteAt? data position q).getD (content[q]?.getD 0))
      else none := by
  have hfront : (content.take position ++ List.replicate (position - content.length) 0).length
      = position := by
    rw [List.length_append, List.length_take, List.length_replicate]
    omega
  by_cases hbefore : q < position
  · -- What was there, or the gap.
    have hnone : byteAt? data position q = none := byteAt?_eq_none_iff.mpr (.inl hbefore)
    have hin : q < max content.length (position + data.length) := by omega
    rw [if_pos hin, hnone, Option.getD_none]
    unfold overwrite
    rw [List.append_assoc, List.getElem?_append_left (by omega)]
    by_cases hcontent : q < content.length
    · rw [List.getElem?_append_left (by rw [List.length_take]; omega),
        List.getElem?_take_of_lt hbefore, List.getElem?_eq_getElem hcontent]
      rfl
    · have htake : (content.take position).length = content.length := by
        rw [List.length_take]
        omega
      rw [List.getElem?_append_right (by omega), htake, List.getElem?_replicate_of_lt (by omega),
        List.getElem?_eq_none (Nat.not_lt.mp hcontent)]
      rfl
  · by_cases hdata : q < position + data.length
    · have hin : q < max content.length (position + data.length) := by omega
      have hlt : q - position < data.length := by omega
      have hbyte : byteAt? data position q = some data[q - position] := by
        rw [byteAt?, if_pos (Nat.not_lt.mp hbefore), List.getElem?_eq_getElem hlt]
      rw [if_pos hin, hbyte]
      unfold overwrite
      rw [List.getElem?_append_left (by rw [List.length_append]; omega),
        List.getElem?_append_right (by omega), hfront, List.getElem?_eq_getElem hlt]
      rfl
    · have hnone : byteAt? data position q = none :=
        byteAt?_eq_none_iff.mpr (.inr (Nat.not_lt.mp hdata))
      have hlength := hfront
      rw [List.length_append] at hlength
      rw [hnone, Option.getD_none]
      unfold overwrite
      rw [List.getElem?_append_right (by simp only [List.length_append]; omega),
        List.getElem?_drop]
      have hplace : position + data.length
          + (q - (content.take position ++ List.replicate (position - content.length) 0
              ++ data).length) = q := by
        simp only [List.length_append]
        omega
      rw [hplace]
      split
      · rename_i hin
        rw [List.getElem?_eq_getElem (by omega)]
        rfl
      · rw [List.getElem?_eq_none (by omega)]

theorem overwrite_append (first rest : List UInt8) :
    overwrite rest (position + first.length) (overwrite first position content)
      = overwrite (first ++ rest) position content := by
  apply List.ext_getElem?
  intro q
  have hlength : max (max content.length (position + first.length))
      (position + first.length + rest.length)
        = max content.length (position + (first ++ rest).length) := by
    rw [List.length_append]
    omega
  rw [getElem?_overwrite, getElem?_overwrite, length_overwrite, hlength, getElem?_overwrite,
    byteAt?_append, Option.getD_or]
  refine if_congr Iff.rfl (congrArg some ?_) rfl
  cases hrest : byteAt? rest (position + first.length) q with
  | some b => rfl
  | none =>
    split
    · rfl
    · rename_i hout
      have hfirst : byteAt? first position q = none := byteAt?_eq_none_iff.mpr (by omega)
      have hcontent : content[q]? = none := List.getElem?_eq_none (by omega)
      rw [hfirst, hcontent]
      rfl

/-- Content after a write. Writing nothing changes nothing. -/
def written : List UInt8 := if data = [] then content else overwrite data position content

@[simp]
theorem written_nil : written [] position content = content := if_pos rfl

end

theorem written_of_ne_nil {data : List UInt8} (hd : data ≠ []) (position : Nat)
    (content : List UInt8) : written data position content = overwrite data position content :=
  if_neg hd

/-- How far a write reaches; nothing reaches nowhere. -/
def reach (data : List UInt8) (position : Nat) : Nat :=
  if data = [] then 0 else position + data.length

theorem length_written (data : List UInt8) (position : Nat) (content : List UInt8) :
    (written data position content).length = max content.length (reach data position) := by
  by_cases hd : data = []
  · simp [reach, hd]
  · rw [written_of_ne_nil hd, length_overwrite, reach, if_neg hd]

/-- Read with zeros behind the end, each byte is the one written, else the one before. -/
theorem getD_written (data : List UInt8) (position : Nat) (content : List UInt8) (q : Nat) :
    (written data position content)[q]?.getD 0
      = (byteAt? data position q).getD (content[q]?.getD 0) := by
  by_cases hd : data = []
  · rw [hd, written_nil, byteAt?_nil, Option.getD_none]
  · rw [written_of_ne_nil hd, getElem?_overwrite]
    split
    · rfl
    · rename_i hq
      have hnone : byteAt? data position q = none := byteAt?_eq_none_iff.mpr (by omega)
      have hcontent : content[q]? = none := List.getElem?_eq_none (by omega)
      rw [hnone, hcontent]
      rfl

/-- The data lie in their place, the rest is as it was, and zeros fill the gap before the data. -/
structure Overwritten (data : List UInt8) (position : Nat) (old new : List UInt8) : Prop where
  length : new.length = max old.length (position + data.length)
  there : (new.drop position).take data.length = data
  kept : ∀ q < old.length, q < position ∨ position + data.length ≤ q → new[q]? = old[q]?
  gap : ∀ q < position, old.length ≤ q → new[q]? = some 0

theorem overwritten_overwrite (data : List UInt8) (position : Nat) (content : List UInt8) :
    Overwritten data position content (overwrite data position content) where
  length := length_overwrite data position content
  there := by
    apply List.ext_getElem?
    intro i
    rw [List.getElem?_take]
    split
    · rename_i hi
      have hbyte : byteAt? data position (position + i) = some data[i] := by
        rw [byteAt?, if_pos (Nat.le_add_right position i), Nat.add_sub_cancel_left,
          List.getElem?_eq_getElem hi]
      rw [List.getElem?_drop, getElem?_overwrite, if_pos (by omega), hbyte,
        List.getElem?_eq_getElem hi]
      rfl
    · rename_i hi
      rw [List.getElem?_eq_none (Nat.not_lt.mp hi)]
  kept q hq hout := by
    have hnone : byteAt? data position q = none := byteAt?_eq_none_iff.mpr hout
    rw [getElem?_overwrite, if_pos (by omega), hnone, List.getElem?_eq_getElem hq]
    rfl
  gap q hq hold := by
    have hnone : byteAt? data position q = none := byteAt?_eq_none_iff.mpr (.inl hq)
    rw [getElem?_overwrite, if_pos (by omega), hnone, List.getElem?_eq_none hold]
    rfl

theorem written_append (first rest : List UInt8) (position : Nat) (content : List UInt8) :
    written rest (position + first.length) (written first position content)
      = written (first ++ rest) position content := by
  by_cases hfirst : first = []
  · subst hfirst
    rfl
  · by_cases hrest : rest = []
    · subst hrest
      rw [written_nil, List.append_nil]
    · have hwhole : first ++ rest ≠ [] := List.append_ne_nil_of_left_ne_nil hfirst rest
      rw [written_of_ne_nil hfirst, written_of_ne_nil hrest, written_of_ne_nil hwhole,
        overwrite_append]

section

variable {σ : Type} [Channel σ]

/-- While `I` holds, the channel lays what it takes of an offer over its content, and of a proper
offer it takes something or it fails. -/
def LaysDown (I : σ → Prop) (content : σ → List UInt8) : Prop :=
  ∀ {data position s n after}, I s → data ≠ [] →
    Channel.offer data position s = (.ok n, after) →
    0 < n ∧ I after ∧ content after = overwrite (data.take n) position (content s)

/-- While `I` holds, the channel takes something of every proper offer that ends below the limit. -/
def Obliging (I : σ → Prop) (limit : Nat) : Prop :=
  ∀ {data position s}, I s → data ≠ [] → position + data.length < limit →
    ∃ n after, Channel.offer data position s = (.ok n, after)

variable {I : σ → Prop} {content : σ → List UInt8}

theorem LaysDown.content_writeRemaining (hc : LaysDown I content) (data : List UInt8) (position : Nat)
    (s : σ) (hs : I s) (h : (writeRemaining data position s).1 = .ok ()) :
    content (writeRemaining data position s).2 = written data position (content s) := by
  induction data, position, s using writeRemaining.induct with
  | case1 position s => rw [writeRemaining_nil, written_nil]
  | case2 data position s hd f after ho =>
    rw [writeRemaining_of_fault hd ho] at h
    contradiction
  | case3 data position s hd n after ho ih =>
    rw [writeRemaining_of_taken hd ho] at h ⊢
    obtain ⟨hpos, hI, hafter⟩ := hc hs hd ho
    have hpiece : data.take n ≠ [] := by
      rw [ne_eq, List.take_eq_nil_iff]
      exact fun hnil => hnil.elim (fun hn => by omega) hd
    have hlength : min n data.length = (data.take n).length := List.length_take.symm
    rw [ih hI h, hafter, ← written_of_ne_nil hpiece, hlength, written_append,
      List.take_append_drop]

theorem LaysDown.content_writeAll (hc : LaysDown I content) {data : List UInt8} {position : Nat}
    {s : σ} (hs : I s) (h : (writeAll data position s).1 = .ok ()) :
    content (writeAll data position s).2 = written data position (content s) := by
  unfold writeAll at h ⊢
  split at h
  · contradiction
  · rename_i hfits
    rw [if_neg hfits]
    exact hc.content_writeRemaining data position s hs h

theorem LaysDown.writeRemaining_ok (hc : LaysDown I content) {limit : Nat} (ho : Obliging I limit)
    (data : List UInt8) (position : Nat) (s : σ) (hs : I s)
    (h : position + data.length < limit) : (writeRemaining data position s).1 = .ok () := by
  induction data, position, s using writeRemaining.induct with
  | case1 position s => rw [writeRemaining_nil]
  | case2 data position s hd f after hf =>
    obtain ⟨n, after', hok⟩ := ho hs hd h
    rw [hf] at hok
    cases hok
  | case3 data position s hd n after hn ih =>
    rw [writeRemaining_of_taken hd hn]
    refine ih (hc hs hd hn).2.1 ?_
    rw [List.length_drop]
    omega

end

end ServiceKit.Channel
