import Mathlib.Data.String.Basic
import ServiceKit.Proofs.Text.HexSpelling

/-!
The order of texts by their characters is the order by their bytes: of two characters the greater one
has the greater byte at the first place where their bytes differ, and no character's bytes begin
with those of another.
-/

namespace ServiceKit.Text

open String (utf8EncodeChar)

/-- Bytes that a code point is written with: a first byte that tells their number, and six bits of
the code point in each of the others. -/
inductive Coded (v : Nat) : List UInt8 → Prop
  | one (h : v < 0x80) : Coded v [.ofNat v]
  | two (hlow : 0x80 ≤ v) (h : v < 0x800) : Coded v [.ofNat (v / 64 + 192), .ofNat (v % 64 + 128)]
  | three (hlow : 0x800 ≤ v) (h : v < 0x10000) :
    Coded v [.ofNat (v / 4096 + 224), .ofNat (v / 64 % 64 + 128), .ofNat (v % 64 + 128)]
  | four (hlow : 0x10000 ≤ v) (h : v < 0x110000) :
    Coded v [.ofNat (v / 262144 + 240), .ofNat (v / 4096 % 64 + 128), .ofNat (v / 64 % 64 + 128),
      .ofNat (v % 64 + 128)]

theorem coded (c : Char) : Coded c.val.toNat (utf8EncodeChar c) := by
  have hc : c.val.toNat < 0x110000 := by
    rcases c.valid with hlow | ⟨-, hhigh⟩
    · exact Nat.lt_trans hlow (by decide)
    · exact hhigh
  unfold utf8EncodeChar
  generalize c.val.toNat = v at hc
  dsimp only
  split
  · exact .one (by omega)
  · split
    · have hfirst : v / 64 % 32 = v / 64 := by omega
      rw [hfirst]
      exact .two (by omega) (by omega)
    · split
      · have hfirst : v / 4096 % 16 = v / 4096 := by omega
        rw [hfirst]
        exact .three (by omega) (by omega)
      · have hfirst : v / 262144 % 8 = v / 262144 := by omega
        rw [hfirst]
        exact .four (by omega) hc

section Bytes

variable {m n v w : Nat} {r s xs ys : List UInt8}

theorem byte_cons_lt (hn : n < 256) (h : m < n ∨ m = n ∧ r < s) :
    UInt8.ofNat m :: r < UInt8.ofNat n :: s := by
  rw [List.cons_lt_cons_iff]
  rcases h with hlt | ⟨rfl, hrest⟩
  · refine .inl (UInt8.lt_iff_toNat_lt.mpr ?_)
    rw [UInt8.toNat_ofNat', UInt8.toNat_ofNat']
    omega
  · exact .inr ⟨rfl, hrest⟩

/-- The first bytes grow with their number, and bytes of the same number compare as digits do. -/
theorem Coded.append_lt_append (hv : Coded v xs) (hw : Coded w ys) (h : v < w) (r s : List UInt8) :
    xs ++ r < ys ++ s := by
  cases hv with
  | one hv =>
    cases hw <;> exact byte_cons_lt (by omega) (.inl (by omega))
  | two _ hv =>
    cases hw with
    | one => omega
    | two =>
      refine byte_cons_lt (by omega) ?_
      rcases Nat.lt_or_ge (v / 64) (w / 64) with hlt | hge
      · exact .inl (by omega)
      · exact .inr ⟨by omega, byte_cons_lt (by omega) (.inl (by omega))⟩
    | _ => exact byte_cons_lt (by omega) (.inl (by omega))
  | three hlow hv =>
    cases hw with
    | one | two => omega
    | three =>
      refine byte_cons_lt (by omega) ?_
      rcases Nat.lt_or_ge (v / 4096) (w / 4096) with hlt | hge
      · exact .inl (by omega)
      · refine .inr ⟨by omega, byte_cons_lt (by omega) ?_⟩
        rcases Nat.lt_or_ge (v / 64) (w / 64) with hlt | hge
        · exact .inl (by omega)
        · exact .inr ⟨by omega, byte_cons_lt (by omega) (.inl (by omega))⟩
    | four => exact byte_cons_lt (by omega) (.inl (by omega))
  | four hlow hv =>
    cases hw with
    | one | two | three => omega
    | four =>
      refine byte_cons_lt (by omega) ?_
      rcases Nat.lt_or_ge (v / 262144) (w / 262144) with hlt | hge
      · exact .inl (by omega)
      · refine .inr ⟨by omega, byte_cons_lt (by omega) ?_⟩
        rcases Nat.lt_or_ge (v / 4096) (w / 4096) with hlt | hge
        · exact .inl (by omega)
        · refine .inr ⟨by omega, byte_cons_lt (by omega) ?_⟩
          rcases Nat.lt_or_ge (v / 64) (w / 64) with hlt | hge
          · exact .inl (by omega)
          · exact .inr ⟨by omega, byte_cons_lt (by omega) (.inl (by omega))⟩

end Bytes

theorem flatMap_encode_lt {as bs : List Char} (h : as < bs) :
    as.flatMap utf8EncodeChar < bs.flatMap utf8EncodeChar := by
  induction as generalizing bs with
  | nil =>
    cases bs with
    | nil => exact absurd h (List.lt_irrefl [])
    | cons b bs =>
      cases hb : (b :: bs).flatMap utf8EncodeChar with
      | nil => simp [String.utf8EncodeChar_ne_nil] at hb
      | cons x xs => exact List.nil_lt_cons x xs
  | cons a as ih =>
    cases bs with
    | nil => exact absurd h (List.not_lt_nil _)
    | cons b bs =>
      rw [List.flatMap_cons, List.flatMap_cons]
      rcases List.cons_lt_cons_iff.mp h with hab | ⟨rfl, hrest⟩
      · exact (coded a).append_lt_append (coded b) (UInt32.lt_iff_toNat_lt.mp hab) _ _
      · exact List.append_left_lt (ih hrest)

def bytes (text : String) : List UInt8 := text.toUTF8.data.toList

theorem bytes_eq (text : String) : bytes text = text.toList.flatMap utf8EncodeChar := by
  rw [← Hex.utf8_ofList, String.ofList_toList, bytes]

theorem bytes_lt_iff {a b : String} : bytes a < bytes b ↔ a < b := by
  have hmono {x y : String} (h : x < y) : bytes x < bytes y := by
    rw [bytes_eq, bytes_eq]
    exact flatMap_encode_lt (String.lt_iff.mp h)
  refine ⟨fun h => ?_, hmono⟩
  rcases lt_trichotomy a b with hab | rfl | hba
  · exact hab
  · exact absurd h (List.lt_irrefl _)
  · exact absurd (hmono hba) (List.lt_asymm h)

end ServiceKit.Text
