import Mathlib.Data.List.Basic
import ServiceKit.Proofs.Success
import ServiceKit.Text.Blank
import ServiceKit.Text.Hex

/-!
Spellings of bytes in hexadecimal: two digits for each byte, in either letter case, and white space
around them. All of them are read back as the bytes, and only an even number of digits is read at
all.
-/

namespace ServiceKit.Text

theorem dropWhile_blanks_append {blank : List Char} (h : ∀ c ∈ blank, isBlank c = true)
    (rest : List Char) : (blank ++ rest).dropWhile isBlank = rest.dropWhile isBlank := by
  induction blank with
  | nil => rfl
  | cons c blank ih =>
    obtain ⟨hc, hblank⟩ := List.forall_mem_cons.mp h
    rw [List.cons_append, List.dropWhile_cons_of_pos hc, ih hblank]

theorem dropWhile_append_of_plain {word : List Char} (hne : word ≠ [])
    (h : ∀ c ∈ word, isBlank c = false) (rest : List Char) :
    (word ++ rest).dropWhile isBlank = word ++ rest := by
  obtain ⟨c, word, rfl⟩ := List.exists_cons_of_ne_nil hne
  have hc := h c List.mem_cons_self
  rw [List.cons_append, List.dropWhile_cons_of_neg (by simp [hc])]

theorem trim_around {before word after : List Char} (hbefore : ∀ c ∈ before, isBlank c = true)
    (hword : ∀ c ∈ word, isBlank c = false) (hafter : ∀ c ∈ after, isBlank c = true) :
    trim (before ++ word ++ after) = word := by
  have hback : ∀ c ∈ after.reverse, isBlank c = true :=
    fun c hc => hafter c (List.mem_reverse.mp hc)
  unfold trim
  rw [List.append_assoc, dropWhile_blanks_append hbefore]
  by_cases hne : word = []
  · subst hne
    have hgone : after.dropWhile isBlank = [] := by
      simpa using dropWhile_blanks_append hafter []
    rw [List.nil_append, hgone]
    rfl
  · have hrev : ∀ c ∈ word.reverse, isBlank c = false :=
      fun c hc => hword c (List.mem_reverse.mp hc)
    have hkept := dropWhile_append_of_plain (by simpa using hne) hrev []
    rw [List.append_nil] at hkept
    rw [dropWhile_append_of_plain hne hword, List.reverse_append, dropWhile_blanks_append hback,
      hkept, List.reverse_reverse]

namespace Hex

/-- The text spells the bytes: with capitals made small and without the white space around it, it is
their encoding. -/
def Spells (text : List Char) (bytes : List UInt8) : Prop :=
  ∃ before digits after, text = before ++ digits ++ after ∧
    (∀ c ∈ before, isBlank c = true) ∧ (∀ c ∈ after, isBlank c = true) ∧
    digits.map Char.toLower = (encode bytes).toList

/-- Only the small letters have capitals, so nothing beyond ASCII becomes a digit. -/
theorem toNat_lt_of_toLower_eq_digit {c : Char} {d : Nat} (hd : d < 16)
    (h : c.toLower = digit d) : c.toNat < 128 := by
  have hdigit : ∀ d < 16, (digit d).toNat < 128 := by decide
  by_contra hc
  have hsame : c.toLower = c := by
    refine dif_neg fun hcapital => hc ?_
    exact Nat.lt_of_le_of_lt (UInt32.le_iff_toNat_le.mp hcapital.2) (by decide)
  rw [hsame] at h
  exact hc (h ▸ hdigit d hd)

/-- A digit in either letter case is no white space, takes up one byte, and has its value. -/
theorem of_toLower_eq_digit {c : Char} {d : Nat} (hd : d < 16) (h : c.toLower = digit d) :
    isBlank c = false ∧ String.utf8EncodeChar c = [UInt8.ofNat c.toNat] ∧
      value? (UInt8.ofNat c.toNat) = some d := by
  have hascii : ∀ n < 128, ∀ d < 16, (Char.ofNat n).toLower = digit d →
      isBlank (Char.ofNat n) = false ∧ String.utf8EncodeChar (Char.ofNat n) = [UInt8.ofNat n] ∧
        value? (UInt8.ofNat n) = some d := by
    decide +kernel
  have hc := hascii c.toNat (toNat_lt_of_toLower_eq_digit hd h) d hd
  rw [Char.ofNat_toNat] at hc
  exact hc h

theorem exists_digits {digits : List Char} {b : UInt8} {bytes : List UInt8}
    (h : digits.map Char.toLower = (encode (b :: bytes)).toList) :
    ∃ high low rest, digits = high :: low :: rest ∧ high.toLower = digit (b.toNat / 16) ∧
      low.toLower = digit (b.toNat % 16) ∧ rest.map Char.toLower = (encode bytes).toList := by
  have hlist : digits.map Char.toLower
      = digit (b.toNat / 16) :: digit (b.toNat % 16) :: (encode bytes).toList := by
    rw [h, encode, encode, String.toList_ofList, String.toList_ofList]
    rfl
  obtain ⟨high, more, rfl, hhigh, hmore⟩ := List.map_eq_cons_iff.mp hlist
  obtain ⟨low, rest, rfl, hlow, hrest⟩ := List.map_eq_cons_iff.mp hmore
  exact ⟨high, low, rest, rfl, hhigh, hlow, hrest⟩

theorem isBlank_eq_false_of_digits {digits : List Char} {bytes : List UInt8}
    (h : digits.map Char.toLower = (encode bytes).toList) : ∀ c ∈ digits, isBlank c = false := by
  induction bytes generalizing digits with
  | nil =>
    obtain rfl : digits = [] := List.map_eq_nil_iff.mp h
    simp
  | cons b bytes ih =>
    obtain ⟨high, low, rest, rfl, hhigh, hlow, hrest⟩ := exists_digits h
    have hb := b.toNat_lt
    have hplain := (of_toLower_eq_digit (by omega) hhigh).1
    have hplain' := (of_toLower_eq_digit (by omega) hlow).1
    exact List.forall_mem_cons.mpr ⟨hplain, List.forall_mem_cons.mpr ⟨hplain', ih hrest⟩⟩

/-- The bytes of the text are read in pairs, wherever in the text they stand. -/
theorem decodeFrom_digits {digits : List Char} {bytes : List UInt8}
    (h : digits.map Char.toLower = (encode bytes).toList) (index : Nat) :
    (digits.flatMap String.utf8EncodeChar).length = 2 * bytes.length ∧
      decodeFrom index (digits.flatMap String.utf8EncodeChar) = .ok bytes := by
  induction bytes generalizing digits index with
  | nil =>
    obtain rfl : digits = [] := List.map_eq_nil_iff.mp h
    exact ⟨rfl, rfl⟩
  | cons b bytes ih =>
    obtain ⟨high, low, rest, rfl, hhigh, hlow, hrest⟩ := exists_digits h
    have hb := b.toNat_lt
    obtain ⟨-, hhighByte, hhighValue⟩ := of_toLower_eq_digit (by omega) hhigh
    obtain ⟨-, hlowByte, hlowValue⟩ := of_toLower_eq_digit (by omega) hlow
    obtain ⟨hlength, hdecode⟩ := ih hrest (index + 2)
    have hwhole : 16 * (b.toNat / 16) + b.toNat % 16 = b.toNat := by omega
    have hbytes : (high :: low :: rest).flatMap String.utf8EncodeChar
        = UInt8.ofNat high.toNat :: UInt8.ofNat low.toNat
          :: rest.flatMap String.utf8EncodeChar := by
      rw [List.flatMap_cons, List.flatMap_cons, hhighByte, hlowByte]
      rfl
    rw [hbytes]
    constructor
    · rw [List.length_cons, List.length_cons, List.length_cons, hlength]
      omega
    · rw [decodeFrom, hhighValue, hlowValue]
      simp only [hdecode, hwhole, UInt8.ofNat_toNat]
      rfl

theorem utf8_ofList (text : List Char) :
    (String.ofList text).toUTF8.data.toList = text.flatMap String.utf8EncodeChar := by
  show (List.toByteArray (text.flatMap String.utf8EncodeChar)).data.toList = _
  rw [List.data_toByteArray]

theorem decode_trim_of_spells {text : List Char} {bytes : List UInt8} (h : Spells text bytes) :
    decode (trim text) = .ok bytes := by
  obtain ⟨before, digits, after, rfl, hbefore, hafter, hdigits⟩ := h
  obtain ⟨hlength, hdecode⟩ := decodeFrom_digits hdigits 0
  rw [trim_around hbefore (isBlank_eq_false_of_digits hdigits) hafter]
  rw [decode, utf8_ofList, decodeBytes, if_neg (by omega), hdecode]

def IsDigit (c : Char) : Prop := ∃ d < 16, c.toLower = digit d

def Paired (text : List Char) : Prop := text.length % 2 = 0 ∧ ∀ c ∈ text, IsDigit c

theorem value?_eq_none_of_wide {b : UInt8} (h : 128 ≤ b.toNat) : value? b = none := by
  unfold value?
  rw [if_neg (by omega), if_neg (by omega), if_neg (by omega)]

theorem values_of_decodeFrom {index : Nat} {digits bytes : List UInt8}
    (h : decodeFrom index digits = .ok bytes) : ∀ b ∈ digits, value? b ≠ none := by
  induction index, digits using decodeFrom.induct generalizing bytes with
  | case1 => simp
  | case2 => cases h
  | case3 index high low rest hhigh => simp [decodeFrom, hhigh] at h
  | case4 index high low rest _ hhigh hlow => simp [decodeFrom, hhigh, hlow] at h
  | case5 index high low rest _ hhigh _ hlow ih =>
    simp only [decodeFrom, hhigh, hlow] at h
    obtain ⟨more, hmore, -⟩ := map_eq_ok h
    exact List.forall_mem_cons.mpr ⟨by simp [hhigh],
      List.forall_mem_cons.mpr ⟨by simp [hlow], ih hmore⟩⟩

/-- Beyond ASCII a character begins with a byte that is no digit. -/
theorem exists_wide_byte {c : Char} (hc : 128 ≤ c.toNat) :
    ∃ b ∈ String.utf8EncodeChar c, value? b = none := by
  have hwide (n : Nat) (h : 192 ≤ n % 256) : value? (UInt8.ofNat n) = none :=
    value?_eq_none_of_wide (by rw [UInt8.toNat_ofNat']; omega)
  have hval : c.val.toNat = c.toNat := rfl
  unfold String.utf8EncodeChar
  simp only [hval]
  rw [if_neg (by omega)]
  split
  · exact ⟨_, List.mem_cons_self, hwide _ (by omega)⟩
  · split
    · exact ⟨_, List.mem_cons_self, hwide _ (by omega)⟩
    · exact ⟨_, List.mem_cons_self, hwide _ (by omega)⟩

/-- A character whose bytes all have a value is a digit, and takes up one byte. -/
theorem isDigit_of_values {c : Char} (h : ∀ b ∈ String.utf8EncodeChar c, value? b ≠ none) :
    IsDigit c ∧ (String.utf8EncodeChar c).length = 1 := by
  have hascii : ∀ n < 128, (String.utf8EncodeChar (Char.ofNat n)).all (value? · |>.isSome) = true →
      (∃ d < 16, (Char.ofNat n).toLower = digit d) ∧
        (String.utf8EncodeChar (Char.ofNat n)).length = 1 := by
    decide +kernel
  rcases Nat.lt_or_ge c.toNat 128 with hc | hc
  · have hdigit := hascii c.toNat hc
    rw [Char.ofNat_toNat] at hdigit
    exact hdigit (List.all_eq_true.mpr fun b hb => Option.isSome_iff_ne_none.mpr (h b hb))
  · obtain ⟨b, hb, hnone⟩ := exists_wide_byte hc
    exact absurd hnone (h b hb)

theorem paired_of_decode {text : List Char} {bytes : List UInt8} (h : decode text = .ok bytes) :
    Paired text := by
  rw [decode, utf8_ofList, decodeBytes] at h
  split at h
  · cases h
  · rename_i heven
    have hvalues := values_of_decodeFrom h
    have hdigits : ∀ c ∈ text, IsDigit c ∧ (String.utf8EncodeChar c).length = 1 :=
      fun c hc => isDigit_of_values fun b hb => hvalues b (List.mem_flatMap.mpr ⟨c, hc, hb⟩)
    have hlength : (text.flatMap String.utf8EncodeChar).length = text.length := by
      rw [List.length_flatMap, List.map_congr_left fun c hc => (hdigits c hc).2]
      simp
    exact ⟨by omega, fun c hc => (hdigits c hc).1⟩

end Hex

end ServiceKit.Text
