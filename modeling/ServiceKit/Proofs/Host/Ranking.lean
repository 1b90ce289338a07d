import Mathlib.Data.List.Basic
import ServiceKit.Host.Family

/-!
What in the name of a system tells its family. Each family has its sign, the families are ranked, and
a name is of the strongest family whose sign it bears. A name that goes on behind its end still bears
every sign, and one that begins earlier those that count anywhere in it. So what is added to a name
never leads to a weaker family, also where a sign begins in the one part and ends in the other.
-/

namespace ServiceKit.Host.Family

def ranking : List Family := [.windows, .solaris, .mac, .freeBsd, .linux, .other]

def rank (f : Family) : Nat := ranking.idxOf f

/-- A word that a name begins with, or words of which it holds one. -/
inductive Sign where
  | opening (word : String)
  | anywhere (words : List String)

/-- Every name begins with the empty word. -/
def sign : Family → Sign
  | .windows => .opening "Windows"
  | .solaris => .anywhere ["SunOS", "Solaris"]
  | .mac => .anywhere ["Mac"]
  | .freeBsd => .anywhere ["FreeBSD"]
  | .linux => .opening "Linux"
  | .other => .opening ""

namespace Sign

def marks (name : List Char) : Sign → Bool
  | .opening word => word.toList.isPrefixOf name
  | .anywhere words => words.any fun word => Text.occursIn word.toList name

@[simp]
theorem marks_opening {name : List Char} {word : String} :
    (opening word).marks name = true ↔ word.toList <+: name := by
  rw [marks, List.isPrefixOf_iff_prefix]

@[simp]
theorem marks_anywhere {name : List Char} {words : List String} :
    (anywhere words).marks name = true ↔ ∃ word ∈ words, word.toList <:+: name := by
  simp only [marks, List.any_eq_true, Text.occursIn_iff]

theorem marks_append {name : List Char} {s : Sign} (h : s.marks name = true) (more : List Char) :
    s.marks (name ++ more) = true := by
  cases s with
  | opening word => exact marks_opening.mpr ((marks_opening.mp h).trans (List.prefix_append _ _))
  | anywhere words =>
    obtain ⟨word, hword, hname⟩ := marks_anywhere.mp h
    exact marks_anywhere.mpr ⟨word, hword, hname.trans List.infix_append_left⟩

theorem marks_prepend {name : List Char} {words : List String}
    (h : (anywhere words).marks name = true) (more : List Char) :
    (anywhere words).marks (more ++ name) = true := by
  obtain ⟨word, hword, hname⟩ := marks_anywhere.mp h
  exact marks_anywhere.mpr ⟨word, hword, hname.trans List.infix_append_right⟩

end Sign

variable {name : String} {f : Family}

theorem find?_cons_eq_ite {p : Family → Bool} {found : Family} {rest : List Family}
    (h : rest.find? p = some found) (f : Family) :
    (f :: rest).find? p = some (if p f = true then f else found) := by
  rw [List.find?_cons, h]
  cases p f <;> rfl

/-- The family of a name is the first one in the ranking whose sign it bears. -/
theorem find?_ranking (name : String) :
    ranking.find? (fun f => f.sign.marks name.toList) = some (ofName name) := by
  have hlast : [Family.other].find? (fun f => f.sign.marks name.toList) = some .other := rfl
  have hfound := find?_cons_eq_ite (find?_cons_eq_ite (find?_cons_eq_ite (find?_cons_eq_ite
    (find?_cons_eq_ite hlast .linux) .freeBsd) .mac) .solaris) .windows
  simp only [sign, Sign.marks, List.any_cons, List.any_nil, Bool.or_false] at hfound
  exact hfound

theorem marks_ofName (name : String) : (ofName name).sign.marks name.toList = true := by
  have hfound := List.find?_some (find?_ranking name)
  exact hfound

/-- No family whose sign a name bears is stronger than the family of the name. -/
theorem rank_ofName_le (h : f.sign.marks name.toList = true) : rank (ofName name) ≤ rank f := by
  obtain ⟨hmarks, before, after, hsplit, hbefore⟩ :=
    List.find?_eq_some_iff_append.mp (find?_ranking name)
  have hrank (g : Family) (hg : g.sign.marks name.toList = true) :
      rank g = before.length + (ofName name :: after).idxOf g := by
    rw [rank, hsplit, List.idxOf_append_of_notMem]
    intro hmem
    have hno := hbefore g hmem
    rw [hg] at hno
    cases hno
  rw [hrank f h, hrank _ hmarks, List.idxOf_cons_self]
  exact Nat.le_add_right _ _

theorem mem_ranking (f : Family) : f ∈ ranking := by
  cases f <;> decide

/-- A name is of a family that it bears the sign of, where it bears that of no stronger one. -/
theorem ofName_eq_iff : ofName name = f ↔
    f.sign.marks name.toList = true ∧ ∀ g, rank g < rank f → ¬ g.sign.marks name.toList = true := by
  constructor
  · rintro rfl
    refine ⟨marks_ofName name, fun g hg hmarks => ?_⟩
    exact absurd (rank_ofName_le hmarks) (Nat.not_le_of_lt hg)
  · rintro ⟨hmarks, hstronger⟩
    have hle : rank (ofName name) ≤ rank f := rank_ofName_le hmarks
    have hge : rank f ≤ rank (ofName name) :=
      Nat.le_of_not_lt fun hlt => hstronger _ hlt (marks_ofName name)
    exact (List.idxOf_inj (mem_ranking _)).mp (Nat.le_antisymm hle hge)

/-- What is added behind a name leads to no weaker family. -/
theorem rank_ofName_append (name more : String) :
    rank (ofName (name ++ more)) ≤ rank (ofName name) := by
  apply rank_ofName_le
  rw [String.toList_append]
  exact Sign.marks_append (marks_ofName name) more.toList

theorem rank_ofName_prepend {words : List String} (h : (ofName name).sign = .anywhere words)
    (more : String) : rank (ofName (more ++ name)) ≤ rank (ofName name) := by
  have hmarks := marks_ofName name
  rw [h] at hmarks
  apply rank_ofName_le
  rw [h, String.toList_append]
  exact Sign.marks_prepend hmarks more.toList

theorem forall_stronger_than_linux {p : Family → Prop} :
    (∀ g, rank g < rank .linux → p g) ↔ p .windows ∧ p .solaris ∧ p .mac ∧ p .freeBsd := by
  constructor
  · intro h
    exact ⟨h _ (by decide), h _ (by decide), h _ (by decide), h _ (by decide)⟩
  · rintro ⟨hwindows, hsolaris, hmac, hfreeBsd⟩ g hg
    cases g with
    | windows => exact hwindows
    | solaris => exact hsolaris
    | mac => exact hmac
    | freeBsd => exact hfreeBsd
    | linux => exact absurd hg (by decide)
    | other => exact absurd hg (by decide)

theorem ofName_eq_linux_iff :
    ofName name = .linux ↔ "Linux".toList <+: name.toList ∧
      ∀ word ∈ ["SunOS", "Solaris", "Mac", "FreeBSD"], ¬ word.toList <:+: name.toList := by
  -- No name begins both ways.
  have hwindows (h : "Linux".toList <+: name.toList) : ¬ "Windows".toList <+: name.toList := by
    intro hw
    rcases List.prefix_or_prefix_of_prefix h hw with hprefix | hprefix
    · exact absurd hprefix (by decide)
    · exact absurd hprefix (by decide)
  rw [ofName_eq_iff, forall_stronger_than_linux]
  simp only [sign, Sign.marks_opening, Sign.marks_anywhere, List.mem_cons, List.not_mem_nil,
    or_false, exists_eq_or_imp, exists_eq_left, not_or, forall_eq_or_imp, forall_eq]
  constructor
  · rintro ⟨hopens, -, ⟨hsunOs, hsolaris⟩, hmac, hfreeBsd⟩
    exact ⟨hopens, hsunOs, hsolaris, hmac, hfreeBsd⟩
  · rintro ⟨hopens, hsunOs, hsolaris, hmac, hfreeBsd⟩
    exact ⟨hopens, hwindows hopens, ⟨hsunOs, hsolaris⟩, hmac, hfreeBsd⟩

/-- Names that get longer. Whatever is added behind a name, its family is no weaker than before; nor
is it for what is added in front, where the sign of the family counts anywhere. The weakest family
that has a sign is that of the names which begin with its word and hold no word of the others. -/
theorem ofName_extended (s t : String) :
    rank (ofName (s ++ t)) ≤ rank (ofName s) ∧
      (ofName s ∈ [.solaris, .mac, .freeBsd] → rank (ofName (t ++ s)) ≤ rank (ofName s)) ∧
      (ofName s = .linux ↔ "Linux".toList <+: s.toList ∧
        ∀ word ∈ ["SunOS", "Solaris", "Mac", "FreeBSD"], ¬ word.toList <:+: s.toList) := by
  refine ⟨rank_ofName_append s t, fun h => ?_, ofName_eq_linux_iff⟩
  obtain ⟨words, hwords⟩ : ∃ words, (ofName s).sign = .anywhere words := by
    simp only [List.mem_cons, List.not_mem_nil, or_false] at h
    rcases h with h | h | h
    · exact ⟨_, congrArg sign h⟩
    · exact ⟨_, congrArg sign h⟩
    · exact ⟨_, congrArg sign h⟩
  exact rank_ofName_prepend hwords t

/-- A word that two parts make together, and a name that one in front of it makes stronger. -/
theorem ofName_extended_across :
    (ofName "Linux So" = .linux ∧ ofName ("Linux So" ++ "laris") = .solaris ∧
        rank (ofName ("Linux So" ++ "laris")) ≤ rank (ofName "Linux So")) ∧
      ofName "Mac OS" ∈ [.solaris, .mac, .freeBsd] ∧
        ofName ("Windows or " ++ "Mac OS") = .windows ∧
        rank (ofName ("Windows or " ++ "Mac OS")) ≤ rank (ofName "Mac OS") := by
  have hmac : ofName "Mac OS" ∈ [.solaris, .mac, .freeBsd] := by decide
  obtain ⟨hbehind, -, -⟩ := ofName_extended "Linux So" "laris"
  obtain ⟨-, hinFront, -⟩ := ofName_extended "Mac OS" "Windows or "
  exact ⟨⟨by decide, by decide, hbehind⟩, hmac, by decide, hinFront hmac⟩

end ServiceKit.Host.Family
