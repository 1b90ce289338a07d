import ServiceKit.Logging.Control
import ServiceKit.Proofs.Logging.Held
import ServiceKit.Proofs.Success

/-!
The text of a rule, read as a directive. A target made of the characters of module paths is read as
it stands; and whatever else a target may be, the directive speaks of a target alone only if it is
of this very one.
-/

namespace ServiceKit.Text

theorem byteLength_append (xs ys : List Char) :
    byteLength (xs ++ ys) = byteLength xs + byteLength ys := by
  induction xs with
  | nil => simp [byteLength]
  | cons c xs ih => rw [List.cons_append, byteLength, ih, byteLength, Nat.add_assoc]

theorem byteLength_pos {xs : List Char} (h : xs ≠ []) : 0 < byteLength xs := by
  cases xs with
  | nil => contradiction
  | cons c xs =>
    have hc := Char.utf8Size_pos c
    rw [byteLength]
    omega

/-- What is cut off within the first part leaves the second one whole. -/
theorem exists_append_of_fromOffset? {n : Nat} {xs ys zs : List Char} (hn : n ≤ byteLength xs)
    (h : fromOffset? n (xs ++ ys) = some zs) : ∃ ws, zs = ws ++ ys := by
  induction xs generalizing n with
  | nil =>
    obtain rfl : n = 0 := by simpa [byteLength] using hn
    rw [fromOffset?] at h
    exact ⟨[], (Option.some.inj h).symm⟩
  | cons c xs ih =>
    cases n with
    | zero =>
      rw [fromOffset?] at h
      exact ⟨c :: xs, (Option.some.inj h).symm⟩
    | succ n =>
      rw [List.cons_append, fromOffset?] at h
      split at h
      · rw [byteLength] at hn
        exact ih (by omega) h
      · contradiction

theorem piece?_zero (n : Nat) (cs : List Char) : piece? 0 n cs = toOffset? n cs := by
  simp [piece?, fromOffset?]

theorem trim_eq_dropWhile {cs : List Char} (h : ∀ c ∈ cs.getLast?, isBlank c = false) :
    trim cs = cs.dropWhile isBlank := by
  have hsplit := List.takeWhile_append_dropWhile (p := isBlank) (l := cs)
  cases hd : (cs.dropWhile isBlank).reverse with
  | nil => simp [trim, List.reverse_eq_nil_iff.mp hd]
  | cons c rest =>
    have hlast : c ∈ cs.getLast? := by
      rw [← hsplit, List.reverse_eq_cons_iff.mp hd, ← List.append_assoc]
      simp
    rw [trim, hd, List.dropWhile_cons_of_neg (by simp [h c hlast]), ← hd, List.reverse_reverse]

end ServiceKit.Text

namespace ServiceKit.Logging

open Text (byteLength fromOffset? toOffset? piece? isBlank)

namespace Level

theorem isDigit_of_readDigits {limit n m : Nat} {overflow : Text.IntegerFault} {cs : List Char}
    (h : Text.readDigits limit overflow cs n = .ok m) : ∀ c ∈ cs, c.isDigit = true := by
  induction cs generalizing n with
  | nil => simp
  | cons c rest ih =>
    rw [Text.readDigits] at h
    split at h
    · contradiction
    · rename_i hc
      dsimp only at h
      split at h
      · contradiction
      · intro d hd
        rcases List.mem_cons.mp hd with rfl | hd
        · simpa using hc
        · exact ih h d hd

theorem equals_notMem_of_readNatural {n limit : Nat} {cs : List Char}
    (h : Text.readNatural limit cs = .ok n) : '=' ∉ cs := by
  intro hmem
  unfold Text.readNatural at h
  split at h
  · contradiction
  · contradiction
  · rename_i rest _
    have hrest : '=' ∈ rest := by simpa using hmem
    exact absurd (isDigit_of_readDigits h _ hrest) (by decide)
  · exact absurd (isDigit_of_readDigits h _ hmem) (by decide)

/-- No spelling of a level has an equals sign in it. -/
theorem equals_notMem_of_ofText? {cs : List Char} {l : Level} (h : ofText? cs = some l) :
    '=' ∉ cs := by
  intro hmem
  unfold ofText? at h
  split at h
  · rename_i n hn
    exact equals_notMem_of_readNatural hn hmem
  · split at h
    · rename_i hempty
      simp [List.isEmpty_iff.mp hempty] at hmem
    · have hword := List.find?_some h
      have hchars : l.word.toList = cs.map lowered := by
        rw [beq_iff_eq.mp hword, String.toList_ofList]
      have : '=' ∈ l.word.toList := by
        rw [hchars]
        exact List.mem_map.mpr ⟨'=', hmem, rfl⟩
      revert this
      cases l <;> decide

theorem plain_of_mem_word {l : Level} {c : Char} (hc : c ∈ l.word.toList) :
    isBlank c = false ∧ c ≠ ',' ∧ c ≠ '=' := by
  have hplain : l.word.toList.all (fun c => !isBlank c && c != ',' && c != '=') = true := by
    cases l <;> decide
  simpa [and_assoc] using List.all_eq_true.mp hplain c hc

theorem word_ne_nil (l : Level) : l.word.toList ≠ [] := by
  cases l <;> decide

end Level

namespace Progress

theorem walk_append {text xs ys : List Char} {p q : Progress} {n : Nat}
    (h : walk text p n xs = .ok q) :
    walk text p n (xs ++ ys) = walk text q (n + byteLength xs) ys := by
  induction xs generalizing p n with
  | nil =>
    obtain rfl : p = q := Except.ok.inj h
    rfl
  | cons c xs ih =>
    rw [walk] at h
    rw [List.cons_append, walk]
    split at h
    · contradiction
    · rename_i r hr
      rw [byteLength, ← Nat.add_assoc]
      exact ih h

/-- Whether the directive so far is about a target alone, or about everything. -/
def Plain (p : Progress) : Prop := p.directive.scope.Plain

/-- What is known of a reader that has read so much from the start of a text. A level follows an
equals sign, and in a plain directive everything before that sign is the target. -/
def Follows (text read : List Char) (p : Progress) : Prop :=
  match p.place with
  | .start => read = [] ∧ p.directive = .ofLevel .trace
  | .levelOrTarget first => first = 0 ∧ p.directive = .ofLevel .trace ∧ '=' ∉ read
  | .span _ | .field _ => True
  | .fields | .target => ¬ p.Plain
  | .level first => p.Plain → ∃ target rest, read = target ++ '=' :: rest ∧
      first = byteLength target + 1 ∧
      p.directive.target = (toOffset? (byteLength target) text).map String.ofList
  | .complete => read.getLast? = some ','

theorem orMalformed_eq_ok {α : Type} {o : Option α} {a : α} (h : orMalformed o = .ok a) :
    o = some a := by
  cases o with
  | none => contradiction
  | some b => rw [Except.ok.inj h]

theorem not_plain_of_span {d : Directive} {s : String} (h : d.span = some s) :
    ¬ d.scope.Plain := by
  intro hp
  have hs : d.span = none := hp.1
  rw [h] at hs
  contradiction

theorem not_plain_of_fields {d : Directive} {fs : List FieldMatch} {m : FieldMatch}
    (h : d.fields = fs ++ [m]) : ¬ d.scope.Plain := by
  intro hp
  have hf : d.fields = [] := hp.2
  simp [h] at hf

section Steps

variable {text : List Char} {q : Progress} {d : Directive} {n first : Nat} {c : Char}

theorem of_step_start (h : step text ⟨.start, d⟩ n c = .ok q) :
    q = ⟨.span (n + 1), d⟩ ∨ c ≠ '=' ∧ q = ⟨.levelOrTarget n, d⟩ := by
  simp only [step] at h
  split at h
  · exact .inl (Except.ok.inj h).symm
  · split at h
    · rename_i hc
      refine .inr ⟨?_, (Except.ok.inj h).symm⟩
      rintro rfl
      revert hc
      decide
    · contradiction

theorem of_step_levelOrTarget (h : step text ⟨.levelOrTarget first, d⟩ n c = .ok q) :
    (c = '=' ∧ ∃ target, Text.piece? first n text = some target ∧
        q = ⟨.level (n + 1), { d with target := some (String.ofList target) }⟩) ∨
      (∃ e, q = ⟨.span (n + 1), e⟩) ∨ (c = ',' ∧ ∃ e, q = ⟨.complete, e⟩) ∨
      c ≠ '=' ∧ q = ⟨.levelOrTarget first, d⟩ := by
  simp only [step] at h
  split at h
  · rename_i hc
    obtain ⟨target, htarget, h⟩ := bind_eq_ok h
    exact .inl ⟨hc, target, orMalformed_eq_ok htarget, (Except.ok.inj h).symm⟩
  rename_i hc
  refine .inr ?_
  split at h
  · obtain ⟨target, -, h⟩ := bind_eq_ok h
    exact .inl ⟨_, (Except.ok.inj h).symm⟩
  · split at h
    · rename_i hcomma
      obtain ⟨whole, -, h⟩ := bind_eq_ok h
      exact .inr (.inl ⟨hcomma, _, (Except.ok.inj h).symm⟩)
    · exact .inr (.inr ⟨hc, (Except.ok.inj h).symm⟩)

theorem of_step_span (h : step text ⟨.span first, d⟩ n c = .ok q) :
    (∃ name, q = ⟨.target, { d with span := some name }⟩) ∨
      (∃ e, q = ⟨.field (n + 1), e⟩) ∨ q = ⟨.span first, d⟩ := by
  simp only [step] at h
  split at h
  · obtain ⟨name, -, h⟩ := bind_eq_ok h
    exact .inl ⟨_, (Except.ok.inj h).symm⟩
  · split at h
    · obtain ⟨name, -, h⟩ := bind_eq_ok h
      exact .inr (.inl ⟨_, (Except.ok.inj h).symm⟩)
    · exact .inr (.inr (Except.ok.inj h).symm)

theorem of_step_field (h : step text ⟨.field first, d⟩ n c = .ok q) :
    (∃ m, q = ⟨.fields, { d with fields := d.fields ++ [m] }⟩) ∨
      ∃ first' e, q = ⟨.field first', e⟩ := by
  simp only [step] at h
  split at h
  · obtain ⟨field, -, h⟩ := bind_eq_ok h
    split at h
    · contradiction
    · obtain ⟨m, -, h⟩ := bind_eq_ok h
      obtain rfl := Except.ok.inj h
      split
      · exact .inr ⟨_, _, rfl⟩
      · exact .inl ⟨m, rfl⟩
  · exact .inr ⟨_, _, (Except.ok.inj h).symm⟩

theorem of_step_fields (h : step text ⟨.fields, d⟩ n c = .ok q) : q = ⟨.target, d⟩ := by
  simp only [step] at h
  split at h
  · exact (Except.ok.inj h).symm
  · contradiction

theorem of_step_target (h : step text ⟨.target, d⟩ n c = .ok q) : q = ⟨.level (n + 1), d⟩ := by
  simp only [step] at h
  split at h
  · exact (Except.ok.inj h).symm
  · contradiction

theorem of_step_level (h : step text ⟨.level first, d⟩ n c = .ok q) :
    (c = ',' ∧ ∃ e, q = ⟨.complete, e⟩) ∨ q = ⟨.level first, d⟩ := by
  simp only [step] at h
  split at h
  · rename_i hc
    obtain ⟨cs, -, h⟩ := bind_eq_ok h
    obtain ⟨l, -, h⟩ := bind_eq_ok h
    exact .inl ⟨hc, _, (Except.ok.inj h).symm⟩
  · exact .inr (Except.ok.inj h).symm

end Steps

theorem Follows.step {text read : List Char} {p q : Progress} {c : Char}
    (h : Follows text read p) (hq : p.step text (byteLength read) c = .ok q) :
    Follows text (read ++ [c]) q := by
  obtain ⟨place, d⟩ := p
  cases place with
  | start =>
    obtain ⟨rfl, hd⟩ := h
    obtain rfl | ⟨hc, rfl⟩ := of_step_start hq
    · trivial
    · exact ⟨rfl, hd, by simpa using hc.symm⟩
  | levelOrTarget first =>
    obtain ⟨rfl, hd, hread⟩ := h
    obtain ⟨rfl, target, htarget, rfl⟩ | ⟨e, rfl⟩ | ⟨rfl, e, rfl⟩ | ⟨hc, rfl⟩ :=
      of_step_levelOrTarget hq
    · rw [Text.piece?_zero] at htarget
      exact fun _ => ⟨read, [], rfl, rfl, by rw [htarget]; rfl⟩
    · trivial
    · simp [Follows]
    · exact ⟨rfl, hd, by simpa [hread] using hc.symm⟩
  | span first =>
    obtain ⟨name, rfl⟩ | ⟨e, rfl⟩ | rfl := of_step_span hq
    · exact not_plain_of_span rfl
    · trivial
    · trivial
  | field first =>
    obtain ⟨m, rfl⟩ | ⟨first', e, rfl⟩ := of_step_field hq
    · exact not_plain_of_fields rfl
    · trivial
  | fields =>
    obtain rfl := of_step_fields hq
    exact h
  | target =>
    obtain rfl := of_step_target hq
    exact fun hp => absurd hp h
  | level first =>
    obtain ⟨rfl, e, rfl⟩ | rfl := of_step_level hq
    · simp [Follows]
    · intro hp
      obtain ⟨target, rest, rfl, hfirst, htarget⟩ := h hp
      exact ⟨target, rest ++ [c], by simp, hfirst, htarget⟩
  | complete => contradiction

theorem Follows.walk {text read cs : List Char} {p q : Progress} (h : Follows text read p)
    (hq : p.walk text (byteLength read) cs = .ok q) : Follows text (read ++ cs) q := by
  induction cs generalizing read p with
  | nil =>
    obtain rfl : p = q := Except.ok.inj hq
    rwa [List.append_nil]
  | cons c cs ih =>
    rw [Progress.walk] at hq
    split at hq
    · contradiction
    · rename_i r hr
      have hlen : byteLength (read ++ [c]) = byteLength read + c.utf8Size := by
        rw [Text.byteLength_append, byteLength, byteLength, Nat.add_zero]
      rw [← hlen] at hq
      simpa using ih (h.step hr) hq

theorem follows_start (text : List Char) : Follows text [] ⟨.start, .ofLevel .trace⟩ := ⟨rfl, rfl⟩

theorem levelOf_word (l : Level) : levelOf l.word.toList = .ok l := by
  rw [levelOf, if_neg (by simpa using l.word_ne_nil), Level.ofText?_word]

theorem equals_notMem_of_levelOf {cs : List Char} {l : Level} (h : levelOf cs = .ok l) :
    '=' ∉ cs := by
  unfold levelOf at h
  split at h
  · rename_i hempty
    simp [List.isEmpty_iff.mp hempty]
  · split at h
    · rename_i l' hl
      exact Level.equals_notMem_of_ofText? hl
    · contradiction

/-- A reader within a target goes on while nothing there means anything. -/
theorem walk_levelOrTarget {text cs : List Char} {first n : Nat} {d : Directive}
    (h : ∀ c ∈ cs, c ∉ ['=', '[', ',']) :
    walk text ⟨.levelOrTarget first, d⟩ n cs = .ok ⟨.levelOrTarget first, d⟩ := by
  induction cs generalizing n with
  | nil => rfl
  | cons c cs ih =>
    obtain ⟨hc, hcs⟩ := List.forall_mem_cons.mp h
    obtain ⟨he, hb, hk⟩ : c ≠ '=' ∧ c ≠ '[' ∧ c ≠ ',' := by simpa using hc
    rw [walk, step]
    simp only [if_neg he, if_neg hb, if_neg hk]
    exact ih hcs

theorem walk_level {text cs : List Char} {first n : Nat} {d : Directive} (h : ',' ∉ cs) :
    walk text ⟨.level first, d⟩ n cs = .ok ⟨.level first, d⟩ := by
  induction cs generalizing n with
  | nil => rfl
  | cons c cs ih =>
    obtain ⟨hc, hcs⟩ : ',' ≠ c ∧ ',' ∉ cs := by simpa using h
    rw [walk, step]
    simp only [if_neg (Ne.symm hc)]
    exact ih hcs

end Progress

theorem append_cons_inj_of_notMem {α : Type} {a : α} {xs ys xs' ys' : List α}
    (h : xs ++ a :: ys = xs' ++ a :: ys') (hy : a ∉ ys) (hy' : a ∉ ys') : xs = xs' ∧ ys = ys' := by
  rcases List.append_eq_append_iff.mp h with ⟨zs, hxs, hys⟩ | ⟨zs, hxs, hys⟩
  · cases zs with
    | nil => simpa [hxs] using hys
    | cons z zs =>
      obtain ⟨-, hys⟩ := List.cons.inj hys
      simp [hys] at hy
  · cases zs with
    | nil => simpa [hxs, eq_comm] using hys
    | cons z zs =>
      obtain ⟨-, hys⟩ := List.cons.inj hys
      simp [hys] at hy'

def isPathChar (c : Char) : Bool := c.isAlphanum || c == '_' || c == ':'

theorem toNat_lt_of_isPathChar {c : Char} (h : isPathChar c = true) : c.toNat < 128 := by
  have hbelow {m : Char} (hm : m.toNat < 128) (hc : c.val ≤ m.val) : c.toNat < 128 :=
    Nat.lt_of_le_of_lt (UInt32.le_iff_toNat_le.mp hc) hm
  simp only [isPathChar, Bool.or_eq_true, beq_iff_eq] at h
  rcases h with (halnum | rfl) | rfl
  · rcases Bool.or_eq_true_iff.mp halnum with halpha | hdigit
    · rcases Bool.or_eq_true_iff.mp halpha with hupper | hlower
      · exact hbelow (m := 'Z') (by decide) (of_decide_eq_true hupper).2
      · exact hbelow (m := 'z') (by decide) (of_decide_eq_true (Bool.and_eq_true_iff.mp hlower).2)
    · exact hbelow (m := '9') (by decide) (of_decide_eq_true (Bool.and_eq_true_iff.mp hdigit).2)
  · decide
  · decide

/-- A path character may begin a target, and means nothing within one. -/
theorem of_isPathChar {c : Char} (h : isPathChar c = true) :
    isBlank c = false ∧ c ∉ ['=', '[', ','] ∧
      (c = ':' ∨ c = '_' ∨ Text.isAlphanumeric c = true) := by
  have hascii : ∀ n < 128, isPathChar (Char.ofNat n) = true →
      isBlank (Char.ofNat n) = false ∧ Char.ofNat n ∉ ['=', '[', ','] ∧
        (Char.ofNat n = ':' ∨ Char.ofNat n = '_' ∨
          Text.isAlphanumeric (Char.ofNat n) = true) := by
    decide
  have hc := hascii c.toNat (toNat_lt_of_isPathChar h)
  rw [Char.ofNat_toNat] at hc
  exact hc h

namespace Directive

/-- A rule's text ends in the word of a level, so that it is trimmed at its front only. -/
theorem trim_rule (target : List Char) (l : Level) :
    Text.trim (target ++ '=' :: l.word.toList)
      = target.dropWhile isBlank ++ '=' :: l.word.toList := by
  have hlast : ∀ c ∈ (target ++ '=' :: l.word.toList).getLast?, isBlank c = false := by
    intro c hc
    rw [List.getLast?_append_of_ne_nil _ (List.cons_ne_nil _ _),
      List.getLast?_cons_of_ne_nil l.word_ne_nil] at hc
    exact (Level.plain_of_mem_word (List.mem_of_getLast? hc)).1
  rw [Text.trim_eq_dropWhile hlast, List.dropWhile_append,
    List.dropWhile_cons_of_neg (by decide)]
  split
  · rename_i hempty
    rw [List.isEmpty_iff.mp hempty, List.nil_append]
  · rfl

/-- Only a reader of a level stops with an equals sign behind it and gives a plain directive. -/
theorem level_of_finish {text read : List Char} {p : Progress} {d : Directive}
    (hf : p.Follows text read) (hequals : '=' ∈ read) (hcomma : read.getLast? ≠ some ',')
    (h : p.finish text = .ok d) (hp : d.scope.Plain) :
    ∃ first d' cs l, p = ⟨.level first, d'⟩ ∧ fromOffset? first text = some cs ∧
      Progress.levelOf cs = .ok l ∧ d = { d' with level := l } := by
  obtain ⟨place, d'⟩ := p
  cases place with
  | start => contradiction
  | levelOrTarget first => exact absurd hequals hf.2.2
  | span first => contradiction
  | field first => contradiction
  | fields => contradiction
  | target =>
    obtain rfl : d' = d := Except.ok.inj h
    exact absurd hp hf
  | complete => exact absurd hf hcomma
  | level first =>
    obtain ⟨cs, hcs, h⟩ := bind_eq_ok h
    obtain ⟨l, hl, h⟩ := bind_eq_ok h
    exact ⟨first, d', cs, l, rfl, Progress.orMalformed_eq_ok hcs, hl, (Except.ok.inj h).symm⟩

/-- What is cut off behind the equals sign of a text without what was in front of it holds that sign,
unless nothing was. -/
theorem front_eq_nil {front before rest cs : List Char}
    (hcs : fromOffset? (byteLength before + 1) (front ++ (before ++ '=' :: rest)) = some cs)
    (hnone : '=' ∉ cs) : front = [] := by
  by_contra hne
  have hpos := Text.byteLength_pos hne
  rw [← List.append_assoc] at hcs
  have hle : byteLength before + 1 ≤ byteLength (front ++ before) := by
    rw [Text.byteLength_append]
    omega
  obtain ⟨ws, rfl⟩ := Text.exists_append_of_fromOffset? hle hcs
  simp at hnone

theorem fromOffset?_equals (before rest : List Char) :
    fromOffset? (byteLength before + 1) (before ++ '=' :: rest) = some rest := by
  have hcut : byteLength before + 1 = byteLength (before ++ ['=']) := by
    rw [Text.byteLength_append]
    rfl
  rw [List.append_cons, hcut, Text.fromOffset?_append]

/-- A rule whose directive is plain speaks of its target as it is written, at its level. -/
theorem eq_of_ofText_plain {target : List Char} {l : Level} {d : Directive}
    (h : Directive.ofText (target ++ '=' :: l.word.toList) = .ok d) (hp : d.scope.Plain) :
    d = ⟨some (String.ofList target), none, [], l⟩ := by
  obtain ⟨text, htext⟩ : ∃ text, text = target ++ '=' :: l.word.toList := ⟨_, rfl⟩
  obtain ⟨read, hread⟩ : ∃ read, read = Text.trim text := ⟨_, rfl⟩
  have hrest : read = target.dropWhile isBlank ++ '=' :: l.word.toList := by
    rw [hread, htext, trim_rule]
  have hfront : text = target.takeWhile isBlank ++ read := by
    rw [hrest, htext, ← List.append_assoc, List.takeWhile_append_dropWhile]
  have hequals : '=' ∈ read := by
    rw [hrest]
    simp
  have hcomma : read.getLast? ≠ some ',' := by
    rw [hrest, List.getLast?_append_of_ne_nil _ (List.cons_ne_nil _ _),
      List.getLast?_cons_of_ne_nil l.word_ne_nil]
    exact fun hc => (Level.plain_of_mem_word (List.mem_of_getLast? hc)).2.1 rfl
  rw [← htext, Directive.ofText, ← hread] at h
  split at h
  · contradiction
  rename_i p hwalk
  have hf : p.Follows text read := (Progress.follows_start text).walk hwalk
  obtain ⟨first, d', cs, l', rfl, hcs, hl, rfl⟩ := level_of_finish hf hequals hcomma h hp
  obtain ⟨before, rest, hsplit, rfl, htarget⟩ := hf hp
  -- White space in front would bring the equals sign into what is read as the level.
  have hwhole : text = before ++ '=' :: rest := by
    rw [hfront, hsplit] at hcs
    rw [hfront, hsplit, front_eq_nil hcs (Progress.equals_notMem_of_levelOf hl), List.nil_append]
  rw [hwhole, fromOffset?_equals] at hcs
  obtain rfl := Option.some.inj hcs
  obtain ⟨rfl, rfl⟩ := append_cons_inj_of_notMem (htext.symm.trans hwhole)
    (fun hmem => (Level.plain_of_mem_word hmem).2.2 rfl) (Progress.equals_notMem_of_levelOf hl)
  rw [hwhole, Text.toOffset?_append] at htarget
  rw [Progress.levelOf_word] at hl
  obtain rfl := Except.ok.inj hl
  obtain ⟨hspan, hfields⟩ := hp
  rw [Directive.mk.injEq]
  exact ⟨htarget, hspan, hfields, rfl⟩

/-- A target made of path characters is read as it is written. -/
theorem ofText_of_path {target : List Char} (hne : target ≠ [])
    (hpath : ∀ c ∈ target, isPathChar c = true) (l : Level) :
    Directive.ofText (target ++ '=' :: l.word.toList)
      = .ok ⟨some (String.ofList target), none, [], l⟩ := by
  obtain ⟨c, rest, rfl⟩ := List.exists_cons_of_ne_nil hne
  obtain ⟨hblank, hmeans, hbegins⟩ := of_isPathChar (hpath c List.mem_cons_self)
  have hbracket : c ≠ '[' := by
    rintro rfl
    simp at hmeans
  have htrim : Text.trim ((c :: rest) ++ '=' :: l.word.toList)
      = (c :: rest) ++ '=' :: l.word.toList := by
    rw [trim_rule, List.dropWhile_cons_of_neg (by simp [hblank])]
  obtain ⟨text, htext⟩ : ∃ text, text = (c :: rest) ++ '=' :: l.word.toList := ⟨_, rfl⟩
  rw [Directive.ofText, htrim, ← htext]
  have htarget : Progress.walk text ⟨.start, .ofLevel .trace⟩ 0 (c :: rest)
      = .ok ⟨.levelOrTarget 0, .ofLevel .trace⟩ := by
    rw [Progress.walk, Progress.step]
    simp only [if_neg hbracket]
    rw [if_pos (by tauto)]
    exact Progress.walk_levelOrTarget fun c' hc' =>
      (of_isPathChar (hpath c' (List.mem_cons_of_mem c hc'))).2.1
  have hequals : Progress.step text ⟨.levelOrTarget 0, .ofLevel .trace⟩ (byteLength (c :: rest)) '='
      = .ok ⟨.level (byteLength (c :: rest) + 1),
          ⟨some (String.ofList (c :: rest)), none, [], .trace⟩⟩ := by
    rw [Progress.step]
    simp only [if_true, Text.piece?_zero]
    rw [htext, Text.toOffset?_append]
    rfl
  have hlevel : fromOffset? (byteLength (c :: rest) + 1) text = some l.word.toList := by
    rw [htext, fromOffset?_equals]
  have hwalk : Progress.walk text ⟨.start, .ofLevel .trace⟩ 0 text
      = .ok ⟨.level (byteLength (c :: rest) + 1),
          ⟨some (String.ofList (c :: rest)), none, [], .trace⟩⟩ := by
    conv => lhs; arg 4; rw [htext]
    rw [Progress.walk_append htarget, Nat.zero_add, Progress.walk, hequals]
    exact Progress.walk_level fun hmem => (Level.plain_of_mem_word hmem).2.1 rfl
  rw [hwalk]
  simp only [Progress.finish, hlevel]
  show (Progress.levelOf l.word.toList).bind _ = _
  rw [Progress.levelOf_word]
  rfl

end Directive

end ServiceKit.Logging
