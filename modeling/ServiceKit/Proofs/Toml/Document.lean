import ServiceKit.Proofs.Toml.Keys
import ServiceKit.Toml.Grammar

/-!
The values that a document's text is read as. A list or a table on one line is made of values that
were read before it, every other value is plain; so each key of each table of a document stands
once.
-/

namespace ServiceKit.Toml

open Value (Keyed IsPlain)

variable {α β : Type} {P : α → Prop}

/-- What the scanner takes off the front of a text has the property, whatever the text. -/
def Yields (P : α → Prop) (scan : Scanner α) : Prop :=
  ∀ ⦃cs a rest⦄, scan cs = some (a, rest) → P a

namespace Yields

variable {scan scan' : Scanner α}

theorem of_some {a b : α} {rest last : List Char} (hb : P b) (h : some (b, last) = some (a, rest)) :
    P a := by
  obtain ⟨rfl, -⟩ := Prod.mk.inj (Option.some.inj h)
  exact hb

/-- A result that is handed on with what is left of the text. -/
theorem of_bind {o : Option α} {a : α} {rest last : List Char} (ho : ∀ b, o = some b → P b)
    (h : (o.bind fun b => some (b, last)) = some (a, rest)) : P a := by
  obtain ⟨b, hb, h⟩ := Option.bind_eq_some_iff.mp h
  exact of_some (ho b hb) h

theorem of_map {o : Option β} {f : β → α × List Char} {a : α} {rest : List Char}
    (h : o.map f = some (a, rest)) (ho : ∀ b, o = some b → P (f b).1) : P a := by
  obtain ⟨b, hb, hf⟩ := Option.map_eq_some_iff.mp h
  have hp := ho b hb
  rwa [hf] at hp

theorem or (h : Yields P scan) (h' : Yields P scan') :
    Yields P fun cs => (scan cs).or (scan' cs) := by
  intro cs a rest hs
  rcases Option.or_eq_some_iff.mp hs with hs | ⟨-, hs⟩
  · exact h hs
  · exact h' hs

theorem separated {item : Scanner α} (h : Yields P item) (cs : List Char) :
    ∀ a ∈ (Toml.separated item cs).1, P a := by
  induction cs using separated.induct item with
  | case1 cs hnone =>
    rw [Toml.separated, hnone]
    simp
  | case2 cs a rest hitem hlt last hnil ih =>
    rw [Toml.separated, hitem]
    simp only [hlt, if_true, hnil, List.mem_singleton, forall_eq]
    exact h hitem
  | case3 cs a rest hitem hlt as last hne hmore ih =>
    rw [Toml.separated, hitem]
    simp only [hlt, if_true, hmore] at ih ⊢
    exact List.forall_mem_cons.mpr ⟨h hitem, ih⟩
  | case4 cs a rest hitem hge =>
    rw [Toml.separated, hitem]
    simp only [hge, if_false, List.mem_singleton, forall_eq]
    exact h hitem
  | case5 cs a rest hcomma hitem =>
    rw [Toml.separated, hitem]
    have hlast : rest.head? ≠ some ',' := by
      intro hhead
      obtain ⟨more, rfl⟩ := List.head?_eq_some_iff.mp hhead
      exact hcomma more rfl
    split
    · cases ‹some _ = none›
    · obtain ⟨rfl, rfl⟩ := Prod.mk.inj (Option.some.inj ‹some (a, rest) = some (_, ',' :: _)›)
      exact absurd rfl hlast
    · obtain ⟨rfl, rfl⟩ := Prod.mk.inj (Option.some.inj ‹some (a, rest) = some _›)
      exact List.forall_mem_singleton.mpr (h hitem)

end Yields

/-! ### Plain values -/

theorem isPlain_of_floatOf {written : List Char} {v : Value} (h : floatOf? written = some v) :
    v.IsPlain := by
  unfold floatOf? at h
  split at h
  · cases h
  · obtain ⟨x, -, rfl⟩ := Option.map_eq_some_iff.mp h
    trivial

theorem isPlain_of_integerOf {written : List Char} {v : Value} (h : integerOf? written = some v) :
    v.IsPlain := by
  unfold integerOf? at h
  split at h
  · obtain rfl := Option.some.inj h
    trivial
  · cases h

theorem yields_decimal : Yields IsPlain decimal? := by
  intro cs v rest h
  unfold decimal? at h
  obtain ⟨⟨whole, behind⟩, -, h⟩ := Option.bind_eq_some_iff.mp h
  dsimp only at h
  split at h
  · obtain ⟨⟨fraction, behind⟩, -, h⟩ := Option.bind_eq_some_iff.mp h
    obtain ⟨⟨exponent, behind⟩, -, h⟩ := Option.bind_eq_some_iff.mp h
    exact Yields.of_bind (fun _ => isPlain_of_floatOf) h
  · obtain ⟨⟨exponent, behind⟩, -, h⟩ := Option.bind_eq_some_iff.mp h
    cases exponent with
    | some e => exact Yields.of_bind (fun _ => isPlain_of_floatOf) h
    | none => exact Yields.of_bind (fun _ => isPlain_of_integerOf) h

theorem yields_based (base : Nat) (isDigit : Char → Bool) (value : Char → Nat) :
    Yields IsPlain (based? base isDigit value) := by
  intro cs v rest h
  obtain ⟨⟨ds, last⟩, -, h⟩ := Option.bind_eq_some_iff.mp h
  dsimp only at h
  split at h
  · exact Yields.of_some (by trivial) h
  · cases h

theorem yields_special : Yields IsPlain special? := by
  intro cs v rest h
  unfold special? at h
  dsimp only at h
  split at h
  · exact Yields.of_some (by trivial) h
  · exact Yields.of_some (by trivial) h
  · cases h

theorem yields_number : Yields IsPlain number? := by
  intro cs v rest h
  unfold number? at h
  split at h
  · exact yields_based 16 isHexDigit digitOf h
  · exact yields_based 8 isOctalDigit digitOf h
  · exact yields_based 2 isBinaryDigit digitOf h
  · exact yields_special.or yields_decimal h

theorem yields_moment : Yields IsPlain moment? := by
  intro cs v rest h
  exact Yields.of_map h fun _ _ => trivial

theorem yields_word : Yields IsPlain word? := by
  intro cs v rest h
  unfold word? at h
  split at h
  · exact Yields.of_some (by trivial) h
  · exact Yields.of_some (by trivial) h
  · cases h

/-! ### Lists, tables, and all values -/

theorem yields_keyValue {value : Scanner Value} (h : Yields Keyed value) :
    Yields (·.2.Keyed) (keyValue? value) := by
  intro cs e rest hs
  obtain ⟨⟨path, behind⟩, -, hs⟩ := Option.bind_eq_some_iff.mp hs
  obtain ⟨start, -, hs⟩ := Option.bind_eq_some_iff.mp hs
  obtain ⟨⟨v, last⟩, hv, hs⟩ := Option.bind_eq_some_iff.mp hs
  exact Yields.of_some (P := fun e : List String × Value => e.2.Keyed) (h hv) hs

theorem yields_listBody {value : Scanner Value} (h : Yields Keyed value) :
    Yields Keyed (listBody? value) := by
  intro cs v rest hs
  refine Yields.of_map hs fun last _ => .list ?_
  refine Yields.separated (fun cs w last hw => ?_) cs
  exact Yields.of_map hw fun _ hv => h hv

theorem yields_inlineBody {value : Scanner Value} (h : Yields Keyed value) :
    Yields Keyed (inlineBody? value) := by
  intro cs v rest hs
  obtain ⟨last, -, hs⟩ := Option.bind_eq_some_iff.mp hs
  refine Yields.of_bind (fun _ => keyed_inlineTable (Yields.separated ?_ cs)) hs
  intro cs e last he
  exact Yields.of_map (P := fun d => d.2.Keyed) he fun _ hd => yields_keyValue h hd

theorem yields_value (depth : Nat) : Yields Keyed (value? depth) := by
  induction depth using Nat.strongRecOn with
  | ind depth ih =>
    intro cs v rest h
    unfold value? at h
    split at h
    · cases h
    · cases h
    · rename_i inner _
      exact yields_listBody (ih inner inner.lt_succ_self) h
    · rename_i inner _
      exact yields_inlineBody (ih inner inner.lt_succ_self) h
    · exact Yields.of_map h fun _ _ => .plain trivial
    · exact Yields.of_map h fun _ _ => .plain trivial
    · exact .plain ((yields_moment.or yields_number).or yields_word h)

/-! ### Statements and documents -/

theorem yields_statement : Yields Statement.Keyed statement? := by
  intro cs s rest h
  unfold statement? at h
  split at h
  · obtain ⟨⟨path, behind⟩, -, h⟩ := Option.bind_eq_some_iff.mp h
    obtain ⟨behind, -, h⟩ := Option.bind_eq_some_iff.mp h
    obtain ⟨behind, -, h⟩ := Option.bind_eq_some_iff.mp h
    obtain ⟨last, -, h⟩ := Option.bind_eq_some_iff.mp h
    exact Yields.of_some (by trivial) h
  · obtain ⟨⟨path, behind⟩, -, h⟩ := Option.bind_eq_some_iff.mp h
    obtain ⟨behind, -, h⟩ := Option.bind_eq_some_iff.mp h
    obtain ⟨last, -, h⟩ := Option.bind_eq_some_iff.mp h
    exact Yields.of_some (by trivial) h
  · obtain ⟨⟨⟨path, v⟩, behind⟩, he, h⟩ := Option.bind_eq_some_iff.mp h
    obtain ⟨last, -, h⟩ := Option.bind_eq_some_iff.mp h
    have hv : (Statement.assign path v).Keyed := yields_keyValue (yields_value _) he
    exact Yields.of_some hv h

theorem keyed_statements {cs : List Char} {ss : List Statement} (h : statements? cs = some ss) :
    ∀ s ∈ ss, s.Keyed := by
  induction cs using statements?.induct generalizing ss with
  | case1 cs hend =>
    rw [statements?, hend] at h
    obtain rfl := Option.some.inj h
    simp
  | case2 cs c rest hcs hc hline =>
    rw [statements?, hcs] at h
    simp only [hc, hline, if_true, reduceCtorEq] at h
  | case3 cs c rest hcs hc last hline hlt ih =>
    rw [statements?, hcs] at h
    simp only [hc, hline, hlt, if_true] at h
    exact ih h
  | case4 cs c rest hcs hc last hline hge =>
    rw [statements?, hcs] at h
    simp only [hc, hline, hge, if_true, if_false, reduceCtorEq] at h
  | case5 cs c rest hcs hc hnone =>
    rw [statements?, hcs] at h
    simp only [hc, hnone, if_false, reduceCtorEq] at h
  | case6 cs c rest hcs hc s last hs hlt ih =>
    rw [statements?, hcs] at h
    simp only [hc, hs, hlt, if_true, if_false] at h
    obtain ⟨more, hmore, rfl⟩ := Option.map_eq_some_iff.mp h
    exact List.forall_mem_cons.mpr ⟨yields_statement hs, ih hmore⟩
  | case7 cs c rest hcs hc s last hs hge =>
    rw [statements?, hcs] at h
    simp only [hc, hs, hge, if_false, reduceCtorEq] at h

/-- Whatever text a document is read from, each key of each of its tables stands once. -/
theorem keyed_document {text : String} {d : List (String × Value)}
    (h : document? text = some d) : (Value.table d).Keyed := by
  obtain ⟨ss, hss, h⟩ := Option.bind_eq_some_iff.mp h
  exact keyed_assemble (keyed_statements hss) h

end ServiceKit.Toml
