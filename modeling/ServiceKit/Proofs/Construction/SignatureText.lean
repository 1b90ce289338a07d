import Mathlib.Data.List.Basic
import ServiceKit.Construction.Samples
import ServiceKit.Proofs.Construction.History
import ServiceKit.Text.Occurrence

/-!
Parameter types as texts list them. Names that are not empty and do not hold the separator can be
read back from the list, whatever else they hold: no separator starts inside a name, not even where
the name ends as a separator begins. So whatever shows a signature tells the names in it.
-/

namespace ServiceKit.Text

variable {u v : Char} {a b x y : List Char}

/-- No separator starts in a text that holds none, where another one or the end is behind it. -/
theorem eq_nil_of_separator (huv : u ≠ v) (ha : ¬ [u, v] <:+: a) (hy : y = [] ∨ [u, v] <+: y)
    (h : a ++ y = [] ∨ [u, v] <+: a ++ y) : a = [] := by
  rcases a with _ | ⟨c, _ | ⟨d, a⟩⟩
  · rfl
  · -- The separator would begin with the last character of the text.
    rcases h with h | ⟨more, h⟩
    · cases h
    obtain ⟨rfl, hrest⟩ := List.cons.inj h
    rcases hy with rfl | ⟨more', rfl⟩
    · cases hrest
    · exact absurd (List.cons.inj hrest).1.symm huv
  · rcases h with h | ⟨more, h⟩
    · cases h
    obtain ⟨rfl, hrest⟩ := List.cons.inj h
    obtain ⟨rfl, -⟩ := List.cons.inj hrest
    exact absurd (List.prefix_append [u, v] a).isInfix ha

/-- Texts that hold no separator are told apart from what is behind them, when that is a separator or
the end. -/
theorem append_inj_of_separator (huv : u ≠ v) (ha : ¬ [u, v] <:+: a) (hb : ¬ [u, v] <:+: b)
    (hx : x = [] ∨ [u, v] <+: x) (hy : y = [] ∨ [u, v] <+: y) (h : a ++ x = b ++ y) :
    a = b ∧ x = y := by
  rcases List.append_eq_append_iff.mp h with ⟨c, rfl, rfl⟩ | ⟨c, rfl, rfl⟩
  · have hc := eq_nil_of_separator huv (fun hc => hb (hc.trans List.infix_append_right)) hy hx
    rw [hc, List.append_nil, List.nil_append]
    exact ⟨rfl, rfl⟩
  · have hc := eq_nil_of_separator huv (fun hc => ha (hc.trans List.infix_append_right)) hx hy
    rw [hc, List.append_nil, List.nil_append]
    exact ⟨rfl, rfl⟩

def behindFirst (separator : List Char) : List (List Char) → List Char
  | [] => []
  | a :: l => separator ++ separator.intercalate (a :: l)

theorem intercalate_cons_eq (separator a : List Char) (l : List (List Char)) :
    separator.intercalate (a :: l) = a ++ behindFirst separator l := by
  cases l with
  | nil => simp [behindFirst]
  | cons b l => rw [List.intercalate_cons_cons, behindFirst, List.append_assoc]

theorem behindFirst_cases (separator : List Char) (l : List (List Char)) :
    behindFirst separator l = [] ∨ separator <+: behindFirst separator l := by
  cases l with
  | nil => exact .inl rfl
  | cons a l => exact .inr (List.prefix_append _ _)

def Unbroken (separator a : List Char) : Prop := a ≠ [] ∧ ¬ separator <:+: a

theorem intercalate_ne_nil {separator : List Char} (ha : Unbroken separator a)
    (l : List (List Char)) : separator.intercalate (a :: l) ≠ [] := by
  rw [intercalate_cons_eq]
  exact List.append_ne_nil_of_left_ne_nil ha.1 _

/-- A list of such texts is told by them joined, the empty list too. -/
theorem intercalate_inj (huv : u ≠ v) {l m : List (List Char)} (hl : ∀ a ∈ l, Unbroken [u, v] a)
    (hm : ∀ a ∈ m, Unbroken [u, v] a)
    (h : [u, v].intercalate l = [u, v].intercalate m) : l = m := by
  induction l generalizing m with
  | nil =>
    cases m with
    | nil => rfl
    | cons b m => exact absurd h.symm (intercalate_ne_nil (hm b List.mem_cons_self) m)
  | cons a l ih =>
    cases m with
    | nil => exact absurd h (intercalate_ne_nil (hl a List.mem_cons_self) l)
    | cons b m =>
      obtain ⟨ha, hmore⟩ := List.forall_mem_cons.mp hl
      obtain ⟨hb, hmore'⟩ := List.forall_mem_cons.mp hm
      rw [intercalate_cons_eq, intercalate_cons_eq] at h
      obtain ⟨rfl, hbehind⟩ := append_inj_of_separator huv ha.2 hb.2
        (behindFirst_cases _ l) (behindFirst_cases _ m) h
      -- Behind the first text both lists end, or both go on.
      cases l with
      | nil =>
        cases m with
        | nil => rfl
        | cons c m => cases hbehind
      | cons d l =>
        cases m with
        | nil => cases hbehind
        | cons c m =>
          have hsame : d :: l = c :: m := ih hmore hmore' (List.append_cancel_left hbehind)
          rw [hsame]

end ServiceKit.Text

namespace ServiceKit.Construction

variable {Ty : Type} [Family Ty] {l m : List Ty}

/-- The name of the type can stand in a list of parameters: it is not empty and does not hold what
separates the names there. -/
def Listable (t : Ty) : Prop := Family.name t ≠ "" ∧ ¬ ", ".toList <:+: (Family.name t).toList

theorem Listable.unbroken {t : Ty} (h : Listable t) :
    Text.Unbroken [',', ' '] (Family.name t).toList :=
  ⟨fun hnil => h.1 (String.toList_eq_nil_iff.mp hnil), h.2⟩

theorem toList_renderSignature (l : List Ty) :
    (renderSignature l).toList = [',', ' '].intercalate ((l.map Family.name).map String.toList) := by
  rw [renderSignature, String.toList_intercalate]
  rfl

theorem renderSignature_eq_iff (hl : ∀ t ∈ l, Listable t) (hm : ∀ t ∈ m, Listable t) :
    renderSignature l = renderSignature m ↔ l.map Family.name = m.map Family.name := by
  have hunbroken {k : List Ty} (hk : ∀ t ∈ k, Listable t) :
      ∀ a ∈ (k.map Family.name).map String.toList, Text.Unbroken [',', ' '] a := by
    intro a ha
    obtain ⟨name, hname, rfl⟩ := List.mem_map.mp ha
    obtain ⟨t, ht, rfl⟩ := List.mem_map.mp hname
    exact (hk t ht).unbroken
  constructor
  · intro h
    rw [← String.toList_inj, toList_renderSignature, toList_renderSignature] at h
    have hnames := Text.intercalate_inj (by decide) (hunbroken hl) (hunbroken hm) h
    exact List.map_injective_iff.mpr (fun _ _ => String.toList_injective) hnames
  · intro h
    rw [renderSignature, renderSignature, h]

theorem enclosed_eq_iff (before after : String) :
    before ++ renderSignature l ++ after = before ++ renderSignature m ++ after ↔
      renderSignature l = renderSignature m :=
  (String.append_left_inj after).trans (String.append_right_inj before)

variable [DecidableEq Ty]

theorem Factory.eq_undeclared_of_resolve {declared : Ty → List (Constructor Ty)} {f : Factory Ty}
    {target : Ty} {e : ConstructionError Ty}
    (h : (f.resolve declared target l).result = .error e) : e = .undeclared target l := by
  let k : Key Ty := ⟨target, l⟩
  have hk : (f.resolve declared k.target k.signature).result = .error e := h
  cases hlookup : f.lookup? k with
  | some found =>
    rw [resolve_of_kept hlookup] at hk
    cases hk
  | none =>
    cases hsearch : search declared k with
    | some c =>
      rw [resolve_of_found hlookup hsearch] at hk
      cases hk
    | none =>
      rw [resolve_of_undeclared hlookup hsearch] at hk
      cases hk
      rfl

/-- Lists of parameter types whose names can stand in a list have one text exactly if they are lists
of the same names. So for one target the text of its key, of the failure to find a constructor and of
the refusal to call one each tell the names of the parameters, in number and in order. -/
theorem signature_of_text (hl : ∀ t ∈ l, Listable t) (hm : ∀ t ∈ m, Listable t) :
    let sameNames := l.map Family.name = m.map Family.name
    (renderSignature l = renderSignature m ↔ sameNames) ∧
      (∀ target, Key.render ⟨target, l⟩ = Key.render ⟨target, m⟩ ↔ sameNames) ∧
      (∀ declared target (f g : Factory Ty) e e',
        (f.resolve declared target l).result = .error e →
          (g.resolve declared target m).result = .error e' →
            (e.message = e'.message ↔ sameNames)) ∧
      ∀ (c d : Constructor Ty) a b, c.target = d.target → c.signature = l → d.signature = m →
        c.visibility = .factoryOnly → d.visibility = .factoryOnly →
          ∃ e e', c.call a = .error e ∧ d.call b = .error e' ∧
            (e.message = e'.message ↔ sameNames) := by
  intro sameNames
  have hnames := renderSignature_eq_iff hl hm
  refine ⟨hnames, fun target => ?_, ?_, ?_⟩
  · exact (enclosed_eq_iff (Family.name target ++ "(") ")").trans hnames
  · intro declared target f g e e' hf hg
    rw [Factory.eq_undeclared_of_resolve hf, Factory.eq_undeclared_of_resolve hg]
    exact (enclosed_eq_iff ("no constructor " ++ Family.name target ++ "(") ")").trans hnames
  · rintro c d a b htarget rfl rfl hc hd
    refine ⟨_, _, Constructor.call_of_factoryOnly hc a, Constructor.call_of_factoryOnly hd b, ?_⟩
    rw [htarget]
    exact (enclosed_eq_iff ("constructor " ++ Family.name d.target ++ "(") ") is not public").trans
      hnames

theorem Sample.listable (t : Sample) : Listable t := by
  have hname : Family.name t ≠ "" := by cases t <;> decide
  have hplain : Text.occursIn ", ".toList (Family.name t).toList = false := by cases t <;> decide
  refine ⟨hname, fun h => ?_⟩
  rw [(Text.occursIn_iff _ _).mpr h] at hplain
  cases hplain

/-- Two signatures of which one goes on where the other ends, neither of them declared. -/
theorem signature_of_text_samples :
    let long := [Sample.unit, .textSlice]
    let short := [Sample.unit]
    (∀ t ∈ long, Listable t) ∧ (∀ t ∈ short, Listable t) ∧
      renderSignature long = "(), &str" ∧ renderSignature long ≠ renderSignature short ∧
      (∀ target, Key.render ⟨target, long⟩ ≠ Key.render ⟨target, short⟩) ∧
      ∃ e e', (Factory.empty.resolve Sample.declared .peer long).result = .error e ∧
        (Factory.empty.resolve Sample.declared .peer short).result = .error e' ∧
        e.message ≠ e'.message := by
  intro long short
  have hlong : ∀ t ∈ long, Listable t := fun t _ => t.listable
  have hshort : ∀ t ∈ short, Listable t := fun t _ => t.listable
  have hnames : long.map Family.name ≠ short.map Family.name := by decide
  obtain ⟨htext, hkey, hsearch, -⟩ := signature_of_text hlong hshort
  refine ⟨hlong, hshort, by rfl, mt htext.mp hnames, fun target => mt (hkey target).mp hnames,
    .undeclared .peer long, .undeclared .peer short, rfl, rfl, ?_⟩
  exact mt (hsearch Sample.declared .peer .empty .empty _ _ rfl rfl).mp hnames

end ServiceKit.Construction
