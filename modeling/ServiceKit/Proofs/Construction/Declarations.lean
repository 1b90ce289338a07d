import Mathlib.Logic.Relation
import ServiceKit.Proofs.Construction.Matching
import ServiceKit.Proofs.Construction.Transparency
import ServiceKit.Proofs.Success

/-!
Which constructor a list of declarations leads to. It is the first one that builds the target from
exactly the parameters asked for. Declarations of other things may come and go around it, others of
the same may follow it, and it does not matter who may call any of them.
-/

namespace ServiceKit.Construction

variable {Ty : Type} [Family Ty]

def Constructor.unsealed (c : Constructor Ty) : Constructor Ty := { c with visibility := .anyone }

def Constructor.Builds (c : Constructor Ty) (target : Ty) (signature : List Ty) : Prop :=
  c.target = target ∧ c.signature = signature

def Handle.unsealed (h : Handle Ty) : Handle Ty := { h with constructor := h.constructor.unsealed }

theorem Handle.map_unsealed (x : Except (ConstructionError Ty) (Constructor Ty)) (number : Nat) :
    (x.map fun c => (⟨c, number⟩ : Handle Ty)).map unsealed
      = (x.map Constructor.unsealed).map fun c => ⟨c, number⟩ := by
  cases x <;> rfl

/-- One more declaration that is of no account for the key: it builds something else, or it follows
one which builds the same. -/
inductive Insertion (k : Key Ty) : List (Constructor Ty) → List (Constructor Ty) → Prop
  | other (before after : List (Constructor Ty)) {c : Constructor Ty}
    (hc : ¬ c.Builds k.target k.signature) : Insertion k (before ++ after) (before ++ c :: after)
  | further {before : List (Constructor Ty)} (after : List (Constructor Ty)) {b c : Constructor Ty}
    (hb : b ∈ before) (h : b.Builds k.target k.signature) (hc : c.Builds k.target k.signature) :
    Insertion k (before ++ after) (before ++ c :: after)

/-- Such an insertion, or a declaration that is opened or closed to callers. -/
inductive Revision (k : Key Ty) : List (Constructor Ty) → List (Constructor Ty) → Prop
  | insert {cs ds : List (Constructor Ty)} (h : Insertion k cs ds) : Revision k cs ds
  | sealing (before after : List (Constructor Ty)) (c : Constructor Ty) (v : Visibility) :
    Revision k (before ++ c :: after) (before ++ { c with visibility := v } :: after)

variable [DecidableEq Ty]

namespace Constructor

variable {c d : Constructor Ty}

theorem run_unsealed (c : Constructor Ty) (a : Arguments Ty) : c.unsealed.run a = c.run a := by
  have hfit : c.unsealed.fit a = c.fit a := rfl
  cases h : c.fit a with
  | error e => rw [run_of_unfit h, run_of_unfit (hfit.trans h)]
  | ok u =>
    rw [run_of_fit h, run_of_fit (hfit.trans h)]
    change c.unsealed.conclude (c.body a).1 = c.conclude (c.body a).1
    cases (c.body a).1 <;> rfl

theorem run_of_unsealed (h : d.unsealed = c.unsealed) (a : Arguments Ty) : d.run a = c.run a := by
  rw [← run_unsealed d, h, run_unsealed]

end Constructor

namespace Factory

variable {k : Key Ty} {declared revised : Ty → List (Constructor Ty)}

theorem find?_of_insertion {cs ds : List (Constructor Ty)} (h : Insertion k cs ds) :
    ds.find? (·.answers k) = cs.find? (·.answers k) := by
  cases h with
  | other before after hc =>
    rw [List.find?_append, List.find?_append, List.find?_cons_of_neg]
    rwa [Constructor.answers_iff]
  | @further before after b c hb h hc =>
    have hfound : (before.find? (·.answers k)).isSome = true :=
      List.find?_isSome.mpr ⟨b, hb, Constructor.answers_iff.mpr h⟩
    obtain ⟨d, hd⟩ := Option.isSome_iff_exists.mp hfound
    rw [List.find?_append, List.find?_append, hd, Option.some_or, Option.some_or]

theorem find?_of_revision {cs ds : List (Constructor Ty)} (h : Revision k cs ds) :
    (ds.find? (·.answers k)).map Constructor.unsealed
      = (cs.find? (·.answers k)).map Constructor.unsealed := by
  cases h with
  | insert h => rw [find?_of_insertion h]
  | sealing before after c v =>
    have hanswers : ({ c with visibility := v } : Constructor Ty).answers k = c.answers k := rfl
    rw [List.find?_append, List.find?_append, List.find?_cons, List.find?_cons, hanswers]
    cases before.find? (·.answers k) <;> cases c.answers k <;> rfl

/-- Insertions do not change what a search finds, so they do not change what is resolved. -/
theorem resolve_of_insertions (f : Factory Ty)
    (h : Relation.ReflTransGen (Insertion k) (declared k.target) (revised k.target)) :
    f.resolve revised k.target k.signature = f.resolve declared k.target k.signature := by
  have hfind {cs ds : List (Constructor Ty)} (h : Relation.ReflTransGen (Insertion k) cs ds) :
      ds.find? (·.answers k) = cs.find? (·.answers k) := by
    induction h with
    | refl => rfl
    | tail _ hlast ih => exact (find?_of_insertion hlast).trans ih
  have hsearch : search revised k = search declared k := hfind h
  simp only [resolve, hsearch]

/-- Revisions leave a search with the same constructor, but for who may call it. -/
theorem find?_of_revisions {cs ds : List (Constructor Ty)}
    (h : Relation.ReflTransGen (Revision k) cs ds) :
    (ds.find? (·.answers k)).map Constructor.unsealed
      = (cs.find? (·.answers k)).map Constructor.unsealed := by
  induction h with
  | refl => rfl
  | tail _ hlast ih => exact (find?_of_revision hlast).trans ih

theorem select_of_revisions
    (h : Relation.ReflTransGen (Revision k) (declared k.target) (revised k.target)) :
    (select revised k).map Constructor.unsealed = (select declared k).map Constructor.unsealed := by
  have hsearch : (search revised k).map Constructor.unsealed
      = (search declared k).map Constructor.unsealed := find?_of_revisions h
  unfold select
  cases hd : search declared k with
  | none =>
    rw [hd, Option.map_none, Option.map_eq_none_iff] at hsearch
    rw [hsearch]
  | some c =>
    rw [hd, Option.map_some, Option.map_eq_some_iff] at hsearch
    obtain ⟨d, hr, hdc⟩ := hsearch
    rw [hr]
    exact congrArg Except.ok hdc

theorem bind_run_unsealed (x : Except (ConstructionError Ty) (Constructor Ty)) (a : Arguments Ty) :
    (x.map Constructor.unsealed).bind (·.run a) = x.bind (·.run a) := by
  cases x with
  | error e => rfl
  | ok c => exact c.run_unsealed a

theorem search_eq_some {c : Constructor Ty} (h : search declared k = some c) :
    ∃ before after, declared k.target = before ++ c :: after ∧ c.Builds k.target k.signature ∧
      ∀ b ∈ before, ¬ b.Builds k.target k.signature := by
  obtain ⟨hc, before, after, hsplit, hbefore⟩ := List.find?_eq_some_iff_append.mp h
  refine ⟨before, after, hsplit, Constructor.answers_iff.mp hc, fun b hb hbuilds => ?_⟩
  have hnot := hbefore b hb
  rw [Constructor.answers_iff.mpr hbuilds] at hnot
  contradiction

theorem search_eq_none_iff :
    search declared k = none ↔ ∀ c ∈ declared k.target, ¬ c.Builds k.target k.signature := by
  simp only [search, List.find?_eq_none, Constructor.answers_iff, Constructor.Builds]

theorem exists_select_iff :
    (∃ c, select declared k = .ok c) ↔
      ∃ c ∈ declared k.target, c.Builds k.target k.signature := by
  simp only [select_eq_ok]
  rw [← Option.isSome_iff_exists, search, List.find?_isSome]
  simp only [Constructor.answers_iff, Constructor.Builds]

/-- A factory that keeps nothing hands out what the key comes to, under the number of its search. -/
theorem result_of_nil {f : Factory Ty} (hf : f.cache = []) (k : Key Ty) :
    (f.resolve declared k.target k.signature).result
      = (select declared k).map fun c => ⟨c, f.resolutions⟩ := by
  have hl : f.lookup? k = none := lookup?_of_nil hf k
  unfold select
  cases hs : search declared k with
  | none => rw [resolve_of_undeclared hl hs]; rfl
  | some c => rw [resolve_of_found hl hs]; rfl

/-- What strays declare is put in front, among it a constructor of peers from a flag, and all doors
are closed: a twin from a flag is still what the first of its own constructors builds. -/
example :
    let revised : Sample → List (Constructor Sample) := fun t =>
      Sample.strayConstructors ++
        (Sample.declared t).map fun c => { c with visibility := .factoryOnly }
    (empty.build revised .twin [.bool] (.ofList [⟨.bool, true⟩])).result
      = .ok ⟨.twin, "first"⟩ :=
  rfl

end Factory

end ServiceKit.Construction
