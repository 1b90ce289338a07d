import Mathlib.Data.List.Nodup
import ServiceKit.Proofs.Logging.Order

/-!
What a filter holds for each thing that can be said, whatever the level. Adding a directive for a
target alone, or for everything, puts it in the place of the one held so far, and leaves alone what
is held for anything else.
-/

namespace ServiceKit.Logging

structure Scope where
  target : Option String
  span : Option String
  fields : List FieldMatch
  deriving DecidableEq

namespace Scope

def ofTarget (target : String) : Scope := ⟨some target, none, []⟩

/-- Whether neither spans nor fields matter. -/
def Plain (s : Scope) : Prop := s.span = none ∧ s.fields = []

theorem plain_ofTarget (target : String) : (ofTarget target).Plain := ⟨rfl, rfl⟩

end Scope

namespace Directive

def scope (d : Directive) : Scope := ⟨d.target, d.span, d.fields⟩

theorem compare_congr {d d' e e' : Directive} (hd : d.scope = d'.scope) (he : e.scope = e'.scope) :
    d.compare e = d'.compare e' := by
  cases d
  cases d'
  cases e
  cases e'
  cases hd
  cases he
  rfl

theorem isDynamic_congr {d d' : Directive} (hd : d.scope = d'.scope) :
    d.isDynamic = d'.isDynamic := by
  cases d
  cases d'
  cases hd
  rfl

theorem any_isSome_of_tie {fs gs : List FieldMatch}
    (h : compareLists FieldMatch.compare fs gs = .eq) :
    (fs.any fun f => f.value.isSome) = gs.any fun f => f.value.isSome := by
  induction fs generalizing gs with
  | nil =>
    cases gs with
    | nil => rfl
    | cons g gs => contradiction
  | cons f fs ih =>
    cases gs with
    | nil => contradiction
    | cons g gs =>
      rw [compareLists, Ordering.then_eq_eq] at h
      obtain ⟨hfg, hrest⟩ := h
      simp only [FieldMatch.compare, Ordering.then_eq_eq, Std.LawfulEqOrd.compare_eq_iff_eq] at hfg
      rw [List.any_cons, List.any_cons, hfg.1.1, ih hrest]

theorem isDynamic_of_tie {d e : Directive} (h : d.compare e = .eq) :
    d.isDynamic = e.isDynamic := by
  simp only [compare, Ordering.then_eq_eq, Std.LawfulEqOrd.compare_eq_iff_eq] at h
  obtain ⟨⟨⟨⟨⟨-, hspan⟩, -⟩, -⟩, -⟩, hfields⟩ := h
  rw [isDynamic, isDynamic, hspan, any_isSome_of_tie hfields]

theorem tie_of_scope_eq {d e : Directive} (h : e.scope = d.scope) : d.compare e = .eq := by
  rw [compare_congr rfl h]
  exact Std.ReflCmp.compare_self

/-- A directive for a target alone, or for everything, ties only with those of its own scope. -/
theorem compare_eq_iff_of_plain {d e : Directive} (h : d.scope.Plain) :
    d.compare e = .eq ↔ e.scope = d.scope := by
  constructor
  · obtain ⟨target, span, fields, level⟩ := d
    obtain ⟨rfl, rfl⟩ : span = none ∧ fields = [] := h
    obtain ⟨target', span', fields', level'⟩ := e
    intro hc
    simp only [compare, Ordering.then_eq_eq] at hc
    obtain ⟨⟨⟨-, htarget⟩, hspan⟩, hfields⟩ := hc
    have ht : target' = target := by
      cases target <;> cases target' <;> simp_all [compareOptional]
    have hs : span' = none := by
      cases span' with
      | none => rfl
      | some s => contradiction
    have hf : fields' = [] := by
      cases fields' with
      | nil => rfl
      | cons f fs => contradiction
    rw [scope, scope, ht, hs, hf]
  · exact tie_of_scope_eq

end Directive

/-- From the most specific directive to the least, no two of them about the same. -/
def Descending (ds : List Directive) : Prop := ds.Pairwise fun d e => d.compare e = .gt

section Insertion

variable {d : Directive} {ds : List Directive}

/-- A directive takes its place between the less specific ones and the more specific ones. Those it
ties with make way for it. -/
theorem Descending.exists_split (h : Descending ds) (d : Directive) :
    ∃ above tied below, ds = above ++ tied ++ below ∧
      insertDirective d ds = above ++ d :: below ∧
      (∀ x ∈ above, d.compare x = .lt) ∧ (∀ x ∈ tied, d.compare x = .eq) ∧
      ∀ x ∈ below, d.compare x = .gt := by
  induction ds with
  | nil => exact ⟨[], [], [], rfl, rfl, by simp, by simp, by simp⟩
  | cons e rest ih =>
    obtain ⟨he, hrest⟩ := List.pairwise_cons.mp h
    rw [insertDirective]
    split
    · rename_i hde
      refine ⟨[], [], e :: rest, rfl, rfl, by simp, by simp, fun x hx => ?_⟩
      rcases List.mem_cons.mp hx with rfl | hx
      · exact hde
      · exact Std.TransCmp.gt_trans hde (he x hx)
    · rename_i hde
      exact ⟨[], [e], rest, rfl, rfl, by simp, by simpa using hde,
        fun x hx => Std.TransCmp.gt_of_eq_of_gt hde (he x hx)⟩
    · rename_i hde
      obtain ⟨above, tied, below, hds, hins, habove, htied, hbelow⟩ := ih hrest
      refine ⟨e :: above, tied, below, by rw [hds]; rfl, by rw [hins]; rfl, ?_, htied, hbelow⟩
      exact List.forall_mem_cons.mpr ⟨hde, habove⟩

theorem mem_of_mem_insertDirective {x : Directive} (h : x ∈ insertDirective d ds) :
    x = d ∨ x ∈ ds := by
  induction ds with
  | nil => simpa [insertDirective] using h
  | cons e rest ih =>
    rw [insertDirective] at h
    split at h <;> grind

theorem Descending.insertDirective (h : Descending ds) : Descending (insertDirective d ds) := by
  obtain ⟨above, tied, below, hds, hins, habove, -, hbelow⟩ := h.exists_split d
  rw [hds, Descending, List.append_assoc, List.pairwise_append] at h
  obtain ⟨ha, hrest, hab⟩ := h
  have hb := (List.pairwise_append.mp hrest).2.1
  rw [hins, Descending, List.pairwise_append, List.pairwise_cons]
  refine ⟨ha, ⟨hbelow, hb⟩, fun x hx y hy => ?_⟩
  rcases List.mem_cons.mp hy with rfl | hy
  · exact Std.OrientedCmp.gt_iff_lt.mpr (habove x hx)
  · exact hab x hx y (List.mem_append_right tied hy)

/-- In a descending list a directive is the only one of its scope once it is in place, and of those
for another scope only the ones it ties with are gone. -/
theorem Descending.filter_insertDirective (h : Descending ds) (d : Directive) (s : Scope) :
    (Logging.insertDirective d ds).filter (·.scope = s) =
      if d.scope = s then [d] else (ds.filter (·.scope = s)).filter (d.compare · ≠ .eq) := by
  obtain ⟨above, tied, below, hds, hins, habove, htied, hbelow⟩ := h.exists_split d
  rw [hins, hds, List.filter_append]
  split
  · rename_i hs
    have hnone {l : List Directive} (hl : ∀ x ∈ l, d.compare x ≠ .eq) :
        l.filter (·.scope = s) = [] := by
      rw [List.filter_eq_nil_iff]
      intro x hx hxs
      rw [decide_eq_true_eq, ← hs] at hxs
      exact hl x hx (Directive.tie_of_scope_eq hxs)
    rw [hnone fun x hx => by simp [habove x hx], List.filter_cons_of_pos (by simpa using hs),
      hnone fun x hx => by simp [hbelow x hx]]
    rfl
  · rename_i hs
    have hall {l : List Directive} (hl : ∀ x ∈ l, d.compare x ≠ .eq) :
        (l.filter (·.scope = s)).filter (d.compare · ≠ .eq) = l.filter (·.scope = s) := by
      rw [List.filter_eq_self]
      intro x hx
      simpa using hl x (List.mem_of_mem_filter hx)
    have hgone : (tied.filter (·.scope = s)).filter (d.compare · ≠ .eq) = [] := by
      rw [List.filter_eq_nil_iff]
      intro x hx
      simpa using htied x (List.mem_of_mem_filter hx)
    rw [List.filter_cons_of_neg (by simpa using hs), List.filter_append, List.filter_append,
      List.filter_append, List.filter_append, hgone, hall fun x hx => by simp [habove x hx],
      hall fun x hx => by simp [hbelow x hx], List.append_nil]

theorem Descending.ext {es : List Directive} (hd : Descending ds) (he : Descending es)
    (h : ∀ x, x ∈ ds ↔ x ∈ es) : ds = es := by
  have hirrefl (x : Directive) : x.compare x ≠ .gt := by
    have hself : x.compare x = .eq := Std.ReflCmp.compare_self
    rw [hself]
    decide
  have hnodup {l : List Directive} (hl : Descending l) : l.Nodup := by
    refine hl.imp fun {x y} hxy hne => ?_
    rw [hne] at hxy
    exact hirrefl y hxy
  refine ((List.perm_ext_iff_of_nodup (hnodup hd) (hnodup he)).mpr h).eq_of_pairwise ?_ hd he
  intro x y _ _ hxy hyx
  exact absurd (Std.TransCmp.gt_trans hxy hyx) (hirrefl x)

end Insertion

namespace Filter

/-- Both parts descend, and each holds what belongs there. -/
structure Ordered (f : Filter) : Prop where
  statics : Descending f.statics
  dynamics : Descending f.dynamics
  static : ∀ d ∈ f.statics, d.isDynamic = false
  dynamic : ∀ d ∈ f.dynamics, d.isDynamic = true

def heldFor (f : Filter) (s : Scope) : List Directive :=
  (f.statics ++ f.dynamics).filter (·.scope = s)

variable {f g : Filter} {d : Directive}

theorem ordered_initial : Ordered initial where
  statics := List.pairwise_singleton _ _
  dynamics := .nil
  static := by simp [initial, Directive.ofLevel, Directive.isDynamic]
  dynamic := by simp [initial]

theorem Ordered.add (h : Ordered f) (d : Directive) : Ordered (f.add d) := by
  rw [Filter.add]
  split
  · rename_i hd
    refine { h with dynamics := h.dynamics.insertDirective, dynamic := fun x hx => ?_ }
    rcases mem_of_mem_insertDirective hx with rfl | hx
    · exact hd
    · exact h.dynamic x hx
  · rename_i hd
    refine { h with statics := h.statics.insertDirective, static := fun x hx => ?_ }
    rcases mem_of_mem_insertDirective hx with rfl | hx
    · simpa using hd
    · exact h.static x hx

theorem Ordered.addAll (h : Ordered f) (ds : List Directive) : Ordered (ds.foldl Filter.add f) := by
  induction ds generalizing f with
  | nil => exact h
  | cons d ds ih => exact ih (h.add d)

theorem mem_heldFor {s : Scope} {x : Directive} :
    x ∈ f.heldFor s ↔ (x ∈ f.statics ∨ x ∈ f.dynamics) ∧ x.scope = s := by
  simp only [heldFor, List.mem_filter, List.mem_append, decide_eq_true_eq]

/-- A directive takes the place of those it ties with, and is the only one of its scope. -/
theorem Ordered.heldFor_add (h : Ordered f) (d : Directive) (s : Scope) :
    (f.add d).heldFor s =
      if d.scope = s then [d] else (f.heldFor s).filter (d.compare · ≠ .eq) := by
  -- In the part where the directive does not belong nothing is of its scope or ties with it.
  have hapart (ds : List Directive) (hds : ∀ x ∈ ds, x.isDynamic ≠ d.isDynamic) :
      ds.filter (·.scope = s) =
        if d.scope = s then [] else (ds.filter (·.scope = s)).filter (d.compare · ≠ .eq) := by
    split
    · rename_i hs
      rw [List.filter_eq_nil_iff]
      intro x hx hxs
      rw [decide_eq_true_eq, ← hs] at hxs
      exact hds x hx (Directive.isDynamic_congr hxs)
    · symm
      rw [List.filter_eq_self]
      intro x hx
      have hxd := hds x (List.mem_of_mem_filter hx)
      simpa using fun htie => hxd (Directive.isDynamic_of_tie htie).symm
  rw [Filter.add]
  split
  · rename_i hd
    have hstatics := hapart f.statics fun x hx => by simp [hd, h.static x hx]
    simp only [heldFor, List.filter_append, h.dynamics.filter_insertDirective]
    split <;> rename_i hs
    · rw [hstatics, if_pos hs, List.nil_append]
    · rw [if_neg hs] at hstatics
      rw [← hstatics]
  · rename_i hd
    have hdynamics := hapart f.dynamics fun x hx => by simp [hd, h.dynamic x hx]
    simp only [heldFor, List.filter_append, h.statics.filter_insertDirective]
    split <;> rename_i hs
    · rw [hdynamics, if_pos hs, List.append_nil]
    · rw [if_neg hs] at hdynamics
      rw [← hdynamics]

/-- Of two scopes, one of them plain, each is left alone by a directive for the other. -/
theorem Ordered.heldFor_add_of_ne (h : Ordered f) {s : Scope} (hs : d.scope ≠ s)
    (hp : d.scope.Plain ∨ s.Plain) : (f.add d).heldFor s = f.heldFor s := by
  rw [h.heldFor_add, if_neg hs, List.filter_eq_self]
  intro x hx
  rw [decide_eq_true_eq]
  intro htie
  obtain rfl := (mem_heldFor.mp hx).2
  rcases hp with hp | hp
  · exact hs ((Directive.compare_eq_iff_of_plain hp).mp htie).symm
  · exact hs ((Directive.compare_eq_iff_of_plain hp).mp (Std.OrientedCmp.eq_symm htie))

theorem Ordered.heldFor_addAll_of_ne (h : Ordered f) {s : Scope} (hp : s.Plain)
    {ds : List Directive} (hds : ∀ d ∈ ds, d.scope ≠ s) :
    (ds.foldl Filter.add f).heldFor s = f.heldFor s := by
  induction ds generalizing f with
  | nil => rfl
  | cons d ds ih =>
    obtain ⟨hd, hds⟩ := List.forall_mem_cons.mp hds
    rw [List.foldl_cons, ih (h.add d) hds, h.heldFor_add_of_ne hd (.inr hp)]

/-- Two filters that hold the same for a scope still do when the same directives are added. -/
theorem Ordered.heldFor_addAll_congr (hf : Ordered f) (hg : Ordered g) {s : Scope}
    (h : f.heldFor s = g.heldFor s) (ds : List Directive) :
    (ds.foldl Filter.add f).heldFor s = (ds.foldl Filter.add g).heldFor s := by
  induction ds generalizing f g with
  | nil => exact h
  | cons d ds ih =>
    refine ih (hf.add d) (hg.add d) ?_
    rw [hf.heldFor_add, hg.heldFor_add, h]

theorem Ordered.mem_statics_iff (h : Ordered f) {x : Directive} :
    x ∈ f.statics ↔ x ∈ f.heldFor x.scope ∧ x.isDynamic = false := by
  have hs := h.static x
  have hd := h.dynamic x
  rw [mem_heldFor]
  grind

theorem Ordered.mem_dynamics_iff (h : Ordered f) {x : Directive} :
    x ∈ f.dynamics ↔ x ∈ f.heldFor x.scope ∧ x.isDynamic = true := by
  have hs := h.static x
  have hd := h.dynamic x
  rw [mem_heldFor]
  grind

/-- A filter in order is known by which directives it holds for their own scopes. -/
theorem Ordered.ext_of_mem_heldFor (hf : Ordered f) (hg : Ordered g)
    (h : ∀ x : Directive, x ∈ f.heldFor x.scope ↔ x ∈ g.heldFor x.scope) : f = g := by
  have hstatics : f.statics = g.statics :=
    hf.statics.ext hg.statics fun x => by rw [hf.mem_statics_iff, hg.mem_statics_iff, h]
  have hdynamics : f.dynamics = g.dynamics :=
    hf.dynamics.ext hg.dynamics fun x => by rw [hf.mem_dynamics_iff, hg.mem_dynamics_iff, h]
  rw [show f = ⟨f.statics, f.dynamics⟩ from rfl, hstatics, hdynamics]

theorem Ordered.ext (hf : Ordered f) (hg : Ordered g) (h : ∀ s, f.heldFor s = g.heldFor s) :
    f = g :=
  hf.ext_of_mem_heldFor hg fun x => by rw [h]

end Filter

end ServiceKit.Logging
