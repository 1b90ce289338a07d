import Mathlib.Data.List.Induction
import ServiceKit.Proofs.Logging.Rules

/-!
A filter says what the last rules say. Of the rules for one target the last one counts, and the rules
for different targets do not meet. So two configurations that give every target the same level in
this way make one and the same filter, however their rules are ordered, repeated and spelled.
-/

namespace ServiceKit.Logging

open Settings (LevelRule LoggingSettings)

def lastRule? (rules : List LevelRule) (target : String) : Option LevelRule :=
  rules.reverse.find? (·.target = target)

def lastLevel? (rules : List LevelRule) (target : String) : Option Level :=
  (lastRule? rules target).bind fun r => Level.ofText? r.level.toList

theorem lastRule?_append (rules later : List LevelRule) (target : String) :
    lastRule? (rules ++ later) target = (lastRule? later target).or (lastRule? rules target) := by
  rw [lastRule?, List.reverse_append, List.find?_append]
  rfl

theorem lastRule?_cons (r : LevelRule) (later : List LevelRule) (target : String) :
    lastRule? (r :: later) target
      = (lastRule? later target).or (if r.target = target then some r else none) := by
  rw [← List.singleton_append, lastRule?_append]
  unfold lastRule?
  rw [List.reverse_singleton, List.find?_singleton]
  simp only [decide_eq_true_eq]

theorem lastRule?_isSome {rules : List LevelRule} {r : LevelRule} (h : r ∈ rules) :
    (lastRule? rules r.target).isSome := by
  rw [lastRule?, List.find?_isSome]
  exact ⟨r, List.mem_reverse.mpr h, by simp⟩

/-- Ways to write a configuration differently: rules for different targets change places, a rule that
a later one overrules is left out, a level is spelled in another way. -/
inductive Rewritten : List LevelRule → List LevelRule → Prop
  | swap (before after : List LevelRule) {r q : LevelRule} (h : r.target ≠ q.target) :
      Rewritten (before ++ r :: q :: after) (before ++ q :: r :: after)
  | overruled (before after : List LevelRule) {r q : LevelRule} (hq : q ∈ after)
      (h : q.target = r.target) : Rewritten (before ++ r :: after) (before ++ after)
  | respelled (before after : List LevelRule) (target : String) {level level' : String}
      (h : Level.ofText? level'.toList = Level.ofText? level.toList) :
      Rewritten (before ++ ⟨target, level⟩ :: after) (before ++ ⟨target, level'⟩ :: after)
  | trans {rules rules' rules'' : List LevelRule} (h : Rewritten rules rules')
      (h' : Rewritten rules' rules'') : Rewritten rules rules''

namespace Rewritten

variable {rules rules' : List LevelRule}

theorem lastLevel?_eq (h : Rewritten rules rules') (target : String) :
    lastLevel? rules' target = lastLevel? rules target := by
  induction h with
  | @swap before after r q h =>
    have hpair : lastRule? (q :: r :: after) target = lastRule? (r :: q :: after) target := by
      rw [lastRule?_cons, lastRule?_cons, lastRule?_cons, lastRule?_cons, Option.or_assoc,
        Option.or_assoc]
      by_cases hr : r.target = target
      · have hq : q.target ≠ target := fun hq => h (hr.trans hq.symm)
        simp [hr, hq]
      · simp [hr]
    rw [lastLevel?, lastLevel?, lastRule?_append, lastRule?_append, hpair]
  | @overruled before after r q hq h =>
    have hrest : lastRule? (r :: after) target = lastRule? after target := by
      rw [lastRule?_cons]
      split
      · rename_i hr
        have hlast := lastRule?_isSome hq
        rw [h, hr] at hlast
        obtain ⟨p, hp⟩ := Option.isSome_iff_exists.mp hlast
        rw [hp, Option.some_or]
      · rw [Option.or_none]
    rw [lastLevel?, lastLevel?, lastRule?_append, lastRule?_append, hrest]
  | @respelled before after name level level' h =>
    unfold lastLevel?
    rw [lastRule?_append, lastRule?_append, lastRule?_cons, lastRule?_cons]
    cases lastRule? after target with
    | some p => simp
    | none =>
      by_cases hname : name = target
      · simpa [hname] using h
      · simp [hname]
  | trans _ _ ih ih' => exact ih'.trans ih

theorem forall_mem {P : String → Option Level → Prop} (h : Rewritten rules rules')
    (hp : ∀ r ∈ rules, P r.target (Level.ofText? r.level.toList)) :
    ∀ r ∈ rules', P r.target (Level.ofText? r.level.toList) := by
  induction h with
  | swap before after h =>
    intro r hr
    refine hp r ?_
    simp only [List.mem_append, List.mem_cons] at hr ⊢
    tauto
  | overruled before after hq h =>
    intro r hr
    refine hp r ?_
    simp only [List.mem_append, List.mem_cons] at hr ⊢
    tauto
  | @respelled before after name level level' h =>
    intro r hr
    rcases List.mem_append.mp hr with hr | hr
    · exact hp r (List.mem_append_left _ hr)
    · rcases List.mem_cons.mp hr with rfl | hr
      · have hold := hp ⟨name, level⟩ (List.mem_append_right _ List.mem_cons_self)
        rwa [h]
      · exact hp r (List.mem_append_right _ (List.mem_cons_of_mem _ hr))
  | trans _ _ ih ih' => exact ih' (ih hp)

end Rewritten

section Making

variable {rules : List LevelRule} {ds : List Directive}

theorem exists_makeDirectives_iff :
    (∃ ds, MakeDirectives rules ds) ↔ ∀ r ∈ rules, ∃ d, directiveOf r = .ok d := by
  constructor
  · rintro ⟨ds, hds⟩ r hr
    obtain ⟨d, -, hd⟩ := hds.exists_directive hr
    exact ⟨d, hd⟩
  · intro h
    induction rules with
    | nil => exact ⟨[], .nil⟩
    | cons r rest ih =>
      obtain ⟨hr, hrest⟩ := List.forall_mem_cons.mp h
      obtain ⟨d, hd⟩ := hr
      obtain ⟨ds, hds⟩ := ih hrest
      exact ⟨d :: ds, .cons hd hds⟩

/-- A rule for nothing makes no directive, and one for a module path needs a level only. -/
theorem exists_directiveOf_iff {r : LevelRule} (hr : r.target = "" ∨ IsPath r.target) :
    (∃ d, directiveOf r = .ok d) ↔
      r.target ≠ "" ∧ ∃ l, Level.ofText? r.level.toList = some l := by
  constructor
  · rintro ⟨d, hd⟩
    obtain ⟨hne, l, hl, -⟩ := directiveOf_eq_ok.mp hd
    exact ⟨hne, l, hl⟩
  · rintro ⟨hne, l, hl⟩
    exact ⟨_, (directiveOf_of_path (hr.resolve_left hne)).mpr ⟨l, hl, rfl⟩⟩

/-- Every rule has a module path for its target. -/
def ForPaths (rules : List LevelRule) : Prop := ∀ r ∈ rules, IsPath r.target

theorem MakeDirectives.forPaths (h : MakeDirectives rules ds)
    (hr : ∀ r ∈ rules, r.target = "" ∨ IsPath r.target) : ForPaths rules := by
  intro r hmem
  obtain ⟨d, -, hd⟩ := h.exists_directive hmem
  exact (hr r hmem).resolve_left (directiveOf_eq_ok.mp hd).1

theorem MakeDirectives.exists_target (h : MakeDirectives rules ds) (hp : ForPaths rules)
    {d : Directive} (hd : d ∈ ds) : ∃ target l, d = ⟨some target, none, [], l⟩ := by
  obtain ⟨r, hr, hrd⟩ := h.exists_rule hd
  obtain ⟨l, -, rfl⟩ := (directiveOf_of_path (hp r hr)).mp hrd
  exact ⟨r.target, l, rfl⟩

theorem MakeDirectives.find?_reverse (h : MakeDirectives rules ds) (hp : ForPaths rules)
    (target : String) :
    ds.reverse.find? (·.scope = .ofTarget target)
      = (lastLevel? rules target).map fun l => ⟨some target, none, [], l⟩ := by
  induction h with
  | nil => rfl
  | @cons r d rules ds hd hds ih =>
    have hr := hp r List.mem_cons_self
    obtain ⟨l, hl, rfl⟩ := (directiveOf_of_path hr).mp hd
    have hrest := ih fun q hq => hp q (List.mem_cons_of_mem r hq)
    rw [List.reverse_cons, List.find?_append, hrest, lastLevel?, lastLevel?, lastRule?_cons,
      List.find?_singleton]
    cases hlast : lastRule? rules target with
    | some q =>
      -- Whichever rule comes later, it is for a module path and makes a directive too.
      have hq : q ∈ rules := List.mem_reverse.mp (List.mem_of_find?_eq_some hlast)
      obtain ⟨e, -, he⟩ := MakeDirectives.exists_directive hds hq
      obtain ⟨-, l', hl', -⟩ := directiveOf_eq_ok.mp he
      simp [hl']
    | none =>
      by_cases ht : r.target = target
      · simp [Directive.scope, Scope.ofTarget, ht, hl]
      · simp [Directive.scope, Scope.ofTarget, ht]

/-- The directives that are the last ones for their scope tell the levels of the targets. -/
theorem MakeDirectives.find?_scope_iff (h : MakeDirectives rules ds) (hp : ForPaths rules)
    {d : Directive} :
    ds.reverse.find? (·.scope = d.scope) = some d ↔
      ∃ target l, lastLevel? rules target = some l ∧ d = ⟨some target, none, [], l⟩ := by
  constructor
  · intro hfind
    obtain ⟨target, l, rfl⟩ :=
      h.exists_target hp (List.mem_reverse.mp (List.mem_of_find?_eq_some hfind))
    have hlast := h.find?_reverse hp target
    rw [show Scope.ofTarget target = Directive.scope ⟨some target, none, [], l⟩ from rfl,
      hfind] at hlast
    obtain ⟨l', hl', hd⟩ := Option.map_eq_some_iff.mp hlast.symm
    exact ⟨target, l', hl', hd.symm⟩
  · rintro ⟨target, l, hl, rfl⟩
    have hlast := h.find?_reverse hp target
    rw [hl] at hlast
    exact hlast

end Making

namespace Filter

variable {f g : Filter} {ds : List Directive}

theorem Ordered.heldFor_addAll (h : Ordered f) (hp : ∀ d ∈ ds, d.scope.Plain) (s : Scope) :
    (ds.foldl Filter.add f).heldFor s =
      match ds.reverse.find? (·.scope = s) with
      | some d => [d]
      | none => f.heldFor s := by
  induction ds using List.reverseRecOn with
  | nil => rfl
  | append_singleton ds d ih =>
    have hplain : d.scope.Plain := hp d (by simp)
    have hrest := ih fun x hx => hp x (List.mem_append_left _ hx)
    have hord := h.addAll ds
    rw [List.foldl_append, List.foldl_cons, List.foldl_nil, List.reverse_append,
      List.reverse_singleton, List.singleton_append]
    by_cases hs : d.scope = s
    · rw [hord.heldFor_add, if_pos hs, List.find?_cons_of_pos (by simpa using hs)]
    · rw [hord.heldFor_add_of_ne hs (.inl hplain), List.find?_cons_of_neg (by simpa using hs), hrest]

theorem Ordered.ext_of_mem (hf : Ordered f) (hg : Ordered g)
    (h : ∀ d, d ∈ f.statics ++ f.dynamics ↔ d ∈ g.statics ++ g.dynamics) : f = g := by
  refine hf.ext_of_mem_heldFor hg fun d => ?_
  have hd := h d
  rw [List.mem_append, List.mem_append] at hd
  rw [mem_heldFor, mem_heldFor, hd]

end Filter

section Configurations

variable {s s' : LoggingSettings} {f g : Filter}

theorem filterOf_ordered (h : filterOf s = .ok f) : f.Ordered := by
  obtain ⟨l, ds, -, -, rfl⟩ := filterOf_eq_ok.mp h
  exact (Filter.ordered_initial.add _).addAll ds

/-- A filter is made exactly if the default level can be read and every rule has a target and a level
that can be read. -/
theorem exists_filterOf_iff (hs : ∀ r ∈ s.rules, r.target = "" ∨ IsPath r.target) :
    (∃ f, filterOf s = .ok f) ↔
      (∃ l, Level.ofText? s.defaultLevel.toList = some l) ∧
        ∀ r ∈ s.rules, r.target ≠ "" ∧ ∃ l, Level.ofText? r.level.toList = some l := by
  have hrules : (∃ ds, MakeDirectives s.rules ds) ↔
      ∀ r ∈ s.rules, r.target ≠ "" ∧ ∃ l, Level.ofText? r.level.toList = some l := by
    rw [exists_makeDirectives_iff]
    exact forall₂_congr fun r hr => exists_directiveOf_iff (hs r hr)
  rw [← hrules]
  constructor
  · rintro ⟨f, hf⟩
    obtain ⟨l, ds, hl, hds, -⟩ := filterOf_eq_ok.mp hf
    exact ⟨⟨l, hl⟩, ds, hds⟩
  · rintro ⟨⟨l, hl⟩, ds, hds⟩
    exact ⟨_, filterOf_eq_ok.mpr ⟨l, ds, hl, hds, rfl⟩⟩

/-- A filter holds the default level and, for each target, the level that its last rule gives it. -/
theorem mem_filterOf_iff (hs : ∀ r ∈ s.rules, r.target = "" ∨ IsPath r.target)
    (hf : filterOf s = .ok f) (d : Directive) :
    d ∈ f.statics ++ f.dynamics ↔
      (∃ l, Level.ofText? s.defaultLevel.toList = some l ∧ d = .ofLevel l) ∨
        ∃ target l, lastLevel? s.rules target = some l ∧ d = ⟨some target, none, [], l⟩ := by
  obtain ⟨l, ds, hl, hds, rfl⟩ := filterOf_eq_ok.mp hf
  have hp := hds.forPaths hs
  have hplain : ∀ x ∈ Directive.ofLevel l :: ds, x.scope.Plain := by
    refine List.forall_mem_cons.mpr ⟨⟨rfl, rfl⟩, fun x hx => ?_⟩
    obtain ⟨target, l', rfl⟩ := hds.exists_target hp hx
    exact Scope.plain_ofTarget target
  have hheld := Filter.ordered_initial.heldFor_addAll hplain d.scope
  rw [List.foldl_cons, List.reverse_cons, List.find?_append, List.find?_singleton] at hheld
  have hmem : ∀ g : Filter, d ∈ g.statics ++ g.dynamics ↔ d ∈ g.heldFor d.scope := by
    intro g
    rw [List.mem_append, Filter.mem_heldFor, and_iff_left rfl]
  rw [hmem, hheld, ← hds.find?_scope_iff hp, hl]
  cases hfind : ds.reverse.find? (·.scope = d.scope) with
  | some e =>
    obtain ⟨target, l', rfl⟩ :=
      hds.exists_target hp (List.mem_reverse.mp (List.mem_of_find?_eq_some hfind))
    have hscope := List.find?_some hfind
    have hdefault : d ≠ .ofLevel l := by
      rintro rfl
      simp [Directive.scope, Directive.ofLevel] at hscope
    simp [hdefault, eq_comm]
  | none =>
    by_cases hdefault : (Directive.ofLevel l).scope = d.scope
    · simp [hdefault]
    · have hne : d ≠ .ofLevel l := fun hd => hdefault (congrArg Directive.scope hd.symm)
      have hinitial : d ∉ Filter.initial.heldFor d.scope := by
        intro hd
        have hheld := (Filter.mem_heldFor.mp hd).1
        rw [Filter.initial, List.mem_singleton] at hheld
        rcases hheld with rfl | hnone
        · exact hdefault rfl
        · contradiction
      simp [hdefault, hne, hinitial]

/-- A filter is made exactly if the default level and the level of every rule can be read and no
rule is for nothing. It depends on the default level and on the last level for each target alone. -/
theorem filterOf_eq_of_lastLevel (hs : ∀ r ∈ s.rules, r.target = "" ∨ IsPath r.target) :
    ((∃ f, filterOf s = .ok f) ↔
        (∃ l, Level.ofText? s.defaultLevel.toList = some l) ∧
          ∀ r ∈ s.rules, r.target ≠ "" ∧ ∃ l, Level.ofText? r.level.toList = some l) ∧
      ∀ f, filterOf s = .ok f →
        (∀ d, d ∈ f.statics ++ f.dynamics ↔
          (∃ l, Level.ofText? s.defaultLevel.toList = some l ∧ d = .ofLevel l) ∨
            ∃ target l, lastLevel? s.rules target = some l ∧ d = ⟨some target, none, [], l⟩) ∧
        ∀ s' : LoggingSettings,
          Level.ofText? s'.defaultLevel.toList = Level.ofText? s.defaultLevel.toList →
          ((∀ r ∈ s'.rules, r.target = "" ∨ IsPath r.target) →
            (∀ target, lastLevel? s'.rules target = lastLevel? s.rules target) →
            ∀ g, filterOf s' = .ok g → g = f ∧ g.render = f.render) ∧
          (Rewritten s.rules s'.rules → filterOf s' = .ok f) := by
  refine ⟨exists_filterOf_iff hs, fun f hf => ⟨mem_filterOf_iff hs hf, fun s' hdefault => ?_⟩⟩
  have hsame (hs' : ∀ r ∈ s'.rules, r.target = "" ∨ IsPath r.target)
      (hlast : ∀ target, lastLevel? s'.rules target = lastLevel? s.rules target)
      (g : Filter) (hg : filterOf s' = .ok g) : g = f := by
    refine (filterOf_ordered hg).ext_of_mem (filterOf_ordered hf) fun d => ?_
    rw [mem_filterOf_iff hs' hg, mem_filterOf_iff hs hf, hdefault]
    simp only [hlast]
  refine ⟨fun hs' hlast g hg => ?_, fun h => ?_⟩
  · obtain rfl := hsame hs' hlast g hg
    exact ⟨rfl, rfl⟩
  · have hs' : ∀ r ∈ s'.rules, r.target = "" ∨ IsPath r.target :=
      h.forall_mem (P := fun target _ => target = "" ∨ IsPath target) hs
    obtain ⟨hreads, hrules⟩ := (exists_filterOf_iff hs).mp ⟨f, hf⟩
    have hrules' := h.forall_mem (P := fun target l? => target ≠ "" ∧ ∃ l, l? = some l) hrules
    obtain ⟨g, hg⟩ := (exists_filterOf_iff hs').mpr ⟨by rwa [hdefault], hrules'⟩
    rw [hg, hsame hs' h.lastLevel?_eq g hg]

/-- Two targets, one of them with a rule that is overruled. Without that rule, in the other order and
with other spellings the filter is the same. -/
theorem filterOf_eq_of_lastLevel_respelled :
    let s : LoggingSettings := ⟨"warn", [⟨"io", "info"⟩, ⟨"net::tcp", "TRACE"⟩, ⟨"io", "debug"⟩]⟩
    let s' : LoggingSettings := ⟨"2", [⟨"io", "4"⟩, ⟨"net::tcp", "Trace"⟩]⟩
    (∀ r ∈ s.rules, r.target = "" ∨ IsPath r.target) ∧
      Level.ofText? s'.defaultLevel.toList = Level.ofText? s.defaultLevel.toList ∧
      Rewritten s.rules s'.rules ∧
      ∃ f, filterOf s = .ok f ∧ filterOf s' = .ok f ∧
        ⟨some "io", none, [], .debug⟩ ∈ f.statics ++ f.dynamics := by
  intro s s'
  have hio : IsPath "io" := ⟨by decide, List.all_eq_true.mp (by decide)⟩
  have hnet : IsPath "net::tcp" := ⟨by decide, List.all_eq_true.mp (by decide)⟩
  have hs : ∀ r ∈ s.rules, r.target = "" ∨ IsPath r.target := by
    intro r hr
    simp only [s, List.mem_cons, List.not_mem_nil, or_false] at hr
    rcases hr with rfl | rfl | rfl
    · exact .inr hio
    · exact .inr hnet
    · exact .inr hio
  have hdefault : Level.ofText? s'.defaultLevel.toList = Level.ofText? s.defaultLevel.toList := by
    decide
  have hfour : Level.ofText? "4".toList = Level.ofText? "debug".toList := by decide
  have htrace : Level.ofText? "Trace".toList = Level.ofText? "TRACE".toList := by decide
  have hrewritten : Rewritten s.rules s'.rules :=
    .trans (.overruled [] _ (q := ⟨"io", "debug"⟩) (by simp) rfl) <|
      .trans (.swap [] [] (by decide)) <|
      .trans (.respelled [] _ "io" hfour) (.respelled [⟨"io", "4"⟩] [] "net::tcp" htrace)
  have hlevels : ∀ r ∈ s.rules, r.target ≠ "" ∧ ∃ l, Level.ofText? r.level.toList = some l := by
    intro r hr
    simp only [s, List.mem_cons, List.not_mem_nil, or_false] at hr
    rcases hr with rfl | rfl | rfl
    · exact ⟨by decide, .info, by decide⟩
    · exact ⟨by decide, .trace, by decide⟩
    · exact ⟨by decide, .debug, by decide⟩
  obtain ⟨hmade, hheld⟩ := filterOf_eq_of_lastLevel hs
  obtain ⟨f, hf⟩ := hmade.mpr ⟨⟨.warn, by decide⟩, hlevels⟩
  obtain ⟨hmem, hother⟩ := hheld f hf
  refine ⟨hs, hdefault, hrewritten, f, hf, (hother s' hdefault).2 hrewritten, (hmem _).mpr (.inr ?_)⟩
  exact ⟨"io", .debug, by decide, rfl⟩

end Configurations

end ServiceKit.Logging
