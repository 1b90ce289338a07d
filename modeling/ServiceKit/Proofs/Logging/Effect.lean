import ServiceKit.Proofs.Logging.Changes

/-!
The effect of changing the level of one target. Nothing but what the filter holds for that target
changes. The target itself gets the level asked for if the configuration the control was made from
has at most one rule for it; where it has several, the first of them is changed and the last one
still counts, so that the filter stays what it was.
-/

namespace ServiceKit.Logging

open Settings (LevelRule LoggingSettings)

namespace Filter

variable {f : Filter} {d d' : Directive} {ds : List Directive} {p : Scope}

/-- Directives for one plain scope differ in their effect on that scope only. -/
theorem Ordered.heldFor_swap (h : Ordered f) (hp : p.Plain) (hd : d.scope = p) (hd' : d'.scope = p)
    (ds : List Directive) {s : Scope} (hs : s ≠ p) :
    (ds.foldl Filter.add (f.add d')).heldFor s = (ds.foldl Filter.add (f.add d)).heldFor s := by
  refine (h.add d').heldFor_addAll_congr (h.add d) ?_ ds
  rw [h.heldFor_add_of_ne (hd' ▸ hs.symm) (.inl (hd' ▸ hp)),
    h.heldFor_add_of_ne (hd ▸ hs.symm) (.inl (hd ▸ hp))]

theorem Ordered.heldFor_last (h : Ordered f) (hp : p.Plain) (hd : d.scope = p)
    (hds : ∀ x ∈ ds, x.scope ≠ p) : (ds.foldl Filter.add (f.add d)).heldFor p = [d] := by
  rw [(h.add d).heldFor_addAll_of_ne hp hds, h.heldFor_add, if_pos hd]

theorem Ordered.swap_of_mem (h : Ordered f) (hp : p.Plain) (hd : d.scope = p) (hd' : d'.scope = p)
    {x : Directive} (hx : x ∈ ds) (hxp : x.scope = p) :
    ds.foldl Filter.add (f.add d') = ds.foldl Filter.add (f.add d) := by
  refine ((h.add d').addAll ds).ext ((h.add d).addAll ds) fun s => ?_
  by_cases hs : s = p
  · obtain ⟨before, after, rfl⟩ := List.append_of_mem hx
    simp only [List.foldl_append, List.foldl_cons]
    have hord := (h.add d).addAll before
    have hord' := (h.add d').addAll before
    refine (hord'.add x).heldFor_addAll_congr (hord.add x) ?_ after
    rw [hord'.heldFor_add, hord.heldFor_add, if_pos (hxp.trans hs.symm),
      if_pos (hxp.trans hs.symm)]
  · exact h.heldFor_swap hp hd hd' ds hs

end Filter

section OneTarget

variable {s : LoggingSettings} {target level : String} {f g : Filter}

/-- Changing the level of a module path changes what the filter holds for this target alone. The
first rule for it is changed, and the last one counts. -/
theorem heldFor_changeLevel (hp : IsPath target) (hf : filterOf s = .ok f)
    (hg : filterOf (s.changeLevel target level) = .ok g) :
    ∃ l, Level.ofText? level.toList = some l ∧
      (∀ scope, scope ≠ .ofTarget target → g.heldFor scope = f.heldFor scope) ∧
      (s.mentions target ≤ 1 → g.heldFor (.ofTarget target) = [⟨some target, none, [], l⟩]) ∧
      (1 < s.mentions target → g = f) := by
  obtain ⟨l₀, ds, hdefault, hds, rfl⟩ := filterOf_eq_ok.mp hf
  obtain ⟨l₁, es, hdefault', hes, rfl⟩ := filterOf_eq_ok.mp hg
  obtain rfl := Option.some.inj (hdefault.symm.trans hdefault')
  have hord := Filter.ordered_initial.add (.ofLevel l₀)
  rw [LoggingSettings.mentions]
  rw [LoggingSettings.changeLevel] at hes
  rcases Settings.setRule_cases target level s.rules with
    ⟨hnone, hset⟩ | ⟨before, old, after, hrules, rfl, hbefore, hset⟩
  · -- The new rule comes last.
    rw [hset] at hes
    obtain ⟨as, bs, has, hbs, rfl⟩ := MakeDirectives.append_iff.mp hes
    obtain rfl := hds.unique has
    obtain ⟨d, rest, hd, hrest, rfl⟩ := MakeDirectives.cons_iff.mp hbs
    obtain rfl := List.forall₂_nil_left_iff.mp hrest
    obtain ⟨l, hl, rfl⟩ := (directiveOf_of_path hp).mp hd
    have hcount : s.rules.countP (·.target = target) = 0 := by
      rw [List.countP_eq_zero]
      exact fun r hr => by simpa using hnone r hr
    rw [List.foldl_append, List.foldl_cons, List.foldl_nil]
    refine ⟨l, hl, fun scope hs => ?_, fun _ => ?_, fun h => by omega⟩
    · exact (hord.addAll ds).heldFor_add_of_ne hs.symm (.inl (Scope.plain_ofTarget target))
    · rw [(hord.addAll ds).heldFor_add]
      exact if_pos rfl
  · -- The rule is changed where it stands, and the rules after it are the same.
    rw [hrules] at hds
    rw [hset] at hes
    obtain ⟨as, bs, has, hbs, rfl⟩ := MakeDirectives.append_iff.mp hds
    obtain ⟨as', bs', has', hbs', rfl⟩ := MakeDirectives.append_iff.mp hes
    obtain rfl := has.unique has'
    obtain ⟨d, ds, hd, hafter, rfl⟩ := MakeDirectives.cons_iff.mp hbs
    obtain ⟨d', ds', hd', hafter', rfl⟩ := MakeDirectives.cons_iff.mp hbs'
    obtain rfl := hafter.unique hafter'
    obtain ⟨l, -, rfl⟩ := (directiveOf_of_path hp).mp hd
    obtain ⟨l', hl', rfl⟩ := (directiveOf_of_path (r := ⟨old.target, level⟩) hp).mp hd'
    have hcount : s.rules.countP (·.target = old.target)
        = 1 + after.countP (·.target = old.target) := by
      have hzero : before.countP (·.target = old.target) = 0 := by
        rw [List.countP_eq_zero]
        exact fun r hr => by simpa using hbefore r hr
      rw [hrules, List.countP_append, hzero, List.countP_cons_of_pos (by simp)]
      omega
    simp only [List.foldl_append, List.foldl_cons]
    have hord := hord.addAll as
    refine ⟨l', hl', fun scope hs => ?_, fun h => ?_, fun h => ?_⟩
    · exact hord.heldFor_swap (Scope.plain_ofTarget _) rfl rfl ds hs
    · refine hord.heldFor_last (Scope.plain_ofTarget _) rfl fun x hx hxs => ?_
      obtain ⟨r, hr, hrx⟩ := hafter.exists_rule hx
      have hnone := List.countP_eq_zero.mp (show after.countP (·.target = old.target) = 0 by omega)
      exact hnone r hr (by simpa using target_of_scope hrx hxs)
    · obtain ⟨r, hr, hrt⟩ :=
        List.countP_pos_iff.mp (show 0 < after.countP (·.target = old.target) by omega)
      obtain ⟨x, hx, hrx⟩ := hafter.exists_directive hr
      rw [decide_eq_true_eq] at hrt
      obtain ⟨lx, -, rfl⟩ := (directiveOf_of_path (hrt ▸ hp)).mp hrx
      exact hord.swap_of_mem (Scope.plain_ofTarget _) rfl rfl hx (by rw [Directive.scope, hrt]; rfl)

end OneTarget

namespace Control

/-- A target that the settings mention more than once stays one, and no target becomes one. -/
theorem one_lt_mentions_afterAll (history : List Incident) (c : Control) (target : String) :
    1 < (c.afterAll history).settings.mentions target ↔ 1 < c.settings.mentions target := by
  induction history generalizing c with
  | nil => exact Iff.rfl
  | cons i rest ih =>
    refine (ih (c.after i)).trans ?_
    cases i with
    | layerGone => exact Iff.rfl
    | change d =>
      rw [after]
      rcases change_cases c d with ⟨e, he⟩ | ⟨f, -, -, ho⟩
      · rw [he]
      · rw [ho]
        cases d with
        | default level => exact Iff.rfl
        | rule name level =>
          simp only [Change.ask, Settings.mentions_changeLevel]
          split <;> omega

/-- What a successful change of the level of a module path does, whatever has happened to the
control before. -/
theorem heldFor_change {s : LoggingSettings} {start : Control}
    (hs : Control.ofSettings s = .ok start) (history : List Incident) {target level : String}
    (hp : IsPath target)
    (hr : ((start.afterAll history).changeLevel target level).result = .ok ()) :
    ∃ f g l, (start.afterAll history).active = some f ∧
      ((start.afterAll history).changeLevel target level).state.active = some g ∧
      Level.ofText? level.toList = some l ∧
      (∀ scope, scope ≠ .ofTarget target → g.heldFor scope = f.heldFor scope) ∧
      (s.mentions target ≤ 1 → g.heldFor (.ofTarget target) = [⟨some target, none, [], l⟩]) ∧
      (1 < s.mentions target → g = f) := by
  obtain ⟨f, hf, ha⟩ := (inStep_ofSettings hs).afterAll history
  have hmentions := one_lt_mentions_afterAll history start target
  obtain ⟨_, -, rfl⟩ := ofSettings_eq_ok hs
  rcases change_cases _ (.rule target level) with ⟨e, he⟩ | ⟨g, hg, hsome, ho⟩
  · rw [show Control.changeLevel target level _ = _ from he] at hr
    contradiction
  · obtain ⟨l, hl, hothers, hone, hmany⟩ := heldFor_changeLevel hp hf hg
    refine ⟨f, g, l, ?_, by rw [show Control.changeLevel target level _ = _ from ho], hl, hothers,
      fun h => hone ?_, fun h => hmany (hmentions.mpr h)⟩
    · rcases ha with ha | ha
      · simp [ha] at hsome
      · exact ha
    · exact Nat.not_lt.mp fun h' => absurd (hmentions.mp h') (Nat.not_lt.mpr h)

theorem isPath_quorum_io : IsPath "quorum_io" := ⟨by decide, List.all_eq_true.mp (by decide)⟩

theorem heldFor_change_once :
    ∃ start g, Control.ofSettings ⟨"warn", [⟨"quorum_io", "info"⟩]⟩ = .ok start ∧
      (start.changeLevel "quorum_io" "debug").state.active = some g ∧
      g.heldFor (.ofTarget "quorum_io") = [⟨some "quorum_io", none, [], .debug⟩] := by
  obtain ⟨f, hf⟩ : ∃ f, filterOf ⟨"warn", [⟨"quorum_io", "info"⟩]⟩ = .ok f :=
    ⟨_, filterOf_of_paths .warn [("quorum_io", .info)] (by simp [isPath_quorum_io])⟩
  have hg := filterOf_of_paths .warn [("quorum_io", .debug)] (by simp [isPath_quorum_io])
  have ho := change_of_built (c := ⟨⟨"warn", [⟨"quorum_io", "info"⟩]⟩, some f⟩)
    (d := .rule "quorum_io" "debug") hg rfl
  obtain ⟨-, g, l, -, hg, hl, -, hone, -⟩ :=
    heldFor_change (ofSettings_of_filter hf) [] isPath_quorum_io (congrArg Outcome.result ho)
  obtain rfl : Level.debug = l := Option.some.inj hl
  exact ⟨_, g, ofSettings_of_filter hf, hg, hone (by decide)⟩

/-- A target with two rules stays as it was, although the change of its level goes through. -/
theorem heldFor_change_twice :
    ∃ start g,
      Control.ofSettings ⟨"warn", [⟨"quorum_io", "info"⟩, ⟨"quorum_io", "warn"⟩]⟩ = .ok start ∧
      (start.changeLevel "quorum_io" "debug").result = .ok () ∧
      (start.changeLevel "quorum_io" "debug").state.active = some g ∧
      g.heldFor (.ofTarget "quorum_io") = [⟨some "quorum_io", none, [], .warn⟩] := by
  obtain ⟨f, hf⟩ :
      ∃ f, filterOf ⟨"warn", [⟨"quorum_io", "info"⟩, ⟨"quorum_io", "warn"⟩]⟩ = .ok f :=
    ⟨_, filterOf_of_paths .warn [("quorum_io", .info), ("quorum_io", .warn)]
      (by simp [isPath_quorum_io])⟩
  have hg := filterOf_of_paths .warn [("quorum_io", .debug), ("quorum_io", .warn)]
    (by simp [isPath_quorum_io])
  have ho := change_of_built
    (c := ⟨⟨"warn", [⟨"quorum_io", "info"⟩, ⟨"quorum_io", "warn"⟩]⟩, some f⟩)
    (d := .rule "quorum_io" "debug") hg rfl
  exact ⟨_, _, ofSettings_of_filter hf, congrArg Outcome.result ho, congrArg (·.state.active) ho,
    by decide⟩

end Control

end ServiceKit.Logging
