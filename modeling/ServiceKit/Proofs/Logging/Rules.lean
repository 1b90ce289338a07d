import ServiceKit.Proofs.Logging.RuleText

/-!
From rules to filters. The rules make their directives one after another, so a rule that is changed
where it stands makes itself felt unless a later rule speaks of the same target.
-/

namespace ServiceKit.Settings

/-- Setting a level changes the first rule for its target, or puts a new rule after all others. -/
theorem setRule_cases (target level : String) (rules : List LevelRule) :
    ((∀ r ∈ rules, r.target ≠ target) ∧ setRule target level rules = rules ++ [⟨target, level⟩]) ∨
      ∃ before old after, rules = before ++ old :: after ∧ old.target = target ∧
        (∀ r ∈ before, r.target ≠ target) ∧
        setRule target level rules = before ++ ⟨target, level⟩ :: after := by
  induction rules with
  | nil => exact .inl ⟨by simp, rfl⟩
  | cons r rest ih =>
    rw [setRule]
    split
    · rename_i hr
      exact .inr ⟨[], r, rest, rfl, hr, by simp, rfl⟩
    · rename_i hr
      rcases ih with ⟨hrest, hset⟩ | ⟨before, old, after, hrest, hold, hbefore, hset⟩
      · exact .inl ⟨List.forall_mem_cons.mpr ⟨hr, hrest⟩, by rw [hset]; rfl⟩
      · exact .inr ⟨r :: before, old, after, by rw [hrest]; rfl, hold,
          List.forall_mem_cons.mpr ⟨hr, hbefore⟩, by rw [hset]; rfl⟩

def LoggingSettings.mentions (s : LoggingSettings) (target : String) : Nat :=
  s.rules.countP (·.target = target)

theorem mentions_changeLevel (s : LoggingSettings) (target level name : String) :
    (s.changeLevel target level).mentions name =
      if target = name then max 1 (s.mentions name) else s.mentions name := by
  simp only [LoggingSettings.mentions, LoggingSettings.changeLevel]
  rcases setRule_cases target level s.rules with
    ⟨hnone, hset⟩ | ⟨before, old, after, hrules, hold, -, hset⟩
  · rw [hset, List.countP_append]
    split
    · rename_i hname
      subst hname
      have hzero : s.rules.countP (·.target = target) = 0 := by
        rw [List.countP_eq_zero]
        exact fun r hr => by simpa using hnone r hr
      simp [hzero]
    · rename_i hname
      simp [hname]
  · rw [hset, hrules]
    simp only [List.countP_append, List.countP_cons, hold, decide_eq_true_eq]
    split
    · rw [Nat.max_eq_right (by omega)]
    · rfl

end ServiceKit.Settings

namespace ServiceKit.Logging

open Host (HostFault)
open Settings (LevelRule LoggingSettings setRule setRule_cases)

theorem levelOf_eq_ok {text : String} {l : Level} :
    levelOf text = .ok l ↔ Level.ofText? text.toList = some l := by
  rw [levelOf]
  cases Level.ofText? text.toList <;> simp

/-- A rule makes the directive that its text is read as, with the word of its level. -/
theorem directiveOf_eq_ok {r : LevelRule} {d : Directive} :
    directiveOf r = .ok d ↔
      r.target ≠ "" ∧ ∃ l, Level.ofText? r.level.toList = some l ∧
        Directive.ofText (r.target.toList ++ '=' :: l.word.toList) = .ok d := by
  have htext (l : Level) :
      (r.target ++ "=" ++ l.word).toList = r.target.toList ++ '=' :: l.word.toList := by
    simp
  constructor
  · intro h
    obtain ⟨⟨⟩, hcheck, h⟩ := bind_eq_ok h
    obtain ⟨l, hl, h⟩ := bind_eq_ok h
    rw [Host.Check.run_ok_iff] at hcheck
    exact ⟨by simpa using hcheck, l, levelOf_eq_ok.mp hl, htext l ▸ mapError_eq_ok.mp h⟩
  · rintro ⟨hne, l, hl, hd⟩
    rw [← htext] at hd
    rw [directiveOf, (Host.Check.run_ok_iff _).mpr (by simpa using hne), levelOf_eq_ok.mpr hl]
    exact mapError_eq_ok.mpr hd

/-- A rule whose directive is about a target alone is a rule for that very target. -/
theorem target_of_scope {r : LevelRule} {d : Directive} {target : String}
    (h : directiveOf r = .ok d) (hs : d.scope = .ofTarget target) : r.target = target := by
  obtain ⟨-, l, -, hd⟩ := directiveOf_eq_ok.mp h
  obtain rfl := Directive.eq_of_ofText_plain hd (hs ▸ Scope.plain_ofTarget target)
  simpa [Directive.scope, Scope.ofTarget] using hs

structure IsPath (target : String) : Prop where
  nonempty : target ≠ ""
  chars : ∀ c ∈ target.toList, isPathChar c = true

/-- A rule for a module path makes a directive about that target alone. -/
theorem directiveOf_of_path {r : LevelRule} (hp : IsPath r.target) {d : Directive} :
    directiveOf r = .ok d ↔
      ∃ l, Level.ofText? r.level.toList = some l ∧ d = ⟨some r.target, none, [], l⟩ := by
  have htext (l : Level) := Directive.ofText_of_path (by simpa using hp.nonempty) hp.chars l
  simp only [String.ofList_toList] at htext
  simp only [directiveOf_eq_ok, htext, Except.ok.injEq, eq_comm (b := d)]
  exact and_iff_right hp.nonempty

def MakeDirectives (rules : List LevelRule) (ds : List Directive) : Prop :=
  List.Forall₂ (fun r d => directiveOf r = .ok d) rules ds

namespace MakeDirectives

variable {rules rules' : List LevelRule} {ds es : List Directive} {r : LevelRule} {d : Directive}

theorem unique (h : MakeDirectives rules ds) (h' : MakeDirectives rules es) : ds = es :=
  List.right_unique_forall₂' (fun _ _ _ hd he => Except.ok.inj (hd.symm.trans he)) h h'

theorem append_iff :
    MakeDirectives (rules ++ rules') ds ↔
      ∃ as bs, MakeDirectives rules as ∧ MakeDirectives rules' bs ∧ ds = as ++ bs := by
  induction rules generalizing ds with
  | nil => simp [MakeDirectives]
  | cons r rules ih =>
    simp only [MakeDirectives, List.cons_append, List.forall₂_cons_left_iff] at ih ⊢
    constructor
    · rintro ⟨d, ds, hd, hds, rfl⟩
      obtain ⟨as, bs, has, hbs, rfl⟩ := ih.mp hds
      exact ⟨d :: as, bs, ⟨d, as, hd, has, rfl⟩, hbs, rfl⟩
    · rintro ⟨_, bs, ⟨d, as, hd, has, rfl⟩, hbs, rfl⟩
      exact ⟨d, as ++ bs, hd, ih.mpr ⟨as, bs, has, hbs, rfl⟩, rfl⟩

theorem cons_iff :
    MakeDirectives (r :: rules) ds ↔
      ∃ d es, directiveOf r = .ok d ∧ MakeDirectives rules es ∧ ds = d :: es :=
  List.forall₂_cons_left_iff

theorem exists_rule (h : MakeDirectives rules ds) (hd : d ∈ ds) :
    ∃ r ∈ rules, directiveOf r = .ok d := by
  induction h with
  | nil => contradiction
  | cons hr _ ih =>
    rcases List.mem_cons.mp hd with rfl | hd
    · exact ⟨_, List.mem_cons_self, hr⟩
    · obtain ⟨r, hmem, hr⟩ := ih hd
      exact ⟨r, List.mem_cons_of_mem _ hmem, hr⟩

theorem exists_directive (h : MakeDirectives rules ds) (hr : r ∈ rules) :
    ∃ d ∈ ds, directiveOf r = .ok d := by
  induction h with
  | nil => contradiction
  | cons hd _ ih =>
    rcases List.mem_cons.mp hr with rfl | hr
    · exact ⟨_, List.mem_cons_self, hd⟩
    · obtain ⟨d, hmem, hd⟩ := ih hr
      exact ⟨d, List.mem_cons_of_mem _ hmem, hd⟩

end MakeDirectives

/-- Rules make a filter exactly if each of them makes a directive. -/
theorem addRules_eq_ok {f g : Filter} {rules : List LevelRule} :
    addRules f rules = .ok g ↔ ∃ ds, MakeDirectives rules ds ∧ ds.foldl Filter.add f = g := by
  induction rules generalizing f with
  | nil => simp [addRules, MakeDirectives]
  | cons r rest ih =>
    constructor
    · intro h
      obtain ⟨d, hd, h⟩ := bind_eq_ok h
      obtain ⟨ds, hds, hg⟩ := ih.mp h
      exact ⟨d :: ds, .cons hd hds, hg⟩
    · rintro ⟨_, hds, hg⟩
      obtain ⟨d, ds, hd, hrest, rfl⟩ := MakeDirectives.cons_iff.mp hds
      rw [addRules, hd]
      exact ih.mpr ⟨ds, hrest, hg⟩

theorem filterOf_eq_ok {s : LoggingSettings} {f : Filter} :
    filterOf s = .ok f ↔
      ∃ l ds, Level.ofText? s.defaultLevel.toList = some l ∧ MakeDirectives s.rules ds ∧
        ds.foldl Filter.add (Filter.initial.add (.ofLevel l)) = f := by
  constructor
  · intro h
    obtain ⟨l, hl, h⟩ := bind_eq_ok h
    obtain ⟨ds, hds, hf⟩ := addRules_eq_ok.mp h
    exact ⟨l, ds, levelOf_eq_ok.mp hl, hds, hf⟩
  · rintro ⟨l, ds, hl, hds, hf⟩
    rw [filterOf, levelOf_eq_ok.mpr hl]
    exact addRules_eq_ok.mpr ⟨ds, hds, hf⟩

/-- One rule that makes no directive keeps all of them from making a filter. -/
theorem filterOf_ne_ok {s : LoggingSettings} {r : LevelRule} (hr : r ∈ s.rules)
    (h : ∀ d, directiveOf r ≠ .ok d) (f : Filter) : filterOf s ≠ .ok f := by
  intro hf
  obtain ⟨-, ds, -, hds, -⟩ := filterOf_eq_ok.mp hf
  obtain ⟨d, -, hd⟩ := hds.exists_directive hr
  exact h d hd

theorem filterOf_of_paths (l : Level) (rules : List (String × Level))
    (hp : ∀ r ∈ rules, IsPath r.1) :
    filterOf ⟨l.word, rules.map fun r => ⟨r.1, r.2.word⟩⟩
      = .ok ((rules.map fun r => ⟨some r.1, none, [], r.2⟩).foldl Filter.add
          (Filter.initial.add (.ofLevel l))) := by
  refine filterOf_eq_ok.mpr ⟨l, _, l.ofText?_word, ?_, rfl⟩
  rw [MakeDirectives, List.forall₂_map_left_iff, List.forall₂_map_right_iff, List.forall₂_same]
  exact fun r hr => (directiveOf_of_path (hp r hr)).mpr ⟨r.2, r.2.ofText?_word, rfl⟩

end ServiceKit.Logging
