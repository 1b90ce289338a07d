import ServiceKit.Proofs.Logging.Rules

/-!
Changes to a running log control. A change either goes through, and then the settings in force and
the active filter move together, or it leaves both alone; so the filter is at every moment the one
that the settings in force ask for.
-/

namespace ServiceKit.Logging

open Host (HostFault)
open Settings (LoggingSettings)

inductive Change where
  | rule (target level : String)
  | default (level : String)
  deriving DecidableEq

namespace Change

def ask : Change → LoggingSettings → LoggingSettings
  | .rule target level, s => s.changeLevel target level
  | .default level, s => { s with defaultLevel := level }

/-- What is logged when a change goes through. -/
def events : Change → List Event
  | .rule target level => [Control.changed target level]
  | .default _ => []

end Change

inductive Incident where
  | change (d : Change)
  | layerGone
  deriving DecidableEq

namespace Control

def change (c : Control) : Change → Outcome Control (Except HostFault Unit)
  | .rule target level => c.changeLevel target level
  | .default level => c.changeDefault level

def after (c : Control) : Incident → Control
  | .change d => (c.change d).state
  | .layerGone => c.dropLayer

def afterAll (history : List Incident) (c : Control) : Control := history.foldl after c

@[simp]
theorem afterAll_cons (i : Incident) (rest : List Incident) (c : Control) :
    c.afterAll (i :: rest) = (c.after i).afterAll rest := rfl

/-- The settings make a filter, and it is the active one unless the layer is gone. -/
def InStep (c : Control) : Prop :=
  ∃ f, filterOf c.settings = .ok f ∧ (c.active = none ∨ c.active = some f)

variable {c : Control} {d : Change}

theorem change_eq (c : Control) (d : Change) :
    c.change d =
      match c.apply (d.ask c.settings) with
      | .error e => ⟨.error e, [], c⟩
      | .ok after => ⟨.ok (), d.events, after⟩ := by
  cases d <;> rfl

theorem change_of_refused {e : HostFault} (h : filterOf (d.ask c.settings) = .error e) :
    c.change d = ⟨.error e, [], c⟩ := by
  have ha : c.apply (d.ask c.settings) = .error e := by
    rw [apply, h]
    rfl
  rw [change_eq, ha]

theorem change_of_gone {f : Filter} (h : filterOf (d.ask c.settings) = .ok f)
    (hg : c.active = none) : c.change d = ⟨.error layerGone, [], c⟩ := by
  have ha : c.apply (d.ask c.settings) = .error layerGone := by
    rw [apply, h, hg]
    rfl
  rw [change_eq, ha]

theorem change_of_built {f g : Filter} (h : filterOf (d.ask c.settings) = .ok f)
    (hg : c.active = some g) :
    c.change d = ⟨.ok (), d.events, ⟨d.ask c.settings, some f⟩⟩ := by
  have ha : c.apply (d.ask c.settings) = .ok ⟨d.ask c.settings, some f⟩ := by
    rw [apply, h, hg]
    rfl
  rw [change_eq, ha]

/-- A change goes through or does nothing. -/
theorem change_cases (c : Control) (d : Change) :
    (∃ e, c.change d = ⟨.error e, [], c⟩) ∨
      ∃ f, filterOf (d.ask c.settings) = .ok f ∧ c.active.isSome ∧
        c.change d = ⟨.ok (), d.events, ⟨d.ask c.settings, some f⟩⟩ := by
  cases h : filterOf (d.ask c.settings) with
  | error e => exact .inl ⟨e, change_of_refused h⟩
  | ok f =>
    cases hg : c.active with
    | none => exact .inl ⟨layerGone, change_of_gone h hg⟩
    | some g => exact .inr ⟨f, rfl, rfl, change_of_built h hg⟩

theorem state_change_of_refused (h : ∀ f, filterOf (d.ask c.settings) ≠ .ok f) :
    (c.change d).state = c := by
  rcases change_cases c d with ⟨e, he⟩ | ⟨f, hf, -⟩
  · rw [he]
  · exact absurd hf (h f)

theorem change_result_ok_iff :
    (c.change d).result = .ok () ↔
      c.active.isSome ∧ ∃ f, filterOf (d.ask c.settings) = .ok f := by
  constructor
  · intro hr
    rcases change_cases c d with ⟨e, he⟩ | ⟨f, hf, hg, -⟩
    · rw [he] at hr
      contradiction
    · exact ⟨hg, f, hf⟩
  · rintro ⟨hg, f, hf⟩
    obtain ⟨g, hg⟩ := Option.isSome_iff_exists.mp hg
    rw [change_of_built hf hg]

theorem InStep.change (h : InStep c) (d : Change) : InStep (c.change d).state := by
  rcases change_cases c d with ⟨e, he⟩ | ⟨f, hf, -, ho⟩
  · rwa [he]
  · rw [ho]
    exact ⟨f, hf, .inr rfl⟩

theorem InStep.dropLayer (h : InStep c) : InStep c.dropLayer := by
  obtain ⟨f, hf, -⟩ := h
  exact ⟨f, hf, .inl rfl⟩

theorem InStep.afterAll (h : InStep c) (history : List Incident) :
    InStep (c.afterAll history) := by
  induction history generalizing c with
  | nil => exact h
  | cons i rest ih =>
    cases i with
    | change d => exact ih (h.change d)
    | layerGone => exact ih h.dropLayer

theorem ofSettings_of_filter {s : LoggingSettings} {f : Filter} (h : filterOf s = .ok f) :
    Control.ofSettings s = .ok ⟨s, some f⟩ := by
  rw [Control.ofSettings, h]
  rfl

theorem ofSettings_eq_ok {s : LoggingSettings} (h : Control.ofSettings s = .ok c) :
    ∃ f, filterOf s = .ok f ∧ c = ⟨s, some f⟩ := by
  cases hf : filterOf s with
  | error e =>
    rw [Control.ofSettings, hf] at h
    contradiction
  | ok f =>
    rw [ofSettings_of_filter hf] at h
    exact ⟨f, rfl, (Except.ok.inj h).symm⟩

theorem inStep_ofSettings {s : LoggingSettings} (h : Control.ofSettings s = .ok c) : InStep c := by
  obtain ⟨f, hf, rfl⟩ := ofSettings_eq_ok h
  exact ⟨f, hf, .inr rfl⟩

theorem active_change_isSome (c : Control) (d : Change) :
    (c.change d).state.active.isSome = c.active.isSome := by
  rcases change_cases c d with ⟨e, he⟩ | ⟨f, -, hg, ho⟩
  · rw [he]
  · rw [ho, hg]
    rfl

theorem active_afterAll_isSome (history : List Incident) (c : Control) :
    (c.afterAll history).active.isSome ↔ c.active.isSome ∧ .layerGone ∉ history := by
  induction history generalizing c with
  | nil => simp [Control.afterAll]
  | cons i rest ih =>
    rw [afterAll_cons, ih]
    cases i with
    | change d => simp [after, active_change_isSome]
    | layerGone => simp [after, Control.dropLayer]

/-- The active filter of a control is the one that its settings make, while the layer lives. A
change goes through exactly if the layer lives and the new settings make a filter, and is logged
then; otherwise everything stays as it was. -/
theorem active_eq_filterOf {s : LoggingSettings} {start : Control}
    (hs : Control.ofSettings s = .ok start) (history : List Incident) :
    let c := start.afterAll history
    (∃ f, filterOf c.settings = .ok f ∧
        c.active = if .layerGone ∈ history then none else some f) ∧
      ∀ d : Change,
        let o := c.change d
        (o.result = .ok () ↔
            .layerGone ∉ history ∧ ∃ f, filterOf (d.ask c.settings) = .ok f) ∧
          (o.result = .ok () → o.state.settings = d.ask c.settings ∧ o.events = d.events) ∧
          ∀ e, o.result = .error e → o.state = c ∧ o.events = [] := by
  intro c
  obtain ⟨f, hf, ha⟩ : InStep c := (inStep_ofSettings hs).afterAll history
  have hlive : c.active.isSome ↔ .layerGone ∉ history := by
    obtain ⟨f₀, -, rfl⟩ := ofSettings_eq_ok hs
    simpa using active_afterAll_isSome history ⟨s, some f₀⟩
  refine ⟨⟨f, hf, ?_⟩, fun d => ⟨?_, ?_, ?_⟩⟩
  · split
    · rename_i hgone
      exact Option.not_isSome_iff_eq_none.mp fun hsome => hlive.mp hsome hgone
    · rename_i hlives
      have hsome := hlive.mpr hlives
      rcases ha with ha | ha
      · simp [ha] at hsome
      · exact ha
  · rw [change_result_ok_iff, hlive]
  · intro hr
    rcases change_cases c d with ⟨e, he⟩ | ⟨g, -, -, ho⟩
    · rw [he] at hr
      contradiction
    · rw [ho]
      exact ⟨rfl, rfl⟩
  · intro e hr
    rcases change_cases c d with ⟨e', he⟩ | ⟨g, -, -, ho⟩
    · rw [he]
      exact ⟨rfl, rfl⟩
    · rw [ho] at hr
      contradiction

/-- A target without a name, a level that is none, and after them a change that goes through. -/
theorem active_eq_filterOf_mixed :
    ∃ start, Control.ofSettings ⟨"warn", [⟨"io", "info"⟩]⟩ = .ok start ∧
      let c := start.afterAll
        [.change (.rule "" "debug"), .change (.rule "io" "loud"), .change (.rule "io" "debug")]
      c.settings = ⟨"warn", [⟨"io", "debug"⟩]⟩ ∧
        ∃ f, filterOf c.settings = .ok f ∧ c.active = some f := by
  have hio : IsPath "io" := ⟨by decide, List.all_eq_true.mp (by decide)⟩
  obtain ⟨f, hf⟩ : ∃ f, filterOf ⟨"warn", [⟨"io", "info"⟩]⟩ = .ok f :=
    ⟨_, filterOf_of_paths .warn [("io", .info)] (by simp [hio])⟩
  obtain ⟨g, hg⟩ : ∃ g, filterOf ⟨"warn", [⟨"io", "debug"⟩]⟩ = .ok g :=
    ⟨_, filterOf_of_paths .warn [("io", .debug)] (by simp [hio])⟩
  have hs := ofSettings_of_filter hf
  let start : Control := ⟨⟨"warn", [⟨"io", "info"⟩]⟩, some f⟩
  have hnameless : start.after (.change (.rule "" "debug")) = start := by
    have hr : ⟨"", "debug"⟩ ∈ Settings.setRule "" "debug" [⟨"io", "info"⟩] := by decide
    refine state_change_of_refused (filterOf_ne_ok hr fun d hd => ?_)
    exact (directiveOf_eq_ok.mp hd).1 rfl
  have hloud : start.after (.change (.rule "io" "loud")) = start := by
    have hr : ⟨"io", "loud"⟩ ∈ Settings.setRule "io" "loud" [⟨"io", "info"⟩] := by decide
    refine state_change_of_refused (filterOf_ne_ok hr fun d hd => ?_)
    obtain ⟨-, l, hl, -⟩ := directiveOf_eq_ok.mp hd
    rw [show Level.ofText? "loud".toList = none by decide] at hl
    contradiction
  have hdebug : start.after (.change (.rule "io" "debug"))
      = ⟨⟨"warn", [⟨"io", "debug"⟩]⟩, some g⟩ :=
    congrArg Outcome.state (change_of_built (c := start) (d := .rule "io" "debug") hg rfl)
  refine ⟨start, hs, ?_, (active_eq_filterOf hs _).1⟩
  rw [afterAll, List.foldl_cons, hnameless, List.foldl_cons, hloud, List.foldl_cons, hdebug]
  rfl

end Control

end ServiceKit.Logging
