import ServiceKit.Proofs.Logging.Changes

/-!
The list of rules over the life of a control. Every change of a level that goes through replaces the
level of the first rule for its target, where that rule stands, or puts a rule behind all others;
nothing else that can happen has any part in the list. So the targets of a control are those it
started with, in their places, and behind them the new ones, each of them once.
-/

namespace ServiceKit.Settings

/-- The rules with another level for a target: the first rule for it gets the level, and if there is
none a new rule comes last. -/
def amended (rules : List LevelRule) (r : LevelRule) : List LevelRule :=
  match rules.findIdx? (·.target = r.target) with
  | some i => rules.modify i fun old => { old with level := r.level }
  | none => rules ++ [r]

def targets (rules : List LevelRule) : List String := rules.map (·.target)

section Amended

variable {rules : List LevelRule} {r x : LevelRule}

theorem amended_cons_of_eq (h : x.target = r.target) :
    amended (x :: rules) r = { x with level := r.level } :: rules := by
  simp [amended, List.findIdx?_cons, h]

theorem amended_cons_of_ne (h : x.target ≠ r.target) :
    amended (x :: rules) r = x :: amended rules r := by
  simp only [amended, List.findIdx?_cons, decide_eq_true_eq, if_neg h]
  cases rules.findIdx? (·.target = r.target) <;> rfl

theorem setRule_eq_amended (target level : String) (rules : List LevelRule) :
    setRule target level rules = amended rules ⟨target, level⟩ := by
  induction rules with
  | nil => rfl
  | cons x rest ih =>
    rw [setRule]
    split
    · rename_i hx
      rw [amended_cons_of_eq hx, hx]
    · rename_i hx
      rw [amended_cons_of_ne hx, ih]

theorem getElem?_amended {i : Nat} (hi : rules[i]? = some x)
    (hfirst : rules.findIdx? (·.target = r.target) ≠ some i) : (amended rules r)[i]? = some x := by
  rw [amended]
  split
  · rename_i j hj
    have hij : j ≠ i := fun h => hfirst (h ▸ hj)
    rw [List.getElem?_modify, hi]
    simp [hij]
  · obtain ⟨hlt, -⟩ := List.getElem?_eq_some_iff.mp hi
    rw [List.getElem?_append_left hlt, hi]

/-- A target stands where it stood, and a new one stands last. -/
theorem targets_amended (rules : List LevelRule) (r : LevelRule) :
    targets (amended rules r)
      = targets rules ++ if r.target ∈ targets rules then [] else [r.target] := by
  induction rules with
  | nil => rfl
  | cons x rest ih =>
    by_cases hx : x.target = r.target
    · simp [amended_cons_of_eq hx, targets, hx]
    · simp only [targets] at ih
      simp [amended_cons_of_ne hx, targets, ih, Ne.symm hx]

theorem nodup_targets_amended (h : (targets rules).Nodup) : (targets (amended rules r)).Nodup := by
  rw [targets_amended]
  split
  · rwa [List.append_nil]
  · rename_i hr
    exact List.nodup_append.mpr ⟨h, List.nodup_singleton _, by
      rintro t ht _ hr' rfl
      exact hr (List.mem_singleton.mp hr' ▸ ht)⟩

end Amended

/-- The targets that some rules speak of for the first time, each of them once. -/
def firstNamed (rules news : List LevelRule) : List String :=
  ((targets news).filter (· ∉ targets rules)).eraseDups

theorem targets_foldl_amended (rules news : List LevelRule) :
    targets (news.foldl amended rules) = targets rules ++ firstNamed rules news := by
  induction news generalizing rules with
  | nil => simp [firstNamed, targets]
  | cons r rest ih =>
    have hcons : targets (r :: rest) = r.target :: targets rest := rfl
    rw [List.foldl_cons, ih, targets_amended]
    by_cases hr : r.target ∈ targets rules
    · simp [firstNamed, hcons, targets_amended, hr]
    · have hfilter : (targets rest).filter (· ∉ targets rules ++ [r.target])
          = ((targets rest).filter (· ∉ targets rules)).filter (fun t => !t == r.target) := by
        rw [List.filter_filter]
        exact List.filter_congr fun t _ => by grind
      rw [if_neg hr, List.append_assoc, firstNamed, firstNamed, hcons,
        List.filter_cons_of_pos (by simpa using hr), List.eraseDups_cons, targets_amended,
        if_neg hr, hfilter]
      rfl

theorem nodup_targets_foldl_amended {rules : List LevelRule} (h : (targets rules).Nodup)
    (news : List LevelRule) : (targets (news.foldl amended rules)).Nodup := by
  induction news generalizing rules with
  | nil => exact h
  | cons r rest ih => exact ih (nodup_targets_amended h)

end ServiceKit.Settings

namespace ServiceKit.Logging

open Host (HostFault)
open Settings (LevelRule LoggingSettings amended targets firstNamed)

def Change.rule? : Change → Option LevelRule
  | .rule target level => some ⟨target, level⟩
  | .default _ => none

theorem Change.rules_ask (d : Change) (s : LoggingSettings) :
    (d.ask s).rules = d.rule?.toList.foldl amended s.rules := by
  cases d with
  | rule target level => exact Settings.setRule_eq_amended target level s.rules
  | default level => rfl

namespace Control

/-- The rules that are set in the course of a history, by those changes that go through. -/
def rulesSet (c : Control) : List Incident → List LevelRule
  | [] => []
  | .layerGone :: rest => c.dropLayer.rulesSet rest
  | .change d :: rest =>
    match (c.change d).result with
    | .ok () => d.rule?.toList ++ (c.change d).state.rulesSet rest
    | .error _ => (c.change d).state.rulesSet rest

theorem rulesSet_of_done {c c' : Control} {d : Change} {events : List Event}
    (h : c.change d = ⟨.ok (), events, c'⟩) (rest : List Incident) :
    c.rulesSet (.change d :: rest) = d.rule?.toList ++ c'.rulesSet rest := by
  rw [rulesSet, h]

theorem rulesSet_of_refused {c : Control} {d : Change} {e : HostFault}
    (h : c.change d = ⟨.error e, [], c⟩) (rest : List Incident) :
    c.rulesSet (.change d :: rest) = c.rulesSet rest := by
  rw [rulesSet, h]

theorem rules_afterAll_eq (c : Control) (history : List Incident) :
    (c.afterAll history).settings.rules = (c.rulesSet history).foldl amended c.settings.rules := by
  induction history generalizing c with
  | nil => rfl
  | cons i rest ih =>
    rw [afterAll_cons, ih]
    cases i with
    | layerGone => rfl
    | change d =>
      rw [after]
      rcases change_cases c d with ⟨e, he⟩ | ⟨f, -, -, ho⟩
      · rw [he, rulesSet_of_refused he]
      · rw [ho, rulesSet_of_done ho, List.foldl_append, Change.rules_ask]

/-- The rules in force are those at the start, amended by every rule that was set with success.
Their targets stay distinct if they were, and a rule keeps its place, and its level unless it is the
first one for the target of a change. -/
theorem rules_afterAll {s : LoggingSettings} {start : Control}
    (hs : Control.ofSettings s = .ok start) (history : List Incident) :
    let c := start.afterAll history
    let rules := c.settings.rules
    let set := start.rulesSet history
    rules = set.foldl amended s.rules ∧
    targets rules = targets s.rules ++ firstNamed s.rules set ∧
    rules.length = s.rules.length + (firstNamed s.rules set).length ∧
    ((targets s.rules).Nodup → (targets rules).Nodup) ∧
    (∀ level, (c.changeDefault level).state.settings.rules = rules) ∧
    ∀ target level,
      let o := c.changeLevel target level
      (o.result = .ok () → o.state.settings.rules = amended rules ⟨target, level⟩) ∧
      (∀ e, o.result = .error e → o.state.settings.rules = rules) ∧
      ∀ i r, rules[i]? = some r → rules.findIdx? (·.target = target) ≠ some i →
        o.state.settings.rules[i]? = some r := by
  intro c rules set
  obtain ⟨f₀, -, rfl⟩ := ofSettings_eq_ok hs
  have hrules : rules = set.foldl amended s.rules := rules_afterAll_eq _ history
  have htargets : targets rules = targets s.rules ++ firstNamed s.rules set := by
    rw [hrules, Settings.targets_foldl_amended]
  refine ⟨hrules, htargets, ?_, fun h => ?_, fun level => ?_, fun target level => ?_⟩
  · simpa [targets] using congrArg List.length htargets
  · rw [hrules]
    exact Settings.nodup_targets_foldl_amended h set
  · rcases change_cases c (.default level) with ⟨e, he⟩ | ⟨f, -, -, ho⟩
    · rw [show c.changeDefault level = _ from he]
    · rw [show c.changeDefault level = _ from ho]
      rfl
  · intro o
    rcases change_cases c (.rule target level) with ⟨e, he⟩ | ⟨f, -, -, ho⟩
    · rw [show o = _ from he]
      refine ⟨fun h => ?_, fun _ _ => rfl, fun i r hi _ => hi⟩
      contradiction
    · have hset : o.state.settings.rules = amended rules ⟨target, level⟩ := by
        rw [show o = _ from ho]
        exact Settings.setRule_eq_amended target level rules
      refine ⟨fun _ => hset, fun e he => ?_, fun i r hi hfirst => ?_⟩
      · rw [show o = _ from ho] at he
        contradiction
      · rw [hset]
        exact Settings.getElem?_amended hi hfirst

/-- A target of its own, a rule made more talkative where it stands, and a change that comes when the
layer has gone. -/
theorem rules_afterAll_mixed :
    ∃ start, Control.ofSettings ⟨"warn", [⟨"io", "info"⟩]⟩ = .ok start ∧
      (start.afterAll [.change (.rule "net" "debug"), .change (.rule "io" "trace"), .layerGone,
          .change (.rule "net" "error")]).settings.rules
        = [⟨"io", "trace"⟩, ⟨"net", "debug"⟩] := by
  have hio : IsPath "io" := ⟨by decide, List.all_eq_true.mp (by decide)⟩
  have hnet : IsPath "net" := ⟨by decide, List.all_eq_true.mp (by decide)⟩
  obtain ⟨f, hf⟩ : ∃ f, filterOf ⟨"warn", [⟨"io", "info"⟩]⟩ = .ok f :=
    ⟨_, filterOf_of_paths .warn [("io", .info)] (by simp [hio])⟩
  obtain ⟨g, hg⟩ : ∃ f, filterOf ⟨"warn", [⟨"io", "info"⟩, ⟨"net", "debug"⟩]⟩ = .ok f :=
    ⟨_, filterOf_of_paths .warn [("io", .info), ("net", .debug)] (by simp [hio, hnet])⟩
  obtain ⟨k, hk⟩ : ∃ f, filterOf ⟨"warn", [⟨"io", "trace"⟩, ⟨"net", "debug"⟩]⟩ = .ok f :=
    ⟨_, filterOf_of_paths .warn [("io", .trace), ("net", .debug)] (by simp [hio, hnet])⟩
  have hs := ofSettings_of_filter hf
  have hnew := change_of_built (c := ⟨⟨"warn", [⟨"io", "info"⟩]⟩, some f⟩)
    (d := .rule "net" "debug") hg rfl
  have hraised := change_of_built (c := ⟨⟨"warn", [⟨"io", "info"⟩, ⟨"net", "debug"⟩]⟩, some g⟩)
    (d := .rule "io" "trace") hk rfl
  have hgone (s : LoggingSettings) (d : Change) :
      ∃ e, Control.change ⟨s, none⟩ d = ⟨.error e, [], ⟨s, none⟩⟩ := by
    rcases change_cases ⟨s, none⟩ d with h | ⟨f, -, hsome, -⟩
    · exact h
    · contradiction
  obtain ⟨e, he⟩ := hgone ⟨"warn", [⟨"io", "trace"⟩, ⟨"net", "debug"⟩]⟩ (.rule "net" "error")
  have hset :=
    calc rulesSet ⟨⟨"warn", [⟨"io", "info"⟩]⟩, some f⟩
          [.change (.rule "net" "debug"), .change (.rule "io" "trace"), .layerGone,
            .change (.rule "net" "error")]
        = ⟨"net", "debug"⟩ :: rulesSet ⟨⟨"warn", [⟨"io", "info"⟩, ⟨"net", "debug"⟩]⟩, some g⟩
            [.change (.rule "io" "trace"), .layerGone, .change (.rule "net" "error")] :=
          rulesSet_of_done hnew _
      _ = ⟨"net", "debug"⟩ :: ⟨"io", "trace"⟩ ::
            rulesSet ⟨⟨"warn", [⟨"io", "trace"⟩, ⟨"net", "debug"⟩]⟩, none⟩
              [.change (.rule "net" "error")] :=
          congrArg (⟨"net", "debug"⟩ :: ·) (rulesSet_of_done hraised _)
      _ = [⟨"net", "debug"⟩, ⟨"io", "trace"⟩] := by
          rw [rulesSet_of_refused he]
          rfl
  refine ⟨_, hs, (rules_afterAll hs _).1.trans ?_⟩
  rw [hset]
  decide

end Control

end ServiceKit.Logging
