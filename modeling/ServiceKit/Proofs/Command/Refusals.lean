import ServiceKit.Proofs.Command.Tasks

/-!
What is looked at before a run touches a file. Settings that cannot be had, a level or a rule that
makes no filter, and data that is no hexadecimal all end a run before its task begins; and of the
settings the command line replaces the default level and the drain size, each by itself.
-/

namespace ServiceKit.Command

open Files (Tree)
open Host (HostFault Platform)
open Logging (Control Filter Level directiveOf filterOf)
open Text.Hex (Paired)

/-- The settings as the file gives them, or the defaults where no file is named. -/
def Invocation.configured (t : Tree) (i : Invocation) : Except HostFault Settings :=
  match i.config with
  | none => .ok {}
  | some path => Settings.ofFile path (settingsContent t path)

def withLevel (level : Option String) (s : Settings) : Settings :=
  { s with logging := { s.logging with defaultLevel := level.getD s.logging.defaultLevel } }

/-- What makes a run fail before its task begins. -/
inductive Invocation.Flawed (t : Tree) (i : Invocation) : Prop
  | settings (h : ∀ s, i.configured t ≠ .ok s)
  | level {s : Settings} (h : i.configured t = .ok s)
      (hl : Level.ofText? (i.logLevel.getD s.logging.defaultLevel).toList = none)
  | rule {s : Settings} {r : Settings.LevelRule} (h : i.configured t = .ok s)
      (hr : r ∈ s.logging.rules) (hd : ∀ d, directiveOf r ≠ .ok d)
  | data {r : WriteRequest} (h : i.task = .write r) (hh : ¬ Paired (Text.trim r.hex.toList))

def runUnder (host : Platform) (t : Tree) (s : Settings) (f : Filter) (format : Format)
    (task : Task) : Conclusion × Tree :=
  let done := perform host s format t task
  (.ofPerformed ((loaded s f.render :: done.1.events).filter
    (⟨s.logging, some f⟩ : Control).admits) done.1, done.2)

theorem tree_runUnder (host : Platform) (t : Tree) (s : Settings) (f : Filter) (format : Format)
    (task : Task) : (runUnder host t s f format task).2 = (perform host s format t task).2 := by
  rw [runUnder]

variable {host : Platform} {t : Tree} {i : Invocation} {s : Settings} {f : Filter}

theorem effectiveSettings_eq (t : Tree) (i : Invocation) :
    effectiveSettings t i.config i.logLevel = (i.configured t).map (withLevel i.logLevel) := by
  unfold effectiveSettings Invocation.configured
  cases i.config with
  | none => cases i.logLevel <;> rfl
  | some path =>
    simp only
    cases Settings.ofFile path (settingsContent t path) with
    | error e => rfl
    | ok s => cases i.logLevel <;> rfl

theorem effectiveSettings_of_configured (h : i.configured t = .ok s) :
    effectiveSettings t i.config i.logLevel = .ok (withLevel i.logLevel s) := by
  rw [effectiveSettings_eq, h]
  rfl

theorem prepare_eq_ok {prepared : Settings × Control × String} (h : prepare t i = .ok prepared) :
    ∃ s f, i.configured t = .ok s ∧ filterOf (withLevel i.logLevel s).logging = .ok f := by
  obtain ⟨settings, hsettings, h⟩ := bind_eq_ok h
  obtain ⟨control, hcontrol, -⟩ := bind_eq_ok h
  obtain ⟨opened, hopened, -⟩ := bind_eq_ok hcontrol
  obtain ⟨f, hf, -⟩ := bind_eq_ok hopened
  rw [effectiveSettings_eq] at hsettings
  obtain ⟨s, hs, rfl⟩ := map_eq_ok hsettings
  exact ⟨s, f, hs, hf⟩

theorem status_host (e : HostFault) : (Failure.host e).status = 1 := rfl

theorem carryOut_of_unprepared (h : ∀ prepared, prepare t i ≠ .ok prepared) :
    (carryOut host t i).1.status = 1 ∧ (carryOut host t i).2 = t := by
  unfold carryOut
  cases hp : prepare t i with
  | error e => exact ⟨status_host e, rfl⟩
  | ok prepared => exact absurd hp (h prepared)

theorem carryOut_of_filter (h : i.configured t = .ok s)
    (hf : filterOf (withLevel i.logLevel s).logging = .ok f) :
    carryOut host t i = runUnder host t (withLevel i.logLevel s) f i.format i.task := by
  rw [carryOut, prepare_of_filter (effectiveSettings_of_configured h) hf]
  rfl

/-- Data that is no hexadecimal keeps a file from being opened. -/
theorem writeBytes_of_unpaired {r : WriteRequest} (h : ¬ Paired (Text.trim r.hex.toList)) :
    ∃ e, writeBytes t r = (.failed (.hex e), t) := by
  unfold writeBytes decodeData
  cases hd : Text.Hex.decode (Text.trim r.hex.toList) with
  | error e => exact ⟨e, rfl⟩
  | ok bytes => exact absurd (Text.Hex.paired_of_decode hd) h

theorem runUnder_of_unpaired {r : WriteRequest} (h : ¬ Paired (Text.trim r.hex.toList))
    (format : Format) :
    (runUnder host t s f format (.write r)).1.status = 1 ∧
      (runUnder host t s f format (.write r)).2 = t := by
  obtain ⟨e, he⟩ := writeBytes_of_unpaired h (t := t)
  have hresult := result_perform_write host s format t r
  have htree := tree_perform_write host s format t r
  rw [he] at hresult htree
  constructor
  · unfold runUnder Conclusion.ofPerformed
    simp only [hresult]
    rfl
  · rw [tree_runUnder, htree]

theorem Invocation.Flawed.carryOut (h : i.Flawed t) :
    (carryOut host t i).1.status = 1 ∧ (carryOut host t i).2 = t := by
  by_cases hp : ∃ prepared, prepare t i = .ok prepared
  · obtain ⟨prepared, hp⟩ := hp
    obtain ⟨s', f, hs', hf⟩ := prepare_eq_ok hp
    cases h with
    | settings h => exact absurd hs' (h s')
    | level h hl =>
      obtain rfl := Except.ok.inj (h.symm.trans hs')
      obtain ⟨l, -, hlevel, -⟩ := Logging.filterOf_eq_ok.mp hf
      exact absurd (hl.symm.trans hlevel) nofun
    | @rule s r h hr hd =>
      obtain rfl := Except.ok.inj (h.symm.trans hs')
      have hmem : r ∈ (withLevel i.logLevel s).logging.rules := hr
      exact absurd hf (Logging.filterOf_ne_ok hmem hd f)
    | data h hh =>
      rw [carryOut_of_filter hs' hf, h]
      exact runUnder_of_unpaired hh i.format
  · exact carryOut_of_unprepared (not_exists.mp hp)

/-- A drain size on the command line counts as if it stood in the settings. -/
theorem perform_drain_size (settings : Settings) (format : Format) (r : DrainRequest) :
    perform host settings format t (.drain r) =
      perform host { settings with transfer := ⟨r.chunk settings.transfer⟩ } format t
        (.drain { r with size := none }) := by
  rw [perform, perform]
  rfl

/-- A run looks at its settings, its level, its rules and the data before it touches a file, and
fails if anything is wrong with them. A level on the command line replaces the default level only,
and a drain size counts for the drain only. -/
theorem run_checks_before_files (host : Platform) (t : Tree) (words : List String) :
    (∀ stop, readLine words = .error stop → (run host t words).2 = t) ∧
      ∀ i, readLine words = .ok i →
        (i.Flawed t → (run host t words).1.status = 1 ∧ (run host t words).2 = t) ∧
        ∀ s, i.configured t = .ok s →
          ∃ inForce : Settings,
            inForce.logging.defaultLevel = i.logLevel.getD s.logging.defaultLevel ∧
            inForce.logging.rules = s.logging.rules ∧
            inForce.transfer.drainSize = s.transfer.drainSize ∧
            (∀ f, filterOf inForce.logging = .ok f →
              run host t words = runUnder host t inForce f i.format i.task) ∧
            ∀ r, i.task = .drain r →
              perform host inForce i.format t i.task =
                perform host { inForce with transfer := ⟨r.size.getD s.transfer.drainSize⟩ }
                  i.format t (.drain { r with size := none }) := by
  refine ⟨fun stop hline => ?_, fun i hline => ?_⟩
  · rw [run, hline]
  · rw [run_of_line hline]
    refine ⟨fun hflawed => hflawed.carryOut, fun s hs => ?_⟩
    refine ⟨withLevel i.logLevel s, rfl, rfl, rfl, ?_, ?_⟩
    · intro f hf
      exact carryOut_of_filter hs hf
    · intro r hr
      rw [hr]
      exact perform_drain_size _ _ r

/-- A level that no filter knows, and an odd number of digits: neither run creates the file. -/
theorem run_checks_before_files_create :
    let host : Platform := ⟨.linux, "x86_64"⟩
    let t : Tree := ⟨["home"], Files.devices, .usual⟩
    let words := ["--log-level", "loud", "write", "segment", "--create", "--hex", "00"]
    let words' := ["write", "segment", "--create", "--hex", " 6C6 "]
    ((run host t words).1.status = 1 ∧ (run host t words).2 = t) ∧
      (run host t words').1.status = 1 ∧ (run host t words').2 = t := by
  intro host t words words'
  let i : Invocation := ⟨.write ⟨"segment", 0, "00", true⟩, none, some "loud", .text⟩
  let i' : Invocation := ⟨.write ⟨"segment", 0, " 6C6 ", true⟩, none, none, .text⟩
  have hline : readLine words = .ok i := by rfl
  have hline' : readLine words' = .ok i' := by rfl
  have hlevel : i.Flawed t := .level (s := {}) rfl (by decide)
  have hdata : i'.Flawed t := .data rfl fun hpaired => absurd hpaired.1 (by decide)
  exact ⟨((run_checks_before_files host t words).2 i hline).1 hlevel,
    ((run_checks_before_files host t words').2 i' hline').1 hdata⟩

end ServiceKit.Command
