import Mathlib.Data.List.Forall2
import ServiceKit.Proofs.Settings.Fields
import ServiceKit.Proofs.Toml.Document

/-!
What is read from a document. Each known key decides its own field and nothing else; keys that are
not known, and the order of keys, decide nothing.
-/

namespace ServiceKit.Settings

open Toml (Value)

variable {v : Value} {entries es d : List (String × Value)}

/-! ### The readers as steps for their keys -/

def decodeGiven (v : Value) : Except Misfit (Option String) := (decodeText v).map some

def ruleStep : Step PartialRule :=
  readField "target" decodeGiven (fun r t => { r with target := t }) <|
    readField "level" decodeGiven (fun r l => { r with level := l }) skip

def loggingStep : Step LoggingSettings :=
  readField "default_level" decodeText (fun s l => { s with defaultLevel := l }) <|
    readField "directives" decodeRules (fun s rs => { s with rules := rs }) skip

def transferStep : Step TransferSettings :=
  readField "drain_buffer_size" decodeSize (fun _ n => ⟨n⟩) skip

def settingsStep : Step Settings :=
  readField "logging" decodeLogging (fun s l => { s with logging := l }) <|
    readField "transfer" decodeTransfer (fun s t => { s with transfer := t }) skip

theorem read_eq (r : PartialRule) :
    PartialRule.read entries r = readEntries ruleStep entries r :=
  eq_readEntries (fun _ => rfl) (fun key v rest r => by
    rw [PartialRule.read, ruleStep, readField_bind, readField_bind, decodeGiven]
    cases decodeText v <;> rfl) entries r

theorem readLogging_eq (s : LoggingSettings) :
    readLogging entries s = readEntries loggingStep entries s :=
  eq_readEntries (fun _ => rfl) (fun key v rest s => by
    rw [readLogging, loggingStep, readField_bind, readField_bind]
    rfl) entries s

theorem readTransfer_eq (s : TransferSettings) :
    readTransfer entries s = readEntries transferStep entries s :=
  eq_readEntries (fun _ => rfl) (fun key v rest s => by
    rw [readTransfer, transferStep, readField_bind]
    rfl) entries s

theorem readSettings_eq (s : Settings) :
    readSettings entries s = readEntries settingsStep entries s :=
  eq_readEntries (fun _ => rfl) (fun key v rest s => by
    rw [readSettings, settingsStep, readField_bind, readField_bind]
    rfl) entries s

/-! ### Single values -/

theorem decodeText_eq_ok {t : String} : decodeText v = .ok t ↔ v = .text t := by
  cases v <;> simp [decodeText]

theorem decodeGiven_eq_ok {t : String} : decodeGiven v = .ok (some t) ↔ v = .text t := by
  constructor
  · intro h
    obtain ⟨u, hu, heq⟩ := map_eq_ok h
    obtain rfl := Option.some.inj heq
    exact decodeText_eq_ok.mp hu
  · rintro rfl
    rfl

theorem decodeSize_eq_ok {n : Nat} : decodeSize v = .ok n ↔ v = .integer n := by
  cases v with
  | integer m =>
    rw [decodeSize, Value.integer.injEq]
    split
    · rw [Except.ok.injEq]
      omega
    · rename_i hneg
      exact ⟨nofun, fun h => absurd (h ▸ Int.natCast_nonneg n) hneg⟩
  | _ => simp [decodeSize]

theorem finish_eq_ok {p : PartialRule} {r : LevelRule} :
    p.finish = .ok r ↔ p.target = some r.target ∧ p.level = some r.level := by
  obtain ⟨target, level⟩ := p
  obtain ⟨t, l⟩ := r
  cases target <;> cases level <;> simp [PartialRule.finish]

/-! ### Rules -/

/-- A table that spells a rule. It may have other keys too. -/
def SpellsRule (v : Value) (r : LevelRule) : Prop :=
  ∃ es, v = .table es ∧ ("target", .text r.target) ∈ es ∧ ("level", .text r.level) ∈ es

theorem fills_target : Fills ruleStep "target" decodeGiven (·.target) := by
  refine ((keeps_skip _).readField ?_).fills ?_ <;> exact fun _ _ => rfl

theorem fills_level : Fills ruleStep "level" decodeGiven (·.level) := by
  refine ((keeps_skip _).fills ?_).readField ?_ (by decide) <;> exact fun _ _ => rfl

theorem value_unique {key : String} {w : Value} (hk : (es.map (·.1)).Nodup) (hv : (key, v) ∈ es)
    (hw : (key, w) ∈ es) : v = w :=
  (Prod.mk.inj (List.inj_on_of_nodup_map hk hv hw rfl)).2

theorem exists_rule {r : LevelRule} (hk : (es.map (·.1)).Nodup)
    (h : SpellsRule (.table es) r) : ∃ p, readEntries ruleStep es {} = .ok p := by
  obtain ⟨_, ⟨⟩, ht, hl⟩ := h
  have hgiven {key t : String} {e : String × Value} (he : e ∈ es) (hkey : (key, .text t) ∈ es)
      (heq : e.1 = key) : ∃ a, decodeGiven e.2 = .ok a := by
    subst heq
    exact ⟨some t, decodeGiven_eq_ok.mpr (value_unique hk he hkey)⟩
  exact exists_readEntries (fun e he =>
    (accepts_skip.readField (hgiven he hl)).readField (hgiven he ht)) _

theorem decodeRule_eq_ok {r : LevelRule} (hk : (es.map (·.1)).Nodup) :
    decodeRule (.table es) = .ok r ↔ SpellsRule (.table es) r := by
  have hparts {p : PartialRule} (hp : readEntries ruleStep es {} = .ok p) :
      p.finish = .ok r ↔ SpellsRule (.table es) r := by
    have htarget := fills_target.filled hk hp
    have hlevel := fills_level.filled hk hp
    rw [finish_eq_ok]
    constructor
    · rintro ⟨ht, hl⟩
      obtain ⟨v, hv, hdv⟩ := htarget.exists_present (by rw [ht]; nofun)
      obtain ⟨w, hw, hdw⟩ := hlevel.exists_present (by rw [hl]; nofun)
      rw [ht] at hdv
      rw [hl] at hdw
      obtain rfl := decodeGiven_eq_ok.mp hdv
      obtain rfl := decodeGiven_eq_ok.mp hdw
      exact ⟨es, rfl, hv, hw⟩
    · rintro ⟨_, ⟨⟩, ht, hl⟩
      have hdt := htarget.given _ ht
      have hdl := hlevel.given _ hl
      exact ⟨(Except.ok.inj hdt).symm, (Except.ok.inj hdl).symm⟩
  have hread : decodeRule (.table es) = (readEntries ruleStep es {}).bind PartialRule.finish := by
    rw [← read_eq]
    rfl
  rw [hread]
  constructor
  · intro h
    obtain ⟨p, hp, hr⟩ := bind_eq_ok h
    exact (hparts hp).mp hr
  · intro h
    obtain ⟨p, hp⟩ := exists_rule hk h
    rw [hp]
    exact (hparts hp).mpr h

theorem mapM_eq_ok {ε α β : Type} {f : α → Except ε β} {R : α → β → Prop} {as : List α}
    {bs : List β} (h : ∀ a ∈ as, ∀ b, f a = .ok b ↔ R a b) :
    as.mapM f = .ok bs ↔ List.Forall₂ R as bs := by
  induction as generalizing bs with
  | nil =>
    rw [List.forall₂_nil_left_iff]
    exact (Except.ok.injEq _ _).to_iff.trans eq_comm
  | cons a as ih =>
    obtain ⟨ha, has⟩ := List.forall_mem_cons.mp h
    rw [List.mapM_cons, List.forall₂_cons_left_iff]
    constructor
    · intro hm
      obtain ⟨b, hb, hm⟩ := bind_eq_ok hm
      obtain ⟨rest, hrest, hm⟩ := bind_eq_ok hm
      exact ⟨b, rest, (ha b).mp hb, (ih has).mp hrest, (Except.ok.inj hm).symm⟩
    · rintro ⟨b, rest, hb, hrest, rfl⟩
      rw [(ha b).mpr hb, (ih has).mpr hrest]
      rfl

theorem exists_forall₂_iff {α β : Type} {R : α → β → Prop} {as : List α} :
    (∃ bs, List.Forall₂ R as bs) ↔ ∀ a ∈ as, ∃ b, R a b := by
  induction as with
  | nil => exact ⟨fun _ => by simp, fun _ => ⟨[], .nil⟩⟩
  | cons a as ih =>
    rw [List.forall_mem_cons, ← ih]
    constructor
    · rintro ⟨_, _ | ⟨hb, hbs⟩⟩
      exact ⟨⟨_, hb⟩, _, hbs⟩
    · rintro ⟨⟨b, hb⟩, bs, hbs⟩
      exact ⟨b :: bs, .cons hb hbs⟩

theorem decodeRules_eq_ok {items : List Value} {rs : List LevelRule}
    (hk : ∀ v ∈ items, v.Keyed) (ht : ∀ v ∈ items, ∃ es, v = .table es) :
    decodeRules (.list items) = .ok rs ↔ List.Forall₂ SpellsRule items rs := by
  refine mapM_eq_ok fun v hv r => ?_
  obtain ⟨es, rfl⟩ := ht v hv
  exact decodeRule_eq_ok (hk _ hv).nodup

/-! ### Fields of the settings -/

theorem fills_defaultLevel : Fills loggingStep "default_level" decodeText (·.defaultLevel) := by
  refine ((keeps_skip _).readField ?_).fills ?_ <;> exact fun _ _ => rfl

theorem fills_rules : Fills loggingStep "directives" decodeRules (·.rules) := by
  refine ((keeps_skip _).fills ?_).readField ?_ (by decide) <;> exact fun _ _ => rfl

theorem fills_drainSize : Fills transferStep "drain_buffer_size" decodeSize (·.drainSize) := by
  refine (keeps_skip _).fills ?_
  exact fun _ _ => rfl

theorem fills_logging : Fills settingsStep "logging" decodeLogging (·.logging) := by
  refine ((keeps_skip _).readField ?_).fills ?_ <;> exact fun _ _ => rfl

theorem fills_transfer : Fills settingsStep "transfer" decodeTransfer (·.transfer) := by
  refine ((keeps_skip _).fills ?_).readField ?_ (by decide) <;> exact fun _ _ => rfl

/-! ### Documents -/

/-- The document has a table for a part of the settings, and in it a value under the key. -/
def Gives (d : List (String × Value)) (part key : String) (v : Value) : Prop :=
  ∃ es, (part, .table es) ∈ d ∧ (key, v) ∈ es

/-- The parts of the settings that are present are tables, and so are all rules in a list. -/
structure Shaped (d : List (String × Value)) : Prop where
  logging : ∀ v, ("logging", v) ∈ d → ∃ es, v = .table es
  transfer : ∀ v, ("transfer", v) ∈ d → ∃ es, v = .table es
  rule : ∀ items, Gives d "logging" "directives" (.list items) →
    ∀ v ∈ items, ∃ es, v = .table es

/-- Every known key that is present has a value of its type. -/
structure Typed (d : List (String × Value)) : Prop where
  defaultLevel : ∀ v, Gives d "logging" "default_level" v → ∃ t, v = .text t
  rules : ∀ v, Gives d "logging" "directives" v →
    ∃ items, v = .list items ∧ ∀ item ∈ items, ∃ r, SpellsRule item r
  drainSize : ∀ v, Gives d "transfer" "drain_buffer_size" v → ∃ n : Nat, v = .integer n

/-- The settings have every value that the document gives, and defaults for the others. -/
structure Reads (d : List (String × Value)) (s : Settings) : Prop where
  defaultLevel : ∀ t, Gives d "logging" "default_level" (.text t) → s.logging.defaultLevel = t
  noDefaultLevel : (∀ v, ¬ Gives d "logging" "default_level" v) → s.logging.defaultLevel = "info"
  rules : ∀ items, Gives d "logging" "directives" (.list items) →
    List.Forall₂ SpellsRule items s.logging.rules
  noRules : (∀ v, ¬ Gives d "logging" "directives" v) → s.logging.rules = []
  drainSize : ∀ n : Nat, Gives d "transfer" "drain_buffer_size" (.integer n) →
    s.transfer.drainSize = n
  noDrainSize : (∀ v, ¬ Gives d "transfer" "drain_buffer_size" v) → s.transfer.drainSize = 4096

variable {σ α : Type} {s : Settings}

theorem Filled.nested (field : σ → α) {decode : Value → Except Misfit σ}
    {decode' : Value → Except Misfit α} {part key : String} {before after : σ}
    (h : Filled decode (fun v => (part, v) ∈ d) before after) (hd : (Value.table d).Keyed)
    (hpart : ∀ v, (part, v) ∈ d → ∃ es, v = .table es)
    (hinner : ∀ es, (es.map (·.1)).Nodup → decode (.table es) = .ok after →
      Filled decode' (fun v => (key, v) ∈ es) (field before) (field after)) :
    Filled decode' (Gives d part key) (field before) (field after) := by
  -- Whichever table the document has for the part, the part was decoded from it.
  have hfilled {es : List (String × Value)} (hes : (part, .table es) ∈ d) :=
    hinner es (hd.of_mem_table hes).nodup (h.given _ hes)
  constructor
  · rintro v ⟨es, hes, hv⟩
    exact (hfilled hes).given v hv
  · intro hnone
    by_cases hpresent : ∃ v, (part, v) ∈ d
    · obtain ⟨v, hv⟩ := hpresent
      obtain ⟨es, rfl⟩ := hpart v hv
      exact (hfilled hv).absent fun w hw => hnone w ⟨es, hv, hw⟩
    · rw [h.absent fun v hv => hpresent ⟨v, hv⟩]

structure ReadFrom (d : List (String × Value)) (s : Settings) : Prop where
  defaultLevel : Filled decodeText (Gives d "logging" "default_level") "info"
    s.logging.defaultLevel
  rules : Filled decodeRules (Gives d "logging" "directives") [] s.logging.rules
  drainSize : Filled decodeSize (Gives d "transfer" "drain_buffer_size") 4096
    s.transfer.drainSize

theorem readFrom_of_readSettings (hd : (Value.table d).Keyed) (hs : Shaped d)
    (h : readSettings d {} = .ok s) : ReadFrom d s := by
  rw [readSettings_eq] at h
  have hlogging := fills_logging.filled hd.nodup h
  have htransfer := fills_transfer.filled hd.nodup h
  constructor
  · refine hlogging.nested (·.defaultLevel) hd hs.logging fun es hk hes => ?_
    exact fills_defaultLevel.filled hk (readLogging_eq _ ▸ hes)
  · refine hlogging.nested (·.rules) hd hs.logging fun es hk hes => ?_
    exact fills_rules.filled hk (readLogging_eq _ ▸ hes)
  · refine htransfer.nested (·.drainSize) hd hs.transfer fun es hk hes => ?_
    exact fills_drainSize.filled hk (readTransfer_eq _ ▸ hes)

theorem Gives.keyed {part key : String} (hd : (Value.table d).Keyed) (h : Gives d part key v) :
    v.Keyed := by
  obtain ⟨es, hes, hv⟩ := h
  exact (hd.of_mem_table hes).of_mem_table hv

theorem decodeRules_of_gives (hd : (Value.table d).Keyed) (hs : Shaped d) {items : List Value}
    {rs : List LevelRule} (h : Gives d "logging" "directives" (.list items)) :
    decodeRules (.list items) = .ok rs ↔ List.Forall₂ SpellsRule items rs :=
  decodeRules_eq_ok (fun _ hv => (h.keyed hd).of_mem_list hv) (hs.rule items h)

theorem exists_logging (hd : (Value.table d).Keyed) (hs : Shaped d) (ht : Typed d)
    (hes : ("logging", .table es) ∈ d) : ∃ l, decodeLogging (.table es) = .ok l := by
  have haccepts : ∀ e ∈ es, Accepts loggingStep e.1 e.2 := by
    rintro ⟨key, v⟩ he
    refine (accepts_skip.readField ?_).readField ?_
    · rintro rfl
      obtain ⟨items, rfl, hitems⟩ := ht.rules v ⟨es, hes, he⟩
      obtain ⟨rs, hrs⟩ := exists_forall₂_iff.mpr hitems
      exact ⟨rs, (decodeRules_of_gives hd hs ⟨es, hes, he⟩).mpr hrs⟩
    · rintro rfl
      obtain ⟨t, rfl⟩ := ht.defaultLevel v ⟨es, hes, he⟩
      exact ⟨t, rfl⟩
  obtain ⟨l, hl⟩ := exists_readEntries haccepts {}
  exact ⟨l, (readLogging_eq _).trans hl⟩

theorem exists_transfer (ht : Typed d) (hes : ("transfer", .table es) ∈ d) :
    ∃ t, decodeTransfer (.table es) = .ok t := by
  have haccepts : ∀ e ∈ es, Accepts transferStep e.1 e.2 := by
    rintro ⟨key, v⟩ he
    refine accepts_skip.readField ?_
    rintro rfl
    obtain ⟨n, rfl⟩ := ht.drainSize v ⟨es, hes, he⟩
    exact ⟨n, decodeSize_eq_ok.mpr rfl⟩
  obtain ⟨t, ht⟩ := exists_readEntries haccepts {}
  exact ⟨t, (readTransfer_eq _).trans ht⟩

theorem exists_readSettings (hd : (Value.table d).Keyed) (hs : Shaped d) (ht : Typed d) :
    ∃ s, readSettings d {} = .ok s := by
  have haccepts : ∀ e ∈ d, Accepts settingsStep e.1 e.2 := by
    rintro ⟨key, v⟩ he
    refine (accepts_skip.readField ?_).readField ?_
    · rintro rfl
      obtain ⟨es, rfl⟩ := hs.transfer v he
      exact exists_transfer ht he
    · rintro rfl
      obtain ⟨es, rfl⟩ := hs.logging v he
      exact exists_logging hd hs ht he
  obtain ⟨s, hs⟩ := exists_readEntries haccepts {}
  exact ⟨s, (readSettings_eq _).trans hs⟩

theorem ReadFrom.typed (hd : (Value.table d).Keyed) (hs : Shaped d) (h : ReadFrom d s) :
    Typed d := by
  constructor
  · intro v hv
    exact ⟨_, decodeText_eq_ok.mp (h.defaultLevel.given v hv)⟩
  · intro v hv
    have hrules := h.rules.given v hv
    cases v with
    | list items =>
      have hall := (decodeRules_of_gives hd hs hv).mp hrules
      exact ⟨items, rfl, exists_forall₂_iff.mp ⟨_, hall⟩⟩
    | _ => cases hrules
  · intro v hv
    exact ⟨_, decodeSize_eq_ok.mp (h.drainSize.given v hv)⟩

theorem ReadFrom.reads (hd : (Value.table d).Keyed) (hs : Shaped d) (h : ReadFrom d s) :
    Reads d s where
  defaultLevel t ht := (Except.ok.inj (h.defaultLevel.given _ ht)).symm
  noDefaultLevel := h.defaultLevel.absent
  rules items hitems := (decodeRules_of_gives hd hs hitems).mp (h.rules.given _ hitems)
  noRules := h.rules.absent
  drainSize n hn := by
    have hsize := decodeSize_eq_ok.mp (h.drainSize.given _ hn)
    exact (Int.ofNat.inj (Value.integer.inj hsize)).symm
  noDrainSize := h.drainSize.absent

theorem Reads.readFrom (hd : (Value.table d).Keyed) (hs : Shaped d) (ht : Typed d)
    (h : Reads d s) : ReadFrom d s := by
  refine ⟨⟨fun v hv => ?_, h.noDefaultLevel⟩, ⟨fun v hv => ?_, h.noRules⟩,
    ⟨fun v hv => ?_, h.noDrainSize⟩⟩
  · obtain ⟨t, rfl⟩ := ht.defaultLevel v hv
    rw [h.defaultLevel t hv]
    rfl
  · obtain ⟨items, rfl, -⟩ := ht.rules v hv
    exact (decodeRules_of_gives hd hs hv).mpr (h.rules items hv)
  · obtain ⟨n, rfl⟩ := ht.drainSize v hv
    rw [h.drainSize n hv]
    exact decodeSize_eq_ok.mpr rfl

theorem ReadFrom.unique {s' : Settings} (h : ReadFrom d s) (h' : ReadFrom d s') : s = s' := by
  obtain ⟨⟨level, rules⟩, ⟨size⟩⟩ := s
  obtain ⟨⟨level', rules'⟩, ⟨size'⟩⟩ := s'
  obtain rfl : level = level' := h.defaultLevel.unique h'.defaultLevel
  obtain rfl : rules = rules' := h.rules.unique h'.rules
  obtain rfl : size = size' := h.drainSize.unique h'.drainSize
  rfl

theorem readSettings_eq_ok (hd : (Value.table d).Keyed) (hs : Shaped d) :
    readSettings d {} = .ok s ↔ Typed d ∧ Reads d s := by
  constructor
  · intro h
    have hfrom := readFrom_of_readSettings hd hs h
    exact ⟨hfrom.typed hd hs, hfrom.reads hd hs⟩
  · rintro ⟨ht, hr⟩
    obtain ⟨s', hs'⟩ := exists_readSettings hd hs ht
    rw [hs', (readFrom_of_readSettings hd hs hs').unique (hr.readFrom hd hs ht)]

theorem ofFile_toUTF8 (path text : String) :
    ofFile path (.ok text.toUTF8.data.toList) = (ofText text).mapError (.settingsFile path) := by
  have hread : String.fromUTF8? ⟨text.toUTF8.data.toList.toArray⟩ = some text :=
    calc String.fromUTF8? ⟨text.toUTF8.data.toList.toArray⟩
        = String.fromUTF8? text.toUTF8 := rfl
      _ = some (String.fromUTF8 text.toUTF8 text.isValidUTF8) := dif_pos text.isValidUTF8
      _ = some text := rfl
  rw [ofFile]
  simp only [hread]

/-- A document whose parts have their shapes is accepted exactly if all that is known has its type;
the settings are then those that the document gives, with defaults for the rest. A file with the
same text is read as the text is. -/
theorem ofText_of_shaped {text : String} (h : Toml.document? text = some d) (hs : Shaped d) :
    ((∃ s, ofText text = .ok s) ↔ Typed d) ∧
      (∀ s, ofText text = .ok s ↔ Typed d ∧ Reads d s) ∧
      ∀ path,
        (∀ s, ofFile path (.ok text.toUTF8.data.toList) = .ok s ↔ ofText text = .ok s) ∧
        ∀ f, ofFile path (.ok text.toUTF8.data.toList) = .error f ↔
          ∃ e, ofText text = .error e ∧ f = .settingsFile path e := by
  have hd : (Value.table d).Keyed := Toml.keyed_document h
  have hread (s : Settings) : ofText text = .ok s ↔ Typed d ∧ Reads d s := by
    rw [ofText, h]
    exact mapError_eq_ok.trans (readSettings_eq_ok hd hs)
  refine ⟨⟨?_, fun ht => ?_⟩, hread, fun path => ?_⟩
  · rintro ⟨s, hok⟩
    exact ((hread s).mp hok).1
  · obtain ⟨s, hok⟩ := exists_readSettings hd hs ht
    exact ⟨s, (hread s).mpr ((readSettings_eq_ok hd hs).mp hok)⟩
  · rw [ofFile_toUTF8]
    refine ⟨fun s => mapError_eq_ok, fun f => mapError_eq_error.trans ?_⟩
    simp only [eq_comm]

/-- A document with keys that are not known, and without one of the parts. -/
def sampleText : String :=
  "retries = 3\n[logging]\ndirectives = [\x7b level = \"debug\", note = 1, target = \"io\" \x7d]\n"

def sampleEntries : List (String × Value) :=
  [("retries", .integer 3), ("logging", .table [("directives", .list [.table
    [("level", .text "debug"), ("note", .integer 1), ("target", .text "io")]])])]

/-- Whether these are the entries of the sample, by evaluation. -/
def isSample : Option (List (String × Value)) → Bool
  | some [("retries", .integer 3), ("logging", .table [("directives", .list [.table
      [("level", .text "debug"), ("note", .integer 1), ("target", .text "io")]])])] => true
  | _ => false

theorem document_sampleText : Toml.document? sampleText = some sampleEntries := by
  have h : isSample (Toml.document? sampleText) = true := by decide +kernel
  unfold isSample at h
  split at h
  · assumption
  · cases h

theorem gives_sampleEntries {part key : String} :
    Gives sampleEntries part key v ↔ part = "logging" ∧ key = "directives" ∧ v = .list [.table
      [("level", .text "debug"), ("note", .integer 1), ("target", .text "io")]] := by
  simp [Gives, sampleEntries]

theorem ofText_of_shaped_sample :
    Toml.document? sampleText = some sampleEntries ∧ Shaped sampleEntries ∧
      Typed sampleEntries ∧ ∃ s, ofText sampleText = .ok s ∧ s.logging.defaultLevel = "info" ∧
        s.transfer.drainSize = 4096 := by
  have hshaped : Shaped sampleEntries := by
    constructor
    · simp [sampleEntries]
    · simp [sampleEntries]
    · simp [gives_sampleEntries]
  have htyped : Typed sampleEntries := by
    constructor
    · simp [gives_sampleEntries]
    · intro v hv
      obtain ⟨-, -, rfl⟩ := gives_sampleEntries.mp hv
      refine ⟨_, rfl, List.forall_mem_singleton.mpr ⟨⟨"io", "debug"⟩, ?_⟩⟩
      exact ⟨_, rfl, by simp, by simp⟩
    · simp [gives_sampleEntries]
  obtain ⟨hok, hreads, -⟩ := ofText_of_shaped document_sampleText hshaped
  obtain ⟨s, hs⟩ := hok.mpr htyped
  obtain ⟨-, hdefaults⟩ := (hreads s).mp hs
  refine ⟨document_sampleText, hshaped, htyped, s, hs, hdefaults.noDefaultLevel ?_,
    hdefaults.noDrainSize ?_⟩ <;> simp [gives_sampleEntries]

end ServiceKit.Settings
