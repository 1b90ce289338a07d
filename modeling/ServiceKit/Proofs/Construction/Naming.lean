import Mathlib.Data.List.Dedup
import ServiceKit.Construction.Registry
import ServiceKit.Proofs.Text.ByteOrder

/-!
What a registry stands for. It is told apart from the log of all registrations only by its order: under
a name stands what the log has under that name last, and each name of the log stands once, in the
order of its bytes. An alias goes by what its source stands for when it is made.
-/

namespace ServiceKit.Construction

variable {Ty : Type}

inductive Enrolment (Ty : Type) where
  | register (name : String) (t : Ty)
  | addAlias (source name : String)

def Enrolment.name : Enrolment Ty → String
  | .register name _ => name
  | .addAlias _ name => name

def lastUnder? (log : List (String × Ty)) (name : String) : Option Ty := log.reverse.lookup name

/-- The registration that an enrolment comes to after those of the log. An alias of nothing comes to
none. -/
def Enrolment.registration? (log : List (String × Ty)) : Enrolment Ty → Option (String × Ty)
  | .register name t => some (name, t)
  | .addAlias source name => (lastUnder? log source).map (name, ·)

/-- The log with what an enrolment adds to it. -/
def extended (log : List (String × Ty)) (e : Enrolment Ty) : List (String × Ty) :=
  log ++ (e.registration? log).toList

def registrations (past : List (Enrolment Ty)) : List (String × Ty) := past.foldl extended []

theorem lookup_cons_eq (name q : String) (t : Ty) (entries : List (String × Ty)) :
    ((name, t) :: entries).lookup q = if q = name then some t else entries.lookup q := by
  by_cases hq : q = name
  · simp [hq]
  · rw [List.lookup_cons, beq_false_of_ne hq, if_neg hq]

theorem lastUnder?_append_singleton (log : List (String × Ty)) (name q : String) (t : Ty) :
    lastUnder? (log ++ [(name, t)]) q = if q = name then some t else lastUnder? log q := by
  rw [lastUnder?, List.reverse_append, List.reverse_singleton, List.singleton_append,
    lookup_cons_eq, lastUnder?]

theorem lookup_eq_none_iff {entries : List (String × Ty)} {name : String} :
    entries.lookup name = none ↔ name ∉ entries.map (·.1) := by
  rw [List.lookup_eq_none_iff]
  constructor
  · intro h hmem
    obtain ⟨e, he, rfl⟩ := List.mem_map.mp hmem
    simpa using h e he
  · intro h e he
    exact bne_iff_ne.mpr fun heq => h (List.mem_map.mpr ⟨e, he, heq.symm⟩)

theorem lastUnder?_eq_none_iff {log : List (String × Ty)} {name : String} :
    lastUnder? log name = none ↔ name ∉ log.map (·.1) := by
  rw [lastUnder?, lookup_eq_none_iff, List.map_reverse, List.mem_reverse]

namespace Registry

variable {name q : String} {t : Ty} {entries : List (String × Ty)}

theorem lookup_insert (name q : String) (t : Ty) (entries : List (String × Ty)) :
    (insert name t entries).lookup q = if q = name then some t else entries.lookup q := by
  induction entries with
  | nil => exact lookup_cons_eq name q t []
  | cons e rest ih =>
    obtain ⟨p, u⟩ := e
    rw [insert]
    split
    · rename_i hp
      obtain rfl : name = p := hp
      rw [lookup_cons_eq, lookup_cons_eq]
      split <;> rfl
    · rename_i hp
      split
      · exact lookup_cons_eq name q t _
      · rw [lookup_cons_eq, lookup_cons_eq, ih]
        by_cases hq : q = name
        · rw [if_pos hq, if_neg fun h => hp (hq.symm.trans h), if_pos hq]
        · rw [if_neg hq, if_neg hq]

theorem mem_names_insert :
    q ∈ (insert name t entries).map (·.1) ↔ q = name ∨ q ∈ entries.map (·.1) := by
  induction entries with
  | nil => simp [insert]
  | cons e rest ih =>
    rw [insert]
    split
    · rename_i he
      simp [← he]
    · split
      · simp
      · rw [List.map_cons, List.mem_cons, ih, List.map_cons, List.mem_cons, or_left_comm]

/-- A name takes its place between the smaller and the greater ones. -/
theorem ascending_insert (h : (entries.map (·.1)).Pairwise (· < ·)) :
    ((insert name t entries).map (·.1)).Pairwise (· < ·) := by
  induction entries with
  | nil => simp [insert]
  | cons e rest ih =>
    obtain ⟨hfirst, hrest⟩ := List.pairwise_cons.mp h
    rw [insert]
    split
    · rename_i he
      rwa [List.map_cons, he]
    · rename_i hne
      split
      · rename_i hlt
        refine List.pairwise_cons.mpr ⟨fun q hq => ?_, h⟩
        rcases List.mem_cons.mp hq with rfl | hq
        · exact hlt
        · exact lt_trans hlt (hfirst q hq)
      · rename_i hge
        have hlt : e.1 < name := lt_of_le_of_ne (not_lt.mp hge) (Ne.symm hne)
        refine List.pairwise_cons.mpr ⟨fun q hq => ?_, ih hrest⟩
        rcases mem_names_insert.mp hq with rfl | hq
        · exact hlt
        · exact hfirst q hq

theorem lookup_eq_ok_iff {r : Registry Ty} : r.lookup name = .ok t ↔ r.find? name = some t := by
  unfold lookup
  cases r.find? name <;> simp

theorem lookup_of_none {r : Registry Ty} (h : r.find? name = none) :
    r.lookup name = .error (.unregistered name) := by
  rw [lookup, h]

theorem find?_register (r : Registry Ty) (name q : String) (t : Ty) :
    (r.register name t).2.find? q = if q = name then some t else r.find? q :=
  lookup_insert name q t r.entries

theorem addAlias_of_none {r : Registry Ty} {source : String} (h : r.find? source = none) :
    r.addAlias source name = (.error (.unregistered source), r) := by
  rw [addAlias, lookup_of_none h]

theorem addAlias_of_some {r : Registry Ty} {source : String} (h : r.find? source = some t) :
    r.addAlias source name = (.ok (r.find? name), (r.register name t).2) := by
  rw [addAlias, lookup_eq_ok_iff.mpr h]
  rfl

def after (r : Registry Ty) : Enrolment Ty → Registry Ty
  | .register name t => (r.register name t).2
  | .addAlias source name => (r.addAlias source name).2

def afterAll (r : Registry Ty) (past : List (Enrolment Ty)) : Registry Ty := past.foldl after r

structure Records (r : Registry Ty) (log : List (String × Ty)) : Prop where
  ascending : r.names.Pairwise (· < ·)
  find? : ∀ name, r.find? name = lastUnder? log name

theorem records_empty : Records (empty : Registry Ty) [] := ⟨List.Pairwise.nil, fun _ => rfl⟩

namespace Records

variable {r : Registry Ty} {log : List (String × Ty)}

theorem register (h : Records r log) (name : String) (t : Ty) :
    Records (r.register name t).2 (log ++ [(name, t)]) where
  ascending := ascending_insert h.ascending
  find? q := by rw [find?_register, lastUnder?_append_singleton, h.find?]

theorem after (h : Records r log) (e : Enrolment Ty) :
    Records (r.after e) (extended log e) := by
  cases e with
  | register name t => exact h.register name t
  | addAlias source name =>
    rw [Registry.after, extended, Enrolment.registration?]
    cases hs : lastUnder? log source with
    | none =>
      rw [addAlias_of_none ((h.find? source).trans hs)]
      simpa using h
    | some t =>
      rw [addAlias_of_some ((h.find? source).trans hs)]
      exact h.register name t

theorem afterAll (h : Records r log) (past : List (Enrolment Ty)) :
    Records (r.afterAll past) (past.foldl extended log) := by
  induction past generalizing r log with
  | nil => exact h
  | cons e rest ih => exact ih (h.after e)

theorem mem_names_iff (h : Records r log) : name ∈ r.names ↔ name ∈ log.map (·.1) := by
  rw [← not_iff_not, ← lastUnder?_eq_none_iff, ← h.find?, Registry.find?, lookup_eq_none_iff, names]

/-- There are as many entries as the log has different names. -/
theorem length_entries (h : Records r log) : r.entries.length = (log.map (·.1)).dedup.length := by
  have hnodup : r.names.Nodup := h.ascending.imp fun hlt => ne_of_lt hlt
  have hperm : r.names.Perm (log.map (·.1)).dedup :=
    (List.perm_ext_iff_of_nodup hnodup (List.nodup_dedup _)).mpr fun name => by
      rw [h.mem_names_iff, List.mem_dedup]
  rw [← hperm.length_eq, names, List.length_map]

end Records

theorem records_afterAll (past : List (Enrolment Ty)) :
    Records (empty.afterAll past) (registrations past) :=
  records_empty.afterAll past

/-- What stands under a name stays as long as no enrolment is about that name. -/
theorem find?_afterAll_of_ne {r : Registry Ty} {later : List (Enrolment Ty)}
    (h : ∀ e ∈ later, e.name ≠ name) : (r.afterAll later).find? name = r.find? name := by
  induction later generalizing r with
  | nil => rfl
  | cons e rest ih =>
    obtain ⟨he, hrest⟩ := List.forall_mem_cons.mp h
    refine (ih hrest).trans ?_
    cases e with
    | register other t => exact (find?_register ..).trans (if_neg (Ne.symm he))
    | addAlias source other =>
      rw [after]
      cases hs : r.find? source with
      | none => rw [addAlias_of_none hs]
      | some t =>
        rw [addAlias_of_some hs]
        exact (find?_register ..).trans (if_neg (Ne.symm he))

/-- A registry finds under a name what was registered there last, and its names are those
registered, each once, in the order of their bytes. An alias of nothing does nothing, and one of
something stays what it was made for. -/
theorem registry_afterAll (past : List (Enrolment Ty)) :
    let r : Registry Ty := empty.afterAll past
    let log := registrations past
    (∀ name t, r.lookup name = .ok t ↔ lastUnder? log name = some t) ∧
    (∀ name, name ∉ log.map (·.1) → r.lookup name = .error (.unregistered name)) ∧
    (∀ name, r.contains name = true ↔ name ∈ log.map (·.1)) ∧
    (∀ name, name ∈ r.names ↔ name ∈ log.map (·.1)) ∧
    r.names.Pairwise (fun a b => Text.bytes a < Text.bytes b) ∧
    r.entries.length = (log.map (·.1)).dedup.length ∧
    (∀ name t, (r.register name t).1 = lastUnder? log name ∧
      (r.register name t).2.lookup name = .ok t ∧
      ∀ other, other ≠ name → (r.register name t).2.lookup other = r.lookup other) ∧
    (∀ source name, source ∉ log.map (·.1) →
      r.addAlias source name = (.error (.unregistered source), r)) ∧
    ∀ source name t, lastUnder? log source = some t →
      r.addAlias source name = (.ok (lastUnder? log name), (r.register name t).2) ∧
      ∀ later : List (Enrolment Ty), (∀ e ∈ later, e.name ≠ name) →
        ((r.addAlias source name).2.afterAll later).lookup name = .ok t := by
  intro r log
  have h : Records r log := records_afterAll past
  have hnone (name : String) (hname : name ∉ log.map (·.1)) : r.find? name = none :=
    (h.find? name).trans (lastUnder?_eq_none_iff.mpr hname)
  refine ⟨fun name t => ?_, fun name hname => lookup_of_none (hnone name hname), fun name => ?_,
    fun name => h.mem_names_iff, ?_, h.length_entries, fun name t => ⟨h.find? name, ?_, ?_⟩,
    fun source name hsource => addAlias_of_none (hnone source hsource),
    fun source name t hsource => ?_⟩
  · rw [lookup_eq_ok_iff, h.find?]
  · rw [contains, h.find?, Option.isSome_iff_ne_none, ne_eq, lastUnder?_eq_none_iff, not_not]
  · exact h.ascending.imp Text.bytes_lt_iff.mpr
  · exact lookup_eq_ok_iff.mpr ((find?_register ..).trans (if_pos rfl))
  · intro other hother
    rw [lookup, lookup, find?_register, if_neg hother]
  · have hs : r.find? source = some t := (h.find? source).trans hsource
    rw [addAlias_of_some hs, h.find?]
    refine ⟨rfl, fun later hlater => ?_⟩
    rw [lookup_eq_ok_iff, find?_afterAll_of_ne hlater]
    exact (find?_register ..).trans (if_pos rfl)

end Registry

end ServiceKit.Construction
