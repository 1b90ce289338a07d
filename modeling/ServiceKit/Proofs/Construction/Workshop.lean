import ServiceKit.Proofs.Construction.Accounts
import ServiceKit.Proofs.Construction.Naming
import ServiceKit.Proofs.Construction.Targets
import ServiceKit.Proofs.Construction.Transparency

/-!
A registry and a factory in use side by side. Names are the registry's business and constructors the
factory's: to the registry only registrations count, and to the factory a request by name is the
request for the type that stands under the name at that moment. So no entry that the factory keeps
outlives its type under a name, and names for one type have their entries in common.
-/

namespace ServiceKit.Construction

variable {Ty : Type} [Family Ty]

inductive Deed (Ty : Type) [Family Ty] where
  | enrol (e : Enrolment Ty)
  | ask (r : Request Ty)
  | buildNamed (name : String) (signature : List Ty) (a : Arguments Ty)

def Deed.enrolment? : Deed Ty → Option (Enrolment Ty)
  | .enrol e => some e
  | .ask _ | .buildNamed .. => none

structure Workshop (Ty : Type) [Family Ty] where
  registry : Registry Ty
  factory : Factory Ty

/-- What deeds ask of the factory after the registrations of the log: a request by name is one for
the type under that name, and none if there is no such type. -/
def asked (log : List (String × Ty)) : List (Deed Ty) → List (Request Ty)
  | [] => []
  | .enrol e :: rest => asked (extended log e) rest
  | .ask r :: rest => r :: asked log rest
  | .buildNamed name signature a :: rest =>
    ((lastUnder? log name).map fun t => Request.build ⟨t, signature⟩ a).toList ++ asked log rest

namespace Workshop

variable [DecidableEq Ty] (declared : Ty → List (Constructor Ty))

def opening : Workshop Ty := ⟨.empty, .empty⟩

def buildNamed (w : Workshop Ty) (name : String) (signature : List Ty) (a : Arguments Ty) :
    Outcome (Factory Ty) (Except (ConstructionError Ty) (Instance Ty)) :=
  w.factory.buildNamed declared w.registry name signature a

def after (w : Workshop Ty) : Deed Ty → Workshop Ty
  | .enrol e => { w with registry := w.registry.after e }
  | .ask r => { w with factory := w.factory.after declared r }
  | .buildNamed name signature a =>
    { w with factory := (w.buildNamed declared name signature a).state }

def afterAll (w : Workshop Ty) (history : List (Deed Ty)) : Workshop Ty :=
  history.foldl (after declared) w

@[simp]
theorem afterAll_cons (w : Workshop Ty) (d : Deed Ty) (rest : List (Deed Ty)) :
    w.afterAll declared (d :: rest) = (w.after declared d).afterAll declared rest := rfl

variable {declared} {w : Workshop Ty} {log : List (String × Ty)}

/-- Nothing but registrations has any part in the registry. -/
theorem registry_of_history (w : Workshop Ty) (history : List (Deed Ty)) :
    (w.afterAll declared history).registry
      = w.registry.afterAll (history.filterMap Deed.enrolment?) := by
  induction history generalizing w with
  | nil => rfl
  | cons d rest ih =>
    rw [afterAll_cons, ih]
    cases d <;> rfl

/-- Names come to the factory as the types that stand under them. -/
theorem factory_of_history (h : w.registry.Records log) (history : List (Deed Ty)) :
    (w.afterAll declared history).factory
      = w.factory.afterAll declared (asked log history) := by
  induction history generalizing w log with
  | nil => rfl
  | cons d rest ih =>
    rw [afterAll_cons]
    cases d with
    | enrol e => exact ih (h.after e)
    | ask r => exact ih (w := w.after declared (.ask r)) h
    | buildNamed name signature a =>
      rw [ih (w := w.after declared (.buildNamed name signature a)) h, asked, after, buildNamed]
      cases hname : lastUnder? log name with
      | none =>
        rw [Factory.buildNamed_of_unregistered ((h.find? name).trans hname)]
        rfl
      | some t =>
        rw [Factory.buildNamed_of_registered ((h.find? name).trans hname)]
        rfl

theorem buildNamed_of_none (h : w.registry.Records log) {name : String}
    (hname : name ∉ log.map (·.1)) (signature : List Ty) (a : Arguments Ty) :
    w.buildNamed declared name signature a = ⟨.error (.unregistered name), [], w.factory⟩ :=
  Factory.buildNamed_of_unregistered
    ((h.find? name).trans (lastUnder?_eq_none_iff.mpr hname)) signature a w.factory

theorem buildNamed_of_some (h : w.registry.Records log) {name : String} {t : Ty}
    (hname : lastUnder? log name = some t) (signature : List Ty) (a : Arguments Ty) :
    w.buildNamed declared name signature a = w.factory.build declared t signature a :=
  Factory.buildNamed_of_registered ((h.find? name).trans hname) signature a w.factory

variable (declared)

/-- The registry is what the registrations alone make of it, and the factory is what requests by
type make of it. So a name that gets another type builds that type from then on, although all that
was kept is still there. -/
theorem buildNamed_afterAll (history : List (Deed Ty)) :
    let w : Workshop Ty := opening.afterAll declared history
    let log := registrations (history.filterMap Deed.enrolment?)
    w.registry = Registry.empty.afterAll (history.filterMap Deed.enrolment?) ∧
    w.factory = Factory.empty.afterAll declared (asked [] history) ∧
    (∀ name signature a, name ∉ log.map (·.1) →
      w.buildNamed declared name signature a = ⟨.error (.unregistered name), [], w.factory⟩) ∧
    (∀ name t signature a, lastUnder? log name = some t →
      w.buildNamed declared name signature a = w.factory.build declared t signature a) ∧
    (∀ name t signature a,
      let renamed := w.after declared (.enrol (.register name t))
      let o := renamed.buildNamed declared name signature a
      o.result = (Factory.empty.build declared t signature a).result ∧
        (∀ i, o.result = .ok i → i.type = t) ∧
        ∀ k h, w.factory.lookup? k = some h → o.state.lookup? k = some h) ∧
    ∀ name name' t signature a a' h, lastUnder? log name = some t → lastUnder? log name' = some t →
      (w.factory.resolve declared t signature).result = .ok h →
      let first := w.after declared (.buildNamed name signature a)
      first.buildNamed declared name' signature a'
        = ⟨h.call a', [], { first.factory with hits := first.factory.hits + 1 }⟩ := by
  intro w log
  have hregistry : w.registry = Registry.empty.afterAll (history.filterMap Deed.enrolment?) :=
    registry_of_history opening history
  have hfactory : w.factory = Factory.empty.afterAll declared (asked [] history) :=
    factory_of_history Registry.records_empty history
  have hrecords : w.registry.Records log := hregistry ▸ Registry.records_afterAll _
  have hfaithful : Factory.Faithful declared w.factory :=
    hfactory ▸ Factory.faithful_empty.afterAll _
  have hfitting : Factory.Fitting w.factory :=
    hfactory ▸ Factory.afterAll_keeps (fun _ k hf => (hf.resolve declared k).1) _
      Factory.fitting_empty
  refine ⟨hregistry, hfactory, fun name signature a hname => buildNamed_of_none hrecords hname _ _,
    fun name t signature a hname => buildNamed_of_some hrecords hname _ _,
    fun name t signature a => ?_, fun name name' t signature a a' h hname hname' hh => ?_⟩
  · intro renamed o
    let k : Key Ty := ⟨t, signature⟩
    have ho : o = w.factory.build declared t signature a :=
      buildNamed_of_some (hrecords.register name t)
        ((lastUnder?_append_singleton ..).trans (if_pos rfl)) signature a
    have hkeeps : Factory.Step w.factory (.ask (.build k a)) _ _ _ :=
      Factory.step_serve declared w.factory (.ask (.build k a))
    rw [ho]
    exact ⟨(hfaithful.build_result k a).trans (Factory.faithful_empty.build_result k a).symm,
      fun i hi => hfitting.type_of_build (k := k) hi, fun q h hq => hkeeps.lookup? hq⟩
  · intro first
    let k : Key Ty := ⟨t, signature⟩
    have hfirst : first.factory = (w.factory.resolve declared t signature).state := by
      exact congrArg Outcome.state (buildNamed_of_some hrecords hname signature a)
    have hkept : first.factory.lookup? k = some h := by
      rw [hfirst]
      exact Factory.lookup?_of_resolve (k := k) hh
    rw [buildNamed_of_some (w := first) hrecords hname' signature a', Factory.build,
      Factory.resolve_of_kept (k := k) hkept]
    rfl

/-- An alias still stands for the first type when its source has gone over to another one, and it
finds the constructor that was kept for that type. -/
example :
    let w : Workshop Sample := opening.afterAll Sample.declared
      [.enrol (.register "log" .twin), .enrol (.addAlias "log" "old"),
        .buildNamed "log" [.bool] (.ofList [⟨.bool, true⟩]), .enrol (.register "log" .stray)]
    let o := w.buildNamed Sample.declared "old" [.bool] (.ofList [⟨.bool, true⟩])
    w.registry.names = ["log", "old"] ∧ o.result = .ok ⟨.twin, "first"⟩ ∧ o.state.hits = 1 :=
  ⟨rfl, rfl, rfl⟩

end Workshop

end ServiceKit.Construction
