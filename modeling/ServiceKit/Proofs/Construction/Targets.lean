import ServiceKit.Construction.Samples
import ServiceKit.Proofs.Construction.History
import ServiceKit.Proofs.Construction.Matching
import ServiceKit.Proofs.Construction.Moves

/-!
The types of what a factory builds. A handle is kept, carried about and handed out only for keys that
its constructor answers, whatever the types declare from one search to the next and however the
requests of many threads fall together. So an instance is of the type that was asked for, and handing
it out at that type goes wrong for nobody.
-/

namespace ServiceKit.Construction

variable {Ty : Type} [Family Ty] [DecidableEq Ty]

namespace Constructor

variable {c : Constructor Ty} {a : Arguments Ty}

theorem type_of_run {i : Instance Ty} (h : c.run a = .ok i) : i.type = c.target := by
  obtain ⟨-, v, -, rfl⟩ := run_eq_ok_iff.mp h
  rfl

theorem run_ne_wrongType (t : Ty) : c.run a ≠ .error (.wrongType t) := by
  have hmeets := meets_run c a
  generalize c.run a = r at hmeets
  cases hmeets with
  | fitting h => cases (c.body a).1 <;> simp [conclude]
  | number hlen => simp
  | type hlen hm => simp

end Constructor

theorem Instance.exists_at? {i : Instance Ty} {t : Ty} (h : i.type = t) :
    ∃ v, i.at? t = some v ∧ i = ⟨t, v⟩ := by
  subst h
  exact ⟨i.value, Instance.at?_self i.type i.value, rfl⟩

/-- The handle is for a constructor that the key asks for. -/
def Handle.Serves (h : Handle Ty) (k : Key Ty) : Prop :=
  h.constructor.answers k = true

namespace Handle.Serves

variable {h : Handle Ty} {k : Key Ty}

theorem target_eq (hs : h.Serves k) : h.constructor.target = k.target := by
  exact (Constructor.answers_iff.mp hs).1

theorem type_of_call (hs : h.Serves k) {a : Arguments Ty} {i : Instance Ty}
    (hi : h.call a = .ok i) : i.type = k.target :=
  (Constructor.type_of_run hi).trans hs.target_eq

end Handle.Serves

namespace Factory

variable {declared : Ty → List (Constructor Ty)} {f : Factory Ty} {k : Key Ty}

theorem serves_of_search {c : Constructor Ty} (hc : search declared k = some c) (n : Nat) :
    Handle.Serves ⟨c, n⟩ k := by
  have hfound : (declared k.target).find? (fun c => c.answers k) = some c := hc
  have hanswers := List.find?_some hfound
  exact hanswers

def Fitting (f : Factory Ty) : Prop := ∀ k h, f.lookup? k = some h → h.Serves k

theorem fitting_empty : Fitting (empty : Factory Ty) := by
  intro k h hk
  rw [lookup?_of_nil rfl] at hk
  contradiction

theorem Fitting.keep (hf : Fitting f) {h : Handle Ty} (hs : h.Serves k) :
    Fitting { f with cache := keep k h f.cache } := by
  intro q g hq
  rw [lookup?, lookup_keep] at hq
  split at hq
  · rename_i hqk
    rwa [hqk, ← Option.some.inj hq]
  · exact hf q g hq

/-- Resolving a key keeps what fits, and hands out a handle that serves the key. -/
theorem Fitting.resolve (hf : Fitting f) (declared : Ty → List (Constructor Ty)) (k : Key Ty) :
    Fitting (f.resolve declared k.target k.signature).state ∧
      ∀ h, (f.resolve declared k.target k.signature).result = .ok h → h.Serves k := by
  cases hl : f.lookup? k with
  | some g =>
    rw [resolve_of_kept hl]
    refine ⟨hf, fun h hr => ?_⟩
    rw [← Except.ok.inj hr]
    exact hf k g hl
  | none =>
    cases hc : search declared k with
    | none =>
      rw [resolve_of_undeclared hl hc]
      exact ⟨hf, fun h hr => by contradiction⟩
    | some c =>
      have hserves := serves_of_search hc f.resolutions
      rw [resolve_of_found hl hc]
      refine ⟨hf.keep hserves, fun h hr => ?_⟩
      rwa [← Except.ok.inj hr]

theorem Fitting.after (hf : Fitting f) (declared : Ty → List (Constructor Ty)) (r : Request Ty) :
    Fitting (f.after declared r) := by
  cases hk : r.key? with
  | none => rwa [after_of_no_key hk]
  | some k =>
    rw [after_of_key hk]
    exact (hf.resolve declared k).1

theorem Fitting.type_of_build (hf : Fitting f) {a : Arguments Ty} {i : Instance Ty}
    (hi : (f.build declared k.target k.signature a).result = .ok i) : i.type = k.target := by
  cases hr : (f.resolve declared k.target k.signature).result with
  | error e =>
    rw [build, hr] at hi
    contradiction
  | ok h =>
    rw [build, hr] at hi
    exact ((hf.resolve declared k).2 h hr).type_of_call hi

theorem build_ne_wrongType (a : Arguments Ty) (t : Ty) :
    (f.build declared k.target k.signature a).result ≠ .error (.wrongType t) := by
  intro h
  rw [build] at h
  cases hr : (f.resolve declared k.target k.signature).result with
  | ok g =>
    rw [hr] at h
    exact Constructor.run_ne_wrongType t h
  | error e =>
    rw [hr] at h
    obtain rfl : e = .wrongType t := Except.error.inj h
    cases hl : f.lookup? k with
    | some g =>
      rw [resolve_of_kept hl] at hr
      contradiction
    | none =>
      cases hc : search declared k with
      | none =>
        rw [resolve_of_undeclared hl hc] at hr
        cases hr
      | some c =>
        rw [resolve_of_found hl hc] at hr
        contradiction

/-- An instance built at its own type is the one that is built without looking at types. -/
theorem Fitting.map_buildValue (hf : Fitting f) (a : Arguments Ty) :
    (f.buildValue declared k.target k.signature a).result.map (Instance.mk k.target)
      = (f.build declared k.target k.signature a).result := by
  cases hb : (f.build declared k.target k.signature a).result with
  | error e =>
    rw [buildValue, hb]
    rfl
  | ok i =>
    obtain ⟨v, hv, hi⟩ := Instance.exists_at? (hf.type_of_build hb)
    have hvalue : (f.buildValue declared k.target k.signature a).result = .ok v := by
      rw [buildValue, hb]
      simp only [Except.bind, hv]
    rw [hvalue, hi]
    rfl

end Factory

def Phase.Fitting : Phase Ty → Prop
  | .hitting k h | .keeping k h => h.Serves k
  | .idle | .looking _ | .missing _ | .searching .. => True

namespace Threads

/-- What a factory can come to. Threads take their turns with it, and somebody may be served at one
stroke; each time the types may declare other constructors than before. -/
inductive Reachable : Threads Ty → Prop
  | start : Reachable start
  | turn {s : Threads Ty} (declared : Ty → List (Constructor Ty)) (turn : Turn Ty)
    (hs : Reachable s) : Reachable (s.take declared turn)
  | request {s : Threads Ty} (declared : Ty → List (Constructor Ty)) (r : Request Ty)
    (hs : Reachable s) : Reachable { s with factory := s.factory.after declared r }

/-- What is kept, under way and handed out serves its key. -/
structure Fitting (s : Threads Ty) : Prop where
  kept : s.factory.Fitting
  phase : ∀ t, (s.phase t).Fitting
  given : ∀ k h, (k, h) ∈ obtained s.history → h.Serves k

variable {declared : Ty → List (Constructor Ty)} {s s' : Threads Ty}

namespace Fitting

theorem enter (hs : Fitting s) {t : Thread} {p : Phase Ty} (hp : p.Fitting) :
    ∀ u, ((s.enter t p).phase u).Fitting :=
  forall_phase_enter (P := fun _ q => q.Fitting) hp fun u _ => hs.phase u

theorem under_way (hs : Fitting s) {t : Thread} {p : Phase Ty} (hp : s.phase t = p) :
    p.Fitting :=
  hp ▸ hs.phase t

theorem finish (hs : Fitting s) {t : Thread} {k : Key Ty} {h : Handle Ty} {hit : Bool}
    {f : Factory Ty} (hf : f.Fitting) (hk : h.Serves k) :
    Fitting { s.finish t k ⟨.ok h, hit⟩ with factory := f } where
  kept := hf
  phase := hs.enter trivial
  given q g hq := by
    change (q, g) ∈ obtained (s.history ++ [.ended t k ⟨.ok h, hit⟩]) at hq
    rw [obtained_given, List.mem_append, List.mem_singleton] at hq
    rcases hq with hq | hq
    · exact hs.given q g hq
    · obtain ⟨rfl, rfl⟩ := Prod.mk.inj hq
      exact hk

theorem move (hs : Fitting s) (h : Move declared s s') : Fitting s' := by
  cases h with
  | begins hp =>
    refine ⟨hs.kept, hs.enter trivial, fun k g hg => hs.given k g ?_⟩
    rwa [← obtained_began s.history]
  | finds hp hl => exact { hs with phase := hs.enter (hs.kept _ _ hl) }
  | lacks hp hl => exact { hs with phase := hs.enter trivial }
  | hits hp => exact hs.finish hs.kept (hs.under_way hp)
  | counts hp => exact { hs with phase := hs.enter trivial }
  | refuses hp hn =>
    refine ⟨hs.kept, hs.enter trivial, fun k g hg => hs.given k g ?_⟩
    rwa [← obtained_refused s.history]
  | selects hp hc => exact { hs with phase := hs.enter (Factory.serves_of_search hc _) }
  | keeps hp => exact hs.finish (hs.kept.keep (hs.under_way hp)) (hs.under_way hp)

end Fitting

theorem Reachable.fitting (hs : Reachable s) : Fitting s := by
  induction hs with
  | start => exact ⟨Factory.fitting_empty, fun _ => trivial, by simp [Threads.start, obtained]⟩
  | @turn s declared turn hs ih =>
    rcases take_cases declared s turn with h | h
    · rwa [h]
    · exact ih.move h
  | request declared r hs ih => exact { ih with kept := ih.kept.after declared r }

theorem Reachable.execute (hs : Reachable s) (declared : Ty → List (Constructor Ty))
    (schedule : List (Turn Ty)) : Reachable (s.execute declared schedule) := by
  induction schedule generalizing s with
  | nil => exact hs
  | cons turn rest ih => exact ih (.turn declared turn hs)

/-- Whatever a factory has come to, an instance that it builds of a type, or of the type under a
name, is of that type, and so is one that a handle for the type builds at any time, whoever it was
given to. Building at the type succeeds and fails as building does, and never for a wrong type. -/
theorem type_of_built (hs : Reachable s) (declared : Ty → List (Constructor Ty)) (target : Ty)
    (signature : List Ty) (a : Arguments Ty) :
    let f := s.factory
    (∀ i, (f.build declared target signature a).result = .ok i → i.type = target) ∧
      (∀ (registry : Registry Ty) name, registry.find? name = some target →
        ∀ i, (f.buildNamed declared registry name signature a).result = .ok i →
          i.type = target) ∧
      (∀ h, (f.resolve declared target signature).result = .ok h ∨
          (⟨target, signature⟩, h) ∈ obtained s.history →
        ∀ b i, h.call b = .ok i → i.type = target) ∧
      (f.buildValue declared target signature a).result.map (Instance.mk target)
        = (f.build declared target signature a).result ∧
      ∀ t, (f.buildValue declared target signature a).result ≠ .error (.wrongType t) := by
  intro f
  let k : Key Ty := ⟨target, signature⟩
  have hfit : Fitting s := hs.fitting
  have hbuild : ∀ i, (f.build declared target signature a).result = .ok i → i.type = target :=
    fun i hi => hfit.kept.type_of_build (k := k) hi
  have hvalue : (f.buildValue declared target signature a).result.map (Instance.mk target)
      = (f.build declared target signature a).result := hfit.kept.map_buildValue (k := k) a
  refine ⟨hbuild, fun registry name hname i hi => ?_, fun h hh b i hi => ?_, hvalue, fun t ht => ?_⟩
  · rw [Factory.buildNamed_of_registered hname] at hi
    exact hbuild i hi
  · have hserves : h.Serves k := by
      rcases hh with hh | hh
      · exact (hfit.kept.resolve declared k).2 h hh
      · exact hfit.given k h hh
    exact hserves.type_of_call hi
  · rw [ht] at hvalue
    exact Factory.build_ne_wrongType (k := k) a t hvalue.symm

/-- Strays declare constructors of peers, snapshots and twins as well. A snapshot's constructor with
the same parameter stands before their own, or after it when the list is turned round. -/
theorem type_of_built_stray :
    let number : Arguments Sample := .ofList [⟨.u8, (5 : Nat)⟩]
    let k : Key Sample := ⟨.stray, [.u8]⟩
    let s : Threads Sample :=
      { start.execute Sample.declared [.ask 0 k, .ask 1 k, .go 0, .go 0, .go 1, .go 0] with
        factory := (start.execute Sample.declared
          [.ask 0 k, .ask 1 k, .go 0, .go 0, .go 1, .go 0]).factory.after
            (fun t => (Sample.declared t).reverse) (.build k number) }
    s.Reachable ∧ s.factory.cache.length = 1 ∧
      ∃ i, (s.factory.build Sample.declared .stray [.u8] number).result = .ok i ∧
        i.type = .stray := by
  intro number k s
  have hs : s.Reachable := .request _ _ (.execute .start _ _)
  exact ⟨hs, rfl, ⟨.stray, (5 : Nat)⟩, rfl,
    (type_of_built hs Sample.declared .stray [.u8] number).1 _ rfl⟩

end Threads

end ServiceKit.Construction
