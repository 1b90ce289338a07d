import ServiceKit.Proofs.Construction.History
import ServiceKit.Construction.Samples

/-!
What a factory keeps cannot be told from what it would find. Each handle it keeps is for the
constructor that a search for its key selects, whatever the factory was asked before, so an instance
or an error comes out as it would from a factory that keeps nothing.
-/

namespace ServiceKit.Construction.Factory

variable {Ty : Type} [Family Ty] [DecidableEq Ty] (declared : Ty → List (Constructor Ty))

def Faithful (f : Factory Ty) : Prop :=
  ∀ k h, f.lookup? k = some h → search declared k = some h.constructor

def select (k : Key Ty) : Except (ConstructionError Ty) (Constructor Ty) :=
  match search declared k with
  | none => .error (.undeclared k.target k.signature)
  | some c => .ok c

variable {declared}

theorem select_eq_ok {k : Key Ty} {c : Constructor Ty} :
    select declared k = .ok c ↔ search declared k = some c := by
  unfold select
  cases search declared k <;> simp

theorem faithful_of_nil {f : Factory Ty} (hf : f.cache = []) : Faithful declared f := by
  intro k h hk
  rw [lookup?_of_nil hf] at hk
  contradiction

theorem faithful_empty : Faithful declared empty := faithful_of_nil rfl

theorem Faithful.keep {f : Factory Ty} (hf : Faithful declared f) {k : Key Ty} {h : Handle Ty}
    (hs : search declared k = some h.constructor) :
    Faithful declared { f with cache := keep k h f.cache } := by
  intro q g hq
  rw [lookup?, lookup_keep] at hq
  split at hq
  · rename_i heq
    rw [heq, hs, ← Option.some.inj hq]
  · exact hf q g hq

/-- A factory hands out, and keeps, what a search selects. -/
theorem Faithful.resolve {f : Factory Ty} (hf : Faithful declared f) (k : Key Ty) :
    Faithful declared (f.resolve declared k.target k.signature).state ∧
      (f.resolve declared k.target k.signature).result.map (·.constructor)
        = select declared k := by
  unfold select
  cases hl : f.lookup? k with
  | some h =>
    rw [resolve_of_kept hl, hf k h hl]
    exact ⟨hf, rfl⟩
  | none =>
    cases hs : search declared k with
    | none =>
      rw [resolve_of_undeclared hl hs]
      exact ⟨hf, rfl⟩
    | some c =>
      rw [resolve_of_found hl hs]
      exact ⟨hf.keep (h := ⟨c, f.resolutions⟩) hs, rfl⟩

theorem Faithful.afterAll {f : Factory Ty} (hf : Faithful declared f)
    (history : List (Request Ty)) : Faithful declared (f.afterAll declared history) :=
  afterAll_keeps (fun _ k h => (h.resolve k).1) history hf

theorem Faithful.build_result {f : Factory Ty} (hf : Faithful declared f) (k : Key Ty)
    (a : Arguments Ty) :
    (f.build declared k.target k.signature a).result = (select declared k).bind (·.run a) := by
  rw [← (hf.resolve k).2, build]
  cases (f.resolve declared k.target k.signature).result <;> rfl

theorem Faithful.call_of_resolve {f : Factory Ty} (hf : Faithful declared f) {k : Key Ty}
    {h : Handle Ty} (hr : (f.resolve declared k.target k.signature).result = .ok h)
    (a : Arguments Ty) : h.call a = (select declared k).bind (·.run a) := by
  rw [← hf.build_result, build, hr]
  rfl

variable (declared)

/-- After any history a factory builds what an empty one does, or fails as that does; and a handle
found at any moment gives, at any later one, what the factory builds then. -/
theorem build_afterAll_eq_build_empty (history : List (Request Ty)) (target : Ty)
    (signature : List Ty) (a : Arguments Ty) :
    let f := empty.afterAll declared history
    (f.build declared target signature a).result
        = (empty.build declared target signature a).result ∧
      ∀ h, (f.resolve declared target signature).result = .ok h →
        ∀ later : List (Request Ty),
          let g := (f.resolve declared target signature).state.afterAll declared later
          h.call a = (g.build declared target signature a).result := by
  intro f
  let k : Key Ty := ⟨target, signature⟩
  have hf : Faithful declared f := faithful_empty.afterAll history
  constructor
  · exact (hf.build_result k a).trans (faithful_empty.build_result k a).symm
  · intro h hr later g
    have hg : Faithful declared g := (hf.resolve k).1.afterAll later
    exact (hf.call_of_resolve (k := k) hr a).trans (hg.build_result k a).symm

/-- A key that was searched in vain and one that is kept: the next request sees neither. -/
example :
    let flag : Arguments Sample := .ofList [⟨.bool, true⟩]
    let f := empty.afterAll Sample.declared
      [.build ⟨.twin, [.char]⟩ flag, .resolve ⟨.twin, [.bool]⟩, .buildDefault .twin]
    f.hits = 0 ∧ f.resolutions = 3 ∧
      (f.build Sample.declared .twin [.bool] flag).result = .ok ⟨.twin, "first"⟩ :=
  ⟨rfl, rfl, rfl⟩

end ServiceKit.Construction.Factory
