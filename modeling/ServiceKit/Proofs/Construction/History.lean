import ServiceKit.Construction.Registry

/-!
What a factory has been asked so far. Every request that gets as far as a key does to the factory
what resolving that key does, so that a property which resolving keeps holds after any history.
-/

namespace ServiceKit.Construction

variable {Ty : Type} [Family Ty]

/-- What a factory can be asked. A request by name goes by the registry as it is at that moment. -/
inductive Request (Ty : Type) [Family Ty] where
  | resolve (k : Key Ty)
  | build (k : Key Ty) (a : Arguments Ty)
  | buildValue (k : Key Ty) (a : Arguments Ty)
  | buildNamed (registry : Registry Ty) (name : String) (signature : List Ty) (a : Arguments Ty)
  | buildDefault (target : Ty)

/-- The key that a request resolves; a name that is not registered leads to none. -/
def Request.key? : Request Ty → Option (Key Ty)
  | .resolve k | .build k _ | .buildValue k _ => some k
  | .buildNamed registry name signature _ => (registry.find? name).map (⟨·, signature⟩)
  | .buildDefault target => some ⟨target, []⟩

namespace Factory

variable [DecidableEq Ty] (declared : Ty → List (Constructor Ty))

def after (f : Factory Ty) : Request Ty → Factory Ty
  | .resolve k => (f.resolve declared k.target k.signature).state
  | .build k a => (f.build declared k.target k.signature a).state
  | .buildValue k a => (f.buildValue declared k.target k.signature a).state
  | .buildNamed registry name signature a =>
    (f.buildNamed declared registry name signature a).state
  | .buildDefault target => (f.buildDefault declared target).state

def afterAll (history : List (Request Ty)) (f : Factory Ty) : Factory Ty :=
  history.foldl (after declared) f

variable {declared}

theorem buildNamed_of_registered {registry : Registry Ty} {name : String} {t : Ty}
    (h : registry.find? name = some t) (signature : List Ty) (a : Arguments Ty) (f : Factory Ty) :
    f.buildNamed declared registry name signature a = f.build declared t signature a := by
  rw [buildNamed, Registry.lookup, h]

theorem buildNamed_of_unregistered {registry : Registry Ty} {name : String}
    (h : registry.find? name = none) (signature : List Ty) (a : Arguments Ty) (f : Factory Ty) :
    f.buildNamed declared registry name signature a = ⟨.error (.unregistered name), [], f⟩ := by
  rw [buildNamed, Registry.lookup, h]

theorem after_of_key {f : Factory Ty} {r : Request Ty} {k : Key Ty} (h : r.key? = some k) :
    f.after declared r = (f.resolve declared k.target k.signature).state := by
  cases r with
  | buildNamed registry name signature a =>
    obtain ⟨t, ht, rfl⟩ := Option.map_eq_some_iff.mp h
    rw [after, buildNamed_of_registered ht]
    rfl
  | _ =>
    cases h
    rfl

theorem after_of_no_key {f : Factory Ty} {r : Request Ty} (h : r.key? = none) :
    f.after declared r = f := by
  cases r with
  | buildNamed registry name signature a =>
    have hn : registry.find? name = none := Option.map_eq_none_iff.mp h
    rw [after, buildNamed_of_unregistered hn]
  | _ => cases h

theorem resolve_of_kept {f : Factory Ty} {k : Key Ty} {h : Handle Ty}
    (hl : f.lookup? k = some h) :
    f.resolve declared k.target k.signature = ⟨.ok h, [], { f with hits := f.hits + 1 }⟩ := by
  simp only [resolve, hl]

theorem resolve_of_undeclared {f : Factory Ty} {k : Key Ty} (hl : f.lookup? k = none)
    (hs : search declared k = none) :
    f.resolve declared k.target k.signature
      = ⟨.error (.undeclared k.target k.signature), [resolving k],
          { f with resolutions := f.resolutions + 1 }⟩ := by
  simp only [resolve, hl, hs]

theorem resolve_of_found {f : Factory Ty} {k : Key Ty} {c : Constructor Ty}
    (hl : f.lookup? k = none) (hs : search declared k = some c) :
    f.resolve declared k.target k.signature
      = ⟨.ok ⟨c, f.resolutions⟩, [resolving k],
          { f with
            resolutions := f.resolutions + 1
            cache := keep k ⟨c, f.resolutions⟩ f.cache }⟩ := by
  simp only [resolve, hl, hs]

/-- What resolving any key keeps, every history keeps. -/
theorem afterAll_keeps {P : Factory Ty → Prop}
    (hstep : ∀ (f : Factory Ty) (k : Key Ty), P f → P (f.resolve declared k.target k.signature).state)
    (history : List (Request Ty)) {f : Factory Ty} (hf : P f) : P (f.afterAll declared history) := by
  induction history generalizing f with
  | nil => exact hf
  | cons r rest ih =>
    apply ih
    cases hk : r.key? with
    | none => rwa [after_of_no_key hk]
    | some k =>
      rw [after_of_key hk]
      exact hstep f k hf

theorem lookup?_of_nil {f : Factory Ty} (hf : f.cache = []) (k : Key Ty) : f.lookup? k = none := by
  rw [lookup?, hf]
  rfl

theorem lookup_cons_of_ne {k q : Key Ty} (hq : q ≠ k) (h : Handle Ty)
    (cache : List (Key Ty × Handle Ty)) : ((k, h) :: cache).lookup q = cache.lookup q := by
  rw [List.lookup_cons, beq_false_of_ne hq]

/-- A key is answered by the handle that was kept for it last. -/
theorem lookup_keep (k q : Key Ty) (h : Handle Ty) (cache : List (Key Ty × Handle Ty)) :
    (keep k h cache).lookup q = if q = k then some h else cache.lookup q := by
  induction cache with
  | nil =>
    by_cases hq : q = k
    · simp [keep, hq]
    · rw [keep, lookup_cons_of_ne hq, if_neg hq]
  | cons e rest ih =>
    obtain ⟨p, g⟩ := e
    by_cases hp : p = k
    · by_cases hq : q = k
      · simp [keep, hp, hq]
      · simp [keep, hp, hq, lookup_cons_of_ne hq]
    · by_cases hq : q = p
      · simp [keep, hp, hq]
      · simp [keep, hp, lookup_cons_of_ne hq, ih]

end Factory

end ServiceKit.Construction
