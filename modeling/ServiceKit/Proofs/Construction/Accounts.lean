import ServiceKit.Construction.Samples
import ServiceKit.Proofs.Construction.Cache
import ServiceKit.Proofs.Construction.Matching

/-!
The accounts of a factory that is used by one after another. Every operation that gets as far as a
key is counted once, as a hit or as a search; a search is logged, and either fails or keeps one more
handle; and what is kept stays, so that a key has one handle and a handle one key.
-/

namespace ServiceKit.Construction

variable {Ty : Type}

def ConstructionError.isUndeclared : ConstructionError Ty → Bool
  | .undeclared .. => true
  | _ => false

def undeclared {α : Type} : Except (ConstructionError Ty) α → Bool
  | .error e => e.isUndeclared
  | .ok _ => false

section Results

variable {α β : Type}

@[simp]
theorem undeclared_map (g : α → β) (x : Except (ConstructionError Ty) α) :
    undeclared (x.map g) = undeclared x := by
  cases x <;> rfl

theorem undeclared_bind {g : α → Except (ConstructionError Ty) β}
    (hg : ∀ a, undeclared (g a) = false) (x : Except (ConstructionError Ty) α) :
    undeclared (x.bind g) = undeclared x := by
  cases x with
  | error e => rfl
  | ok a => exact hg a

end Results

variable [Family Ty]

inductive Operation (Ty : Type) [Family Ty] where
  | ask (r : Request Ty)
  | callHandle (h : Handle Ty) (a : Arguments Ty)
  | callConstructor (c : Constructor Ty) (a : Arguments Ty)

/-- The key that an operation resolves, if it resolves one. -/
def Operation.key? : Operation Ty → Option (Key Ty)
  | .ask r => r.key?
  | .callHandle .. | .callConstructor .. => none

inductive Reply (Ty : Type) [Family Ty] where
  | handle (h : Handle Ty)
  | product (i : Instance Ty)

section Undeclared

variable [DecidableEq Ty]

/-- Whatever goes wrong with a constructor, it has been found. -/
@[simp]
theorem undeclared_run (c : Constructor Ty) (a : Arguments Ty) : undeclared (c.run a) = false := by
  have hmeets := c.meets_run a
  generalize c.run a = r at hmeets
  cases hmeets with
  | fitting h => cases (c.body a).1 <;> rfl
  | number hlen => rfl
  | type hlen hm => rfl

@[simp]
theorem undeclared_call (c : Constructor Ty) (a : Arguments Ty) :
    undeclared (c.call a) = false := by
  cases h : c.visibility with
  | factoryOnly => rw [Constructor.call_of_factoryOnly h]; rfl
  | anyone => rw [Constructor.call_of_anyone h, undeclared_run]

end Undeclared

structure Served (Ty : Type) [Family Ty] where
  operation : Operation Ty
  before : Factory Ty
  outcome : Outcome (Factory Ty) (Except (ConstructionError Ty) (Reply Ty))

namespace Served

def failed (x : Served Ty) : Bool := undeclared x.outcome.result

def resolved? (x : Served Ty) : Option (Key Ty) :=
  if x.failed then none else x.operation.key?

/-- The handle that the operation gave, and the key it was asked for. -/
def given? (x : Served Ty) : Option (Key Ty × Handle Ty) :=
  match x.operation, x.outcome.result with
  | .ask (.resolve k), .ok (.handle h) => some (k, h)
  | _, _ => none

theorem given?_eq_some {x : Served Ty} {k : Key Ty} {h : Handle Ty} :
    x.given? = some (k, h) ↔
      x.operation = .ask (.resolve k) ∧ x.outcome.result = .ok (.handle h) := by
  constructor
  · intro hg
    unfold given? at hg
    split at hg
    · rename_i ho hr
      obtain ⟨rfl, rfl⟩ := Prod.mk.inj (Option.some.inj hg)
      exact ⟨ho, hr⟩
    · contradiction
  · rintro ⟨ho, hr⟩
    simp only [given?, ho, hr]

end Served

namespace Factory

variable [DecidableEq Ty] (declared : Ty → List (Constructor Ty))

def serve (f : Factory Ty) :
    Operation Ty → Outcome (Factory Ty) (Except (ConstructionError Ty) (Reply Ty))
  | .ask (.resolve k) =>
    let o := f.resolve declared k.target k.signature
    ⟨o.result.map .handle, o.events, o.state⟩
  | .ask (.build k a) =>
    let o := f.build declared k.target k.signature a
    ⟨o.result.map .product, o.events, o.state⟩
  | .ask (.buildValue k a) =>
    let o := f.buildValue declared k.target k.signature a
    ⟨o.result.map fun v => .product ⟨k.target, v⟩, o.events, o.state⟩
  | .ask (.buildNamed registry name signature a) =>
    let o := f.buildNamed declared registry name signature a
    ⟨o.result.map .product, o.events, o.state⟩
  | .ask (.buildDefault target) =>
    let o := f.buildDefault declared target
    ⟨o.result.map fun v => .product ⟨target, v⟩, o.events, o.state⟩
  | .callHandle h a => ⟨(h.call a).map .product, [], f⟩
  | .callConstructor c a => ⟨(c.call a).map .product, [], f⟩

def trace (f : Factory Ty) : List (Operation Ty) → List (Served Ty)
  | [] => []
  | o :: rest => ⟨o, f, f.serve declared o⟩ :: trace (f.serve declared o).state rest

def serveAll (f : Factory Ty) (operations : List (Operation Ty)) : Factory Ty :=
  operations.foldl (fun f o => (f.serve declared o).state) f

/-- What an operation can do to a factory, with the events it logs, and whether it finds no
constructor. -/
inductive Step (f : Factory Ty) (o : Operation Ty) : Factory Ty → List Event → Bool → Prop
  | apart (ho : o.key? = none) : Step f o f [] false
  | hit {k : Key Ty} {h : Handle Ty} (ho : o.key? = some k) (hl : f.lookup? k = some h) :
    Step f o { f with hits := f.hits + 1 } [] false
  | refused {k : Key Ty} (ho : o.key? = some k) (hl : f.lookup? k = none) :
    Step f o { f with resolutions := f.resolutions + 1 } [resolving k] true
  | found {k : Key Ty} (c : Constructor Ty) (ho : o.key? = some k) (hl : f.lookup? k = none) :
    Step f o
      { f with
        resolutions := f.resolutions + 1
        cache := keep k ⟨c, f.resolutions⟩ f.cache }
      [resolving k] false

theorem serve_of_no_key {o : Operation Ty} (ho : o.key? = none) (f : Factory Ty) :
    (f.serve declared o).state = f ∧ (f.serve declared o).events = [] ∧
      undeclared (f.serve declared o).result = false := by
  cases o with
  | ask r =>
    cases r with
    | buildNamed registry name signature a =>
      have hn : registry.find? name = none := Option.map_eq_none_iff.mp ho
      rw [serve, buildNamed_of_unregistered hn]
      exact ⟨rfl, rfl, rfl⟩
    | _ => cases ho
  | callHandle h a => exact ⟨rfl, rfl, by simp [serve]⟩
  | callConstructor c a => exact ⟨rfl, rfl, by simp [serve]⟩

theorem undeclared_build (f : Factory Ty) (target : Ty) (signature : List Ty) (a : Arguments Ty) :
    undeclared (f.build declared target signature a).result
      = undeclared (f.resolve declared target signature).result :=
  undeclared_bind (g := fun h : Handle Ty => h.call a) (fun h => undeclared_run h.constructor a) _

theorem undeclared_buildValue (f : Factory Ty) (target : Ty) (signature : List Ty)
    (a : Arguments Ty) :
    undeclared (f.buildValue declared target signature a).result
      = undeclared (f.resolve declared target signature).result := by
  rw [buildValue, undeclared_bind _ _, undeclared_build]
  intro i
  split <;> rfl

/-- An operation with a key does to the factory what resolving the key does. It finds no constructor
exactly if that finds none. -/
theorem serve_of_key {o : Operation Ty} {k : Key Ty} (ho : o.key? = some k) (f : Factory Ty) :
    (f.serve declared o).state = (f.resolve declared k.target k.signature).state ∧
      (f.serve declared o).events = (f.resolve declared k.target k.signature).events ∧
      undeclared (f.serve declared o).result
        = undeclared (f.resolve declared k.target k.signature).result := by
  cases o with
  | ask r =>
    cases r with
    | resolve q =>
      cases ho
      exact ⟨rfl, rfl, undeclared_map _ _⟩
    | build q a =>
      cases ho
      exact ⟨rfl, rfl, (undeclared_map _ _).trans (undeclared_build declared ..)⟩
    | buildValue q a =>
      cases ho
      exact ⟨rfl, rfl, (undeclared_map _ _).trans (undeclared_buildValue declared ..)⟩
    | buildNamed registry name signature a =>
      obtain ⟨t, ht, rfl⟩ := Option.map_eq_some_iff.mp ho
      rw [serve, buildNamed_of_registered ht]
      exact ⟨rfl, rfl, (undeclared_map _ _).trans (undeclared_build declared ..)⟩
    | buildDefault target =>
      cases ho
      exact ⟨rfl, rfl, (undeclared_map _ _).trans (undeclared_buildValue declared ..)⟩
  | callHandle h a => contradiction
  | callConstructor c a => contradiction

theorem step_serve (f : Factory Ty) (o : Operation Ty) :
    Step f o (f.serve declared o).state (f.serve declared o).events
      (undeclared (f.serve declared o).result) := by
  cases ho : o.key? with
  | none =>
    obtain ⟨hstate, hevents, hresult⟩ := serve_of_no_key declared ho f
    rw [hstate, hevents, hresult]
    exact .apart ho
  | some k =>
    obtain ⟨hstate, hevents, hresult⟩ := serve_of_key declared ho f
    rw [hstate, hevents, hresult]
    cases hl : f.lookup? k with
    | some h =>
      rw [resolve_of_kept hl]
      exact .hit ho hl
    | none =>
      cases hs : search declared k with
      | none =>
        rw [resolve_of_undeclared hl hs]
        exact .refused ho hl
      | some c =>
        rw [resolve_of_found hl hs]
        exact .found c ho hl

variable {declared}

namespace Step

variable {f g : Factory Ty} {o : Operation Ty} {events : List Event} {failed : Bool}

/-- An operation with a key is counted once. -/
theorem counted (h : Step f o g events failed) :
    g.resolutions + g.hits = f.resolutions + f.hits + if o.key?.isSome then 1 else 0 := by
  cases h with
  | apart ho => simp [ho]
  | hit ho hl => simp [ho, Nat.add_assoc]
  | refused ho hl =>
    simp only [ho, Option.isSome_some, if_true]
    omega
  | found c ho hl =>
    simp only [ho, Option.isSome_some, if_true]
    omega

theorem length_keep {k : Key Ty} (hl : f.lookup? k = none) (h : Handle Ty) :
    (keep k h f.cache).length = f.cache.length + 1 := by
  have hk : k ∉ f.cache.map (·.1) := lookup?_eq_none_iff.mp hl
  have hlen := congrArg List.length (keys_keep k h f.cache)
  rwa [if_neg hk, List.length_append, List.length_map, List.length_map] at hlen

/-- A search fails or keeps one more handle. -/
theorem kept (h : Step f o g events failed) :
    g.resolutions + f.cache.length
      = f.resolutions + g.cache.length + if failed then 1 else 0 := by
  cases h with
  | apart ho => rfl
  | hit ho hl => rfl
  | refused ho hl =>
    dsimp only
    rw [if_pos rfl]
    omega
  | found c ho hl =>
    dsimp only
    rw [length_keep hl, if_neg Bool.false_ne_true]
    omega

theorem logged (h : Step f o g events failed) :
    (g.resolutions = f.resolutions ∧ events = []) ∨
      ∃ k, o.key? = some k ∧ f.lookup? k = none ∧ g.resolutions = f.resolutions + 1 ∧
        g.hits = f.hits ∧ events = [resolving k] := by
  cases h with
  | apart ho => exact .inl ⟨rfl, rfl⟩
  | hit ho hl => exact .inl ⟨rfl, rfl⟩
  | refused ho hl => exact .inr ⟨_, ho, hl, rfl, rfl, rfl⟩
  | found c ho hl => exact .inr ⟨_, ho, hl, rfl, rfl, rfl⟩

theorem mem_keys_iff (h : Step f o g events failed) {q : Key Ty} :
    q ∈ g.keys ↔ q ∈ f.keys ∨ (o.key? = some q ∧ failed = false) := by
  cases h with
  | apart ho => simp [ho]
  | @hit k h ho hl =>
    refine ⟨.inl, ?_⟩
    rintro (hq | ⟨hq, -⟩)
    · exact hq
    · obtain rfl := Option.some.inj (ho.symm.trans hq)
      exact Factory.mem_keys_iff.mpr ⟨h, hl⟩
  | refused ho hl => exact (or_iff_left fun hq => Bool.noConfusion hq.2).symm
  | found c ho hl =>
    rw [keys, mem_keys_keep, or_comm, ho, Option.some_inj, and_iff_left rfl, eq_comm]
    exact Iff.rfl

theorem nodup_keys (h : Step f o g events failed) (hf : f.keys.Nodup) : g.keys.Nodup := by
  cases h with
  | found c ho hl => exact nodup_keys_keep hf
  | _ => exact hf

theorem lookup? (h : Step f o g events failed) {q : Key Ty} {a : Handle Ty}
    (hq : f.lookup? q = some a) : g.lookup? q = some a := by
  cases h with
  | @found k c ho hl =>
    rw [Factory.lookup?, lookup_keep, if_neg]
    · exact hq
    · rintro rfl
      rw [hl] at hq
      contradiction
  | _ => exact hq

end Step

/-- Every search has given a number of its own to what it found. -/
structure Numbered (f : Factory Ty) : Prop where
  below : ∀ k h, f.lookup? k = some h → h.number < f.resolutions
  distinct : ∀ k q h g, f.lookup? k = some h → f.lookup? q = some g → h.number = g.number → k = q

theorem numbered_empty : Numbered (empty : Factory Ty) where
  below k h hk := by
    rw [lookup?_of_nil rfl] at hk
    contradiction
  distinct k q h g hk := by
    rw [lookup?_of_nil rfl] at hk
    contradiction

theorem Numbered.step {f g : Factory Ty} {o : Operation Ty} {events : List Event} {failed : Bool}
    (hf : Numbered f) (h : Step f o g events failed) : Numbered g := by
  cases h with
  | apart ho => exact hf
  | hit ho hl => exact ⟨hf.below, hf.distinct⟩
  | refused ho hl => exact ⟨fun k h hk => Nat.lt_succ_of_lt (hf.below k h hk), hf.distinct⟩
  | @found k c ho hl =>
    -- What is kept is the new handle, whose number is the count of searches, or older than it.
    have hkept (q : Key Ty) (a : Handle Ty)
        (hq : (keep k ⟨c, f.resolutions⟩ f.cache).lookup q = some a) :
        (q = k ∧ a.number = f.resolutions) ∨ (f.lookup? q = some a ∧ a.number < f.resolutions) := by
      rw [lookup_keep] at hq
      split at hq
      · rename_i hqk
        exact .inl ⟨hqk, by rw [← Option.some.inj hq]⟩
      · exact .inr ⟨hq, hf.below q a hq⟩
    constructor
    · intro q a hq
      rcases hkept q a hq with ⟨-, ha⟩ | ⟨-, ha⟩
      · exact Nat.lt_succ_of_le (Nat.le_of_eq ha)
      · exact Nat.lt_succ_of_lt ha
    · intro q p a b hq hp hab
      rcases hkept q a hq with ⟨rfl, ha⟩ | ⟨hq, ha⟩ <;>
        rcases hkept p b hp with ⟨rfl, hb⟩ | ⟨hp, hb⟩
      · rfl
      · omega
      · omega
      · exact hf.distinct q p a b hq hp hab

theorem lookup?_of_resolve {f : Factory Ty} {k : Key Ty} {h : Handle Ty}
    (hr : (f.resolve declared k.target k.signature).result = .ok h) :
    (f.resolve declared k.target k.signature).state.lookup? k = some h := by
  cases hl : f.lookup? k with
  | some g =>
    rw [resolve_of_kept hl] at hr ⊢
    rw [← Except.ok.inj hr]
    exact hl
  | none =>
    cases hs : search declared k with
    | none =>
      rw [resolve_of_undeclared hl hs] at hr
      contradiction
    | some c =>
      rw [resolve_of_found hl hs] at hr ⊢
      rw [← Except.ok.inj hr, lookup?, lookup_keep, if_pos rfl]

section Runs

variable {f : Factory Ty} {operations : List (Operation Ty)} {x : Served Ty}

theorem outcome_of_mem_trace (hx : x ∈ f.trace declared operations) :
    x.outcome = x.before.serve declared x.operation := by
  induction operations generalizing f with
  | nil => contradiction
  | cons o rest ih =>
    rcases List.mem_cons.mp hx with rfl | hx
    · rfl
    · exact ih hx

theorem step_of_mem_trace (hx : x ∈ f.trace declared operations) :
    Step x.before x.operation x.outcome.state x.outcome.events x.failed := by
  rw [Served.failed, outcome_of_mem_trace hx]
  exact step_serve declared x.before x.operation

theorem serveAll_keeps {P : Factory Ty → Prop}
    (hstep : ∀ f g o events failed, Step f o g events failed → P f → P g)
    (operations : List (Operation Ty)) (hf : P f) : P (f.serveAll declared operations) := by
  induction operations generalizing f with
  | nil => exact hf
  | cons o rest ih => exact ih (hstep _ _ o _ _ (step_serve declared f o) hf)

/-- What was kept at some moment is kept in the end. -/
theorem lookup?_serveAll_of_mem {k : Key Ty} {h : Handle Ty}
    (hx : x ∈ f.trace declared operations) (hk : x.outcome.state.lookup? k = some h) :
    (f.serveAll declared operations).lookup? k = some h := by
  induction operations generalizing f with
  | nil => contradiction
  | cons o rest ih =>
    rcases List.mem_cons.mp hx with rfl | hx
    · exact serveAll_keeps (P := fun g => g.lookup? k = some h)
        (fun _ _ _ _ _ hstep hf => hstep.lookup? hf) rest hk
    · exact ih hx

theorem lookup?_of_given {k : Key Ty} {h : Handle Ty} (hx : x ∈ f.trace declared operations)
    (hg : x.given? = some (k, h)) :
    (f.serveAll declared operations).lookup? k = some h := by
  refine lookup?_serveAll_of_mem hx ?_
  obtain ⟨ho, hr⟩ := Served.given?_eq_some.mp hg
  have houtcome := outcome_of_mem_trace hx
  rw [ho] at houtcome
  rw [houtcome] at hr ⊢
  refine lookup?_of_resolve ?_
  cases hres : (x.before.resolve declared k.target k.signature).result with
  | error e => simp [serve, hres, Except.map] at hr
  | ok g =>
    simp only [serve, hres] at hr
    rw [Reply.handle.inj (Except.ok.inj hr)]

variable (declared)

@[simp]
theorem serveAll_cons (f : Factory Ty) (o : Operation Ty) (rest : List (Operation Ty)) :
    f.serveAll declared (o :: rest) = (f.serve declared o).state.serveAll declared rest := rfl

theorem counted_serveAll (f : Factory Ty) (operations : List (Operation Ty)) :
    (f.serveAll declared operations).resolutions + (f.serveAll declared operations).hits
      = f.resolutions + f.hits + operations.countP (·.key?.isSome) := by
  induction operations generalizing f with
  | nil => rfl
  | cons o rest ih =>
    rw [serveAll_cons, ih, (step_serve declared f o).counted, List.countP_cons]
    omega

theorem kept_serveAll (f : Factory Ty) (operations : List (Operation Ty)) :
    (f.serveAll declared operations).resolutions + f.cache.length
      = f.resolutions + (f.serveAll declared operations).cache.length
        + (f.trace declared operations).countP (·.failed) := by
  induction operations generalizing f with
  | nil => rfl
  | cons o rest ih =>
    have hstep : Step f o _ _ (Served.failed ⟨o, f, f.serve declared o⟩) := step_serve declared f o
    have hkept := hstep.kept
    have hrest := ih (f.serve declared o).state
    rw [serveAll_cons, trace, List.countP_cons]
    omega

theorem mem_keys_serveAll (f : Factory Ty) (operations : List (Operation Ty)) (k : Key Ty) :
    k ∈ (f.serveAll declared operations).keys ↔
      k ∈ f.keys ∨ k ∈ (f.trace declared operations).filterMap Served.resolved? := by
  induction operations generalizing f with
  | nil => simp [serveAll, trace]
  | cons o rest ih =>
    have hhead (x : Served Ty) :
        x.resolved? = some k ↔ x.operation.key? = some k ∧ x.failed = false := by
      unfold Served.resolved?
      split <;> simp_all
    rw [serveAll_cons, ih, (step_serve declared f o).mem_keys_iff, trace]
    simp only [List.mem_filterMap, List.mem_cons, exists_eq_or_imp, hhead, or_assoc]
    exact Iff.rfl

end Runs

/-- A key searched for in vain, one found, and two hits on that; of these one fails afterwards. -/
example :
    let k : Key Sample := ⟨.twin, [.bool]⟩
    let f := empty.serveAll Sample.declared
      [.ask (.resolve ⟨.twin, [.char]⟩), .ask (.resolve k), .ask (.build k (.ofList [])),
        .ask (.build k (.ofList [⟨.bool, true⟩]))]
    f.resolutions = 2 ∧ f.hits = 2 ∧ f.cache.length = 1 :=
  ⟨rfl, rfl, rfl⟩

end Factory

end ServiceKit.Construction
