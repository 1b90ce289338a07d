import ServiceKit.Construction.Samples

/-!
Arguments matched against parameters. The body of a constructor is run exactly if the types of the
arguments are the declared ones; otherwise the number of arguments decides, and then the first place
where the types differ. Whoever may not call a constructor learns nothing about the arguments.
-/

namespace ServiceKit.Construction

variable {Ty : Type}

/-- The first place where the types of the arguments are not the declared ones. -/
structure FirstMismatch (types signature : List Ty) (m : Mismatch Ty) : Prop where
  declared : signature[m.index]? = some m.expected
  differs : types[m.index]? ≠ some m.expected
  before : ∀ i < m.index, types[i]? = signature[i]?

namespace FirstMismatch

variable {types signature : List Ty} {t u : Ty} {m m' : Mismatch Ty}

theorem types_ne (h : FirstMismatch types signature m) : types ≠ signature := by
  rintro rfl
  exact h.differs h.declared

/-- No place before a first mismatch can be one. -/
theorem index_le (h : FirstMismatch types signature m) (h' : FirstMismatch types signature m') :
    m.index ≤ m'.index := by
  apply Nat.le_of_not_lt
  intro hlt
  have hbefore := h.before m'.index hlt
  rw [h'.declared] at hbefore
  exact h'.differs hbefore

theorem unique (h : FirstMismatch types signature m) (h' : FirstMismatch types signature m') :
    m = m' := by
  have hindex : m.index = m'.index := Nat.le_antisymm (h.index_le h') (h'.index_le h)
  have hexpected := h.declared
  rw [hindex, h'.declared] at hexpected
  obtain ⟨i, e⟩ := m
  obtain ⟨i', e'⟩ := m'
  simp_all

theorem head_iff (hne : u ≠ t) :
    FirstMismatch (u :: types) (t :: signature) m ↔ m = ⟨0, t⟩ := by
  constructor
  · intro h
    refine h.unique ⟨rfl, ?_, fun i hi => ?_⟩
    · simpa using hne
    · contradiction
  · rintro rfl
    exact ⟨rfl, by simpa using hne, fun i hi => by contradiction⟩

theorem cons_iff {i : Nat} :
    FirstMismatch (t :: types) (t :: signature) ⟨i + 1, u⟩ ↔
      FirstMismatch types signature ⟨i, u⟩ := by
  constructor
  · intro h
    exact ⟨h.declared, h.differs, fun j hj => h.before (j + 1) (Nat.succ_lt_succ hj)⟩
  · intro h
    refine ⟨h.declared, h.differs, fun j hj => ?_⟩
    cases j with
    | zero => rfl
    | succ j => exact h.before j (Nat.lt_of_succ_lt_succ hj)

theorem index_ne_zero (h : FirstMismatch (t :: types) (t :: signature) m) : m.index ≠ 0 := by
  intro hz
  apply h.differs
  have hdeclared := h.declared
  rw [hz] at hdeclared ⊢
  exact hdeclared

end FirstMismatch

variable [Family Ty] [DecidableEq Ty]

section Search

variable {values : List (Instance Ty)} {signature : List Ty} {n : Nat}

theorem firstMismatch?_eq_none_iff (hlen : values.length = signature.length) :
    firstMismatch? n values signature = none ↔ values.map (·.type) = signature := by
  induction values generalizing signature n with
  | nil =>
    rw [List.eq_nil_of_length_eq_zero hlen.symm]
    simp [firstMismatch?]
  | cons v values ih =>
    cases signature with
    | nil => contradiction
    | cons t signature =>
      have hlen : values.length = signature.length := Nat.succ.inj hlen
      by_cases ht : v.type = t <;> simp [firstMismatch?, ht, ih hlen]

theorem firstMismatch?_eq_some_iff (hlen : values.length = signature.length) {m : Mismatch Ty} :
    firstMismatch? n values signature = some m ↔
      ∃ i, m.index = n + i ∧ FirstMismatch (values.map (·.type)) signature ⟨i, m.expected⟩ := by
  induction values generalizing signature n with
  | nil =>
    rw [List.eq_nil_of_length_eq_zero hlen.symm]
    constructor
    · intro h
      contradiction
    · rintro ⟨i, -, h⟩
      exact absurd rfl h.types_ne
  | cons v values ih =>
    cases signature with
    | nil => contradiction
    | cons t signature =>
      have hlen : values.length = signature.length := Nat.succ.inj hlen
      rw [firstMismatch?, List.map_cons]
      by_cases ht : v.type = t
      · rw [if_pos ht, ih hlen, ht]
        constructor
        · rintro ⟨i, hi, h⟩
          exact ⟨i + 1, by omega, FirstMismatch.cons_iff.mpr h⟩
        · rintro ⟨i, hi, h⟩
          obtain ⟨i, rfl⟩ := Nat.exists_eq_succ_of_ne_zero h.index_ne_zero
          exact ⟨i, by omega, FirstMismatch.cons_iff.mp h⟩
      · obtain ⟨j, e⟩ := m
        rw [if_neg ht]
        constructor
        · intro h
          obtain ⟨rfl, rfl⟩ := Mismatch.mk.inj (Option.some.inj h)
          exact ⟨0, rfl, (FirstMismatch.head_iff ht).mpr rfl⟩
        · rintro ⟨i, rfl, h⟩
          obtain ⟨rfl, rfl⟩ := Mismatch.mk.inj ((FirstMismatch.head_iff ht).mp h)
          rfl

end Search

namespace Constructor

variable {c : Constructor Ty} {a : Arguments Ty}

omit [DecidableEq Ty] in
theorem length_values_eq (h : a.types = c.signature) : a.values.length = c.signature.length := by
  rw [← h, Arguments.types, List.length_map]

theorem fit_of_length_ne (h : a.values.length ≠ c.signature.length) :
    c.fit a = .error (.arityMismatch c.target c.signature.length a.values.length) :=
  if_pos h

theorem fit_eq_ok_iff : c.fit a = .ok () ↔ a.types = c.signature := by
  by_cases hlen : a.values.length = c.signature.length
  · unfold fit Arguments.types
    rw [if_neg (not_not_intro hlen), ← firstMismatch?_eq_none_iff (n := 0) hlen]
    cases firstMismatch? 0 a.values c.signature <;> simp
  · rw [fit_of_length_ne hlen]
    exact ⟨fun h => by contradiction, fun h => absurd (length_values_eq h) hlen⟩

theorem fit_of_mismatch (hlen : a.values.length = c.signature.length) {m : Mismatch Ty}
    (hm : FirstMismatch a.types c.signature m) : c.fit a = .error (.argumentMismatch m) := by
  have hfirst : firstMismatch? 0 a.values c.signature = some m :=
    (firstMismatch?_eq_some_iff hlen).mpr ⟨m.index, (Nat.zero_add _).symm, hm⟩
  unfold fit
  rw [if_neg (not_not_intro hlen), hfirst]

/-- Types that are not the declared ones, but as many, differ somewhere for the first time. -/
theorem exists_firstMismatch (hlen : a.values.length = c.signature.length)
    (hne : a.types ≠ c.signature) : ∃ m, FirstMismatch a.types c.signature m := by
  cases hm : firstMismatch? 0 a.values c.signature with
  | none => exact absurd ((firstMismatch?_eq_none_iff hlen).mp hm) hne
  | some m =>
    obtain ⟨i, -, hi⟩ := (firstMismatch?_eq_some_iff hlen).mp hm
    exact ⟨_, hi⟩

/-- The three ways in which arguments meet parameters, and what a run comes to in each. -/
inductive Meets (c : Constructor Ty) (a : Arguments Ty) :
    Except (ConstructionError Ty) (Instance Ty) → Prop
  | fitting (h : a.types = c.signature) : Meets c a (c.conclude (c.body a).1)
  | number (h : a.values.length ≠ c.signature.length) :
    Meets c a (.error (.arityMismatch c.target c.signature.length a.values.length))
  | type (hlen : a.values.length = c.signature.length) {m : Mismatch Ty}
    (hm : FirstMismatch a.types c.signature m) : Meets c a (.error (.argumentMismatch m))

theorem run_of_fit (h : c.fit a = .ok ()) : c.run a = c.conclude (c.body a).1 := by
  unfold run runNoted
  rw [h]
  rfl

theorem run_of_unfit {e : ConstructionError Ty} (h : c.fit a = .error e) : c.run a = .error e := by
  unfold run runNoted
  rw [h]
  rfl

theorem meets_run (c : Constructor Ty) (a : Arguments Ty) : Meets c a (c.run a) := by
  by_cases hlen : a.values.length = c.signature.length
  · by_cases htypes : a.types = c.signature
    · rw [run_of_fit (fit_eq_ok_iff.mpr htypes)]
      exact .fitting htypes
    · obtain ⟨m, hm⟩ := exists_firstMismatch hlen htypes
      rw [run_of_unfit (fit_of_mismatch hlen hm)]
      exact .type hlen hm
  · rw [run_of_unfit (fit_of_length_ne hlen)]
    exact .number hlen

section Outcomes

theorem run_eq_ok_iff {i : Instance Ty} :
    c.run a = .ok i ↔
      a.types = c.signature ∧ ∃ v, (c.body a).1 = .ok v ∧ i = ⟨c.target, v⟩ := by
  have hmeets := meets_run c a
  generalize c.run a = r at hmeets
  cases hmeets with
  | fitting h => cases hb : (c.body a).1 <;> simp [conclude, h, eq_comm]
  | number hlen => simpa using fun h => absurd (length_values_eq h) hlen
  | type hlen hm => simpa using fun h => absurd h hm.types_ne

theorem run_eq_bodyFailed_iff {t : Ty} {f : Failure Ty} :
    c.run a = .error (.bodyFailed t f) ↔
      a.types = c.signature ∧ t = c.target ∧ (c.body a).1 = .error f := by
  have hmeets := meets_run c a
  generalize c.run a = r at hmeets
  cases hmeets with
  | fitting h => cases hb : (c.body a).1 <;> simp [conclude, h, eq_comm]
  | number hlen => simpa using fun h => absurd (length_values_eq h) hlen
  | type hlen hm => simpa using fun h => absurd h hm.types_ne

theorem run_eq_arityMismatch_iff {t : Ty} {expected actual : Nat} :
    c.run a = .error (.arityMismatch t expected actual) ↔
      a.values.length ≠ c.signature.length ∧ t = c.target ∧ expected = c.signature.length ∧
        actual = a.values.length := by
  have hmeets := meets_run c a
  generalize c.run a = r at hmeets
  cases hmeets with
  | fitting h =>
    have hlen := length_values_eq h
    cases hb : (c.body a).1 <;> simp [conclude, hlen]
  | number hlen => simp [hlen, eq_comm]
  | type hlen hm => simp [hlen]

theorem run_eq_argumentMismatch_iff {m : Mismatch Ty} :
    c.run a = .error (.argumentMismatch m) ↔
      a.values.length = c.signature.length ∧ FirstMismatch a.types c.signature m := by
  have hmeets := meets_run c a
  generalize c.run a = r at hmeets
  cases hmeets with
  | fitting h =>
    have hnone : ¬ FirstMismatch a.types c.signature m := fun hm => hm.types_ne h
    cases hb : (c.body a).1 <;> simp [conclude, hnone]
  | number hlen => simp [hlen]
  | @type hlen m' hm' =>
    simp only [Except.error.injEq, ConstructionError.argumentMismatch.injEq, hlen, true_and]
    constructor
    · rintro rfl
      exact hm'
    · exact hm'.unique

theorem run_ne_reserved {t : Ty} {signature : List Ty} :
    c.run a ≠ .error (.reserved t signature) := by
  have hmeets := meets_run c a
  generalize c.run a = r at hmeets
  cases hmeets with
  | fitting h => cases hb : (c.body a).1 <;> simp [conclude]
  | number hlen => simp
  | type hlen hm => simp

end Outcomes

end Constructor

namespace Constructor

def callBy (c : Constructor Ty) (a : Arguments Ty) :
    Route → Except (ConstructionError Ty) (Instance Ty)
  | .handle number => Handle.call ⟨c, number⟩ a
  | .direct => c.call a

def Open (c : Constructor Ty) : Route → Prop
  | .handle _ => True
  | .direct => c.visibility = .anyone

instance (c : Constructor Ty) (route : Route) : Decidable (c.Open route) := by
  cases route <;> unfold Open <;> infer_instance

theorem run_runNoted (c : Constructor Ty) (a : Arguments Ty) (notes : List (Arguments Ty)) :
    (c.runNoted a).run notes
      = (c.run a, notes ++ if a.types = c.signature then [a] else []) := by
  unfold runNoted
  cases hfit : c.fit a with
  | error e =>
    have htypes : a.types ≠ c.signature := by
      rw [ne_eq, ← fit_eq_ok_iff, hfit]
      simp
    rw [run_of_unfit hfit, if_neg htypes, List.append_nil]
    rfl
  | ok u =>
    rw [run_of_fit hfit, if_pos (fit_eq_ok_iff.mp hfit)]
    rfl

variable {c : Constructor Ty} {route : Route}

theorem callBy_of_open (h : c.Open route) (a : Arguments Ty) :
    c.callBy a route = c.run a ∧ c.callNoted a route = c.runNoted a := by
  cases route with
  | handle number => exact ⟨rfl, rfl⟩
  | direct => exact ⟨call_of_anyone h a, callNoted_of_anyone h a⟩

theorem callBy_of_not_open (h : ¬ c.Open route) (a : Arguments Ty) :
    c.callBy a route = .error (.reserved c.target c.signature) ∧
      c.callNoted a route = pure (.error (.reserved c.target c.signature)) := by
  cases route with
  | handle number => exact absurd trivial h
  | direct =>
    have hv : c.visibility = .factoryOnly := by
      cases hv : c.visibility with
      | anyone => exact absurd hv h
      | factoryOnly => rfl
    exact ⟨call_of_factoryOnly hv a, callNoted_of_factoryOnly hv a⟩

/-- What a call comes to, through a handle or directly. The body is run, once, exactly if the call is
open and the arguments are of the declared types. A call that is not open is refused first, then a
wrong number of arguments is told, and then the first place with a wrong type. -/
theorem callBy_outcomes (c : Constructor Ty) (route : Route) (a : Arguments Ty) :
    let result := c.callBy a route
    let matched := c.Open route ∧ a.types = c.signature
    (c.callNoted a route).run [] = (result, if matched then [a] else []) ∧
    (∀ i, result = .ok i ↔ matched ∧ ∃ v, (c.body a).1 = .ok v ∧ i = ⟨c.target, v⟩) ∧
    (∀ t f, result = .error (.bodyFailed t f) ↔
      matched ∧ t = c.target ∧ (c.body a).1 = .error f) ∧
    (∀ t expected actual, result = .error (.arityMismatch t expected actual) ↔
      c.Open route ∧ a.values.length ≠ c.signature.length ∧
        t = c.target ∧ expected = c.signature.length ∧ actual = a.values.length) ∧
    (∀ m, result = .error (.argumentMismatch m) ↔
      c.Open route ∧ a.values.length = c.signature.length ∧
        FirstMismatch a.types c.signature m) ∧
    (a.values.length = c.signature.length → a.types ≠ c.signature →
      ∃ m, FirstMismatch a.types c.signature m) ∧
    ∀ t signature, result = .error (.reserved t signature) ↔
      ¬ c.Open route ∧ t = c.target ∧ signature = c.signature := by
  intro result matched
  by_cases hopen : c.Open route
  · obtain ⟨hcall, hnoted⟩ := callBy_of_open hopen a
    have hmatched : matched ↔ a.types = c.signature := and_iff_right hopen
    have hresult : result = c.run a := hcall
    simp only [hresult, hnoted, hmatched, hopen, true_and, not_true, false_and]
    refine ⟨run_runNoted c a [], fun i => run_eq_ok_iff, fun t f => run_eq_bodyFailed_iff,
      fun t e n => run_eq_arityMismatch_iff, fun m => run_eq_argumentMismatch_iff,
      exists_firstMismatch, fun t signature => ?_⟩
    exact iff_of_false run_ne_reserved not_false
  · obtain ⟨hcall, hnoted⟩ := callBy_of_not_open hopen a
    have hmatched : ¬ matched := fun h => hopen h.1
    have hresult : result = .error (.reserved c.target c.signature) := hcall
    simp only [hresult, hnoted, hmatched, hopen, false_and, not_false_eq_true, true_and]
    refine ⟨rfl, fun i => ?_, fun t f => ?_, fun t e n => ?_, fun m => ?_, exists_firstMismatch,
      fun t signature => ?_⟩ <;>
      simp [eq_comm]

/-- Too few arguments, and the one of a wrong type as well; then a private constructor, called
directly although the arguments are right. -/
example :
    let c : Constructor Sample := ⟨.twin, [.bool, .u8], .anyone, pure "made"⟩
    c.callBy (.ofList [⟨.char, 'x'⟩]) .direct = .error (.arityMismatch .twin 2 1) ∧
      ({ c with visibility := .factoryOnly }).callBy
          (.ofList [⟨.bool, true⟩, ⟨.u8, (1 : Nat)⟩]) .direct
        = .error (.reserved .twin [.bool, .u8]) :=
  ⟨rfl, rfl⟩

end Constructor

end ServiceKit.Construction
