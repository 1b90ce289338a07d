import ServiceKit.Construction.Threads

/-!
What threads that resolve with one factory can do, one move after another, and what their history
tells: which requests have begun, which of them ended, and what has been handed out.
-/

namespace ServiceKit.Construction

variable {Ty : Type} [Family Ty]

def Occasion.thread : Occasion Ty → Thread
  | .began t _ | .ended t _ _ => t

/-- What has been handed out, and for which keys. -/
def obtained (history : List (Occasion Ty)) : List (Key Ty × Handle Ty) :=
  history.filterMap fun
    | .ended _ k ⟨.ok h, _⟩ => some (k, h)
    | _ => none

/-- The thread's latest request is for this key and was made after the occasions in `before`. -/
def Begun (history before : List (Occasion Ty)) (t : Thread) (k : Key Ty) : Prop :=
  ∃ since, history = before ++ .began t k :: since ∧ ∀ o ∈ since, o.thread ≠ t

namespace Begun

variable {history before : List (Occasion Ty)} {t : Thread} {k : Key Ty} {o : Occasion Ty}

theorem now (history : List (Occasion Ty)) (t : Thread) (k : Key Ty) :
    Begun (history ++ [.began t k]) history t k :=
  ⟨[], rfl, by simp⟩

theorem append (h : Begun history before t k) (ho : o.thread ≠ t) :
    Begun (history ++ [o]) before t k := by
  obtain ⟨since, rfl, hs⟩ := h
  refine ⟨since ++ [o], by simp, fun x hx => ?_⟩
  rcases List.mem_append.mp hx with hx | hx
  · exact hs x hx
  · rwa [List.mem_singleton.mp hx]

end Begun

theorem obtained_append (xs ys : List (Occasion Ty)) :
    obtained (xs ++ ys) = obtained xs ++ obtained ys :=
  List.filterMap_append

section Growth

variable (xs : List (Occasion Ty)) (t : Thread) (k : Key Ty)

@[simp]
theorem obtained_began : obtained (xs ++ [.began t k]) = obtained xs := by
  simp [obtained]

@[simp]
theorem obtained_refused (e : ConstructionError Ty) (hit : Bool) :
    obtained (xs ++ [.ended t k ⟨.error e, hit⟩]) = obtained xs := by
  simp [obtained]

@[simp]
theorem obtained_given (h : Handle Ty) (hit : Bool) :
    obtained (xs ++ [.ended t k ⟨.ok h, hit⟩]) = obtained xs ++ [(k, h)] := by
  simp [obtained]

end Growth

theorem Begun.obtained_subset {history before : List (Occasion Ty)} {t : Thread} {k : Key Ty}
    (h : Begun history before t k) : obtained before ⊆ obtained history := by
  obtain ⟨since, rfl, -⟩ := h
  rw [obtained_append]
  exact List.subset_append_left _ _

namespace Threads

variable {s : Threads Ty} {t : Thread} {p : Phase Ty}

def begun (s : Threads Ty) : List (Thread × Key Ty) :=
  s.history.filterMap fun
    | .began t k => some (t, k)
    | .ended .. => none

/-- What holds of every thread's phase still does after a thread enters one that it holds of. -/
theorem forall_phase_enter {P : Thread → Phase Ty → Prop} (hp : P t p)
    (h : ∀ u ≠ t, P u (s.phase u)) (u : Thread) : P u ((s.enter t p).phase u) := by
  by_cases hu : u = t
  · subst hu
    rwa [phase_enter_self]
  · rw [phase_enter_of_ne hu]
    exact h u hu

theorem begun_ask (t : Thread) (k : Key Ty) (s : Threads Ty) :
    ((s.enter t (.looking k)).record (.began t k)).begun = s.begun ++ [(t, k)] := by
  simp [begun, record, enter]

theorem ended_ask (t : Thread) (k : Key Ty) (s : Threads Ty) :
    ((s.enter t (.looking k)).record (.began t k)).ended = s.ended := by
  simp [ended, record, enter]

theorem begun_finish (t : Thread) (k : Key Ty) (r : Resolved Ty) (f : Factory Ty)
    (s : Threads Ty) : begun { s.finish t k r with factory := f } = s.begun := by
  simp [begun, finish, record, enter]

theorem ended_finish (t : Thread) (k : Key Ty) (r : Resolved Ty) (f : Factory Ty)
    (s : Threads Ty) : ended { s.finish t k r with factory := f } = s.ended ++ [(k, r)] := by
  simp [ended, finish, record, enter]

theorem mem_obtained {k : Key Ty} {h : Handle Ty} (hk : (k, h) ∈ obtained s.history) :
    ∃ hit, (k, ⟨.ok h, hit⟩) ∈ s.ended := by
  obtain ⟨o, ho, hkh⟩ := List.mem_filterMap.mp hk
  cases o with
  | began t q => contradiction
  | ended t q r =>
    obtain ⟨_ | g, hit⟩ := r
    · contradiction
    · obtain ⟨rfl, rfl⟩ := Prod.mk.inj (Option.some.inj hkh)
      exact ⟨hit, List.mem_filterMap.mpr ⟨_, ho, rfl⟩⟩

variable [DecidableEq Ty] (declared : Ty → List (Constructor Ty))

/-- What a turn does if it does anything. -/
inductive Move (s : Threads Ty) : Threads Ty → Prop
  | begins {t : Thread} {k : Key Ty} (hp : s.phase t = .idle) :
    Move s ((s.enter t (.looking k)).record (.began t k))
  | finds {t : Thread} {k : Key Ty} {h : Handle Ty} (hp : s.phase t = .looking k)
    (hl : s.factory.lookup? k = some h) : Move s (s.enter t (.hitting k h))
  | lacks {t : Thread} {k : Key Ty} (hp : s.phase t = .looking k)
    (hl : s.factory.lookup? k = none) : Move s (s.enter t (.missing k))
  | hits {t : Thread} {k : Key Ty} {h : Handle Ty} (hp : s.phase t = .hitting k h) :
    Move s { s.finish t k ⟨.ok h, true⟩ with
      factory := { s.factory with hits := s.factory.hits + 1 } }
  | counts {t : Thread} {k : Key Ty} (hp : s.phase t = .missing k) :
    Move s { s.enter t (.searching k s.factory.resolutions) with
      factory := { s.factory with resolutions := s.factory.resolutions + 1 } }
  | refuses {t : Thread} {k : Key Ty} {n : Nat} (hp : s.phase t = .searching k n)
    (hs : Factory.search declared k = none) :
    Move s { s.finish t k ⟨.error (.undeclared k.target k.signature), false⟩ with
      factory := s.factory }
  | selects {t : Thread} {k : Key Ty} {n : Nat} {c : Constructor Ty}
    (hp : s.phase t = .searching k n) (hs : Factory.search declared k = some c) :
    Move s (s.enter t (.keeping k ⟨c, n⟩))
  | keeps {t : Thread} {k : Key Ty} {h : Handle Ty} (hp : s.phase t = .keeping k h) :
    Move s { s.finish t k ⟨.ok h, false⟩ with
      factory := { s.factory with cache := Factory.keep k h s.factory.cache } }

theorem take_cases (s : Threads Ty) (turn : Turn Ty) :
    s.take declared turn = s ∨ Move declared s (s.take declared turn) := by
  cases turn with
  | ask t k =>
    rw [take, ask]
    cases hp : s.phase t with
    | idle => exact .inr (.begins hp)
    | _ => exact .inl rfl
  | go t =>
    rw [take, step]
    cases hp : s.phase t with
    | idle => exact .inl rfl
    | looking k =>
      dsimp only
      cases hl : s.factory.lookup? k with
      | some h => exact .inr (.finds hp hl)
      | none => exact .inr (.lacks hp hl)
    | hitting k h => exact .inr (.hits hp)
    | missing k => exact .inr (.counts hp)
    | searching k n =>
      dsimp only
      cases hs : Factory.search declared k with
      | none => exact .inr (.refuses hp hs)
      | some c => exact .inr (.selects hp hs)
    | keeping k h => exact .inr (.keeps hp)

variable {declared}

theorem execute_keeps {P : Threads Ty → Prop} (hmove : ∀ s s', Move declared s s' → P s → P s')
    (schedule : List (Turn Ty)) (hs : P s) : P (s.execute declared schedule) := by
  induction schedule generalizing s with
  | nil => exact hs
  | cons turn rest ih =>
    apply ih
    rcases take_cases declared s turn with h | h
    · rwa [h]
    · exact hmove _ _ h hs

end Threads

end ServiceKit.Construction
