import ServiceKit.Construction.Samples

/-!
Arguments as a queue. Whatever is appended and taken, at right types or wrong ones, what takes have
used up and what is left are together what was supplied, in the order in which it was; and a take
that fails tells how much had been used up before it.
-/

namespace ServiceKit.Construction

variable {Ty : Type} [Family Ty]

inductive Use (Ty : Type) [Family Ty] where
  | push (v : Instance Ty)
  | take (t : Ty)

def Use.pushed? : Use Ty → Option (Instance Ty)
  | .push v => some v
  | .take _ => none

namespace Arguments

variable [DecidableEq Ty] {a : Arguments Ty} {t : Ty}

theorem take_eq_ok_iff {x : Value t} : (a.take t).1 = .ok x ↔ a.values.head? = some ⟨t, x⟩ := by
  unfold take
  split
  · rename_i h
    simp [h]
  · rename_i v rest h
    rw [h, List.head?_cons, Option.some_inj, ← Instance.at?_eq_some_iff]
    cases v.at? t <;> simp

/-- A take that fails tells how many arguments were used up before, and what it asked for. -/
theorem take_eq_error_iff {m : Mismatch Ty} :
    (a.take t).1 = .error m ↔ m = ⟨a.taken, t⟩ ∧ a.types.head? ≠ some t := by
  unfold take types
  split
  · rename_i h
    simp [h, eq_comm]
  · rename_i v rest h
    rw [h, List.map_cons, List.head?_cons, ne_eq, Option.some_inj]
    cases hv : v.at? t with
    | none => simp [(Instance.at?_eq_none_iff v t).mp hv, eq_comm]
    | some x => simp [(Instance.at?_eq_some_iff v t x).mp hv]

theorem take_of_nil (h : a.values = []) (t : Ty) : a.take t = (.error ⟨a.taken, t⟩, a) := by
  obtain ⟨values, taken⟩ := a
  obtain rfl : values = [] := h
  exact take_nil t taken

def after (a : Arguments Ty) : Use Ty → Arguments Ty
  | .push v => a.push v
  | .take t => (a.take t).2

def afterAll (a : Arguments Ty) (uses : List (Use Ty)) : Arguments Ty :=
  uses.foldl after a

/-- The arguments that takes use up, in the order in which they do. -/
def used (a : Arguments Ty) : List (Use Ty) → List (Instance Ty)
  | [] => []
  | .push v :: rest => (a.push v).used rest
  | .take t :: rest => a.values.take 1 ++ (a.take t).2.used rest

@[simp]
theorem afterAll_cons (a : Arguments Ty) (u : Use Ty) (rest : List (Use Ty)) :
    a.afterAll (u :: rest) = (a.after u).afterAll rest := rfl

theorem used_append (a : Arguments Ty) (first rest : List (Use Ty)) :
    a.used (first ++ rest) = a.used first ++ (a.afterAll first).used rest := by
  induction first generalizing a with
  | nil => rfl
  | cons u first ih => cases u <;> simp [used, ih, after]

/-- First in, first out: what is used up and what is left are what was supplied, in its order. -/
theorem used_append_values (a : Arguments Ty) (uses : List (Use Ty)) :
    a.used uses ++ (a.afterAll uses).values = a.values ++ uses.filterMap Use.pushed? := by
  induction uses generalizing a with
  | nil => simp [used, afterAll]
  | cons u rest ih =>
    cases u with
    | push v => simp [used, after, ih, push, Use.pushed?]
    | take t =>
      have hsplit : a.values.take 1 ++ a.values.tail = a.values := by
        rw [← List.drop_one, List.take_append_drop]
      simp only [used, afterAll_cons, after, List.append_assoc, ih, values_take]
      rw [← List.append_assoc, hsplit, List.filterMap_cons_none rfl]

/-- The count of the list is that of what takes have used up. -/
theorem taken_afterAll (a : Arguments Ty) (uses : List (Use Ty)) :
    (a.afterAll uses).taken = a.taken + (a.used uses).length := by
  induction uses generalizing a with
  | nil => rfl
  | cons u rest ih =>
    cases u with
    | push v => exact ih (a.push v)
    | take t =>
      rw [afterAll_cons, ih, used, List.length_append, after, taken_take]
      omega

/-- After any appends and takes nothing is lost or out of its order. A take uses up the oldest
argument, of whatever type; from an empty list it fails and changes nothing. A failure tells how
many arguments were used up before. -/
theorem queue_afterAll (start : List (Instance Ty)) (past : List (Use Ty)) :
    let a := (ofList start).afterAll past
    let used := (ofList start).used past
    let supplied := start ++ past.filterMap Use.pushed?
    used ++ a.values = supplied ∧
    a.values.length + used.length = supplied.length ∧
    ∀ t,
      (∀ m, (a.take t).1 = .error m → m = ⟨used.length, t⟩) ∧
      (∀ v rest, a.values = v :: rest →
        (a.take t).2.values = rest ∧ (ofList start).used (past ++ [.take t]) = used ++ [v] ∧
          ∀ x, (a.take t).1 = .ok x ↔ v = ⟨t, x⟩) ∧
      (a.values = [] →
        a.take t = (.error ⟨used.length, t⟩, a) ∧
          ∀ x, (((a.take t).2.push ⟨t, x⟩).take t).1 = .ok x) := by
  intro a used supplied
  have hqueue : used ++ a.values = supplied := used_append_values (ofList start) past
  have htaken : a.taken = used.length := by
    rw [taken_afterAll]
    exact Nat.zero_add used.length
  refine ⟨hqueue, ?_, fun t => ⟨fun m hm => ?_, fun v rest hv => ⟨?_, ?_, fun x => ?_⟩,
    fun hnil => ⟨?_, fun x => ?_⟩⟩⟩
  · rw [← hqueue, List.length_append, Nat.add_comm]
  · rw [← htaken]
    exact (take_eq_error_iff.mp hm).1
  · rw [values_take, hv, List.tail_cons]
  · rw [used_append]
    change used ++ (a.values.take 1 ++ []) = used ++ [v]
    simp [hv]
  · rw [take_eq_ok_iff, hv, List.head?_cons, Option.some_inj]
  · rw [← htaken]
    exact take_of_nil hnil t
  · rw [take_of_nil hnil]
    simp [take_eq_ok_iff, push, hnil]

/-- A number, then a flag: the flag is taken for a text and lost, and what comes after it is not. -/
example :
    let a := (ofList [⟨.u8, (1 : Nat)⟩, ⟨.bool, true⟩] : Arguments Sample).afterAll
      [.take .u8, .take .string, .take .u8, .push ⟨.u8, (2 : Nat)⟩]
    (a.taken, a.values.length) = (2, 1) ∧ (a.take .u8).1 = .ok (2 : Nat) :=
  ⟨rfl, rfl⟩

end Arguments

end ServiceKit.Construction
