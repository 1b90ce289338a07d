import ServiceKit.Proofs.Construction.Matching
import ServiceKit.Proofs.Construction.Queue

/-!
What bodies make of their arguments. A body that only takes them and looks at them is followed take by
take, whatever it asks for and whatever it does about a take that failed: on arguments that match the
parameters the first takes find them one after another, and fail only at another type than the
declared one; all later takes find nothing. So a body that keeps to its declaration is given exactly
what was supplied. A body that changes its list can take whatever it put there.
-/

namespace ServiceKit.Construction

variable {Ty : Type} [Family Ty] {α : Type}

/-- What a body does that only takes and looks: it takes one argument after another, at types that may
depend on what came of the takes before, looks at what is left, and ends. -/
inductive Script (Ty : Type) [Family Ty] (α : Type) where
  | done (result : Except (Failure Ty) α)
  | look (next : Arguments Ty → Script Ty α)
  | take (t : Ty) (next : Except (Mismatch Ty) (Value t) → Script Ty α)

/-- A take, by the type it asks for and the arguments it finds. -/
structure Attempt (Ty : Type) [Family Ty] where
  asked : Ty
  found : Arguments Ty

namespace Script

/-- Whether the takes ask for these types in their order, as long as they succeed. -/
def InOrder : Script Ty α → List Ty → Prop
  | .done _, _ => True
  | .look next, signature => ∀ a, (next a).InOrder signature
  | .take _ _, [] => False
  | .take t next, u :: signature => t = u ∧ ∀ v, (next (.ok v)).InOrder signature

end Script

variable [DecidableEq Ty]

namespace Arguments

def afterTakes (a : Arguments Ty) (n : Nat) : Arguments Ty :=
  ⟨a.values.drop n, a.taken + (a.values.take n).length⟩

theorem afterTakes_take (t : Ty) (a : Arguments Ty) (n : Nat) :
    (a.take t).2.afterTakes n = a.afterTakes (n + 1) := by
  unfold afterTakes
  rw [values_take, taken_take]
  cases a.values <;> simp [Nat.add_assoc, Nat.add_comm 1]

theorem take_afterTakes (t : Ty) (a : Arguments Ty) (n : Nat) :
    ((a.afterTakes n).take t).2 = a.afterTakes (n + 1) := by
  have hvalues := values_take t (a.afterTakes n)
  have htaken := taken_take t (a.afterTakes n)
  generalize ((a.afterTakes n).take t).2 = b at hvalues htaken ⊢
  obtain ⟨values, taken⟩ := b
  obtain rfl : values = _ := hvalues
  obtain rfl : taken = _ := htaken
  simp only [afterTakes, List.tail_drop, List.length_take, List.length_drop, mk.injEq, true_and]
  omega

end Arguments

namespace Attempt

def reply (x : Attempt Ty) : Except (Mismatch Ty) (Value x.asked) := (x.found.take x.asked).1

def left (x : Attempt Ty) : Arguments Ty := (x.found.take x.asked).2

def value? (x : Attempt Ty) : Option (Instance Ty) :=
  match x.reply with
  | .ok v => some ⟨x.asked, v⟩
  | .error _ => none

theorem value?_of_head {x : Attempt Ty} {v : Instance Ty} (h : x.found.values.head? = some v)
    (ht : v.type = x.asked) : x.value? = some v := by
  obtain ⟨t, found⟩ := x
  obtain ⟨u, y⟩ := v
  obtain rfl : u = t := ht
  have hreply : reply ⟨u, found⟩ = .ok y := Arguments.take_eq_ok_iff.mpr h
  unfold value?
  rw [hreply]

end Attempt

namespace Script

/-- What comes of the body, what it leaves, and the takes that it makes. -/
def run : Script Ty α → Arguments Ty → (Except (Failure Ty) α × Arguments Ty) × List (Attempt Ty)
  | .done result, a => ((result, a), [])
  | .look next, a => (next a).run a
  | .take t next, a =>
    let rest := (next (a.take t).1).run (a.take t).2
    (rest.1, ⟨t, a⟩ :: rest.2)

def body (s : Script Ty α) : Body Ty α := fun a => (s.run a).1

def attempts (s : Script Ty α) (a : Arguments Ty) : List (Attempt Ty) := (s.run a).2

theorem attempts_take (t : Ty) (next : Except (Mismatch Ty) (Value t) → Script Ty α)
    (a : Arguments Ty) :
    (Script.take t next).attempts a = ⟨t, a⟩ :: (next (a.take t).1).attempts (a.take t).2 := rfl

variable {s : Script Ty α} {a : Arguments Ty}

/-- Each take finds what as many takes before it have left, whatever these asked for. -/
theorem found_of_attempts {i : Nat} {x : Attempt Ty} (hx : (s.attempts a)[i]? = some x) :
    x.found = a.afterTakes i := by
  induction s generalizing a i with
  | done result => contradiction
  | look next ih => exact ih a hx
  | take t next ih =>
    cases i with
    | zero =>
      obtain rfl : (⟨t, a⟩ : Attempt Ty) = x := Option.some.inj hx
      rfl
    | succ i =>
      rw [← Arguments.afterTakes_take t]
      exact ih (a.take t).1 hx

theorem left_of_attempts {i : Nat} {x : Attempt Ty} (hx : (s.attempts a)[i]? = some x) :
    x.left = a.afterTakes (i + 1) := by
  unfold Attempt.left
  rw [found_of_attempts hx, Arguments.take_afterTakes]

theorem value?_of_attempts {i : Nat} {x : Attempt Ty} (hx : (s.attempts a)[i]? = some x)
    (ht : a.types[i]? = some x.asked) : x.value? = a.values[i]? := by
  rw [Arguments.types, List.getElem?_map, Option.map_eq_some_iff] at ht
  obtain ⟨v, hv, hvt⟩ := ht
  have hhead : x.found.values.head? = some v := by
    rw [found_of_attempts hx, Arguments.afterTakes, List.head?_drop, hv]
  rw [hv, Attempt.value?_of_head hhead hvt]

/-- A take that finds an argument fails exactly at another type than the argument's. -/
theorem reply_eq_error_iff {i : Nat} {x : Attempt Ty} (hx : (s.attempts a)[i]? = some x)
    (hi : i < a.values.length) {m : Mismatch Ty} :
    x.reply = .error m ↔ a.types[i]? ≠ some x.asked ∧ m = ⟨a.taken + i, x.asked⟩ := by
  have htypes : x.found.types.head? = a.types[i]? := by
    rw [found_of_attempts hx, Arguments.types, Arguments.types, Arguments.afterTakes,
      List.head?_map, List.head?_drop, List.getElem?_map]
  have htaken : x.found.taken = a.taken + i := by
    rw [found_of_attempts hx, Arguments.afterTakes, List.length_take,
      Nat.min_eq_left (Nat.le_of_lt hi)]
  unfold Attempt.reply
  rw [Arguments.take_eq_error_iff, htypes, htaken, and_comm]

theorem reply_of_spent {i : Nat} {x : Attempt Ty} (hx : (s.attempts a)[i]? = some x)
    (hi : a.values.length ≤ i) :
    x.reply = .error ⟨a.taken + a.values.length, x.asked⟩ ∧ x.left = x.found := by
  have hnil : x.found.values = [] := by
    rw [found_of_attempts hx]
    exact List.drop_eq_nil_of_le hi
  have htaken : x.found.taken = a.taken + a.values.length := by
    rw [found_of_attempts hx, Arguments.afterTakes, List.take_of_length_le hi]
  unfold Attempt.reply Attempt.left
  rw [Arguments.take_of_nil hnil, htaken]
  exact ⟨rfl, rfl⟩

theorem left_of_body (s : Script Ty α) (a : Arguments Ty) :
    (s.body a).2 = a.afterTakes (s.attempts a).length := by
  induction s generalizing a with
  | done result => rfl
  | look next ih => exact ih a a
  | take t next ih =>
    rw [attempts_take, List.length_cons, ← Arguments.afterTakes_take t]
    exact ih (a.take t).1 (a.take t).2

/-- A body that keeps to the types of its arguments is given them as they are, in their order. -/
theorem values_of_inOrder {signature : List Ty} (hs : s.InOrder signature)
    (ha : a.types = signature) :
    (s.attempts a).map Attempt.value? = (a.values.take (s.attempts a).length).map some := by
  induction s generalizing a signature with
  | done result => rfl
  | look next ih => exact ih a (hs a) ha
  | take t next ih =>
    cases signature with
    | nil => exact hs.elim
    | cons u signature =>
      obtain ⟨rfl, hnext⟩ := hs
      obtain ⟨⟨t, v⟩, rest, hvalues, rfl, hrest⟩ := List.map_eq_cons_iff.mp ha
      have htake : (a.take t).1 = .ok v := Arguments.take_eq_ok_iff.mpr (by simp [hvalues])
      have htypes : (a.take t).2.types = signature := by
        rw [Arguments.types, Arguments.values_take, hvalues]
        exact hrest
      have hlater := ih (a.take t).1 (htake ▸ hnext v) htypes
      rw [Arguments.values_take, hvalues, List.tail_cons] at hlater
      have hfirst : Attempt.value? ⟨t, a⟩ = some ⟨t, v⟩ :=
        Attempt.value?_of_head (by rw [hvalues, List.head?_cons]) rfl
      rw [attempts_take, List.map_cons, hlater, hfirst, hvalues]
      rfl

end Script

namespace Sample

/-- Takes a number, another one after the failure of the first take, and tells what happened. -/
def twice : Script Sample String :=
  .take .u32 fun
    | .ok _ => .done (.error (.refused "unexpected"))
    | .error m => .take .u32 fun
      | .error again => .done (.error (.mismatch again))
      | .ok (n : Nat) => .look fun last =>
        .done (.ok (m.message ++ "; then " ++ toString n ++ "; " ++ last.shown.compact))

theorem takeTwice_eq : takeTwice = twice.body := by
  funext a
  unfold takeTwice twice Script.body
  rw [Script.run]
  rcases a.take Sample.u32 with ⟨m | n, rest⟩
  · dsimp only
    rw [Script.run]
    rcases rest.take Sample.u32 with ⟨again | n, last⟩ <;> rfl
  · rfl

end Sample

namespace Script

/-- A body that only takes and looks, on arguments that match the parameters. Whatever it asks for, a
take up to the number of parameters uses up the argument of that place and fails exactly at another
type than the declared one, and the later ones all fail, with that number for the place. -/
theorem takes_of_fit {c : Constructor Ty} {s : Script Ty (Value c.target)} (hbody : c.body = s.body)
    {values : List (Instance Ty)} (hfit : c.fit (.ofList values) = .ok ()) :
    let a := Arguments.ofList values
    let arity := c.signature.length
    let attempts := s.attempts a
    c.run a = c.conclude (s.body a).1 ∧
    (s.body a).2 = ⟨values.drop attempts.length, min attempts.length arity⟩ ∧
    (s.InOrder c.signature →
      attempts.map Attempt.value? = (values.take attempts.length).map some) ∧
    ∀ i x, attempts[i]? = some x →
      (∀ t, c.signature[i]? = some t →
        (x.asked = t → x.value? = values[i]?) ∧
        (∀ m, x.reply = .error m ↔ x.asked ≠ t ∧ m = ⟨i, x.asked⟩) ∧
        x.left = ⟨values.drop (i + 1), i + 1⟩) ∧
      (arity ≤ i → x.reply = .error ⟨arity, x.asked⟩ ∧ x.left = x.found) := by
  intro a arity attempts
  have htypes : a.types = c.signature := Constructor.fit_eq_ok_iff.mp hfit
  have hlen : values.length = arity := Constructor.length_values_eq htypes
  have hafter (n : Nat) : a.afterTakes n = ⟨values.drop n, min n arity⟩ := by
    rw [← hlen, ← List.length_take]
    simp only [Arguments.afterTakes, a, Arguments.ofList, Nat.zero_add]
  refine ⟨?_, ?_, fun hs => values_of_inOrder hs htypes,
    fun i x hx => ⟨fun t ht => ⟨fun heq => ?_, fun m => ?_, ?_⟩, fun hi => ?_⟩⟩
  · rw [Constructor.run_of_fit hfit, hbody]
  · rw [left_of_body, hafter]
  · exact value?_of_attempts hx (by rw [htypes, ht, heq])
  · have hi : i < arity := (List.getElem?_eq_some_iff.mp ht).1
    rw [reply_eq_error_iff hx (hlen ▸ hi), htypes, ht, ne_eq, Option.some_inj, eq_comm,
      show a.taken = 0 from rfl, Nat.zero_add]
  · have hi : i < arity := (List.getElem?_eq_some_iff.mp ht).1
    rw [left_of_attempts hx, hafter, Nat.min_eq_left hi]
  · have hspent := reply_of_spent hx (hlen ▸ hi : values.length ≤ i)
    rwa [show a.taken = 0 from rfl, Nat.zero_add, show a.values.length = arity from hlen] at hspent

/-- A flag and a number, but the body asks for a number at once. That take uses up the flag, and the
next one finds the number. -/
theorem takes_of_fit_twice :
    let c : Constructor Sample := ⟨.greedy, [.bool, .u32], .anyone, Sample.takeTwice⟩
    let values : List (Instance Sample) := [⟨.bool, true⟩, ⟨.u32, (7 : Nat)⟩]
    c.body = Sample.twice.body ∧ c.fit (.ofList values) = .ok () ∧
    (Sample.twice.body (.ofList values)).2 = ⟨[], 2⟩ ∧
    ∃ first second, Sample.twice.attempts (.ofList values) = [first, second] ∧
      first.reply = .error ⟨0, first.asked⟩ ∧ second.value? = some ⟨.u32, (7 : Nat)⟩ := by
  intro c values
  have hfit : c.fit (.ofList values) = .ok () := rfl
  obtain ⟨-, hleft, -, htakes⟩ := takes_of_fit (c := c) Sample.takeTwice_eq hfit
  refine ⟨Sample.takeTwice_eq, hfit, hleft, ⟨.u32, .ofList values⟩,
    ⟨.u32, ⟨[⟨.u32, (7 : Nat)⟩], 1⟩⟩, rfl, ?_, ?_⟩
  · exact (((htakes 0 _ rfl).1 .bool rfl).2.1 _).mpr ⟨by decide, rfl⟩
  · exact ((htakes 1 _ rfl).1 .u32 rfl).1 rfl

/-- Bodies that change their list. One takes its argument, adds another and can take that; the other
puts an empty list in the place of its own, and its first take, at the declared type, fails. -/
theorem takes_of_changed_arguments :
    let adding : Body Sample Nat := do
      let _ ← Body.take Sample.u8
      modify (·.push ⟨.u8, (5 : Nat)⟩)
      Body.take Sample.u8
    let emptying : Body Sample Nat := do
      set (Arguments.ofList [] : Arguments Sample)
      Body.take Sample.u8
    let given : Arguments Sample := .ofList [⟨.u8, (1 : Nat)⟩]
    let c (body : Body Sample Nat) : Constructor Sample := ⟨.snapshot, [.u8], .anyone, body⟩
    (∀ body, (c body).fit given = .ok ()) ∧
      (c adding).run given = .ok ⟨.snapshot, (5 : Nat)⟩ ∧
      (c emptying).run given = .error (.bodyFailed .snapshot (.mismatch ⟨0, .u8⟩)) :=
  ⟨fun _ => rfl, rfl, rfl⟩

end Script

end ServiceKit.Construction
