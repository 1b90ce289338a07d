import Mathlib.Order.Defs.LinearOrder
import ServiceKit.Logging.Filter

/-!
The order of specificity. It is transitive and the same from both sides for directives of every
sort, so that a list in descending order stays one when a directive is put in its place.
-/

namespace ServiceKit.Logging

open Std (OrientedCmp TransCmp)

section Comparisons

variable {α β : Type} (cmp : α → α → Ordering)

theorem compareLists_eq_compareLex (as bs : List α) :
    compareLists cmp as bs = List.compareLex cmp as bs := by
  induction as generalizing bs with
  | nil => cases bs <;> rfl
  | cons a as ih =>
    cases bs with
    | nil => rfl
    | cons b bs => rw [compareLists, List.compareLex_cons_cons, ih]

variable [TransCmp cmp]

theorem transCmp_comap (f : β → α) : TransCmp fun a b => cmp (f a) (f b) where
  eq_swap {_ _} := @OrientedCmp.eq_swap _ cmp _ _ _
  isLE_trans {_ _ _} := @TransCmp.isLE_trans _ cmp _ _ _ _

instance : TransCmp (compareLists cmp) := by
  rw [show compareLists cmp = List.compareLex cmp from
    funext fun as => funext (compareLists_eq_compareLex cmp as)]
  infer_instance

instance : TransCmp (compareOptional cmp) where
  eq_swap {a b} := by
    cases a with
    | none => cases b <;> rfl
    | some a =>
      cases b with
      | none => rfl
      | some b => exact @OrientedCmp.eq_swap _ cmp _ a b
  isLE_trans {a b c} hab hbc := by
    cases a with
    | none => cases c <;> rfl
    | some a =>
      cases b with
      | none => contradiction
      | some b =>
        cases c with
        | none => contradiction
        | some c => exact @TransCmp.isLE_trans _ cmp _ a b c hab hbc

end Comparisons

namespace Number

/-- The two ends of the order of numbers, and all that lies between them. -/
def region : Decimal.Binary → Nat
  | .infinite true => 0
  | .finite .. | .notANumber => 1
  | .infinite false => 2

def units (x : Decimal.Binary) : Int := x.units?.getD 0

theorem compare_eq (x y : Decimal.Binary) :
    x.compare y = compareLex (compareOn region) (compareOn units) x y := by
  obtain _ | (_ | _) | _ := x <;> obtain _ | (_ | _) | _ := y <;> rfl

instance : TransCmp Decimal.Binary.compare := by
  rw [show Decimal.Binary.compare = _ from funext fun x => funext (compare_eq x)]
  infer_instance

end Number

namespace FieldTest

def boolean? : FieldTest → Option Bool
  | .boolean b => some b
  | _ => none

def natural? : FieldTest → Option Nat
  | .natural n => some n
  | _ => none

def integer? : FieldTest → Option Int
  | .integer n => some n
  | _ => none

def float? : FieldTest → Option Decimal.Binary
  | .float x => some x
  | _ => none

def pattern? : FieldTest → Option String
  | .pattern text => some text
  | _ => none

/-- Values of different kinds differ in their place, and those of one kind in nothing but their
content. -/
theorem compare_eq (a b : FieldTest) :
    a.compare b =
      compareLex (compareOn place)
        (compareLex (compareOn boolean?)
          (compareLex (compareOn natural?)
            (compareLex (compareOn integer?)
              (compareLex (compareOn pattern?)
                fun a b => compareOptional Decimal.Binary.compare a.float? b.float?)))) a b := by
  cases a <;> cases b <;> first | rfl | exact Ordering.then_eq.symm

instance : TransCmp FieldTest.compare := by
  have := transCmp_comap (compareOptional Decimal.Binary.compare) float?
  rw [show FieldTest.compare = _ from funext fun a => funext (compare_eq a)]
  infer_instance

end FieldTest

instance : TransCmp FieldMatch.compare := by
  have := transCmp_comap (compareOptional FieldTest.compare) FieldMatch.value
  exact inferInstanceAs (TransCmp (compareLex
    (compareLex (compareOn fun m => m.value.isSome) (compareOn FieldMatch.name))
    fun a b => compareOptional FieldTest.compare a.value b.value))

instance : TransCmp Directive.compare := by
  have hsize := transCmp_comap (compareOptional Ord.compare)
    fun d : Directive => d.target.map String.utf8ByteSize
  have htarget := transCmp_comap (compareOptional Ord.compare) Directive.target
  have hspan := transCmp_comap (compareOptional Ord.compare) Directive.span
  have hfields := transCmp_comap (compareLists FieldMatch.compare) Directive.fields
  exact inferInstanceAs (TransCmp (compareLex (compareLex (compareLex (compareLex
    (compareLex
      (fun a b : Directive => compareOptional compare (a.target.map String.utf8ByteSize)
        (b.target.map String.utf8ByteSize))
      (compareOn fun d => d.span.isSome))
    (compareOn fun d => d.fields.length))
    (fun a b => compareOptional compare a.target b.target))
    (fun a b => compareOptional compare a.span b.span))
    (fun a b => compareLists FieldMatch.compare a.fields b.fields)))

end ServiceKit.Logging
