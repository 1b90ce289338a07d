/-!
Sets of characters written as ascending ranges of code points.
-/

namespace ServiceKit.Text

/-- Ascending, disjoint ranges of code points, both ends included. -/
structure CodePoints where
  ranges : List (Nat × Nat)

def lookupRange (n : Nat) : List (Nat × Nat) → Bool
  | [] => false
  | (low, high) :: rest => if n < low then false else if n ≤ high then true else lookupRange n rest

namespace CodePoints

def holds (s : CodePoints) (c : Char) : Bool :=
  lookupRange c.toNat s.ranges

end CodePoints

end ServiceKit.Text
