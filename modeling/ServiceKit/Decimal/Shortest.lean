import ServiceKit.Decimal.Binary

/-!
The shortest decimal that reads back as a given binary number, written out without an exponent.

Four times the mantissa counts quarters of the number's last bit. The reals that round to the number
lie between the midpoints to its neighbours; the midpoints themselves do when the mantissa is even.
-/

namespace ServiceKit.Decimal

/-- The interval of reals that round to a positive number, in units of `2 ^ (exponent - 2)`. -/
structure Span where
  low : Nat
  value : Nat
  high : Nat
  closed : Bool

/-- Below a power of two the neighbour is only half as far away. -/
def Span.of (mantissa : Nat) (exponent : Int) : Span :=
  let halved := mantissa = mantissaLimit / 2 ∧ leastExponent < exponent
  ⟨4 * mantissa - (if halved then 1 else 2), 4 * mantissa, 4 * mantissa + 2, mantissa % 2 = 0⟩

def Span.holds (s : Span) (a b : Nat) : Bool :=
  if s.closed then s.low * b ≤ a && a ≤ s.high * b else s.low * b < a && a < s.high * b

/-- The nearer to the value of its two neighbours among the multiples of `10 ^ k` that lie in the
span. The `unit` of the span is a power of two. -/
def Span.multiple? (s : Span) (unit k : Int) : Option Nat :=
  let a := Nat.pow 10 k.toNat <<< (-unit).toNat
  let b := Nat.pow 10 (-k).toNat <<< unit.toNat
  let below := s.value * b / a
  let above := below + 1
  match s.holds (below * a) b && below ≠ 0, s.holds (above * a) b with
  | false, false => none
  | true, false => some below
  | false, true => some above
  | true, true =>
    if s.value * b - below * a ≤ above * a - s.value * b then some below else some above

structure Scaled where
  digits : Nat
  scale : Int
  deriving DecidableEq

/-- The decimal with the fewest digits in the span of a positive number: the scales are tried from
one that is too coarse to one that is fine enough. -/
def shortest (mantissa : Nat) (exponent : Int) : Scaled :=
  let s := Span.of mantissa exponent
  let unit := exponent - 2
  let top : Int := (Nat.toDigits 10 (s.high <<< unit.toNat)).length
  let bottom : Int := min 0 unit
  let found := (List.range ((top - bottom).toNat + 1)).findSome? fun (i : Nat) =>
    (s.multiple? unit (top - i)).map fun d => Scaled.mk d (top - i)
  found.getD ⟨mantissa <<< exponent.toNat, 0⟩

def Scaled.positional (d : Scaled) : List Char :=
  let ds := Nat.toDigits 10 d.digits
  if 0 ≤ d.scale then ds ++ List.replicate d.scale.toNat '0'
  else
    let places := (-d.scale).toNat
    let padded := List.replicate (places + 1 - ds.length) '0' ++ ds
    padded.take (padded.length - places) ++ '.' :: padded.drop (padded.length - places)

/-- The shortest text of a number; a whole number has no point. -/
def Binary.render : Binary → String
  | .finite negative mantissa exponent =>
    let body := if mantissa = 0 then ['0'] else (shortest mantissa exponent).positional
    String.ofList (if negative then '-' :: body else body)
  | .infinite false => "inf"
  | .infinite true => "-inf"
  | .notANumber => "NaN"

/-- The shortest text, with a point even in a whole number. -/
def Binary.renderPointed (x : Binary) : String :=
  match x with
  | .finite .. => if x.render.toList.contains '.' then x.render else x.render ++ ".0"
  | _ => x.render

end ServiceKit.Decimal
