import ServiceKit.Text.Integer

/-!
Binary floating-point numbers with 53 significant bits, as exact values: the number nearest to a
decimal, the order of numbers, and the numbers that a text can spell.
-/

namespace ServiceKit.Decimal

/-- A finite number is `mantissa * 2 ^ exponent`, with a mantissa of 53 bits, or fewer at the least
exponent. -/
inductive Binary where
  | finite (negative : Bool) (mantissa : Nat) (exponent : Int)
  | infinite (negative : Bool)
  | notANumber
  deriving DecidableEq

/-- The least and the greatest exponent of a finite number. -/
def leastExponent : Int := -1074

def greatestExponent : Int := 971

def mantissaLimit : Nat := 1 <<< 53

/-- `a / b` to the nearest integer, and to the even one of two. -/
def roundDiv (a b : Nat) : Nat :=
  let q := a / b
  let r := a % b
  if 2 * r < b then q
  else if b < 2 * r then q + 1
  else q + q % 2

/-- `(a / b) / 2 ^ e` as a quotient of natural numbers. -/
def scaleDown (a b : Nat) (e : Int) : Nat × Nat :=
  (a <<< (-e).toNat, b <<< e.toNat)

/-- The exponent at which `a / b` has a mantissa of 53 bits, or the least one if that is greater. -/
def exponentFor (a b : Nat) : Int :=
  let e := max leastExponent ((Nat.log2 a : Int) - Nat.log2 b - 53)
  let s := scaleDown a b e
  if mantissaLimit ≤ s.1 / s.2 then e + 1 else e

/-- The number nearest to the positive `a / b`. -/
def Binary.ofRatio (negative : Bool) (a b : Nat) : Binary :=
  let e := exponentFor a b
  let s := scaleDown a b e
  let m := roundDiv s.1 s.2
  let (m, e) := if m = mantissaLimit then (m / 2, e + 1) else (m, e)
  if greatestExponent < e then .infinite negative else .finite negative m e

/-- The number nearest to `digits * 10 ^ scale`. Far from the finite range nothing is computed. -/
def Binary.ofDecimal (negative : Bool) (digits : Nat) (scale : Int) : Binary :=
  let top : Int := scale + (Nat.toDigits 10 digits).length
  if digits = 0 then .finite negative 0 leastExponent
  else if 400 < top then .infinite negative
  else if top < -400 then .finite negative 0 leastExponent
  else if 0 ≤ scale then .ofRatio negative (digits * Nat.pow 10 scale.toNat) 1
  else .ofRatio negative digits (Nat.pow 10 (-scale).toNat)

def Binary.units? : Binary → Option Int
  | .finite negative mantissa exponent =>
    let n : Int := (mantissa <<< (exponent - leastExponent).toNat : Nat)
    some (if negative then -n else n)
  | _ => none

/-- The order of values; a zero equals another whatever their signs. -/
def Binary.compare : Binary → Binary → Ordering
  | .infinite true, .infinite true => .eq
  | .infinite true, _ => .lt
  | .infinite false, .infinite false => .eq
  | .infinite false, _ => .gt
  | _, .infinite true => .gt
  | _, .infinite false => .lt
  | x, y => compareOfLessAndEq (x.units?.getD 0) (y.units?.getD 0)

def lowered (c : Char) : Char := if c.isUpper then Char.ofNat (c.toNat + 32) else c

def digitsValue (ds : List Char) : Nat := ds.foldl (fun n d => 10 * n + Text.digitValue d) 0

def exponentPart : List Char → Option Int
  | [] => some 0
  | c :: rest =>
    if lowered c ≠ 'e' then none
    else
      let (negative, ds) :=
        match rest with
        | '-' :: ds => (true, ds)
        | '+' :: ds => (false, ds)
        | ds => (false, ds)
      if ds.isEmpty || !ds.all Char.isDigit then none
      else some (if negative then -(digitsValue ds : Int) else digitsValue ds)

/-- A number without its sign: a name for infinity or for no number, or digits with an optional
point among them and an optional exponent. -/
def unsigned? (negative : Bool) (cs : List Char) : Option Binary :=
  let word := String.ofList (cs.map lowered)
  if word = "inf" ∨ word = "infinity" then some (.infinite negative)
  else if word = "nan" then some .notANumber
  else
    let whole := cs.takeWhile Char.isDigit
    let rest := cs.dropWhile Char.isDigit
    let (fraction, rest) :=
      match rest with
      | '.' :: rest => (rest.takeWhile Char.isDigit, rest.dropWhile Char.isDigit)
      | rest => ([], rest)
    if whole.isEmpty && fraction.isEmpty then none
    else
      (exponentPart rest).map fun e =>
        .ofDecimal negative (digitsValue (whole ++ fraction)) (e - fraction.length)

/-- The number nearest to what a text spells. -/
def Binary.ofText? : List Char → Option Binary
  | '-' :: cs => unsigned? true cs
  | '+' :: cs => unsigned? false cs
  | cs => unsigned? false cs

end ServiceKit.Decimal
