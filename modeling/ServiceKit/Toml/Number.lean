import ServiceKit.Toml.Scan
import ServiceKit.Toml.Value

/-!
Numbers and moments in time as a TOML document writes them. Digits may have single underscores
between them; a decimal number has no needless zero in front; an integer fits into sixty-four bits;
a day exists in its month.
-/

namespace ServiceKit.Toml

/-- More digits, each with at most one underscore before it. -/
def moreDigits? (isDigit : Char → Bool) : Scanner (List Char)
  | [] => some ([], [])
  | ['_'] => none
  | '_' :: d :: rest =>
    if isDigit d then (moreDigits? isDigit rest).map fun (ds, last) => (d :: ds, last) else none
  | c :: rest =>
    if isDigit c then (moreDigits? isDigit rest).map fun (ds, last) => (c :: ds, last)
    else some ([], c :: rest)

def digits? (isDigit : Char → Bool) : Scanner (List Char)
  | c :: rest =>
    if isDigit c then (moreDigits? isDigit rest).map fun (ds, last) => (c :: ds, last) else none
  | [] => none

/-- The digits of a decimal number: a zero alone, or digits that do not begin with one. -/
def wholeDigits? : Scanner (List Char)
  | '0' :: rest => some (['0'], rest)
  | cs => digits? Char.isDigit cs

def signOf : List Char → List Char × List Char
  | '+' :: rest => (['+'], rest)
  | '-' :: rest => (['-'], rest)
  | cs => ([], cs)

def exponent? (cs : List Char) : Option (Option (List Char) × List Char) :=
  match cs with
  | c :: rest =>
    if c = 'e' ∨ c = 'E' then
      let (sign, rest) := signOf rest
      (digits? Char.isDigit rest).map fun (ds, last) => (some ('e' :: sign ++ ds), last)
    else some (none, cs)
  | [] => some (none, [])

/-- The number that the text spells. One that is too large is refused, unless it is negative. -/
def floatOf? (written : List Char) : Option Value :=
  match Decimal.Binary.ofText? written with
  | some (.infinite false) => none
  | x => x.map .float

def integerOf? (written : List Char) : Option Value :=
  match Text.readSigned Text.signLimit written with
  | .ok n => some (.integer n)
  | .error _ => none

/-- A decimal number, an integer unless it has a fraction or an exponent. -/
def decimal? (cs : List Char) : Option (Value × List Char) := do
  let (sign, rest) := signOf cs
  let (whole, rest) ← wholeDigits? rest
  match rest with
  | '.' :: rest =>
    let (fraction, rest) ← digits? Char.isDigit rest
    let (exponent, rest) ← exponent? rest
    return (← floatOf? (sign ++ whole ++ '.' :: fraction ++ exponent.getD []), rest)
  | rest =>
    let (exponent, rest) ← exponent? rest
    match exponent with
    | some e => return (← floatOf? (sign ++ whole ++ e), rest)
    | none => return (← integerOf? (sign ++ whole), rest)

def isOctalDigit (c : Char) : Bool := '0' ≤ c && c ≤ '7'

def isBinaryDigit (c : Char) : Bool := c = '0' || c = '1'

def based? (base : Nat) (isDigit : Char → Bool) (value : Char → Nat) : Scanner Value := fun cs => do
  let (ds, rest) ← digits? isDigit cs
  let n := ds.foldl (fun n d => base * n + value d) 0
  if n < Text.signLimit then some (.integer n, rest) else none

def digitOf (c : Char) : Nat :=
  if c.isDigit then c.toNat - 0x30
  else if 'a' ≤ c then c.toNat - 0x61 + 10
  else c.toNat - 0x41 + 10

def special? (cs : List Char) : Option (Value × List Char) :=
  let (sign, rest) := signOf cs
  match rest with
  | 'i' :: 'n' :: 'f' :: rest => some (.float (.infinite (sign = ['-'])), rest)
  | 'n' :: 'a' :: 'n' :: rest => some (.float .notANumber, rest)
  | _ => none

def number? (cs : List Char) : Option (Value × List Char) :=
  match cs with
  | '0' :: 'x' :: rest => based? 16 isHexDigit digitOf rest
  | '0' :: 'o' :: rest => based? 8 isOctalDigit digitOf rest
  | '0' :: 'b' :: rest => based? 2 isBinaryDigit digitOf rest
  | _ => (special? cs).or (decimal? cs)

/-! ### Moments -/

def fixed? (size low high : Nat) : Scanner Nat := fun cs =>
  let ds := cs.take size
  let n := ds.foldl (fun n d => 10 * n + digitOf d) 0
  if ds.length = size && ds.all Char.isDigit && low ≤ n && n ≤ high then some (n, cs.drop size)
  else none

def expect? (c : Char) : List Char → Option (List Char)
  | d :: rest => if c = d then some rest else none
  | [] => none

def daysIn (year month : Nat) : Nat :=
  if month = 2 then
    if year % 4 = 0 ∧ (year % 100 ≠ 0 ∨ year % 400 = 0) then 29 else 28
  else if month = 4 ∨ month = 6 ∨ month = 9 ∨ month = 11 then 30
  else 31

def date? (cs : List Char) : Option (List Char) := do
  let (year, cs) ← fixed? 4 0 9999 cs
  let (month, cs) ← fixed? 2 1 12 (← expect? '-' cs)
  let (_, cs) ← fixed? 2 1 (daysIn year month) (← expect? '-' cs)
  return cs

/-- What is left behind a time of day. A minute may have a leap second. -/
def time? (cs : List Char) : Option (List Char) := do
  let (_, cs) ← fixed? 2 0 23 cs
  let (_, cs) ← fixed? 2 0 59 (← expect? ':' cs)
  let (_, cs) ← fixed? 2 0 60 (← expect? ':' cs)
  match cs with
  | '.' :: d :: rest => if d.isDigit then return rest.dropWhile Char.isDigit else return cs
  | _ => return cs

/-- What is left behind an offset from universal time, if there is one. -/
def skipOffset (cs : List Char) : List Char :=
  match cs with
  | 'Z' :: rest => rest
  | 'z' :: rest => rest
  | c :: rest =>
    if c = '+' ∨ c = '-' then
      (do
        let (_, rest) ← fixed? 2 0 23 rest
        let (_, rest) ← fixed? 2 0 59 (← expect? ':' rest)
        return rest : Option (List Char)).getD cs
    else cs
  | [] => []

/-- What is left behind a date, with or without a time, or behind a time alone. -/
def skipMoment? (cs : List Char) : Option (List Char) :=
  match date? cs with
  | none => time? cs
  | some (c :: rest) =>
    if c = 'T' ∨ c = 't' ∨ c = ' ' then
      match time? rest with
      | some last => some (skipOffset last)
      | none => some (c :: rest)
    else some (c :: rest)
  | some [] => some []

def moment? (cs : List Char) : Option (Value × List Char) :=
  (skipMoment? cs).map fun rest =>
    (.moment (String.ofList (cs.take (cs.length - rest.length))), rest)

end ServiceKit.Toml
