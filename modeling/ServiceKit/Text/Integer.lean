/-!
Decimal integers of a bounded width, and what is wrong with a text that is none.
-/

namespace ServiceKit.Text

inductive IntegerFault where
  | empty
  | invalidDigit
  | tooLarge
  | tooSmall
  deriving DecidableEq

def IntegerFault.message : IntegerFault → String
  | .empty => "cannot parse integer from empty string"
  | .invalidDigit => "invalid digit found in string"
  | .tooLarge => "number too large to fit in target type"
  | .tooSmall => "number too small to fit in target type"

/-- Sixty-four bits hold the numbers below this one. -/
def wordLimit : Nat := 1 <<< 64

def signLimit : Nat := 1 <<< 63

def digitValue (c : Char) : Nat := c.toNat - 0x30

/-- Reads digits from the left on top of `n`, and stops at the first place where a character is no
digit or the value passes `limit`. -/
def readDigits (limit : Nat) (overflow : IntegerFault) : List Char → Nat → Except IntegerFault Nat
  | [], n => .ok n
  | c :: rest, n =>
    if !c.isDigit then .error .invalidDigit
    else
      let m := 10 * n + digitValue c
      if limit ≤ m then .error overflow else readDigits limit overflow rest m

/-- A natural number below `limit`; a plus sign may stand before the digits. -/
def readNatural (limit : Nat) : List Char → Except IntegerFault Nat
  | [] => .error .empty
  | ['+'] => .error .invalidDigit
  | '+' :: rest => readDigits limit .tooLarge rest 0
  | cs => readDigits limit .tooLarge cs 0

/-- An integer from `-limit` up to, not including, `limit`. -/
def readSigned (limit : Nat) : List Char → Except IntegerFault Int
  | [] => .error .empty
  | ['+'] => .error .invalidDigit
  | ['-'] => .error .invalidDigit
  | '+' :: rest => (readDigits limit .tooLarge rest 0).map Int.ofNat
  | '-' :: rest => (readDigits (limit + 1) .tooSmall rest 0).map fun n => -(n : Int)
  | cs => (readDigits limit .tooLarge cs 0).map Int.ofNat

theorem readDigits_lt {limit n m : Nat} {overflow : IntegerFault} {cs : List Char}
    (h : readDigits limit overflow cs n = .ok m) (hn : n < limit) : m < limit := by
  induction cs generalizing n with
  | nil => simp only [readDigits, Except.ok.injEq] at h; omega
  | cons c rest ih =>
    simp only [readDigits] at h
    split at h
    · simp at h
    · split at h
      · simp at h
      · exact ih h (by omega)

theorem readNatural_lt {limit n : Nat} {cs : List Char} (hl : 0 < limit)
    (h : readNatural limit cs = .ok n) : n < limit := by
  unfold readNatural at h
  split at h <;> first | contradiction | exact readDigits_lt h hl

end ServiceKit.Text
