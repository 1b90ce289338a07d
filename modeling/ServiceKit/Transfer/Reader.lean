import ServiceKit.Fault.Conversion

/-!
What a stream of bytes offers to its readers. A reader answers each call with the bytes it laid at
the front of the room it was given and with the count it reports; nothing makes the two agree, and
the laws speak of reported counts only. A caller that goes on after interruptions relies on
`patience`, one that reads to the end on `supply`.
-/

namespace ServiceKit.Transfer

/-- Why a reader stops its caller: a fault, or a count beyond the room there was, which code that
hands bytes on cannot survive. -/
inductive Stop where
  | fault (f : Fault)
  | overrun
  deriving DecidableEq

def Stop.isInterruption : Stop → Bool
  | .fault f => f.isInterruption
  | .overrun => false

structure ReadAnswer where
  wrote : List UInt8
  outcome : Except Stop Nat

def ReadAnswer.isInterruption (a : ReadAnswer) : Bool :=
  match a.outcome with
  | .ok _ => false
  | .error stop => stop.isInterruption

class Reader (σ : Type) where
  read : Nat → σ → ReadAnswer × σ

/-- A stream of which only so many interruptions can follow one another. -/
class Patient (σ : Type) [Reader σ] where
  patience : σ → Nat
  patience_lt : ∀ room s, (Reader.read room s).1.isInterruption = true →
    patience (Reader.read room s).2 < patience s

/-- A stream that can also move on without handing bytes over. A skip may fall short, and a skip of
nothing does not mean that the stream has ended. -/
class Skipping (σ : Type) [Reader σ] where
  skip : Nat → σ → Except Stop Nat × σ

/-- A patient stream that reports bytes only so often before it reports none. -/
class Ending (σ : Type) [Reader σ] extends Patient σ where
  supply : σ → Nat
  supply_lt : ∀ room s n, (Reader.read room s).1.outcome = .ok (n + 1) →
    supply (Reader.read room s).2 < supply s

def layOver (wrote room : List UInt8) : List UInt8 :=
  wrote.take room.length ++ room.drop wrote.length

/-- A read that hands over the next bytes of `rest`. -/
def deliver (room : Nat) (rest : List UInt8) : ReadAnswer :=
  ⟨rest.take room, .ok (rest.take room).length⟩

@[simp]
theorem deliver_isInterruption (room : Nat) (rest : List UInt8) :
    (deliver room rest).isInterruption = false := rfl

@[simp]
theorem length_layOver (wrote room : List UInt8) : (layOver wrote room).length = room.length := by
  simp [layOver]; omega

section ByReading

variable {σ : Type} [Reader σ]

/-- The most bytes that reading in order to skip asks for at once. -/
def chunkSize : Nat := 8192

/-- Reads `left` bytes and drops them, on top of `passed`. An interrupted read is made again. -/
def passBy [Patient σ] (left passed : Nat) (s : σ) : Except Stop Nat × σ :=
  if left = 0 then (.ok passed, s)
  else
    let room := min chunkSize left
    match h : Reader.read room s with
    | (⟨_, .ok 0⟩, after) => (.ok passed, after)
    | (⟨_, .ok (n + 1)⟩, after) =>
      if n + 1 ≤ room then passBy (left - (n + 1)) (passed + (n + 1)) after
      else (.error .overrun, after)
    | (⟨_, .error stop⟩, after) =>
      if _hi : stop.isInterruption = true then passBy left passed after else (.error stop, after)
termination_by (left, Patient.patience s)
decreasing_by
  · exact Prod.Lex.left _ _ (by omega)
  · refine Prod.Lex.right _ ?_
    have := Patient.patience_lt room s (by simp [h, ReadAnswer.isInterruption, _hi])
    rwa [h] at this

/-- Skips by reading: up to `n` bytes, fewer when the stream ends first. -/
def discardUpTo [Patient σ] (n : Nat) (s : σ) : Except Stop Nat × σ := passBy n 0 s

end ByReading

end ServiceKit.Transfer
