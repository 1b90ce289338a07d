import ServiceKit.Transfer.Reader

/-!
A stream that keeps a record of the calls made on it.
-/

namespace ServiceKit.Transfer

/-- A call with the amount asked for and the count or the stop that answered it. -/
inductive Call where
  | read (room : Nat) (answer : Except Stop Nat)
  | skip (n : Nat) (answer : Except Stop Nat)

def Call.answer : Call → Except Stop Nat
  | .read _ answer => answer
  | .skip _ answer => answer

structure Recorded (σ : Type) where
  inner : σ
  calls : List Call

namespace Recorded

variable {σ : Type} [Reader σ]

def read (room : Nat) (r : Recorded σ) : ReadAnswer × Recorded σ :=
  ((Reader.read room r.inner).1,
    ⟨(Reader.read room r.inner).2,
      r.calls ++ [.read room (Reader.read room r.inner).1.outcome]⟩)

def skip [Skipping σ] (n : Nat) (r : Recorded σ) : Except Stop Nat × Recorded σ :=
  ((Skipping.skip n r.inner).1,
    ⟨(Skipping.skip n r.inner).2, r.calls ++ [.skip n (Skipping.skip n r.inner).1]⟩)

instance : Reader (Recorded σ) where
  read room r := r.read room

instance [Patient σ] : Patient (Recorded σ) where
  patience r := Patient.patience r.inner
  patience_lt room r h := Patient.patience_lt room r.inner h

instance [Skipping σ] : Skipping (Recorded σ) where
  skip n r := r.skip n

instance [Ending σ] : Ending (Recorded σ) where
  supply r := Ending.supply r.inner
  supply_lt room r n h := Ending.supply_lt room r.inner n h

end Recorded

end ServiceKit.Transfer
