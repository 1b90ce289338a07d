import ServiceKit.Transfer.Reader

/-!
A stream that can only be read, such as an open file that is not a regular one. It skips by reading.
-/

namespace ServiceKit.Transfer

structure Unseekable (σ : Type) where
  inner : σ

namespace Unseekable

variable {σ : Type} [Reader σ]

def read (room : Nat) (u : Unseekable σ) : ReadAnswer × Unseekable σ :=
  ((Reader.read room u.inner).1, ⟨(Reader.read room u.inner).2⟩)

instance : Reader (Unseekable σ) where
  read room u := u.read room

instance [Patient σ] : Patient (Unseekable σ) where
  patience u := Patient.patience u.inner
  patience_lt room u h := Patient.patience_lt room u.inner h

instance [Patient σ] : Skipping (Unseekable σ) where
  skip n u := discardUpTo n u

instance [Ending σ] : Ending (Unseekable σ) where
  supply u := Ending.supply u.inner
  supply_lt room u n h := Ending.supply_lt room u.inner n h

end Unseekable

end ServiceKit.Transfer
