import ServiceKit.Text.Quoted

/-!
Log events as data. A function that logs returns its events beside its result; every event of this
library is a debugging one.
-/

namespace ServiceKit

/-- A logged value: a number, a text that a log line quotes, or one that it shows as it is. -/
inductive FieldValue where
  | number (n : Nat)
  | quoted (text : String)
  | plain (text : String)
  deriving DecidableEq

def FieldValue.onLine : FieldValue → String
  | .number n => toString n
  | .quoted text => Text.quote text
  | .plain text => text

/-- A debugging event: where it comes from, what happened, and the values that tell more. -/
structure Event where
  origin : String
  message : String
  fields : List (String × FieldValue)
  deriving DecidableEq

/-- What a step over a state gives: its result, the events it logged, and the state after it. -/
structure Outcome (σ α : Type) where
  result : α
  events : List Event
  state : σ

end ServiceKit
