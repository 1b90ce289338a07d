import ServiceKit.Fault.Basic

/-!
Turning faults, transfer errors and other causes into one another, the chain of errors behind a
fault, and what each of them looks like in diagnostics.
-/

namespace ServiceKit

/-- A fault comes back out as it went in; an early end keeps its kind, and the errors that the
caller could have avoided count as invalid input. -/
def TransferFault.toFault : TransferFault → Fault
  | .fault f => f
  | .unexpectedEnd operation requested transferred =>
    .carrying .unexpectedEnd (.transfer (.unexpectedEnd operation requested transferred))
  | .outsideBuffer offset length capacity =>
    .carrying .invalidInput (.transfer (.outsideBuffer offset length capacity))
  | .emptyBuffer => .carrying .invalidInput (.transfer .emptyBuffer)

/-- A cause that is a fault already is that fault; any other is carried by one of kind `other`. -/
def Cause.toFault : Cause → Fault
  | .fault f => f
  | .text m => .carrying .other (.text m)
  | .transfer e => .carrying .other (.transfer e)
  | .interruption m c => .carrying .other (.interruption m c)

def Fault.interrupted (message : String) (cause : Cause) : Fault :=
  .carrying .interrupted (.interruption message cause)

mutual

/-- The messages of all errors behind a fault, the nearest first. -/
def Fault.sourceMessages : Fault → List String
  | .system _ => []
  | .bare _ => []
  | .carrying _ cause => cause.sourceMessages

def Cause.sourceMessages : Cause → List String
  | .text _ => []
  | .fault f => f.sourceMessages
  | .transfer e => e.sourceMessages
  | .interruption _ cause => cause.message :: cause.sourceMessages

def TransferFault.sourceMessages : TransferFault → List String
  | .unexpectedEnd .. => []
  | .outsideBuffer .. => []
  | .emptyBuffer => []
  | .fault f => f.message :: f.sourceMessages

end

def Cause.chain (c : Cause) : List String :=
  c.message :: c.sourceMessages

/-- The chain of the cause that a fault carries; empty when it carries none. -/
def Fault.chain (f : Fault) : List String :=
  (f.cause?.map Cause.chain).getD []

open Text (Shown)

mutual

def Fault.shown : Fault → Shown
  | .system code =>
    .record "Os" [("code", .whole code), ("kind", .word (systemError code).kind.name),
      ("message", .text (systemError code).wording)] true
  | .bare kind => .tuple "Kind" [.word kind.name]
  | .carrying kind cause =>
    .record "Custom" [("kind", .word kind.name), ("error", cause.shown)] true

def Cause.shown : Cause → Shown
  | .text m => .text m
  | .fault f => f.shown
  | .transfer e => e.shown
  | .interruption m cause =>
    .record "Interrupted" [("message", .text m), ("source", cause.shown)] true

def TransferFault.shown : TransferFault → Shown
  | .unexpectedEnd operation requested transferred =>
    .record "UnexpectedEof" [("operation", operation.shown), ("requested", .natural requested),
      ("transferred", .natural transferred)] true
  | .outsideBuffer offset length capacity =>
    .record "OutOfBounds" [("offset", .natural offset), ("length", .natural length),
      ("capacity", .natural capacity)] true
  | .emptyBuffer => .word "ZeroBuffer"
  | .fault f => .tuple "Io" [f.shown]

end

theorem TransferFault.toFault_message (e : TransferFault) (h : ∀ f, e ≠ .fault f) :
    e.toFault.message = e.message := by
  cases e <;> first | rfl | exact absurd rfl (h _)

end ServiceKit
