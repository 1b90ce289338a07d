import ServiceKit.Fault.System
import ServiceKit.Text.Shown

/-!
Faults of input and output, the errors of bounded transfers, and the causes that either may carry.
The three refer to one another: a fault may carry a cause, a cause may be a fault or a transfer
error, and a transfer error may be a fault that came from below.
-/

namespace ServiceKit

/-- The bounded operation that met the end of its stream. -/
inductive Operation where
  | read
  | skip
  deriving DecidableEq

def Operation.word : Operation → String
  | .read => "read"
  | .skip => "skip"

def Operation.shown : Operation → Text.Shown
  | .read => .word "Read"
  | .skip => .word "Skip"

mutual

/-- A fault of input or output: a system error number, a kind alone, or a kind with a cause. -/
inductive Fault where
  | system (code : Int)
  | bare (kind : FaultKind)
  | carrying (kind : FaultKind) (cause : Cause)

/-- Any error, as something that another error can carry. An interruption has its own message and
the error that led to it. -/
inductive Cause where
  | text (message : String)
  | fault (f : Fault)
  | transfer (e : TransferFault)
  | interruption (message : String) (cause : Cause)

/-- Why a bounded transfer did not do what was asked. -/
inductive TransferFault where
  | unexpectedEnd (operation : Operation) (requested transferred : Nat)
  | outsideBuffer (offset length capacity : Nat)
  | emptyBuffer
  | fault (f : Fault)

end

deriving instance DecidableEq for Fault, Cause, TransferFault

mutual

/-- The fault in words; one that carries a cause speaks with the cause's words. -/
def Fault.message : Fault → String
  | .system code => (systemError code).wording ++ " (os error " ++ toString code ++ ")"
  | .bare kind => kind.description
  | .carrying _ cause => cause.message

def Cause.message : Cause → String
  | .text m => m
  | .fault f => f.message
  | .transfer e => e.message
  | .interruption m _ => m

def TransferFault.message : TransferFault → String
  | .unexpectedEnd operation requested transferred =>
    "premature EOF during " ++ operation.word ++ " after " ++ toString transferred ++ " of "
      ++ toString requested ++ " byte(s)"
  | .outsideBuffer offset length capacity =>
    "range " ++ toString offset ++ "+" ++ toString length ++ " exceeds buffer of "
      ++ toString capacity ++ " byte(s)"
  | .emptyBuffer => "drain buffer size must be non-zero"
  | .fault f => "io error: " ++ f.message

end

mutual

/-- The error behind a fault: what stands behind the cause it carries, not that cause. -/
def Fault.source : Fault → Option Cause
  | .system _ => none
  | .bare _ => none
  | .carrying _ cause => cause.source

def Cause.source : Cause → Option Cause
  | .text _ => none
  | .fault f => f.source
  | .transfer e => e.source
  | .interruption _ cause => some cause

def TransferFault.source : TransferFault → Option Cause
  | .unexpectedEnd .. => none
  | .outsideBuffer .. => none
  | .emptyBuffer => none
  | .fault f => some (.fault f)

end

namespace Fault

def kind : Fault → FaultKind
  | .system code => (systemError code).kind
  | .bare kind => kind
  | .carrying kind _ => kind

def code? : Fault → Option Int
  | .system code => some code
  | _ => none

def cause? : Fault → Option Cause
  | .carrying _ cause => some cause
  | _ => none

def isInterruption (f : Fault) : Bool :=
  f.kind = .interrupted

end Fault

namespace TransferFault

def transferred? : TransferFault → Option Nat
  | .unexpectedEnd _ _ transferred => some transferred
  | _ => none

def isEnd : TransferFault → Bool
  | .unexpectedEnd .. => true
  | _ => false

end TransferFault

end ServiceKit
