import ServiceKit.Host.Fault
import ServiceKit.Text.Hex
import ServiceKit.Transfer.Bounded

/-!
Why a task was not done, and how that is reported: in one sentence, and below it the causes.
-/

namespace ServiceKit.Command

open Host (HostFault)
open Transfer (Halt)

structure Complaint where
  message : String
  causes : List String
  deriving DecidableEq

/-- A text whose lines begin with `lead` and then each with `follow`. -/
def indent (lead follow text : String) : String :=
  lead ++ String.ofList (text.toList.flatMap fun c => if c = '\n' then c :: follow.toList else [c])

namespace Complaint

/-- The number of a cause, at the right of five columns. -/
def lead (i : Nat) : String :=
  String.ofList (List.replicate (5 - (toString i).length) ' ') ++ toString i ++ ": "

def renderCauses : List String → String
  | [] => ""
  | [cause] => "\n\nCaused by:\n" ++ indent "    " "    " cause
  | causes =>
    "\n\nCaused by:" ++ String.join ((causes.zipIdx).map fun (cause, i) =>
      "\n" ++ indent (lead i) "       " cause)

def render (c : Complaint) : String :=
  "Error: " ++ c.message ++ renderCauses c.causes ++ "\n"

def ofHost (e : HostFault) : Complaint := ⟨e.message, e.sourceMessages⟩

def ofTransfer (e : TransferFault) : Complaint := ⟨e.message, e.sourceMessages⟩

def above (message : String) (c : Complaint) : Complaint := ⟨message, c.message :: c.causes⟩

def ofFault (f : Fault) : Complaint := ⟨f.message, f.sourceMessages⟩

end Complaint

inductive Failure where
  | host (e : HostFault)
  | opening (path : String) (f : Fault)
  | openingToWrite (path : String) (f : Fault)
  | reaching (offset : Nat) (path : String) (h : Halt)
  | reading (length : Nat) (path : String) (h : Halt)
  | writing (path : String) (e : TransferFault)
  | syncing (path : String) (f : Fault)
  | hex (e : Text.Hex.DecodeError)
  | draining (h : Halt)
  deriving DecidableEq

namespace Failure

/-- A transfer that met a count it could not survive has nothing to say. -/
def ofHalt : Halt → Option Complaint
  | .error e => some (.ofTransfer e)
  | .overrun => none
  | .overflow => none

def complaint? : Failure → Option Complaint
  | .host e => some (.ofHost e)
  | .opening path f => some (.above ("failed to open " ++ path) (.ofFault f))
  | .openingToWrite path f =>
    some (.above ("failed to open " ++ path ++ " for writing") (.ofFault f))
  | .reaching offset path h =>
    (ofHalt h).map (.above ("cannot reach offset " ++ toString offset ++ " in " ++ path))
  | .reading length path h =>
    (ofHalt h).map (.above ("cannot read " ++ toString length ++ " byte(s) from " ++ path))
  | .writing path e => some (.above ("failed to write " ++ path) (.ofTransfer e))
  | .syncing path f => some (.above ("failed to sync " ++ path) (.ofFault f))
  | .hex e => some (.above "--hex is not valid hex" ⟨e.message, []⟩)
  | .draining h => ofHalt h

/-- The exit status; a failure without a complaint is a crash. -/
def status (f : Failure) : Nat := if f.complaint?.isSome then 1 else 101

end Failure

end ServiceKit.Command
