import ServiceKit.Host.Fault

/-!
Checks of a program's state. The message of a check is worked out only when the check fails.
-/

namespace ServiceKit.Host

/-- A condition, and what there is to say when it does not hold. -/
structure Check where
  holds : Bool
  message : Unit → String

namespace Check

def run (c : Check) : Except HostFault Unit :=
  if c.holds then .ok () else .error (.brokenState (c.message ()))

/-- Whether running the check works the message out. -/
def explains (c : Check) : Bool := !c.holds

/-- A check that has nothing to say but the text of its condition. -/
def bare (holds : Bool) (condition : String) : Check :=
  ⟨holds, fun _ => "check failed: " ++ condition⟩

def logOpen (isOpen : Bool) : Check := ⟨isOpen, fun _ => "log is closed"⟩

def indexBelow (index limit : Int) : Check := bare (index < limit) "index < limit"

def shortName (name : String) : Check :=
  bare (!name.isEmpty && name.utf8ByteSize ≤ 8) "!name.is_empty() && name.len() <= 8"

def positiveTerm (index : Int) (name : String) : Check :=
  ⟨0 < index, fun _ =>
    "term of " ++ Text.quote name ++ " must be positive, got " ++ toString index ++ "!"⟩

theorem run_ok_iff (c : Check) : c.run = .ok () ↔ c.holds = true := by
  cases h : c.holds <;> simp [run, h]

end Check

end ServiceKit.Host
