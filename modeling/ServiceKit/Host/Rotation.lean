import ServiceKit.Host.Fault

/-!
Round robin: the element after a given one.
-/

namespace ServiceKit.Host

variable {α : Type}

/-- The element behind the first match in the list, if the match is not its last element. -/
def behindMatch? (isGiven : α → Bool) : List α → Option α
  | [] => none
  | [_] => none
  | x :: y :: rest => if isGiven x then some y else behindMatch? isGiven (y :: rest)

/-- The element behind the first one that matches; the first element when the match is the last one
or nothing matches. -/
def following (isGiven : α → Bool) : List α → Except HostFault α
  | [] => .error (.brokenState "iteration is empty")
  | first :: rest => .ok ((behindMatch? isGiven (first :: rest)).getD first)

@[simp]
theorem following_nil (isGiven : α → Bool) :
    following isGiven [] = .error (.brokenState "iteration is empty") := rfl

end ServiceKit.Host
