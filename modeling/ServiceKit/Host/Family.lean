import ServiceKit.Text.Occurrence

/-!
Families of operating systems, found from the name that a system gives itself or from the name of a
build target.
-/

namespace ServiceKit.Host

inductive Family where
  | linux
  | windows
  | solaris
  | mac
  | freeBsd
  | other
  deriving DecidableEq, Repr

namespace Family

/-- The family of a system that calls itself `name`. The first rule that fits decides: some rules
look at how the name begins, others at any place in it. -/
def ofName (name : String) : Family :=
  let begins (word : String) : Bool := word.toList.isPrefixOf name.toList
  let mentions (word : String) : Bool := Text.occursIn word.toList name.toList
  if begins "Windows" then .windows
  else if mentions "SunOS" || mentions "Solaris" then .solaris
  else if mentions "Mac" then .mac
  else if mentions "FreeBSD" then .freeBsd
  else if begins "Linux" then .linux
  else .other

/-- The family that a build target belongs to. -/
def ofTarget : String → Family
  | "linux" | "android" => .linux
  | "windows" => .windows
  | "solaris" | "illumos" => .solaris
  | "macos" | "ios" => .mac
  | "freebsd" => .freeBsd
  | _ => .other

def word : Family → String
  | .linux => "linux"
  | .windows => "windows"
  | .solaris => "solaris"
  | .mac => "mac"
  | .freeBsd => "freebsd"
  | .other => "other"

def name : Family → String
  | .linux => "Linux"
  | .windows => "Windows"
  | .solaris => "Solaris"
  | .mac => "Mac"
  | .freeBsd => "FreeBsd"
  | .other => "Other"

def stored : Family → String
  | .freeBsd => "free_bsd"
  | f => f.word

end Family

/-- A machine's operating system and processor. -/
structure Platform where
  family : Family
  processor : String
  deriving DecidableEq

namespace Platform

def ofTarget (system processor : String) : Platform := ⟨.ofTarget system, processor⟩

def isPowerPc64 (p : Platform) : Bool := p.processor == "powerpc64"

def runs (p : Platform) (f : Family) : Bool := p.family == f

end Platform

end ServiceKit.Host
