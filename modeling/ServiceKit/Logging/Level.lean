import ServiceKit.Text.Integer

/-!
Levels of verbosity, from silence to everything, and their spellings.
-/

namespace ServiceKit.Logging

inductive Level where
  | off
  | error
  | warn
  | info
  | debug
  | trace
  deriving DecidableEq, Repr

namespace Level

def all : List Level := [.off, .error, .warn, .info, .debug, .trace]

def rank : Level → Nat
  | .off => 0
  | .error => 1
  | .warn => 2
  | .info => 3
  | .debug => 4
  | .trace => 5

def word : Level → String
  | .off => "off"
  | .error => "error"
  | .warn => "warn"
  | .info => "info"
  | .debug => "debug"
  | .trace => "trace"

def eventLevels : List Level := [.error, .warn, .info, .debug, .trace]

def lowered (c : Char) : Char := if c.isUpper then Char.ofNat (c.toNat + 32) else c

/-- A level is spelled by its rank, or by its word in any mixture of ASCII letter cases. No text at
all stands for errors. -/
def ofText? (cs : List Char) : Option Level :=
  match Text.readNatural Text.wordLimit cs with
  | .ok n => all[n]?
  | .error _ =>
    if cs.isEmpty then some .error
    else all.find? fun l => l.word == String.ofList (cs.map lowered)

def unknown : String :=
  "error parsing level filter: expected one of \"off\", \"error\", \"warn\", \"info\", "
    ++ "\"debug\", \"trace\", or a number 0-5"

theorem ofText?_word (l : Level) : ofText? l.word.toList = some l := by
  cases l <;> decide

end Level

end ServiceKit.Logging
