import ServiceKit.Host.Fault
import ServiceKit.Settings.Basic
import ServiceKit.Toml.Grammar

/-!
Settings read from a document. Keys that are not known are passed over and missing ones leave their
default; a list may stand for a table and then gives the fields in their order. Of several misfits
the first one in the document is reported.
-/

namespace ServiceKit.Settings

open Toml (Value)
open Host (HostFault)

/-- What a value is called where it does not fit. -/
def foundOf : Value → Found
  | .text s => .text s
  | .integer n => .integer n
  | .float x => .float x
  | .boolean b => .boolean b
  | .list _ => .sequence
  | .moment _ | .table _ => .table

def decodeText : Value → Except Misfit String
  | .text s => .ok s
  | v => .error (.type (foundOf v) .text)

def decodeSize : Value → Except Misfit Nat
  | .integer n => if 0 ≤ n then .ok n.toNat else .error (.value n .size)
  | v => .error (.type (foundOf v) .size)

structure PartialRule where
  target : Option String := none
  level : Option String := none

def PartialRule.read : List (String × Value) → PartialRule → Except Misfit PartialRule
  | [], r => .ok r
  | (key, v) :: rest, r =>
    if key = "target" then do read rest { r with target := some (← decodeText v) }
    else if key = "level" then do read rest { r with level := some (← decodeText v) }
    else read rest r

def PartialRule.finish (r : PartialRule) : Except Misfit LevelRule :=
  match r.target, r.level with
  | none, _ => .error (.missingField "target")
  | some _, none => .error (.missingField "level")
  | some target, some level => .ok ⟨target, level⟩

def decodeRule : Value → Except Misfit LevelRule
  | .table entries => do (← PartialRule.read entries {}).finish
  | .moment _ => .error (.missingField "target")
  | .list [] => .error (.shortDirective 0)
  | .list (v :: rest) => do
    let target ← decodeText v
    match rest with
    | [] => .error (.shortDirective 1)
    | w :: _ => return ⟨target, ← decodeText w⟩
  | v => .error (.type (foundOf v) .directive)

def decodeRules : Value → Except Misfit (List LevelRule)
  | .list items => items.mapM decodeRule
  | v => .error (.type (foundOf v) .sequence)

def readLogging : List (String × Value) → LoggingSettings → Except Misfit LoggingSettings
  | [], s => .ok s
  | (key, v) :: rest, s =>
    if key = "default_level" then do readLogging rest { s with defaultLevel := ← decodeText v }
    else if key = "directives" then do readLogging rest { s with rules := ← decodeRules v }
    else readLogging rest s

def decodeLogging : Value → Except Misfit LoggingSettings
  | .table entries => readLogging entries {}
  | .moment _ => .ok {}
  | .list [] => .ok {}
  | .list [v] => do return { defaultLevel := ← decodeText v }
  | .list (v :: w :: _) => do
    let defaultLevel ← decodeText v
    return ⟨defaultLevel, ← decodeRules w⟩
  | v => .error (.type (foundOf v) .logging)

def readTransfer : List (String × Value) → TransferSettings → Except Misfit TransferSettings
  | [], s => .ok s
  | (key, v) :: rest, s =>
    if key = "drain_buffer_size" then do readTransfer rest ⟨← decodeSize v⟩
    else readTransfer rest s

def decodeTransfer : Value → Except Misfit TransferSettings
  | .table entries => readTransfer entries {}
  | .moment _ => .ok {}
  | .list [] => .ok {}
  | .list (v :: _) => do return ⟨← decodeSize v⟩
  | v => .error (.type (foundOf v) .transfer)

def readSettings : List (String × Value) → Settings → Except Misfit Settings
  | [], s => .ok s
  | (key, v) :: rest, s =>
    if key = "logging" then do readSettings rest { s with logging := ← decodeLogging v }
    else if key = "transfer" then do readSettings rest { s with transfer := ← decodeTransfer v }
    else readSettings rest s

def ofText (text : String) : Except SettingsFault Settings :=
  match Toml.document? text with
  | none => .error .malformed
  | some entries => (readSettings entries {}).mapError .misfit

/-- Settings from a file's bytes, or from the fault of reading it. -/
def ofFile (path : String) (content : Except Fault (List UInt8)) :
    Except HostFault Settings :=
  match content with
  | .error f => .error (.io f)
  | .ok bytes =>
    match String.fromUTF8? ⟨bytes.toArray⟩ with
    | none => .error (.io (.carrying .invalidData (.text "stream did not contain valid UTF-8")))
    | some text => (ofText text).mapError (.settingsFile path)

end ServiceKit.Settings
