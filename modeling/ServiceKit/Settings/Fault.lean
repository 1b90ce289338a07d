import ServiceKit.Decimal.Shortest
import ServiceKit.Text.Quoted

/-!
What can be wrong with a settings document: it is not well formed, or a value in it is not what its
place asks for.
-/

namespace ServiceKit.Settings

/-- What stands where something else was expected. -/
inductive Found where
  | integer (n : Int)
  | float (x : Decimal.Binary)
  | boolean (b : Bool)
  | text (s : String)
  | sequence
  | table
  deriving DecidableEq

def Found.wording : Found → String
  | .integer n => "integer \x60" ++ toString n ++ "\x60"
  | .float x => "floating point \x60" ++ x.renderPointed ++ "\x60"
  | .boolean b => "boolean \x60" ++ (if b then "true" else "false") ++ "\x60"
  | .text s => "string " ++ Text.quote s
  | .sequence => "sequence"
  | .table => "map"

inductive Expected where
  | size
  | text
  | sequence
  | directive
  | logging
  | transfer
  deriving DecidableEq

def Expected.wording : Expected → String
  | .size => "usize"
  | .text => "a string"
  | .sequence => "a sequence"
  | .directive => "struct LogDirective"
  | .logging => "struct LoggingConfig"
  | .transfer => "struct TransferConfig"

inductive Misfit where
  | type (found : Found) (expected : Expected)
  | value (n : Int) (expected : Expected)
  | missingField (name : String)
  | shortDirective (length : Nat)
  deriving DecidableEq

def Misfit.message : Misfit → String
  | .type found expected =>
    "invalid type: " ++ found.wording ++ ", expected " ++ expected.wording
  | .value n expected =>
    "invalid value: " ++ (Found.integer n).wording ++ ", expected " ++ expected.wording
  | .missingField name => "missing field \x60" ++ name ++ "\x60"
  | .shortDirective length =>
    "invalid length " ++ toString length ++ ", expected " ++ Expected.directive.wording
      ++ " with 2 elements"

inductive SettingsFault where
  | malformed
  | misfit (m : Misfit)
  deriving DecidableEq

def SettingsFault.reason : SettingsFault → String
  | .malformed => "malformed document"
  | .misfit m => m.message

def SettingsFault.message (f : SettingsFault) : String :=
  "TOML parse error: " ++ f.reason

end ServiceKit.Settings
