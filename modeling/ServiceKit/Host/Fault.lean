import ServiceKit.Fault.Conversion
import ServiceKit.Memo.Cell
import ServiceKit.Settings.Fault

/-!
What can go wrong between a program and its environment: its own state, its log filter, its
settings, its platform, and the files it reads.
-/

namespace ServiceKit.Host

open Text (Shown)
open Memo (MemoError)
open Settings (SettingsFault)

inductive HostFault where
  | brokenState (message : String)
  | badDirective (directive reason : String)
  | alreadyLogging (reason : String)
  | reload (reason : String)
  | settingsFile (path : String) (fault : SettingsFault)
  | settingsText (fault : SettingsFault)
  | platform (e : MemoError)
  | io (f : Fault)
  deriving DecidableEq

namespace HostFault

def message : HostFault → String
  | .brokenState m => "illegal state: " ++ m
  | .badDirective directive reason =>
    "invalid log directive " ++ Text.quote directive ++ ": " ++ reason
  | .alreadyLogging reason => "logging already initialized: " ++ reason
  | .reload reason => "failed to reload log filter: " ++ reason
  | .settingsFile path fault => "invalid configuration in " ++ path ++ ": " ++ fault.message
  | .settingsText fault => "invalid configuration: " ++ fault.message
  | .platform e => "platform detection failed: " ++ e.message
  | .io f => "io error: " ++ f.message

/-- The messages of all errors behind this one, the nearest first. -/
def sourceMessages : HostFault → List String
  | .settingsFile _ fault | .settingsText fault => [fault.message]
  | .platform e => e.message :: e.source?.toList
  | .io f => f.message :: f.sourceMessages
  | _ => []

def shown : HostFault → Shown
  | .brokenState m => .tuple "IllegalState" [.text m]
  | .badDirective directive reason =>
    .record "InvalidDirective" [("directive", .text directive), ("reason", .text reason)] true
  | .alreadyLogging reason => .tuple "LoggingInstalled" [.text reason]
  | .reload reason => .tuple "Reload" [.text reason]
  | .settingsFile path fault =>
    .record "Config" [("path", .text path), ("source", .text fault.reason)] true
  | .settingsText fault => .tuple "ConfigParse" [.text fault.reason]
  | .platform e => .tuple "Platform" [e.shown]
  | .io f => .tuple "Io" [f.shown]

end HostFault

end ServiceKit.Host
