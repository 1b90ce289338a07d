import ServiceKit.Text.Shown
import ServiceKit.Transfer.Bounded

/-!
Settings: how much to log, for everything and for single targets, and how to transfer.
-/

namespace ServiceKit

open Text (Shown)

namespace Settings

structure LevelRule where
  target : String
  level : String
  deriving DecidableEq

def LevelRule.shown (r : LevelRule) : Shown :=
  .record "LogDirective" [("target", .text r.target), ("level", .text r.level)] true

structure LoggingSettings where
  defaultLevel : String := "info"
  rules : List LevelRule := []
  deriving DecidableEq

/-- Sets the level of the first rule for the target, or of a new rule at the end. -/
def setRule (target level : String) : List LevelRule → List LevelRule
  | [] => [⟨target, level⟩]
  | r :: rest => if r.target = target then ⟨target, level⟩ :: rest else r :: setRule target level rest

def LoggingSettings.changeLevel (s : LoggingSettings) (target level : String) : LoggingSettings :=
  { s with rules := setRule target level s.rules }

def LoggingSettings.shown (s : LoggingSettings) : Shown :=
  .record "LoggingConfig"
    [("default_level", .text s.defaultLevel), ("directives", .list (s.rules.map LevelRule.shown))]
    true

structure TransferSettings where
  drainSize : Nat := Transfer.defaultDrainSize
  deriving DecidableEq

/-- Reads a stream to its end with a scratch buffer of the size in the settings. -/
def TransferSettings.drain {σ : Type} [Transfer.Reader σ] [Transfer.Ending σ]
    (s : TransferSettings) (stream : σ) : Transfer.Run σ Nat :=
  Transfer.drain s.drainSize stream

def TransferSettings.shown (s : TransferSettings) : Shown :=
  .record "TransferConfig" [("drain_buffer_size", .natural s.drainSize)] true

end Settings

structure Settings where
  logging : Settings.LoggingSettings := {}
  transfer : Settings.TransferSettings := {}
  deriving DecidableEq

def Settings.shown (s : Settings) : Shown :=
  .record "UtilConfig" [("logging", s.logging.shown), ("transfer", s.transfer.shown)] true

end ServiceKit
