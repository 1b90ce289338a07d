import ServiceKit.Event
import ServiceKit.Host.State
import ServiceKit.Logging.Filter
import ServiceKit.Settings.Basic

/-!
Control over a running log filter. Each change builds the whole filter anew from the settings; a
change that fails at any point leaves settings and filter as they were.
-/

namespace ServiceKit.Logging

open Host (HostFault Check)
open Settings (LevelRule LoggingSettings)

def levelOf (text : String) : Except HostFault Level :=
  match Level.ofText? text.toList with
  | some l => .ok l
  | none => .error (.badDirective text Level.unknown)

/-- A rule names a target and a level that can be read; together they must make a directive. -/
def directiveOf (r : LevelRule) : Except HostFault Directive := do
  Check.run ⟨!r.target.isEmpty, fun _ =>
    "log directive for level " ++ Text.quote r.level ++ " has an empty target"⟩
  let level ← levelOf r.level
  let text := r.target ++ "=" ++ level.word
  (Directive.ofText text.toList).mapError fun e => .badDirective text e.reason

def addRules (f : Filter) : List LevelRule → Except HostFault Filter
  | [] => .ok f
  | r :: rest => do addRules (f.add (← directiveOf r)) rest

def filterOf (s : LoggingSettings) : Except HostFault Filter := do
  addRules (Filter.initial.add (.ofLevel (← levelOf s.defaultLevel))) s.rules

/-- The settings in force, and the filter in force unless the layer it worked for is gone. -/
structure Control where
  settings : LoggingSettings
  active : Option Filter
  deriving DecidableEq

namespace Control

def ofSettings (s : LoggingSettings) : Except HostFault Control := do
  return ⟨s, some (← filterOf s)⟩

/-- Logging can be set up once in a process. -/
def install (alreadyInstalled : Bool) (s : LoggingSettings) : Except HostFault Control := do
  let c ← ofSettings s
  if alreadyInstalled then
    .error (.alreadyLogging "a global default trace dispatcher has already been set")
  else return c

def layerGone : HostFault := .reload "subscriber no longer exists"

/-- Puts the filter that the new settings ask for in the place of the active one. -/
def apply (c : Control) (s : LoggingSettings) : Except HostFault Control := do
  let f ← filterOf s
  match c.active with
  | none => .error layerGone
  | some _ => return ⟨s, some f⟩

def origin : String := "quorum_env::logging"

def changed (target level : String) : Event :=
  ⟨origin, "log level changed", [("target_name", .quoted target), ("level", .quoted level)]⟩

def changeLevel (target level : String) (c : Control) : Outcome Control (Except HostFault Unit) :=
  match c.apply (c.settings.changeLevel target level) with
  | .error e => ⟨.error e, [], c⟩
  | .ok after => ⟨.ok (), [changed target level], after⟩

/-- Sets the level of all targets without a rule. -/
def changeDefault (level : String) (c : Control) : Outcome Control (Except HostFault Unit) :=
  match c.apply { c.settings with defaultLevel := level } with
  | .error e => ⟨.error e, [], c⟩
  | .ok after => ⟨.ok (), [], after⟩

def dropLayer (c : Control) : Control := { c with active := none }

def renderActive (c : Control) : Except HostFault String :=
  match c.active with
  | none => .error layerGone
  | some f => .ok f.render

def shown (c : Control) : Text.Shown :=
  .record "LogControl" [("directives", .list (c.settings.rules.map LevelRule.shown))] false

end Control

end ServiceKit.Logging
