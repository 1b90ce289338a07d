import ServiceKit.Command.Task
import ServiceKit.Logging.Control
import ServiceKit.Logging.Line
import ServiceKit.Settings.Decode
import ServiceKit.Text.Terminal

/-!
A whole run of the program: from the words of its command line and a tree of files to its exit
status, what it prints, what it complains about, and the tree after it. Settings and log filter
come before the task; what is wrong with them keeps the task from being done.
-/

namespace ServiceKit.Command

open Files (Tree)
open Host (HostFault Platform)
open Logging (Control)
open Text (Span Styled Terminal.shown)

def settingsContent (t : Tree) (path : String) : Except Fault (List UInt8) := do
  match ← t.openToRead path with
  | .file content => return content
  | .directory => .error Files.isDirectory
  | .device .null => return []
  | .device _ => .error (.bare .outOfMemory)

/-- The settings of a run: from the file if one is named, with the default level that the command
line puts over it. -/
def effectiveSettings (t : Tree) (config logLevel : Option String) :
    Except HostFault Settings := do
  let s ← match config with
    | none => .ok {}
    | some path => Settings.ofFile path (settingsContent t path)
  return match logLevel with
    | none => s
    | some level => { s with logging := { s.logging with defaultLevel := level } }

def loaded (s : Settings) (filter : String) : Event :=
  ⟨"quorum::commands", "configuration loaded",
    [("config", .plain s.shown.compact), ("filter", .plain filter)]⟩

/-- What is said about a run that did not go well: a page on the use of the command line, or a report
on the task. -/
inductive Remark where
  | usage (page : Styled)
  | report (text : String)
  deriving DecidableEq

/-- The remark as it is printed. A page may quote words of the command line that steer a terminal;
without colour these go as the styles go. A report is printed as it stands. -/
def Remark.render (inColor : Bool) : Remark → String
  | .usage page => if inColor then page.colored else Terminal.shown page.colored
  | .report text => text

structure Conclusion where
  status : Nat
  logged : List Event
  output : Styled
  remark? : Option Remark

namespace Conclusion

def ofFailure (logged : List Event) (f : Failure) : Conclusion :=
  ⟨f.status, logged, [], f.complaint?.map fun c => .report c.render⟩

def ofPerformed (logged : List Event) (p : Performed Styled) : Conclusion :=
  match p.result with
  | .ok output => ⟨0, logged, output, none⟩
  | .error f => .ofFailure logged f

/-- Errors of usage have a status of their own. -/
def ofStop : Stop → Conclusion
  | .help page => ⟨0, [], page.render, none⟩
  | .version => ⟨0, [], [.plain (programName ++ " " ++ version ++ "\n")], none⟩
  | .nothing => ⟨2, [], [], some (.usage Scope.program.help.render)⟩
  | .usage e => ⟨2, [], [], some (.usage e.message)⟩

/-- The standard output; each log line carries the time `stamp`. -/
def printed (stamp : String) (c : Conclusion) : Styled :=
  c.logged.flatMap (Logging.onLine stamp) ++ c.output

def complaint (inColor : Bool) (c : Conclusion) : String :=
  (c.remark?.map (Remark.render inColor)).getD ""

end Conclusion

def prepare (t : Tree) (i : Invocation) : Except HostFault (Settings × Control × String) := do
  let s ← effectiveSettings t i.config i.logLevel
  let control ← Control.install false s.logging
  return (s, control, ← control.renderActive)

def carryOut (host : Platform) (t : Tree) (i : Invocation) : Conclusion × Tree :=
  match prepare t i with
  | .error e => (.ofFailure [] (.host e), t)
  | .ok (s, control, filter) =>
    let (p, after) := perform host s i.format t i.task
    (.ofPerformed ((loaded s filter :: p.events).filter control.admits) p, after)

def run (host : Platform) (t : Tree) (words : List String) : Conclusion × Tree :=
  match readLine words with
  | .error stop => (.ofStop stop, t)
  | .ok i => carryOut host t i

end ServiceKit.Command
