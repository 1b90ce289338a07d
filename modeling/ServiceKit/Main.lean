import ServiceKit.Command.Run

/-!
The program: it looks at the files that a command line can touch, runs the line on them, and writes
the changed ones back.
-/

open ServiceKit Files Command

namespace ServiceKit.Main

def absolute (l : Location) : String := "/" ++ "/".intercalate l

def probe (l : Location) : IO (Option Entry) := do
  try return some (.file (← IO.FS.readBinFile (absolute l)).toList)
  catch
    | .noFileOrDirectory .. => return none
    | .inappropriateType _ code _ => return if code = 21 then some .directory else none
    | e => throw e

/-- The files that the words can touch, as they stand. -/
def treeFor (words : List String) : IO Tree := do
  let here := (Path.ofText (toString (← IO.currentDir))).names
  let paths := match readLine words with
    | .ok i => i.paths
    | .error _ => []
  let start : Tree := { working := here, entries := devices }
  let mut entries := devices
  for text in paths do
    let p := Path.ofText text
    for l in trail (start.start p) p.names do
      if (entries.lookup l).isNone then
        if let some e ← probe l then entries := entries ++ [(l, e)]
  return { start with entries }

def writeBack (before after : Tree) : IO Unit :=
  for (l, e) in after.entries do
    if let .file content := e then
      unless before.entries.lookup l = some e do
        IO.FS.writeBinFile (absolute l) ⟨content.toArray⟩

def kernelWord (name fallback : String) : IO String := do
  try return (← IO.FS.readFile ("/proc/sys/kernel/" ++ name)).trimAscii.toString
  catch _ => return fallback

def platform : IO Host.Platform := do
  return ⟨.ofName (← kernelWord "ostype" ""), ← kernelWord "arch" ""⟩

/-- Forced colour comes before colour that is unwanted, and that before what the terminal is. -/
def wantsColor (forced unwanted : Option String) (terminal : Bool) : Bool :=
  if forced.any (· != "0") then true else if unwanted.isSome then false else terminal

def colors (terminal : Bool) : IO Bool := do
  return wantsColor (← IO.getEnv "CLICOLOR_FORCE") (← IO.getEnv "NO_COLOR") terminal

end ServiceKit.Main

def main (words : List String) : IO UInt32 := do
  let before ← ServiceKit.Main.treeFor words
  let (c, after) := run (← ServiceKit.Main.platform) before words
  ServiceKit.Main.writeBack before after
  let output ← IO.getStdout
  let complaints ← IO.getStderr
  let stamp := toString (← IO.monoMsNow)
  output.putStr ((c.printed stamp).render (← ServiceKit.Main.colors (← output.isTty)))
  complaints.putStr (c.complaint (← ServiceKit.Main.colors (← complaints.isTty)))
  return UInt32.ofNat c.status
