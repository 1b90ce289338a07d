import ServiceKit.Closing.Guard
import ServiceKit.Command.Failure
import ServiceKit.Command.Line
import ServiceKit.Files.Stream
import ServiceKit.Host.Family
import ServiceKit.Settings.Basic
import ServiceKit.Text.Blank
import ServiceKit.Text.JsonObject

/-!
The tasks: describing the platform, reading a range of a file, writing bytes into one, and counting
the bytes of one. Each gives what it prints, or why it failed, and what it logged; writing also
gives the tree of files after it.
-/

namespace ServiceKit.Command

open Channel (WritableFile writeAll)
open Closing (Guard Bare)
open Files (Entry Tree)
open Host (Platform)
open Text (Span Styled)
open Text.JsonObject (Members)
open Transfer (Reader Skipping Ending RegularFile skipExactly readExactly drain)

structure Performed (α : Type) where
  result : Except Failure α
  events : List Event

namespace Performed

variable {α β : Type}

def failed (f : Failure) : Performed α := ⟨.error f, []⟩

def map (g : α → β) (p : Performed α) : Performed β := ⟨p.result.map g, p.events⟩

end Performed

/-! ### Reading -/

/-- The bytes of a stream from `offset` on, `length` of them. -/
def rangeOf {σ : Type} [Reader σ] [Skipping σ] (r : ReadRequest) (s : σ) :
    Performed (List UInt8) :=
  let skipped := skipExactly r.offset s
  match skipped.result with
  | .error h => ⟨.error (.reaching r.offset r.path h), skipped.events⟩
  | .ok () =>
    let read := readExactly r.length skipped.state
    ⟨read.result.mapError (.reading r.length r.path), skipped.events ++ read.events⟩

/-- Reads a range of whatever a path leads to. -/
def fileRange (t : Tree) (r : ReadRequest) : Performed (List UInt8) :=
  match t.openToRead r.path with
  | .error f => .failed (.opening r.path f)
  | .ok (.file content) => rangeOf r (⟨⟨content, 0⟩⟩ : RegularFile)
  | .ok .directory => rangeOf r (⟨⟩ : Files.OpenDirectory)
  | .ok (.device d) => rangeOf r d.stream

/-! ### Counting -/

def countOf {σ : Type} [Reader σ] [Ending σ] (size : Nat) (s : σ) : Performed Nat :=
  let drained := drain size s
  ⟨drained.result.mapError .draining, drained.events⟩

/-- Counts the bytes of whatever a path leads to, `size` at most at a time. -/
def countBytes (t : Tree) (path : String) (size : Nat) : Performed Nat :=
  match t.openToRead path with
  | .error f => .failed (.opening path f)
  | .ok (.file content) => countOf size (⟨⟨content, 0⟩⟩ : RegularFile)
  | .ok .directory => countOf size (⟨⟩ : Files.OpenDirectory)
  | .ok (.device d) => countOf size d.stream

/-! ### Writing -/

/-- Writes all of `data` through a guard, which closes the channel also when that fails. Closing
comes to `sync`. -/
def writeGuarded {σ : Type} [Channel σ] (path : String) (position : Nat) (data : List UInt8)
    (sync : Option Fault) (s : σ) : Performed Unit × σ :=
  let guard := Guard.new (Bare.file sync)
  let (written, after) := writeAll data position s
  match written with
  | .error e => (⟨.error (.writing path e), guard.lapse.events⟩, after)
  | .ok () => (⟨guard.close.result.mapError (.syncing path), guard.close.events⟩, after)

/-- Bytes written in hexadecimal, white space around them aside. -/
def decodeData (text : String) : Except Failure (List UInt8) :=
  (Text.Hex.decode (Text.trim text.toList)).mapError .hex

/-- Writes bytes into whatever a path leads to. Bytes that cannot be read keep it from being
opened. -/
def writeBytes (t : Tree) (r : WriteRequest) : Performed Nat × Tree :=
  match decodeData r.hex with
  | .error f => (.failed f, t)
  | .ok data =>
    match t.openToWrite r.path r.create with
    | .error f => (.failed (.openingToWrite r.path f), t)
    | .ok (l, .file content, opened) =>
      let (p, after) := writeGuarded r.path r.position data none (⟨content, t.volume⟩ : WritableFile)
      (p.map fun _ => data.length, opened.put l (.file after.content))
    | .ok (_, .directory, opened) => (.failed (.openingToWrite r.path Files.isDirectory), opened)
    | .ok (_, .device d, opened) =>
      let (p, _) :=
        writeGuarded r.path r.position data (some (.system 22)) (⟨d⟩ : Files.WritableDevice)
      (p.map fun _ => data.length, opened)

/-! ### What is printed -/

def check : Span := ⟨.boldGreen, "✓"⟩

def count (n : Nat) : Span := ⟨.bold, toString n⟩

def line (members : Members) : Styled :=
  [.plain (Text.JsonObject.compact members ++ "\n")]

def showPlatform (p : Platform) : Format → Styled
  | .json =>
    [.plain (Text.JsonObject.indented [("os", .text p.family.stored), ("arch", .text p.processor),
      ("ppc64", .boolean p.isPowerPc64)] ++ "\n")]
  | .text =>
    [.plain "OS: ", ⟨.bold, p.family.word⟩, .plain "\nArch: ", ⟨.cyan, p.processor⟩, .plain "\n"]
      ++ if p.isPowerPc64 then [.plain "  ", ⟨.yellow, "ppc64"⟩, .plain "\n"] else []

def showRange (r : ReadRequest) (bytes : List UInt8) : Format → Styled
  | .json =>
    line [("hex", .text (Text.Hex.encode bytes)), ("length", .natural r.length),
      ("offset", .natural r.offset), ("path", .text r.path)]
  | .text =>
    [check, .plain " ", count r.length, .plain (" byte(s) at offset " ++ toString r.offset ++ "\n  "),
      ⟨.yellow, Text.Hex.encode bytes⟩, .plain "\n"]

def showWritten (r : WriteRequest) (written : Nat) : Format → Styled
  | .json =>
    line [("path", .text r.path), ("position", .natural r.position), ("written", .natural written)]
  | .text =>
    [check, .plain " Wrote ", count written,
      .plain (" byte(s) to " ++ r.path ++ " at position " ++ toString r.position ++ "\n")]

def showCount (path : String) (n : Nat) : Format → Styled
  | .json => line [("bytes", .natural n), ("path", .text path)]
  | .text => [check, .plain " ", count n, .plain (" byte(s) in " ++ path ++ "\n")]

/-! ### Performing -/

def platformTypeName : String := "quorum_env::platform::Platform"

/-- The platform is found when it is first asked for. -/
def findPlatform (p : Platform) : Performed Platform :=
  let asked := (Memo.Cell.new fun _ => .value p).get platformTypeName
  match asked.result with
  | .value found => ⟨.ok found, asked.events⟩
  | .error e => ⟨.error (.host (.platform e)), asked.events⟩
  | .aborted m => ⟨.error (.host (.platform (.failed m))), asked.events⟩

def DrainRequest.chunk (r : DrainRequest) (s : Settings.TransferSettings) : Nat :=
  r.size.getD s.drainSize

def perform (host : Platform) (settings : Settings) (format : Format) (t : Tree) :
    Task → Performed Styled × Tree
  | .platform => ((findPlatform host).map (showPlatform · format), t)
  | .read r => ((fileRange t r).map (showRange r · format), t)
  | .write r => ((writeBytes t r).1.map (showWritten r · format), (writeBytes t r).2)
  | .drain r =>
    ((countBytes t r.path (r.chunk settings.transfer)).map (showCount r.path · format), t)

end ServiceKit.Command
