import ServiceKit.Transfer.Reader
import ServiceKit.Event
import ServiceKit.Text.Integer

/-!
Bounded transfers from a stream: fill a range of a buffer, skip a number of bytes, read to the end.
Each does all it was asked or says why not; a fault is returned at once and nothing more is asked of
the reader. These are the transfers of a build with overflow checks: a position or a total that
sixty-four bits cannot hold ends the whole program, as an overrun of a slice does in any build.
-/

namespace ServiceKit.Transfer

open Text (wordLimit)

/-- Why a transfer gave no result: an error, or a count that the program did not survive, beyond the
room there was or, under overflow checks, beyond sixty-four bits. -/
inductive Halt where
  | error (e : TransferFault)
  | overrun
  | overflow
  deriving DecidableEq

def Halt.ofStop : Stop → Halt
  | .fault f => .error (.fault f)
  | .overrun => .overrun

inductive Notice where
  | ended (operation : Operation) (requested transferred : Nat)
  | drained (total size : Nat)
  deriving DecidableEq

def origin : String := "quorum_io::transfer"

def Notice.event : Notice → Event
  | .ended operation requested transferred =>
    ⟨origin,
      match operation with
      | .read => "premature EOF while reading"
      | .skip => "premature EOF while skipping",
      [("requested", .number requested), ("transferred", .number transferred)]⟩
  | .drained total size =>
    ⟨origin, "stream drained", [("total", .number total), ("buffer_size", .number size)]⟩

structure Run (σ α : Type) where
  result : Except Halt α
  notices : List Notice
  state : σ

def Run.events {σ α : Type} (r : Run σ α) : List Event := r.notices.map Notice.event

variable {σ : Type} [Reader σ]

/-- What one read of a transfer laid down, and how far the position moved on. -/
structure Patch where
  wrote : List UInt8
  moved : Nat

def patch : List Patch → List UInt8 → List UInt8
  | [], room => room
  | p :: rest, room =>
    let laid := layOver p.wrote room
    laid.take p.moved ++ patch rest (laid.drop p.moved)

/-- How a sequence of reads ended: all is there, the stream ended with some bytes missing, the
reader stopped it, or the position overflowed. -/
inductive Fetched where
  | full
  | ended (missing : Nat)
  | stopped (stop : Stop)
  | overflow

/-- Reads until nothing is missing. `position` is where the next byte goes. -/
def fetch (position missing : Nat) (s : σ) : List Patch × Fetched × σ :=
  if missing = 0 then ([], .full, s)
  else
    match Reader.read missing s with
    | (⟨wrote, .error stop⟩, after) => ([⟨wrote, 0⟩], .stopped stop, after)
    | (⟨wrote, .ok 0⟩, after) => ([⟨wrote, 0⟩], .ended missing, after)
    | (⟨wrote, .ok (n + 1)⟩, after) =>
      if position + (n + 1) < wordLimit then
        let more := fetch (position + (n + 1)) (missing - (n + 1)) after
        (⟨wrote, n + 1⟩ :: more.1, more.2)
      else ([⟨wrote, 0⟩], .overflow, after)
termination_by missing
decreasing_by omega

/-- A buffer whose bytes from `offset` on, `length` of them, are patched. -/
def patchRange (ps : List Patch) (offset length : Nat) (buffer : List UInt8) : List UInt8 :=
  buffer.take offset ++ patch ps ((buffer.drop offset).take length)
    ++ buffer.drop (offset + length)

def concludeRead (length : Nat) : Fetched → Except Halt Unit × List Notice
  | .full => (.ok (), [])
  | .ended missing =>
    (.error (.error (.unexpectedEnd .read length (length - missing))),
      [.ended .read length (length - missing)])
  | .stopped stop => (.error (.ofStop stop), [])
  | .overflow => (.error .overflow, [])

/-- Fills the `length` bytes of the buffer from `offset` on. The buffer comes back as it is
afterwards, also when the call fails. -/
def fillRange (buffer : List UInt8) (offset length : Nat) (s : σ) :
    Run σ Unit × List UInt8 :=
  if offset + length ≤ buffer.length then
    let (ps, fetched, after) := fetch offset length s
    let (result, notices) := concludeRead length fetched
    (⟨result, notices, after⟩, patchRange ps offset length buffer)
  else (⟨.error (.error (.outsideBuffer offset length buffer.length)), [], s⟩, buffer)

/-- Reads exactly `length` bytes into a buffer of their own, filled with zeros beforehand. -/
def readExactly (length : Nat) (s : σ) : Run σ (List UInt8) :=
  let (ps, fetched, after) := fetch 0 length s
  let (result, notices) := concludeRead length fetched
  ⟨result.map fun _ => patch ps (List.replicate length 0), notices, after⟩

/-- Skips until nothing remains of `length`. Where a skip makes no progress, one byte is read to tell
a stream that cannot skip just now from one that has ended. -/
def skipRemaining [Skipping σ] (length remaining : Nat) (s : σ) : Run σ Unit :=
  if remaining = 0 then ⟨.ok (), [], s⟩
  else
    match Skipping.skip remaining s with
    | (.error stop, after) => ⟨.error (.ofStop stop), [], after⟩
    | (.ok (n + 1), after) => skipRemaining length (remaining - min (n + 1) remaining) after
    | (.ok 0, after) =>
      match Reader.read 1 after with
      | (⟨_, .error stop⟩, last) => ⟨.error (.ofStop stop), [], last⟩
      | (⟨_, .ok 0⟩, last) =>
        ⟨.error (.error (.unexpectedEnd .skip length (length - remaining))),
          [.ended .skip length (length - remaining)], last⟩
      | (⟨_, .ok (_ + 1)⟩, last) => skipRemaining length (remaining - 1) last
termination_by remaining
decreasing_by all_goals omega

def skipExactly [Skipping σ] (length : Nat) (s : σ) : Run σ Unit := skipRemaining length length s

/-- Reads to the end, `size` bytes at most at a time, on top of `total`. -/
def drainFrom [Ending σ] (size total : Nat) (s : σ) : Run σ Nat :=
  match h : Reader.read size s with
  | (⟨_, .error stop⟩, after) => ⟨.error (.ofStop stop), [], after⟩
  | (⟨_, .ok 0⟩, after) => ⟨.ok total, [.drained total size], after⟩
  | (⟨_, .ok (n + 1)⟩, after) =>
    if total + (n + 1) < wordLimit then drainFrom size (total + (n + 1)) after
    else ⟨.error .overflow, [], after⟩
termination_by Ending.supply s
decreasing_by
  have := Ending.supply_lt size s n (by rw [h])
  rwa [h] at this

def drain [Ending σ] (size : Nat) (s : σ) : Run σ Nat :=
  if size = 0 then ⟨.error (.error .emptyBuffer), [], s⟩ else drainFrom size 0 s

def defaultDrainSize : Nat := 4096

end ServiceKit.Transfer
