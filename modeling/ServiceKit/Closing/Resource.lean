import ServiceKit.Event
import ServiceKit.Fault.Conversion

/-!
Resources that have to be closed and whose closing may fail, and the ways of closing any of them.
Wrappers close what they hold and go by its description; an absent resource closes without doing
anything.
-/

namespace ServiceKit.Closing

/-- What closing does to the world. -/
inductive Mark where
  | closed (name : String)
  | wrote (name : String) (bytes : List UInt8)
  | flushed (name : String)
  deriving DecidableEq

structure Report (α : Type) where
  result : α
  marks : List Mark
  events : List Event

namespace Report

variable {α β : Type}

def silent (a : α) : Report α := ⟨a, [], []⟩

/-- One step and then another; the first one's result stands. -/
def andThen (r : Report α) (s : Report β) : Report α :=
  ⟨r.result, r.marks ++ s.marks, r.events ++ s.events⟩

end Report

structure Closed (ρ : Type) where
  result : Except Fault Unit
  marks : List Mark
  after : ρ

/-- What has to be closed, and what a log calls it. -/
class Closeable (ρ : Type) where
  close : ρ → Closed ρ
  label : ρ → String

def verdict : Option Fault → Except Fault Unit
  | none => .ok ()
  | some f => .error f

inductive Bare where
  | probe (name : String) (fault : Option Fault)
  | plain (name : String) (fault : Option Fault)
  | file (sync : Option Fault)
  | writer (name : String) (pending : List UInt8) (fault : Option Fault)
  | connection (peer : Option String)
  deriving DecidableEq

namespace Bare

/-- Closing a file brings its content to the disk. Pending bytes that cannot be written stay pending,
and then nothing is flushed. A connection without a peer cannot be shut down. -/
def close : Bare → Closed Bare
  | .probe name fault => ⟨verdict fault, [.closed name], .probe name fault⟩
  | .plain name fault => ⟨verdict fault, [.closed name], .plain name fault⟩
  | .file sync => ⟨verdict sync, [], .file sync⟩
  | .writer name [] fault => ⟨.ok (), [.flushed name], .writer name [] fault⟩
  | .writer name (b :: pending) none =>
    ⟨.ok (), [.wrote name (b :: pending), .flushed name], .writer name [] none⟩
  | .writer name (b :: pending) (some f) => ⟨.error f, [], .writer name (b :: pending) (some f)⟩
  | .connection (some peer) => ⟨.ok (), [], .connection (some peer)⟩
  | .connection none => ⟨.error (.system 107), [], .connection none⟩

def label : Bare → String
  | .probe name _ => "probe " ++ name
  | .plain .. => "quorum_driver::io_ops::Plain"
  | .file _ => "std::fs::File"
  | .writer .. => "buffered"
  | .connection (some peer) => "TcpStream(" ++ peer ++ ")"
  | .connection none => "TcpStream"

end Bare

instance : Closeable Bare := ⟨Bare.close, Bare.label⟩

/-- A resource, or none, inside any number of wrappers: what may be there or not, a box, a borrow. -/
inductive Wrapped (ρ : Type) where
  | bare (r : ρ)
  | absent
  | present (inner : Wrapped ρ)
  | boxed (inner : Wrapped ρ)
  | borrowed (inner : Wrapped ρ)
  deriving DecidableEq

namespace Wrapped

variable {ρ : Type} [Closeable ρ]

protected def close : Wrapped ρ → Closed (Wrapped ρ)
  | .bare r =>
    let closed := Closeable.close r
    ⟨closed.result, closed.marks, .bare closed.after⟩
  | .absent => ⟨.ok (), [], .absent⟩
  | .present inner => ⟨inner.close.result, inner.close.marks, .present inner.close.after⟩
  | .boxed inner => ⟨inner.close.result, inner.close.marks, .boxed inner.close.after⟩
  | .borrowed inner => ⟨inner.close.result, inner.close.marks, .borrowed inner.close.after⟩

protected def label : Wrapped ρ → String
  | .bare r => Closeable.label r
  | .absent => "None"
  | .present inner => inner.label
  | .boxed inner => inner.label
  | .borrowed inner => inner.label

end Wrapped

instance {ρ : Type} [Closeable ρ] : Closeable (Wrapped ρ) := ⟨Wrapped.close, Wrapped.label⟩

abbrev Resource := Wrapped Bare

namespace Wrapped

def probe (name : String) (fault : Option Fault) : Resource := .bare (.probe name fault)

def plain (name : String) (fault : Option Fault) : Resource := .bare (.plain name fault)

def file (sync : Option Fault) : Resource := .bare (.file sync)

def writer (name : String) (pending : List UInt8) (fault : Option Fault) : Resource :=
  .bare (.writer name pending fault)

def connection (peer : Option String) : Resource := .bare (.connection peer)

end Wrapped

def origin : String := "quorum_io::cleanup"

def failure (resource : String) (f : Fault) : Event :=
  ⟨origin, "error while closing", [("resource", .plain resource), ("error", .plain f.message)]⟩

section

open Closeable (close label)

variable {ρ : Type} [Closeable ρ]

def closeOnce (r : ρ) : Report (Except Fault Unit) :=
  ⟨(close r).result, (close r).marks, []⟩

/-- Closes the resource; a failure is logged and goes no further. -/
def closeLogged (r : ρ) : Report Unit :=
  ⟨(), (close r).marks,
    match (close r).result with
    | .ok () => []
    | .error f => [failure (label (close r).after) f]⟩

theorem closeLogged_of_ok {r : ρ} (h : (close r).result = .ok ()) :
    closeLogged r = ⟨(), (close r).marks, []⟩ := by
  rw [closeLogged, h]

theorem closeLogged_of_error {r : ρ} {f : Fault} (h : (close r).result = .error f) :
    closeLogged r = ⟨(), (close r).marks, [failure (label (close r).after) f]⟩ := by
  rw [closeLogged, h]

/-- Closes all resources in turn, whatever fails. -/
def closeAll : List ρ → Report Unit
  | [] => .silent ()
  | r :: rest => (closeLogged r).andThen (closeAll rest)

def closeTimes : Nat → ρ → Report (List (Except Fault Unit))
  | 0, _ => .silent []
  | n + 1, r =>
    let rest := closeTimes n (close r).after
    ⟨(close r).result :: rest.result, (close r).marks ++ rest.marks, rest.events⟩

end

end ServiceKit.Closing
