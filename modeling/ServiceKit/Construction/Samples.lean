import ServiceKit.Construction.Registry

/-!
A sample family: plain types, and record types that declare constructors of every sort. Among them
are constructors listed under a type they do not build, two with one signature, bodies that refuse,
and bodies that take what was not given.
-/

namespace ServiceKit.Construction

inductive Sample where
  | u8
  | u16
  | u32
  | u64
  | i32
  | i64
  | bool
  | char
  | string
  | textSlice
  | bytes
  | maybeU32
  | unit
  | str
  | byteSlice
  | peer
  | snapshot
  | endpoint
  | twin
  | stray
  | greedy
  | barren
  | wide
  | cluster
  deriving DecidableEq, Repr

namespace Sample

structure Peer where
  id : String
  priority : Nat
  deriving DecidableEq

structure Endpoint where
  host : String
  number : Nat
  deriving DecidableEq

structure Wide where
  flag : Bool
  letter : Char
  number : Int
  word : String
  payload : List UInt8
  limit : Option Nat
  label : String
  deriving DecidableEq

structure Cluster where
  name : String
  leader : Peer
  last : Nat
  deriving DecidableEq

/-- The values of each type. The unsized ones have none of their own. -/
abbrev Carrier : Sample → Type
  | .u8 | .u16 | .u32 | .u64 => Nat
  | .i32 | .i64 => Int
  | .bool => Bool
  | .char => Char
  | .string | .textSlice => String
  | .bytes => List UInt8
  | .maybeU32 => Option Nat
  | .unit => Unit
  | .str | .byteSlice | .barren => Empty
  | .peer => Peer
  | .snapshot | .stray => Nat
  | .endpoint => Endpoint
  | .twin | .greedy => String
  | .wide => Wide
  | .cluster => Cluster

def label : Sample → String
  | .u8 => "u8"
  | .u16 => "u16"
  | .u32 => "u32"
  | .u64 => "u64"
  | .i32 => "i32"
  | .i64 => "i64"
  | .bool => "bool"
  | .char => "char"
  | .string => "String"
  | .textSlice => "&str"
  | .bytes => "Vec<u8>"
  | .maybeU32 => "Option<u32>"
  | .unit => "()"
  | .str => "str"
  | .byteSlice => "[u8]"
  | .peer => "Peer"
  | .snapshot => "Snapshot"
  | .endpoint => "Endpoint"
  | .twin => "Twin"
  | .stray => "Stray"
  | .greedy => "Greedy"
  | .barren => "Barren"
  | .wide => "Wide"
  | .cluster => "Cluster"

def all : List Sample :=
  [.u8, .u16, .u32, .u64, .i32, .i64, .bool, .char, .string, .textSlice, .bytes, .maybeU32, .unit,
    .str, .byteSlice, .peer, .snapshot, .endpoint, .twin, .stray, .greedy, .barren, .wide,
    .cluster]

def ofLabel? (s : String) : Option Sample := all.find? fun t => t.label == s

def fullName : Sample → String
  | .string => "alloc::string::String"
  | .bytes => "alloc::vec::Vec<u8>"
  | .maybeU32 => "core::option::Option<u32>"
  | .peer => "quorum_driver::fixtures::Peer"
  | .snapshot => "quorum_driver::fixtures::Snapshot"
  | .endpoint => "quorum_driver::fixtures::Endpoint"
  | .twin => "quorum_driver::fixtures::Twin"
  | .stray => "quorum_driver::fixtures::Stray"
  | .greedy => "quorum_driver::fixtures::Greedy"
  | .barren => "quorum_driver::fixtures::Barren"
  | .wide => "quorum_driver::fixtures::Wide"
  | .cluster => "quorum_driver::fixtures::Cluster"
  | t => t.label

instance : Family Sample := ⟨Carrier, fullName⟩

open Body (take refuse)

def peerConstructors : List (Constructor Sample) :=
  [⟨.peer, [], .anyone, pure (⟨"anonymous", 0⟩ : Peer)⟩,
    ⟨.peer, [.string, .u32], .anyone, do
      let id ← take Sample.string
      let priority ← take Sample.u32
      return (⟨id, priority⟩ : Peer)⟩,
    ⟨.peer, [.u32], .factoryOnly, do
      let priority ← take Sample.u32
      return (⟨"internal", priority⟩ : Peer)⟩]

def snapshotConstructors : List (Constructor Sample) :=
  [⟨.snapshot, [.u64], .anyone, do
    let index : Nat ← take Sample.u64
    if index = 0 then refuse "snapshot index must be positive" else return index⟩]

def endpointConstructors : List (Constructor Sample) :=
  [⟨.endpoint, [.string, .u16], .factoryOnly, do
    let host : String ← take Sample.string
    let number : Nat ← take Sample.u16
    if number = 0 then refuse ("port of " ++ host ++ " must be non-zero")
    else return (⟨host, number⟩ : Endpoint)⟩]

def twinConstructors : List (Constructor Sample) :=
  [⟨.twin, [.bool], .anyone, pure "first"⟩,
    ⟨.twin, [.bool], .anyone, pure "second"⟩,
    ⟨.twin, [], .factoryOnly, pure "private"⟩,
    ⟨.twin, [], .anyone, pure "public"⟩]

/-- Most of these build another type than the one they are declared under. -/
def strayConstructors : List (Constructor Sample) :=
  [⟨.peer, [.bool], .anyone, pure (⟨"foreign", 9⟩ : Peer)⟩,
    ⟨.snapshot, [.u8], .anyone, pure (8 : Nat)⟩,
    ⟨.stray, [.u8], .anyone, take Sample.u8⟩,
    ⟨.twin, [.char], .factoryOnly, pure "hidden"⟩]

/-- Takes a number, then another after the failure of the first take, and tells what happened. -/
def takeTwice : Body Sample String := fun a =>
  match a.take Sample.u32 with
  | (.ok _, rest) => (.error (.refused "unexpected"), rest)
  | (.error m, rest) =>
    match rest.take Sample.u32 with
    | (.error again, last) => (.error (.mismatch again), last)
    | (.ok (n : Nat), last) =>
      (.ok (m.message ++ "; then " ++ toString n ++ "; " ++ last.shown.compact), last)

def greedyConstructors : List (Constructor Sample) :=
  [⟨.greedy, [.u8], .anyone, do
      let n : Nat ← take Sample.u8
      let s : String ← take Sample.string
      return toString n ++ s⟩,
    ⟨.greedy, [.u8, .u8], .anyone, do
      let n : Nat ← take Sample.u8
      let rest ← get
      return toString n ++ " left " ++ toString rest.values.length⟩,
    ⟨.greedy, [.string], .anyone, do
      let n : Nat ← take Sample.u64
      return toString n⟩,
    ⟨.greedy, [.bool, .u32], .anyone, takeTwice⟩]

def wideSignature : List Sample :=
  [.bool, .char, .i64, .string, .bytes, .maybeU32, .unit, .textSlice]

def wideConstructors : List (Constructor Sample) :=
  [⟨.wide, wideSignature, .anyone, do
    let flag ← take Sample.bool
    let letter ← take Sample.char
    let number ← take Sample.i64
    let word ← take Sample.string
    let payload ← take Sample.bytes
    let limit ← take Sample.maybeU32
    let _ ← take Sample.unit
    let label ← take Sample.textSlice
    return (⟨flag, letter, number, word, payload, limit, label⟩ : Wide)⟩]

def clusterConstructors : List (Constructor Sample) :=
  [⟨.cluster, [.string, .peer, .snapshot], .anyone, do
    let name : String ← take Sample.string
    let leader ← take Sample.peer
    let last ← take Sample.snapshot
    if name.isEmpty then refuse "cluster needs a name"
    else return (⟨name, leader, last⟩ : Cluster)⟩]

def declared : Sample → List (Constructor Sample)
  | .peer => peerConstructors
  | .snapshot => snapshotConstructors
  | .endpoint => endpointConstructors
  | .twin => twinConstructors
  | .stray => strayConstructors
  | .greedy => greedyConstructors
  | .wide => wideConstructors
  | .cluster => clusterConstructors
  | _ => []

end Sample

end ServiceKit.Construction
