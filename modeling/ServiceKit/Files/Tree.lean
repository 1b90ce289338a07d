import ServiceKit.Channel.Store
import ServiceKit.Files.Path

/-!
A tree of files: what stands at its locations, how a path leads to one of them, and what opening a
path gives.
-/

namespace ServiceKit.Files

inductive Device where
  | null
  | zero
  | full
  deriving DecidableEq

/-- What stands at a location. -/
inductive Entry where
  | file (content : List UInt8)
  | directory
  | device (d : Device)
  deriving DecidableEq

/-- The location at which paths that are not rooted begin, the entries, and what keeps the files. -/
structure Tree where
  working : Location
  entries : List (Location × Entry)
  volume : Channel.Volume := .usual

def devices : List (Location × Entry) :=
  [(["dev", "null"], .device .null), (["dev", "zero"], .device .zero),
    (["dev", "full"], .device .full)]

def missing : Fault := .system 2
def notDirectory : Fault := .system 20
def isDirectory : Fault := .system 21
def nameTooLong : Fault := .system 36

def nameLimit : Nat := 255

/-- Paths are shorter than this many bytes. -/
def pathLimit : Nat := 4096

namespace Tree

/-- What stands at a location; above an entry and above the working directory there are directories
only. -/
def at? (t : Tree) (l : Location) : Option Entry :=
  match t.entries.lookup l with
  | some e => some e
  | none =>
    if (t.working :: t.entries.map (·.1)).any (l.isPrefixOf ·) then some .directory else none

def put (l : Location) (e : Entry) (t : Tree) : Tree :=
  { t with entries := (l, e) :: t.entries.filter (·.1 != l) }

def start (t : Tree) (p : Path) : Location := if p.rooted then [] else t.working

/-- Follows the names from a location on. Each name is looked up in a directory; whether something
stands where the last one leads is not asked. -/
def walk (t : Tree) (here : Location) : List String → Except Fault Location
  | [] => .ok here
  | name :: rest =>
    match t.at? here with
    | none => .error missing
    | some .directory =>
      if nameLimit < name.utf8ByteSize then .error nameTooLong
      else walk t (Location.follow here name) rest
    | some _ => .error notDirectory

/-- An empty path leads nowhere, and one that is too long is not followed. -/
def checkLength (path : String) : Except Fault Unit :=
  if path.isEmpty then .error missing
  else if pathLimit ≤ path.utf8ByteSize then .error nameTooLong
  else .ok ()

def openToRead (t : Tree) (path : String) : Except Fault Entry := do
  checkLength path
  let p := Path.ofText path
  match t.at? (← t.walk (t.start p) p.steps) with
  | none => .error missing
  | some e => .ok e

/-- What opening a path for writing gives: the entry, where it stands, and the tree, in which a file
may have been created. A slash at the end asks for a directory, and none can be written. -/
def openToWrite (t : Tree) (path : String) (create : Bool) :
    Except Fault (Location × Entry × Tree) := do
  checkLength path
  let p := Path.ofText path
  let l ← t.walk (t.start p) (if create then p.names else p.steps)
  if create && p.closed then .error isDirectory
  else
    match t.at? l with
    | none => if create then .ok (l, .file [], t.put l (.file [])) else .error missing
    | some .directory => .error isDirectory
    | some e => .ok (l, e, t)

theorem lookup_filter_ne {l k : Location} (hkl : k ≠ l) (es : List (Location × Entry)) :
    (es.filter (·.1 != l)).lookup k = es.lookup k := by
  induction es with
  | nil => rfl
  | cons e rest ih =>
    obtain ⟨m, e⟩ := e
    by_cases hm : m = l
    · subst hm
      have hk : (k == m) = false := by simpa using hkl
      simp only [List.filter_cons, bne_self_eq_false, Bool.false_eq_true, if_false, ih,
        List.lookup_cons, hk]
    · simp only [List.filter_cons, bne_iff_ne, ne_eq, hm, not_false_eq_true, if_true,
        List.lookup_cons, ih]

@[simp]
theorem at?_put (t : Tree) (l : Location) (e : Entry) : (t.put l e).at? l = some e := by
  simp [put, at?]

/-- What stood elsewhere still stands there. -/
theorem at?_put_of_ne {t : Tree} {l k : Location} {e old : Entry} (hkl : k ≠ l)
    (h : t.entries.lookup k = some old) : (t.put l e).at? k = some old := by
  have hk : (k == l) = false := by simpa using hkl
  simp only [put, at?, List.lookup_cons, hk, lookup_filter_ne hkl, h]

end Tree

end ServiceKit.Files
