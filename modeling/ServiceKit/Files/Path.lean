/-!
Paths as text, and locations: the names that lead from the root of a tree of files down to a place
in it.
-/

namespace ServiceKit.Files

abbrev Location := List String

/-- The parts between slashes, the empty ones included. -/
def segments : List Char → List (List Char)
  | [] => [[]]
  | c :: rest =>
    if c = '/' then [] :: segments rest
    else
      match segments rest with
      | [] => [[c]]
      | s :: more => (c :: s) :: more

/-- A path: whether it starts at the root, the names on it, and whether a slash ends it. -/
structure Path where
  rooted : Bool
  names : List String
  closed : Bool
  deriving DecidableEq

def Path.ofText (text : String) : Path :=
  let cs := text.toList
  ⟨cs.head? = some '/', ((segments cs).filter (!·.isEmpty)).map String.ofList,
    cs.getLast? = some '/'⟩

/-- One name further on: a dot stays, two dots go up, and the root is above itself. -/
def Location.follow (here : Location) (name : String) : Location :=
  if name = "." then here else if name = ".." then here.dropLast else here ++ [name]

/-- The places that a walk along the names passes through. -/
def trail (here : Location) : List String → List Location
  | [] => [here]
  | name :: rest => here :: trail (Location.follow here name) rest

/-- The names of a path for a walk that must end at a directory if a slash ends the path. -/
def Path.steps (p : Path) : List String :=
  p.names ++ if p.closed then ["."] else []

end ServiceKit.Files
