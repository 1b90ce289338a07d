import ServiceKit.Command.Help
import ServiceKit.Command.Usage

/-!
Reading a command line: words from left to right, first for the program and, once a subcommand has
been named, for that subcommand. A value is looked at when the next word that is no value of it
comes, or the end; until then other errors come first.
-/

namespace ServiceKit.Command

open Text (wordLimit readNatural)

structure ReadRequest where
  path : String
  offset : Nat
  length : Nat
  deriving DecidableEq

structure WriteRequest where
  path : String
  position : Nat
  hex : String
  create : Bool
  deriving DecidableEq

structure DrainRequest where
  path : String
  size : Option Nat
  deriving DecidableEq

inductive Task where
  | platform
  | read (r : ReadRequest)
  | write (r : WriteRequest)
  | drain (r : DrainRequest)
  deriving DecidableEq

structure Invocation where
  task : Task
  config : Option String
  logLevel : Option String
  format : Format
  deriving DecidableEq

def Task.path? : Task → Option String
  | .platform => none
  | .read r => some r.path
  | .write r => some r.path
  | .drain r => some r.path

def Invocation.paths (i : Invocation) : List String := i.config.toList ++ i.task.path?.toList

/-- Why a line gives nothing to do. A line without a word is shown the program's help as an error. -/
inductive Stop where
  | help (p : HelpPage)
  | version
  | nothing
  | usage (e : UsageError)

/-- The values accepted so far at one level. -/
structure Given where
  config : Option String := none
  logLevel : Option String := none
  format : Option Format := none
  path : Option String := none
  offset : Option Nat := none
  length : Option Nat := none
  position : Option Nat := none
  hex : Option String := none
  create : Bool := false
  bufferSize : Option Nat := none
  deriving DecidableEq

namespace Given

def has (g : Given) : Parameter → Bool
  | .config => g.config.isSome
  | .logLevel => g.logLevel.isSome
  | .format => g.format.isSome
  | .path => g.path.isSome
  | .offset => g.offset.isSome
  | .length => g.length.isSome
  | .position => g.position.isSome
  | .hex => g.hex.isSome
  | .create => g.create
  | .bufferSize => g.bufferSize.isSome
  | .help => false
  | .version => false

def number (p : Parameter) (text : String) : Except UsageError Nat :=
  (readNatural wordLimit text.toList).mapError (.invalidNumber text p)

/-- A file is never named by an empty text. -/
def fileName (p : Parameter) (text : String) : Except UsageError String :=
  if text.isEmpty then .error (.missingValue p) else .ok text

def formatOf (text : String) : Except UsageError Format :=
  if text.isEmpty then .error (.missingValue .format)
  else
    match Format.ofWord? text with
    | some f => .ok f
    | none => .error (.invalidFormat text)

/-- Takes a value in. Switches have none to look at. -/
def set (g : Given) (p : Parameter) (text : String) : Except UsageError Given :=
  match p with
  | .config => do return { g with config := some (← fileName p text) }
  | .logLevel => .ok { g with logLevel := some text }
  | .format => do return { g with format := some (← formatOf text) }
  | .path => do return { g with path := some (← fileName p text) }
  | .offset => do return { g with offset := some (← number p text) }
  | .length => do return { g with length := some (← number p text) }
  | .position => do return { g with position := some (← number p text) }
  | .hex => .ok { g with hex := some text }
  | .create => .ok { g with create := true }
  | .bufferSize => do return { g with bufferSize := some (← number p text) }
  | .help => .ok g
  | .version => .ok g

/-- A parameter may be given once at each level. -/
def accept (g : Given) (p : Parameter) (text : String) : Except UsageError Given :=
  if g.has p then .error (.repeated p) else g.set p text

def isEmpty (g : Given) : Bool := g = {}

end Given

/-- A parameter whose value has not been looked at, and the value if it has come already. -/
structure Pending where
  parameter : Parameter
  value : Option String
  deriving DecidableEq

/-- How far the words of one level have been read. Behind a lone pair of dashes no word is an
option. -/
structure Progress where
  given : Given := {}
  pending : Option Pending := none
  trailing : Bool := false

namespace Progress

def awaits (s : Progress) : Bool :=
  match s.pending with
  | some ⟨_, none⟩ => true
  | _ => false

def resolve (s : Progress) : Except UsageError Progress :=
  match s.pending with
  | none => .ok s
  | some ⟨p, none⟩ => .error (.missingValue p)
  | some ⟨p, some text⟩ => do return { s with given := ← s.given.accept p text, pending := none }

def hasRoom (scope : Scope) (s : Progress) : Bool :=
  scope.takesPath && !s.given.has .path && (s.pending.map (·.parameter)) != some .path

/-- A word that no level has a place for. Behind a lone pair of dashes the name of a subcommand, or
the word that asks for help, is known but out of place. -/
def surplus (scope : Scope) (s : Progress) (word : String) : UsageError :=
  match scope with
  | .program =>
    if s.trailing && ((Subcommand.ofWord? word).isSome || word = "help") then
      .unexpectedArgument word
    else .unknownSubcommand word
  | .subcommand _ => .unexpectedArgument word

def operand (scope : Scope) (s : Progress) (word : String) : Except UsageError Progress :=
  if s.hasRoom scope then do return { ← s.resolve with pending := some ⟨.path, some word⟩ }
  else .error (s.surplus scope word)

/-- A switch that has been met. Help and version end the reading. -/
def switch (scope : Scope) (s : Progress) (p : Parameter) : Except Stop Progress := do
  let s ← s.resolve.mapError .usage
  match p with
  | .help => .error (.help scope.help)
  | .version => .error .version
  | p => return { s with given := ← (s.given.accept p "").mapError .usage }

def long (scope : Scope) (s : Progress) (word : String) (value : Option String) :
    Except Stop Progress :=
  match scope.long? word with
  | none => .error (.usage (.unexpectedArgument ("--" ++ word)))
  | some p =>
    if p.isSwitch then
      match value with
      | some v => .error (.usage (.unexpectedValue v p))
      | none => s.switch scope p
    else
      match value with
      | some v => do
        let s ← s.resolve.mapError .usage
        return { s with given := ← (s.given.accept p v).mapError .usage }
      | none => do return { ← s.resolve.mapError .usage with pending := some ⟨p, none⟩ }

def short (scope : Scope) (s : Progress) (letter : Char) : Except Stop Progress :=
  match scope.short? letter with
  | none => .error (.usage (.unexpectedArgument (String.ofList ['-', letter])))
  | some p => s.switch scope p

/-- A word that begins no option: the value that is waited for, or an operand. -/
def plain (scope : Scope) (s : Progress) (word : String) : Except UsageError Progress :=
  match s.pending with
  | some ⟨p, none⟩ => .ok { s with pending := some ⟨p, some word⟩ }
  | _ => s.operand scope word

def take (scope : Scope) (s : Progress) (word : String) : Except Stop Progress :=
  if s.trailing then (s.operand scope word).mapError .usage
  else
    match word.toList with
    | ['-', '-'] => .ok { s with trailing := true }
    | '-' :: '-' :: body =>
      let value := match body.dropWhile (· != '=') with
        | [] => none
        | _ :: v => some (String.ofList v)
      s.long scope (String.ofList (body.takeWhile (· != '='))) value
    | '-' :: letter :: _ => s.short scope letter
    | _ => (s.plain scope word).mapError .usage

def listens (s : Progress) : Bool := !s.trailing && !s.awaits

end Progress

def readWords (scope : Scope) (s : Progress) : List String → Except Stop Progress
  | [] => .ok s
  | word :: rest => do readWords scope (← s.take scope word) rest

def helpFor : List String → Except UsageError HelpPage
  | [] => .ok Scope.program.help
  | word :: rest =>
    match Subcommand.ofWord? word, rest with
    | some c, [] => .ok (Scope.subcommand c).help
    | some _, next :: _ => .error (.unknownSubcommand next)
    | none, [] => if word = "help" then .ok helpHelp else .error (.unknownSubcommand word)
    | none, next :: _ => .error (.unknownSubcommand (if word = "help" then next else word))

/-- The task of a subcommand, if what it requires is there. -/
def Subcommand.task (c : Subcommand) (g : Given) : Except UsageError Task :=
  match c, g.path, g.length, g.hex with
  | .platform, _, _, _ => .ok .platform
  | .read, some path, some length, _ => .ok (.read ⟨path, g.offset.getD 0, length⟩)
  | .write, some path, _, some hex => .ok (.write ⟨path, g.position.getD 0, hex, g.create⟩)
  | .drain, some path, _, _ => .ok (.drain ⟨path, g.bufferSize⟩)
  | _, _, _, _ => .error .missingArguments

/-- Reads the words behind a subcommand. What is still pending before it comes last. -/
def readSubcommand (s : Progress) (c : Subcommand) (words : List String) :
    Except Stop Invocation := do
  let inner ← readWords (.subcommand c) {} words
  let inner ← inner.resolve.mapError .usage
  let task ← (c.task inner.given).mapError .usage
  let outer ← s.resolve.mapError .usage
  return ⟨task, inner.given.config <|> outer.given.config,
    inner.given.logLevel <|> outer.given.logLevel,
    (inner.given.format <|> outer.given.format).getD .text⟩

def readProgram (s : Progress) : List String → Except Stop Invocation
  | [] => do
    let s ← s.resolve.mapError .usage
    .error (if s.given.isEmpty then .nothing else .usage .missingSubcommand)
  | word :: rest =>
    if s.listens && word = "help" then
      match helpFor rest with
      | .ok page => .error (.help page)
      | .error e => .error (.usage e)
    else
      match if s.listens then Subcommand.ofWord? word else none with
      | some c => readSubcommand s c rest
      | none => do readProgram (← s.take .program word) rest

def readLine (words : List String) : Except Stop Invocation := readProgram {} words

end ServiceKit.Command
