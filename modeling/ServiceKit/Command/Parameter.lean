import ServiceKit.Text.Styled

/-!
What can stand on a command line: the subcommands, the parameters of each, and how they are named
and described to people.
-/

namespace ServiceKit.Command

open Text (Style Span Styled)

def programName : String := "quorum"

def version : String := "0.1.0"

def summary : String := "Quorum utility layer: bounded file transfers and host diagnostics"

inductive Subcommand where
  | platform
  | read
  | write
  | drain
  deriving DecidableEq

namespace Subcommand

def word : Subcommand → String
  | .platform => "platform"
  | .read => "read"
  | .write => "write"
  | .drain => "drain"

def about : Subcommand → String
  | .platform => "Show the detected host platform"
  | .read => "Read an exact byte range from a file"
  | .write => "Write bytes into a file at a position"
  | .drain => "Read a file to its end and count the bytes"

def all : List Subcommand := [.platform, .read, .write, .drain]

def ofWord? (s : String) : Option Subcommand := all.find? fun c => c.word == s

end Subcommand

inductive Format where
  | text
  | json
  deriving DecidableEq

def Format.ofWord? : String → Option Format
  | "text" => some .text
  | "json" => some .json
  | _ => none

inductive Parameter where
  | config
  | logLevel
  | format
  | path
  | offset
  | length
  | position
  | hex
  | create
  | bufferSize
  | help
  | version
  deriving DecidableEq

namespace Parameter

/-- The word behind two dashes. The path is given by its place alone. -/
def long? : Parameter → Option String
  | .config => some "config"
  | .logLevel => some "log-level"
  | .format => some "format"
  | .path => none
  | .offset => some "offset"
  | .length => some "length"
  | .position => some "position"
  | .hex => some "hex"
  | .create => some "create"
  | .bufferSize => some "buffer-size"
  | .help => some "help"
  | .version => some "version"

def short? : Parameter → Option Char
  | .help => some 'h'
  | .version => some 'V'
  | _ => none

/-- What stands for the value in descriptions; a parameter without one is a switch. -/
def value? : Parameter → Option String
  | .config => some "<CONFIG>"
  | .logLevel => some "<LOG_LEVEL>"
  | .format => some "<FORMAT>"
  | .path => some "<PATH>"
  | .offset => some "<OFFSET>"
  | .length => some "<LENGTH>"
  | .position => some "<POSITION>"
  | .hex => some "<HEX>"
  | .create => none
  | .bufferSize => some "<BUFFER_SIZE>"
  | .help => none
  | .version => none

def about : Parameter → String
  | .config => "Path to a TOML configuration file"
  | .logLevel => "Default log level (overrides the configuration file)"
  | .format => "[default: text] [possible values: text, json]"
  | .path => ""
  | .offset => "Bytes to skip before reading [default: 0]"
  | .length => "Exact number of bytes to read"
  | .position => "File position of the first byte [default: 0]"
  | .hex => "Bytes to write, hex encoded"
  | .create => "Create the file if it does not exist"
  | .bufferSize => "Scratch buffer size (defaults to the configured value)"
  | .help => "Print help"
  | .version => "Print version"

def isSwitch (p : Parameter) : Bool := p.value?.isNone

def label (p : Parameter) : String :=
  " ".intercalate ((p.long?.map ("--" ++ ·)).toList ++ p.value?.toList)

/-- The parameter as help shows it: what is typed as it stands is in bold. -/
def shown (p : Parameter) : Styled :=
  match p.long?, p.value? with
  | some word, some value => [⟨.bold, "--" ++ word⟩, .plain (" " ++ value)]
  | some word, none => [⟨.bold, "--" ++ word⟩]
  | none, value => [.plain (value.getD "")]

end Parameter

/-- The level at which words are read: the program's own, or a subcommand's. -/
inductive Scope where
  | program
  | subcommand (c : Subcommand)
  deriving DecidableEq

namespace Scope

def globals : List Parameter := [.config, .logLevel, .format]

/-- The parameters that a level alone knows, the required ones among them included. -/
def own : Scope → List Parameter
  | .program => []
  | .subcommand .platform => []
  | .subcommand .read => [.path, .offset, .length]
  | .subcommand .write => [.path, .position, .hex, .create]
  | .subcommand .drain => [.path, .bufferSize]

def required : Scope → List Parameter
  | .subcommand .read => [.length, .path]
  | .subcommand .write => [.hex, .path]
  | .subcommand .drain => [.path]
  | _ => []

/-- The version can be asked of the program only. -/
def parameters (s : Scope) : List Parameter :=
  s.own ++ globals ++ [.help] ++ if s = .program then [.version] else []

def takesPath (s : Scope) : Bool := s.parameters.contains .path

def long? (s : Scope) (word : String) : Option Parameter :=
  s.parameters.find? fun p => p.long? == some word

def short? (s : Scope) (letter : Char) : Option Parameter :=
  s.parameters.find? fun p => p.short? == some letter

end Scope

end ServiceKit.Command
