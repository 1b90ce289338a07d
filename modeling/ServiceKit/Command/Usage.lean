import ServiceKit.Command.Parameter
import ServiceKit.Text.Integer

/-!
What can be wrong with a command line.
-/

namespace ServiceKit.Command

open Text (Style Span Styled IntegerFault)

inductive UsageError where
  | unknownSubcommand (word : String)
  | unexpectedArgument (word : String)
  | unexpectedValue (value : String) (p : Parameter)
  | missingValue (p : Parameter)
  | repeated (p : Parameter)
  | invalidNumber (value : String) (p : Parameter) (f : IntegerFault)
  | invalidFormat (value : String)
  | missingArguments
  | missingSubcommand
  deriving DecidableEq

namespace UsageError

/-- A wrong part in quotes. -/
def wrong (text : String) : Styled := [.plain "'", ⟨.yellow, text⟩, .plain "'"]

/-- A part in quotes that is right by itself. -/
def right (text : String) : Styled := [.plain "'", ⟨.bold, text⟩, .plain "'"]

def wording : UsageError → Styled
  | .unknownSubcommand word => .plain "unrecognized subcommand " :: wrong word
  | .unexpectedArgument word =>
    .plain "unexpected argument " :: wrong word ++ [.plain " found"]
  | .unexpectedValue value p =>
    .plain "unexpected value " :: wrong value ++ .plain " for " :: right p.label
      ++ [.plain " found; no more were expected"]
  | .missingValue p =>
    .plain "a value is required for " :: wrong p.label ++ [.plain " but none was supplied"]
  | .repeated p =>
    .plain "the argument " :: wrong p.label ++ [.plain " cannot be used multiple times"]
  | .invalidNumber value p f =>
    .plain "invalid value " :: wrong value ++ .plain " for " :: right p.label
      ++ [.plain (": " ++ f.message)]
  | .invalidFormat value =>
    .plain "invalid value " :: wrong value ++ .plain " for " :: right Parameter.format.label
  | .missingArguments => [.plain "the following required arguments were not provided:"]
  | .missingSubcommand =>
    wrong programName ++ [.plain " requires a subcommand but one was not provided"]

def message (e : UsageError) : Styled :=
  ⟨.alarm, "error:"⟩ :: .plain " " :: e.wording ++ [.plain "\n"]

end UsageError

end ServiceKit.Command
