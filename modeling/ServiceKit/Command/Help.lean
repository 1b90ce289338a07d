import ServiceKit.Command.Parameter

/-!
Help pages: what a level does, how it is called, and a table for each kind of word it takes.
-/

namespace ServiceKit.Command

open Text (Style Span Styled)

structure HelpRow where
  subject : Styled
  about : String

structure HelpTable where
  title : String
  rows : List HelpRow

structure HelpPage where
  about : String
  usage : Styled
  tables : List HelpTable

def HelpTable.width (t : HelpTable) : Nat :=
  (t.rows.map (·.subject.width)).foldl max 0

def HelpRow.render (width : Nat) (r : HelpRow) : Styled :=
  .plain "  " :: r.subject
    ++ [.plain (String.ofList (List.replicate (width - r.subject.width + 2) ' ') ++ r.about ++ "\n")]

/-- The table under its title; the descriptions begin in one column. -/
def HelpTable.render (t : HelpTable) : Styled :=
  .plain "\n" :: ⟨.heading, t.title ++ ":"⟩ :: .plain "\n" :: t.rows.flatMap (·.render t.width)

def HelpPage.render (p : HelpPage) : Styled :=
  .plain (p.about ++ "\n\n") :: ⟨.heading, "Usage:"⟩ :: .plain " " :: p.usage
    ++ .plain "\n" :: p.tables.flatMap HelpTable.render

/-- The row of an option; where no letter stands before the word there is room for one. -/
def optionRow (p : Parameter) : HelpRow :=
  let letter : Styled := match p.short? with
    | some c => [⟨.bold, String.ofList ['-', c]⟩, .plain ", "]
    | none => [.plain "    "]
  ⟨letter ++ p.shown, p.about⟩

def helpAbout : String := "Print this message or the help of the given subcommand(s)"

namespace Scope

def title : Scope → String
  | .program => programName
  | .subcommand c => programName ++ " " ++ c.word

def about : Scope → String
  | .program => summary
  | .subcommand c => c.about

/-- Options in general, and then what has to be there. -/
def usage (s : Scope) : Styled :=
  let needed := match s with
    | .program => [.plain " <COMMAND>"]
    | s => s.required.flatMap fun p => .plain " " :: p.shown
  [⟨.bold, s.title⟩, .plain " [OPTIONS]"] ++ needed

def commandTable : HelpTable :=
  ⟨"Commands", (Subcommand.all.map fun c => ⟨[⟨.bold, c.word⟩], c.about⟩)
    ++ [⟨[⟨.bold, "help"⟩], helpAbout⟩]⟩

def help (s : Scope) : HelpPage :=
  let places := s.parameters.filter (·.long?.isNone)
  let first : List HelpTable :=
    if s = .program then [commandTable]
    else if places.isEmpty then []
    else [⟨"Arguments", places.map fun p => ⟨p.shown, p.about⟩⟩]
  ⟨s.about, s.usage,
    first ++ [⟨"Options", (s.parameters.filter (·.long?.isSome)).map optionRow⟩]⟩

end Scope

def helpHelp : HelpPage :=
  ⟨helpAbout, [⟨.bold, programName ++ " help"⟩, .plain " [COMMAND]..."],
    [⟨"Arguments", [⟨[.plain "[COMMAND]..."], "Print help for the subcommand(s)"⟩]⟩]⟩

end ServiceKit.Command
