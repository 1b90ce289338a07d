/-!
Text with styles. A terminal receives each styled span between the sequences that turn the style on
and off; anything else receives the text alone.
-/

namespace ServiceKit.Text

/-- The sequences that turn a style on, each a list of codes. -/
structure Style where
  sequences : List (List Nat)
  deriving DecidableEq

namespace Style

def plain : Style := ⟨[]⟩
def bold : Style := ⟨[[1]]⟩
def dim : Style := ⟨[[2]]⟩
def italic : Style := ⟨[[3]]⟩
def yellow : Style := ⟨[[33]]⟩
def blue : Style := ⟨[[34]]⟩
def cyan : Style := ⟨[[36]]⟩
def boldGreen : Style := ⟨[[1, 32]]⟩
def heading : Style := ⟨[[1], [4]]⟩
def alarm : Style := ⟨[[1], [31]]⟩

def sequence (codes : List Nat) : String :=
  "\x1b[" ++ ";".intercalate (codes.map toString) ++ "m"

def opening (s : Style) : String := String.join (s.sequences.map sequence)

end Style

structure Span where
  style : Style
  text : String
  deriving DecidableEq

namespace Span

def plain (text : String) : Span := ⟨.plain, text⟩

/-- The span for a terminal; also an empty text is put between its sequences. -/
def colored (s : Span) : String :=
  if s.style = .plain then s.text else s.style.opening ++ s.text ++ Style.sequence [0]

end Span

abbrev Styled := List Span

namespace Styled

def uncolored (t : Styled) : String := String.join (t.map Span.text)

def colored (t : Styled) : String := String.join (t.map Span.colored)

def render (inColor : Bool) (t : Styled) : String :=
  if inColor then t.colored else t.uncolored

def width (t : Styled) : Nat := t.foldr (fun s n => s.text.length + n) 0

end Styled

end ServiceKit.Text
