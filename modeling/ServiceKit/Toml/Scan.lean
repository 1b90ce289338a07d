/-!
White space, comments, line ends and key characters of a TOML document.
-/

namespace ServiceKit.Toml

/-- A scanner takes a thing off the front of a text. -/
abbrev Scanner (α : Type) : Type := List Char → Option (α × List Char)

def isBlank (c : Char) : Bool := c = ' ' || c = '\t'

/-- Characters beyond ASCII stand for themselves wherever text is written. -/
def isWide (c : Char) : Bool := 0x80 ≤ c.toNat

def isCommentCharacter (c : Char) : Bool :=
  c = '\t' || (0x20 ≤ c.toNat && c.toNat ≤ 0x7e) || isWide c

def isBareKeyCharacter (c : Char) : Bool := c.isAlphanum || c = '-' || c = '_'

def isHexDigit (c : Char) : Bool :=
  c.isDigit || ('a' ≤ c && c ≤ 'f') || ('A' ≤ c && c ≤ 'F')

def skipBlanks (cs : List Char) : List Char := cs.dropWhile isBlank

def newline? : List Char → Option (List Char)
  | '\n' :: rest => some rest
  | '\r' :: '\n' :: rest => some rest
  | _ => none

/-- The text behind a comment, or the text itself when none begins here. -/
def skipComment : List Char → List Char
  | '#' :: rest => rest.dropWhile isCommentCharacter
  | cs => cs

/-- What is left behind blanks, a comment, and the end of the line or of the text. -/
def endOfLine? (cs : List Char) : Option (List Char) :=
  match skipComment (skipBlanks cs) with
  | [] => some []
  | rest => newline? rest

theorem length_newline?_lt {cs rest : List Char} (h : newline? cs = some rest) :
    rest.length < cs.length := by
  unfold newline? at h
  split at h <;> simp only [Option.some.injEq, reduceCtorEq] at h <;> subst h <;>
    simp only [List.length_cons] <;> omega

theorem length_dropWhile_le (p : Char → Bool) (cs : List Char) :
    (cs.dropWhile p).length ≤ cs.length := by
  induction cs with
  | nil => simp
  | cons c cs ih =>
    simp only [List.dropWhile_cons]
    split
    · simp only [List.length_cons]; omega
    · simp

/-- Blanks, comments and line ends, as they may stand between the items of a list. -/
def skipFiller (cs : List Char) : List Char :=
  match cs with
  | [] => []
  | c :: rest =>
    if isBlank c then skipFiller rest
    else
      match _h : newline? (skipComment (c :: rest)) with
      | some more => skipFiller more
      | none => c :: rest
termination_by cs.length
decreasing_by
  · simp
  · have hn := length_newline?_lt _h
    have hc : (skipComment (c :: rest)).length ≤ (c :: rest).length := by
      unfold skipComment
      split
      · rename_i heq
        rw [heq]
        have := length_dropWhile_le isCommentCharacter ‹List Char›
        simp only [List.length_cons]
        omega
      · exact Nat.le_refl _
    omega

def skipBlankLines (cs : List Char) : List Char :=
  match cs with
  | [] => []
  | c :: rest =>
    if isBlank c then skipBlankLines rest
    else
      match _h : newline? (c :: rest) with
      | some more => skipBlankLines more
      | none => c :: rest
termination_by cs.length
decreasing_by
  · simp
  · exact length_newline?_lt _h

theorem length_skipBlankLines_le (cs : List Char) :
    (skipBlankLines cs).length ≤ cs.length := by
  fun_induction skipBlankLines cs with
  | case1 => simp
  | case2 c rest hb ih => simp only [List.length_cons]; omega
  | case3 c rest hb more hm ih =>
    have := length_newline?_lt hm
    omega
  | case4 => exact Nat.le_refl _

/-- Items with commas between them, as many as there are. A comma that no item follows is left
alone. -/
def separated {α : Type} (item : Scanner α) (cs : List Char) : List α × List Char :=
  match item cs with
  | none => ([], cs)
  | some (a, ',' :: rest) =>
    if rest.length < cs.length then
      match separated item rest with
      | ([], _) => ([a], ',' :: rest)
      | (as, last) => (a :: as, last)
    else ([a], ',' :: rest)
  | some (a, rest) => ([a], rest)
termination_by cs.length

end ServiceKit.Toml
