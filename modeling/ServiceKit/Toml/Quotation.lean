import ServiceKit.Toml.Scan

/-!
Quoted texts: with escapes between double quotes, as they stand between single quotes, on one line
between single marks or on many between triple ones.
-/

namespace ServiceKit.Toml

def isBasicCharacter (c : Char) : Bool :=
  isBlank c || c = '!' || (0x23 ≤ c.toNat && c.toNat ≤ 0x5b) || (0x5d ≤ c.toNat && c.toNat ≤ 0x7e)
    || isWide c

def isLiteralCharacter (c : Char) : Bool :=
  c = '\t' || (0x20 ≤ c.toNat && c.toNat ≤ 0x26) || (0x28 ≤ c.toNat && c.toNat ≤ 0x7e) || isWide c

def hexValue (c : Char) : Nat :=
  if c.isDigit then c.toNat - 0x30
  else if 'a' ≤ c then c.toNat - 0x61 + 10
  else c.toNat - 0x41 + 10

/-- The character of a number written in exactly `size` hexadecimal digits. -/
def numbered? (size : Nat) (digits : List Char) : Option Char :=
  let n := digits.foldl (fun n d => 16 * n + hexValue d) 0
  if digits.length = size && digits.all isHexDigit && n.isValidChar then some (Char.ofNat n)
  else none

/-- The character that an escape stands for, and the number of characters behind the backslash that
make the escape. -/
def escape? : List Char → Option (Char × Nat)
  | 'b' :: _ => some ('\x08', 1)
  | 'f' :: _ => some ('\x0c', 1)
  | 'n' :: _ => some ('\n', 1)
  | 'r' :: _ => some ('\r', 1)
  | 't' :: _ => some ('\t', 1)
  | '"' :: _ => some ('"', 1)
  | '\\' :: _ => some ('\\', 1)
  | 'u' :: rest => (numbered? 4 (rest.take 4)).map (·, 5)
  | 'U' :: rest => (numbered? 8 (rest.take 8)).map (·, 9)
  | _ => none

/-- The rest of a text on one line, up to and over its closing double quote. -/
def basicBody (cs : List Char) : Option (List Char × List Char) :=
  match cs with
  | [] => none
  | '"' :: rest => some ([], rest)
  | '\\' :: rest =>
    match escape? rest with
    | none => none
    | some (c, taken) => (basicBody (rest.drop taken)).map fun (s, last) => (c :: s, last)
  | c :: rest =>
    if isBasicCharacter c then (basicBody rest).map fun (s, last) => (c :: s, last) else none
termination_by cs.length
decreasing_by
  · simp only [List.length_drop, List.length_cons]; omega
  · simp

/-- The rest of a text on many lines, behind its opening quotes. Up to two quotes may stand directly
before the three that close it. A backslash at the end of a line takes the white space after it
away. -/
def basicLines (cs : List Char) : Option (List Char × List Char) :=
  match cs with
  | [] => none
  | '"' :: '"' :: '"' :: rest =>
    let inner := (rest.take 2).takeWhile (· = '"')
    some (inner, rest.drop inner.length)
  | '\\' :: rest =>
    match _h : newline? (skipBlanks rest) with
    | some more => basicLines (skipBlankLines more)
    | none =>
      match escape? rest with
      | none => none
      | some (c, taken) => (basicLines (rest.drop taken)).map fun (s, last) => (c :: s, last)
  | '\r' :: '\n' :: rest => (basicLines rest).map fun (s, last) => ('\n' :: s, last)
  | c :: rest =>
    if isBasicCharacter c || c = '"' || c = '\n' then
      (basicLines rest).map fun (s, last) => (c :: s, last)
    else none
termination_by cs.length
decreasing_by
  · have h1 := length_newline?_lt _h
    have h2 := length_dropWhile_le isBlank rest
    have h3 := length_skipBlankLines_le more
    simp only [skipBlanks] at h1
    simp only [List.length_cons]
    omega
  · simp only [List.length_drop, List.length_cons]; omega
  · simp only [List.length_cons]; omega
  · simp

/-- The same between single quotes, where a backslash is a character like others. -/
def literalLines : List Char → Option (List Char × List Char)
  | [] => none
  | '\'' :: '\'' :: '\'' :: rest =>
    let inner := (rest.take 2).takeWhile (· = '\'')
    some (inner, rest.drop inner.length)
  | '\r' :: '\n' :: rest => (literalLines rest).map fun (s, last) => ('\n' :: s, last)
  | c :: rest =>
    if isLiteralCharacter c || c = '\'' || c = '\n' then
      (literalLines rest).map fun (s, last) => (c :: s, last)
    else none

/-- A line end directly behind the opening marks is no part of the text. -/
def skipFirstLineEnd (cs : List Char) : List Char := (newline? cs).getD cs

def quotedLine? : Scanner String
  | '"' :: rest => (basicBody rest).map fun (s, last) => (String.ofList s, last)
  | '\'' :: rest =>
    match rest.dropWhile isLiteralCharacter with
    | '\'' :: last => some (String.ofList (rest.takeWhile isLiteralCharacter), last)
    | _ => none
  | _ => none

def quoted? : Scanner String
  | '"' :: '"' :: '"' :: rest =>
    (basicLines (skipFirstLineEnd rest)).map fun (s, last) => (String.ofList s, last)
  | '\'' :: '\'' :: '\'' :: rest =>
    (literalLines (skipFirstLineEnd rest)).map fun (s, last) => (String.ofList s, last)
  | cs => quotedLine? cs

end ServiceKit.Toml
