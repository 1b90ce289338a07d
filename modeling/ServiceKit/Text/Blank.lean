import ServiceKit.Text.CodePoints

/-!
White space in the sense of the White_Space property, and text without it at its ends.
-/

namespace ServiceKit.Text

/-- Characters with the White_Space property. -/
def blanks : CodePoints := ⟨[
  (0x9, 0xd), (0x20, 0x20), (0x85, 0x85), (0xa0, 0xa0), (0x1680, 0x1680), (0x2000, 0x200a),
  (0x2028, 0x2029), (0x202f, 0x202f), (0x205f, 0x205f), (0x3000, 0x3000)]⟩

def isBlank (c : Char) : Bool :=
  blanks.holds c

/-- The text less the white space at its two ends. -/
def trim (s : List Char) : List Char :=
  ((s.dropWhile isBlank).reverse.dropWhile isBlank).reverse

end ServiceKit.Text
