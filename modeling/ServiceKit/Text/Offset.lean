/-!
Pieces of a text between offsets that count bytes of its encoding. A piece whose ends would cut a
character does not exist.
-/

namespace ServiceKit.Text

def fromOffset? : Nat → List Char → Option (List Char)
  | 0, cs => some cs
  | _ + 1, [] => none
  | n + 1, c :: cs => if c.utf8Size ≤ n + 1 then fromOffset? (n + 1 - c.utf8Size) cs else none
termination_by _ cs => cs.length

def toOffset? : Nat → List Char → Option (List Char)
  | 0, _ => some []
  | _ + 1, [] => none
  | n + 1, c :: cs =>
    if c.utf8Size ≤ n + 1 then (toOffset? (n + 1 - c.utf8Size) cs).map (c :: ·) else none
termination_by _ cs => cs.length

/-- The text between two offsets. -/
def piece? (first last : Nat) (cs : List Char) : Option (List Char) :=
  (fromOffset? first cs).bind (toOffset? (last - first))

def byteLength : List Char → Nat
  | [] => 0
  | c :: cs => c.utf8Size + byteLength cs

theorem fromOffset?_append (cs rest : List Char) :
    fromOffset? (byteLength cs) (cs ++ rest) = some rest := by
  induction cs with
  | nil => cases rest <;> simp [byteLength, fromOffset?]
  | cons c cs ih =>
    have hc := Char.utf8Size_pos c
    have hn : byteLength (c :: cs) = (c.utf8Size - 1 + byteLength cs) + 1 := by
      rw [byteLength]
      omega
    have hd : c.utf8Size - 1 + byteLength cs + 1 - c.utf8Size = byteLength cs := by omega
    rw [hn, List.cons_append, fromOffset?, if_pos (by omega), hd, ih]

theorem toOffset?_append (cs rest : List Char) :
    toOffset? (byteLength cs) (cs ++ rest) = some cs := by
  induction cs with
  | nil => cases rest <;> simp [byteLength, toOffset?]
  | cons c cs ih =>
    have hc := Char.utf8Size_pos c
    have hn : byteLength (c :: cs) = (c.utf8Size - 1 + byteLength cs) + 1 := by
      rw [byteLength]
      omega
    have hd : c.utf8Size - 1 + byteLength cs + 1 - c.utf8Size = byteLength cs := by omega
    rw [hn, List.cons_append, toOffset?, if_pos (by omega), hd, ih]
    rfl

end ServiceKit.Text
