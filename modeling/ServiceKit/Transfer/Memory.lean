import ServiceKit.Text.Integer
import ServiceKit.Transfer.Reader

/-!
Streams over bytes at hand: a slice, a cursor that may stand past the end, a regular file, and a
pipe. All but the pipe move on without reading.
-/

namespace ServiceKit.Transfer

structure Slice where
  rest : List UInt8
  deriving DecidableEq

structure Cursor where
  content : List UInt8
  position : Nat
  deriving DecidableEq

def Cursor.rest (c : Cursor) : List UInt8 := c.content.drop c.position

structure RegularFile where
  cursor : Cursor
  deriving DecidableEq

/-- The reading end of a pipe whose writer is gone. -/
structure Pipe where
  rest : List UInt8
  deriving DecidableEq

/-- The longest step that one seek can make. -/
def seekLimit : Nat := Text.signLimit - 1

theorem supply_lt_of_deliver {room n : Nat} {rest : List UInt8}
    (h : (deliver room rest).outcome = .ok (n + 1)) :
    (rest.drop room).length < rest.length := by
  simp only [deliver, List.length_take, Except.ok.injEq] at h
  simp only [List.length_drop]
  omega

instance : Reader Slice where
  read room s := (deliver room s.rest, ⟨s.rest.drop room⟩)

instance : Patient Slice where
  patience _ := 0
  patience_lt _ _ h := by simp [Reader.read] at h

instance : Skipping Slice where
  skip n s := (.ok (min n s.rest.length), ⟨s.rest.drop n⟩)

instance : Ending Slice where
  supply s := s.rest.length
  supply_lt _ _ _ h := supply_lt_of_deliver h

/-- Reads from the position on; nothing is there past the end. -/
def Cursor.read (room : Nat) (c : Cursor) : ReadAnswer × Cursor :=
  let answer := deliver room c.rest
  (answer, { c with position := c.position + answer.wrote.length })

def Cursor.step (n : Nat) (c : Cursor) : Nat := min n (c.content.length - c.position)

def Cursor.advance (n : Nat) (c : Cursor) : Cursor := { c with position := c.position + n }

theorem Cursor.supply_lt {room n : Nat} {c : Cursor}
    (h : (c.read room).1.outcome = .ok (n + 1)) :
    (c.read room).2.content.length - (c.read room).2.position
      < c.content.length - c.position := by
  simp only [Cursor.read, deliver, Cursor.rest, List.length_take, List.length_drop,
    Except.ok.injEq] at h ⊢
  omega

instance : Reader Cursor where
  read room c := c.read room

instance : Patient Cursor where
  patience _ := 0
  patience_lt _ _ h := by simp [Reader.read, Cursor.read] at h

instance : Skipping Cursor where
  skip n c := (.ok (c.step n), c.advance (c.step n))

instance : Ending Cursor where
  supply c := c.content.length - c.position
  supply_lt _ _ _ h := Cursor.supply_lt h

instance : Reader RegularFile where
  read room f := ((f.cursor.read room).1, ⟨(f.cursor.read room).2⟩)

instance : Patient RegularFile where
  patience _ := 0
  patience_lt _ _ h := by simp [Reader.read, Cursor.read] at h

/-- A seek moves up to the end of the file, by no more than the longest step. -/
instance : Skipping RegularFile where
  skip n f :=
    let step := min (f.cursor.step n) seekLimit
    (.ok step, ⟨f.cursor.advance step⟩)

instance : Ending RegularFile where
  supply f := f.cursor.content.length - f.cursor.position
  supply_lt _ _ _ h := Cursor.supply_lt h

instance : Reader Pipe where
  read room p := (deliver room p.rest, ⟨p.rest.drop room⟩)

instance : Patient Pipe where
  patience _ := 0
  patience_lt _ _ h := by simp [Reader.read] at h

instance : Skipping Pipe where
  skip n p := discardUpTo n p

instance : Ending Pipe where
  supply p := p.rest.length
  supply_lt _ _ _ h := supply_lt_of_deliver h

end ServiceKit.Transfer
