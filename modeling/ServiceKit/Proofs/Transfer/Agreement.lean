import ServiceKit.Proofs.Transfer.Streams

/-!
Streams cannot be told apart by bounded transfers. A sequence of demands is answered by every steady
stream as by the bare list of bytes still to come: a success takes exactly what was asked, a
premature end takes what was left and reports how much that was, and a drain takes and counts it all.
-/

namespace ServiceKit.Transfer

open Text (wordLimit)

inductive Demand where
  | fill (buffer : List UInt8) (offset length : Nat)
  | skip (length : Nat)
  | drain (size : Nat)

inductive Reply where
  | filled (result : Except Halt Unit) (buffer : List UInt8)
  | skipped (result : Except Halt Unit)
  | drained (result : Except Halt Nat)

namespace Demand

/-- The range lies within its buffer, which is as long as sixty-four bits can tell, and a scratch
buffer is not empty. -/
def InRange : Demand → Prop
  | .fill buffer offset length => offset + length ≤ buffer.length ∧ buffer.length < wordLimit
  | .skip _ => True
  | .drain size => size ≠ 0

def serve {σ : Type} [Reader σ] [Skipping σ] [Ending σ] : Demand → σ → Reply × σ
  | .fill buffer offset length, s =>
    let (run, after) := fillRange buffer offset length s
    (.filled run.result after, run.state)
  | .skip length, s => (.skipped (skipExactly length s).result, (skipExactly length s).state)
  | .drain size, s => (.drained (Transfer.drain size s).result, (Transfer.drain size s).state)

/-- All of `length` bytes when there are so many, and otherwise a premature end. -/
def enough (operation : Operation) (length : Nat) (rest : List UInt8) : Except Halt Unit :=
  if length ≤ rest.length then .ok ()
  else .error (.error (.unexpectedEnd operation length rest.length))

def reference : Demand → List UInt8 → Reply × List UInt8
  | .fill buffer offset length, rest =>
    let got := rest.take length
    (.filled (enough .read length rest)
      (buffer.take offset ++ got ++ buffer.drop (offset + got.length)), rest.drop length)
  | .skip length, rest => (.skipped (enough .skip length rest), rest.drop length)
  | .drain _, rest => (.drained (.ok rest.length), [])

theorem length_reference_le (d : Demand) (rest : List UInt8) :
    (d.reference rest).2.length ≤ rest.length := by
  cases d <;> simp [reference]

end Demand

def replies {σ : Type} [Reader σ] [Skipping σ] [Ending σ] : List Demand → σ → List Reply
  | [], _ => []
  | d :: ds, s => (d.serve s).1 :: replies ds (d.serve s).2

def referenceReplies : List Demand → List UInt8 → List Reply
  | [], _ => []
  | d :: ds, rest => (d.reference rest).1 :: referenceReplies ds (d.reference rest).2

/-- The end of a range that `m` bytes were laid over, together with what is behind the range. -/
theorem drop_take_append_drop {length : Nat} {room : List UInt8} (h : length ≤ room.length)
    (m : Nat) : (room.take length).drop m ++ room.drop length = room.drop (min length m) := by
  have hlen : (room.take length).length = length := List.length_take_of_le h
  rcases Nat.le_total m length with hm | hm
  · rw [← List.drop_append_of_le_length (by rw [hlen]; exact hm), List.take_append_drop,
      Nat.min_eq_right hm]
  · rw [List.drop_of_length_le (by rw [hlen]; exact hm), List.nil_append, Nat.min_eq_left hm]

namespace SteadySkipping

variable {σ : Type} [Reader σ] [Skipping σ] [Ending σ] {R : σ → List UInt8 → Prop} {s : σ}
  {rest : List UInt8}

theorem serve_fill (hR : SteadySkipping R) (h : R s rest) {buffer : List UInt8}
    {offset length : Nat} (hd : (Demand.fill buffer offset length).InRange) :
    ∃ after, (Demand.fill buffer offset length).serve s
        = (((Demand.fill buffer offset length).reference rest).1, after) ∧
      R after ((Demand.fill buffer offset length).reference rest).2 := by
  obtain ⟨hin, hbuffer⟩ := hd
  obtain ⟨ps, after, hfetch, hafter, hps⟩ :=
    hR.fetch h (Nat.lt_of_le_of_lt hin hbuffer)
  have hroom : length ≤ (buffer.drop offset).length := by
    rw [List.length_drop]
    omega
  have hpatch : patchRange ps offset length buffer
      = buffer.take offset ++ rest.take length
        ++ buffer.drop (offset + (rest.take length).length) := by
    rw [patchRange, hps _ (List.length_take_of_le hroom), List.length_take, ← List.drop_drop,
      ← List.drop_drop, List.append_assoc, List.append_assoc, List.append_assoc,
      drop_take_append_drop hroom]
  have hresult : (concludeRead length
      (if length ≤ rest.length then .full else .ended (length - rest.length))).1
        = Demand.enough .read length rest := by
    unfold Demand.enough
    split
    · rfl
    · rw [concludeRead, Nat.sub_sub_self (by omega)]
  refine ⟨after, ?_, hafter⟩
  simp only [Demand.serve, fillRange, if_pos hin, hfetch, hpatch, hresult, Demand.reference]

theorem serve_skip (hR : SteadySkipping R) (h : R s rest) (length : Nat) :
    ∃ after, (Demand.skip length).serve s = (((Demand.skip length).reference rest).1, after) ∧
      R after ((Demand.skip length).reference rest).2 := by
  obtain ⟨after, hskip, hafter⟩ := hR.skipRemaining h length length
  refine ⟨after, ?_, hafter⟩
  have hresult : (concludeSkip length (length - rest.length)).1
      = Demand.enough .skip length rest := by
    unfold Demand.enough concludeSkip
    by_cases hle : length ≤ rest.length
    · rw [if_pos hle, if_pos (by omega)]
    · rw [if_neg hle, if_neg (by omega), Nat.sub_sub_self (by omega)]
  simp only [Demand.serve, skipExactly, hskip, hresult, Demand.reference]

theorem serve_drain (hR : SteadySkipping R) (h : R s rest) {size : Nat} (hs : size ≠ 0)
    (hrest : rest.length < wordLimit) :
    ∃ after, (Demand.drain size).serve s = (((Demand.drain size).reference rest).1, after) ∧
      R after ((Demand.drain size).reference rest).2 := by
  have ht : 0 + rest.length < wordLimit := by rwa [Nat.zero_add]
  obtain ⟨after, hdrain, hafter⟩ := hR.drainFrom h hs ht
  rw [Nat.zero_add] at hdrain
  exact ⟨after, by simp only [Demand.serve, drain, if_neg hs, hdrain, Demand.reference], hafter⟩

theorem serve (hR : SteadySkipping R) (h : R s rest) {d : Demand} (hd : d.InRange)
    (hrest : rest.length < wordLimit) :
    ∃ after, d.serve s = ((d.reference rest).1, after) ∧ R after (d.reference rest).2 := by
  cases d with
  | fill buffer offset length => exact hR.serve_fill h hd
  | skip length => exact hR.serve_skip h length
  | drain size => exact hR.serve_drain h hd hrest

/-- A steady stream answers as the bytes still to come do. -/
theorem replies_eq (hR : SteadySkipping R) (h : R s rest) {demands : List Demand}
    (hd : ∀ d ∈ demands, d.InRange) (hrest : rest.length < wordLimit) :
    replies demands s = referenceReplies demands rest := by
  induction demands generalizing s rest with
  | nil => rfl
  | cons d ds ih =>
    obtain ⟨after, hserve, hafter⟩ := hR.serve h (hd d List.mem_cons_self) hrest
    have hmore := ih hafter (fun e he => hd e (List.mem_cons_of_mem d he))
      (Nat.lt_of_le_of_lt (d.length_reference_le rest) hrest)
    rw [replies, referenceReplies, hserve, hmore]

end SteadySkipping

/-- The bytes of `data` from a position on, be it past the end: a cursor, a slice, a regular file, a
pipe and a buffer of any capacity over any steady stream of them give the same replies. -/
theorem replies_agree {σ : Type} [Reader σ] [Ending σ] {R : σ → List UInt8 → Prop}
    (hR : Steady R) {inner : σ} {data : List UInt8} {position : Nat}
    (hinner : R inner (data.drop position)) (capacity : Nat) {demands : List Demand}
    (hdemands : ∀ d ∈ demands, d.InRange) (hdata : data.length < wordLimit) :
    let expected := referenceReplies demands (data.drop position)
    replies demands (⟨data, position⟩ : Cursor) = expected ∧
      replies demands (⟨data.drop position⟩ : Slice) = expected ∧
      replies demands (⟨⟨data, position⟩⟩ : RegularFile) = expected ∧
      replies demands (⟨data.drop position⟩ : Pipe) = expected ∧
      replies demands (Buffered.ofReader capacity inner) = expected := by
  have hrest : (data.drop position).length < wordLimit := by
    rw [List.length_drop]
    omega
  refine ⟨?_, ?_, ?_, ?_, ?_⟩
  · exact cursor_steady.replies_eq rfl hdemands hrest
  · exact slice_steady.replies_eq rfl hdemands hrest
  · exact regularFile_steady.replies_eq rfl hdemands hrest
  · exact pipe_steady.replies_eq rfl hdemands hrest
  · exact (buffered_steady hR).replies_eq (Buffered.holds_ofReader capacity hinner) hdemands hrest

/-- A buffer that serves a part of one piece, skips the rest of it, and ends within a range. -/
theorem replies_agree_pieces :
    let script : Scripted := ⟨[2, 3, 4, 5, 6], [.upTo 2, .upTo 3], []⟩
    let demands : List Demand := [.fill [0, 0, 0] 1 1, .skip 2, .fill [9, 9, 9] 0 3, .drain 2]
    script.Generous ∧ (∀ d ∈ demands, d.InRange) ∧
      replies demands (Buffered.ofReader 4 script) =
        [.filled (.ok ()) [0, 2, 0], .skipped (.ok ()),
          .filled (.error (.error (.unexpectedEnd .read 3 2))) [5, 6, 9], .drained (.ok 0)] := by
  intro script demands
  have hg : script.Generous := by
    simp [script, Scripted.Generous]
  have hd : ∀ d ∈ demands, d.InRange := by
    simp [demands, Demand.InRange, wordLimit]
  have hinner : script.Generous ∧ script.rest = ([1, 2, 3, 4, 5, 6] : List UInt8).drop 1 :=
    ⟨hg, rfl⟩
  refine ⟨hg, hd, ?_⟩
  exact (replies_agree scripted_steady hinner 4 hd (by decide)).2.2.2.2

end ServiceKit.Transfer
