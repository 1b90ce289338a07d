import ServiceKit.Proofs.Transfer.Courses
import ServiceKit.Transfer.Wrapping

/-!
What a build without overflow checks makes of the same answers. A patch laid down by one read and the
patches behind it are laid down one after the other; so a range is filled with one read after the
other, as far as the position does not come round, and from where it has come to after that.
-/

namespace ServiceKit.Transfer

open Text (wordLimit)

@[simp]
theorem length_patch (ps : List Patch) (room : List UInt8) :
    (patch ps room).length = room.length := by
  induction ps generalizing room with
  | nil => rfl
  | cons p ps ih =>
    simp only [patch, List.length_append, List.length_take, ih, List.length_drop, length_layOver]
    omega

theorem patch_no_room (ps : List Patch) : patch ps [] = [] :=
  List.eq_nil_of_length_eq_zero (length_patch ps [])

section Buffer

variable {offset length : Nat} {buffer : List UInt8} (ps : List Patch)

theorem length_range (h : offset + length ≤ buffer.length) :
    (patch ps ((buffer.drop offset).take length)).length = length := by
  rw [length_patch, List.length_take, List.length_drop]
  omega

/-- What is patched lies inside the range. -/
theorem patchRange_around (h : offset + length ≤ buffer.length) :
    (patchRange ps offset length buffer).length = buffer.length ∧
      (patchRange ps offset length buffer).take offset = buffer.take offset ∧
      (patchRange ps offset length buffer).drop (offset + length)
        = buffer.drop (offset + length) := by
  have hfront : (buffer.take offset).length = offset := List.length_take_of_le (by omega)
  have hrange := length_range ps h
  have hboth : (buffer.take offset ++ patch ps ((buffer.drop offset).take length)).length
      = offset + length := by
    rw [List.length_append, hfront, hrange]
  refine ⟨?_, ?_, ?_⟩
  · rw [patchRange, List.length_append, hboth, List.length_drop]
    omega
  · rw [patchRange, List.append_assoc, List.take_left' hfront]
  · rw [patchRange, List.drop_left' hboth]

end Buffer

section Patching

variable {position missing : Nat} {buffer : List UInt8}

theorem patchRange_nil (position missing : Nat) (buffer : List UInt8) :
    patchRange [] position missing buffer = buffer := by
  rw [patchRange, patch, List.append_assoc, ← List.drop_drop, List.take_append_drop,
    List.take_append_drop]

/-- Beyond its end a range has no room for any patch. -/
theorem patchRange_zero (ps : List Patch) (position : Nat) (buffer : List UInt8) :
    patchRange ps position 0 buffer = buffer := by
  rw [patchRange, List.take_zero, patch_no_room, List.append_nil, Nat.add_zero, List.take_append_drop]

theorem patchRange_append {front room back : List UInt8} (hfront : front.length = position)
    (hroom : room.length = missing) (ps : List Patch) :
    patchRange ps position missing (front ++ room ++ back) = front ++ patch ps room ++ back := by
  have hboth : (front ++ room).length = position + missing := by
    rw [List.length_append, hfront, hroom]
  rw [patchRange, List.drop_left' hboth, List.append_assoc front, List.take_left' hfront,
    List.drop_left' hfront, List.take_left' hroom]

/-- The first patch is laid over the whole range, the others behind what it moved on. -/
theorem patchRange_cons (h : position + missing ≤ buffer.length) (wrote : List UInt8) (m : Nat)
    (ps : List Patch) :
    patchRange (⟨wrote, m⟩ :: ps) position missing buffer =
      patchRange ps (position + m) (missing - m)
        (patchRange [⟨wrote, 0⟩] position missing buffer) := by
  obtain ⟨front, room, back, rfl, hfront, hroom⟩ : ∃ front room back,
      buffer = front ++ room ++ back ∧ front.length = position ∧ room.length = missing :=
    ⟨buffer.take position, (buffer.drop position).take missing, buffer.drop (position + missing),
      by rw [List.append_assoc, ← List.drop_drop, List.take_append_drop, List.take_append_drop],
      List.length_take_of_le (by omega), by rw [List.length_take, List.length_drop]; omega⟩
  rw [patchRange_append hfront hroom, patchRange_append hfront hroom]
  have hlaid : (layOver wrote room).length = missing := (length_layOver wrote room).trans hroom
  have hone : patch [⟨wrote, 0⟩] room = layOver wrote room := by
    simp only [patch, List.take_zero, List.nil_append, List.drop_zero]
  have hfirst : patch (⟨wrote, m⟩ :: ps) room
      = (layOver wrote room).take m ++ patch ps ((layOver wrote room).drop m) := rfl
  rw [hone, hfirst]
  generalize layOver wrote room = laid at hlaid
  rcases Nat.lt_or_ge missing m with hm | hm
  · rw [Nat.sub_eq_zero_of_le (Nat.le_of_lt hm), patchRange_zero,
      List.take_of_length_le (by omega), List.drop_eq_nil_of_le (by omega),
      patch_no_room, List.append_nil]
  · have hsplit : front ++ laid ++ back = front ++ laid.take m ++ laid.drop m ++ back := by
      rw [List.append_assoc front (laid.take m), List.take_append_drop]
    rw [hsplit, patchRange_append (by rw [List.length_append, List.length_take]; omega)
      (by rw [List.length_drop]; omega), List.append_assoc front (laid.take m)]

end Patching

namespace Wrapping

variable {σ : Type} [Reader σ] {s after : σ} {wrote : List UInt8} {stop : Stop} {n : Nat}

namespace Filling

variable {offset length position : Nat}

theorem finish_of_full (h : offset + length ≤ position) (buffer : List UInt8) (s : σ) :
    finish offset length ⟨position, buffer, s⟩ = some (⟨.ok (), [], s⟩, buffer) := by
  rw [finish, if_pos h]

theorem finish_of_end (hp : position < offset + length)
    (h : Reader.read (offset + length - position) s = (⟨wrote, .ok 0⟩, after))
    (buffer : List UInt8) :
    finish offset length ⟨position, buffer, s⟩ =
      let transferred := (position + wordLimit - offset) % wordLimit
      some (⟨.error (.error (.unexpectedEnd .read length transferred)),
        [.ended .read length transferred], after⟩,
        patchRange [⟨wrote, 0⟩] position (offset + length - position) buffer) := by
  rw [finish, if_neg (Nat.not_le.mpr hp)]
  simp only [h]

theorem finish_of_stop (hp : position < offset + length)
    (h : Reader.read (offset + length - position) s = (⟨wrote, .error stop⟩, after))
    (buffer : List UInt8) :
    finish offset length ⟨position, buffer, s⟩ =
      some (⟨.error (.ofStop stop), [], after⟩,
        patchRange [⟨wrote, 0⟩] position (offset + length - position) buffer) := by
  rw [finish, if_neg (Nat.not_le.mpr hp)]
  simp only [h]

theorem finish_of_delivery (hp : position < offset + length)
    (h : Reader.read (offset + length - position) s = (⟨wrote, .ok (n + 1)⟩, after))
    (buffer : List UInt8) :
    finish offset length ⟨position, buffer, s⟩ =
      finish offset length ⟨(position + (n + 1)) % wordLimit,
        patchRange [⟨wrote, 0⟩] position (offset + length - position) buffer, after⟩ := by
  rw [finish, if_neg (Nat.not_le.mpr hp)]
  simp only [h]

/-- A range is filled in the course of a fetch, and on from where the fetch overflows. -/
theorem finish_of_fetching {missing : Nat} {made : List Call} {out : List Patch × Fetched × σ}
    (h : Fetching position missing s made out) (hmissing : offset + length - position = missing)
    (hoffset : offset ≤ position) (hp : position < wordLimit) {buffer : List UInt8}
    (hin : offset + length ≤ buffer.length) :
    finish offset length ⟨position, buffer, s⟩ =
      if position + reported made < wordLimit then
        some (⟨(concludeRead length out.2.1).1, (concludeRead length out.2.1).2, out.2.2⟩,
          patchRange out.1 position missing buffer)
      else finish offset length ⟨(position + reported made) % wordLimit,
        patchRange out.1 position missing buffer, out.2.2⟩ := by
  induction h generalizing buffer with
  | full =>
    rw [finish_of_full (by omega), patchRange_nil]
    exact (if_pos hp).symm
  | @ended position missing s after wrote hm h =>
    have htold : (position + wordLimit - offset) % wordLimit = length - missing := by
      rw [Nat.sub_add_comm hoffset, Nat.add_mod_right, Nat.mod_eq_of_lt (by omega)]
      omega
    rw [finish_of_end (by omega) (hmissing ▸ h), htold, hmissing]
    exact (if_pos hp).symm
  | @stopped position missing s after wrote stop hm h =>
    rw [finish_of_stop (by omega) (hmissing ▸ h), hmissing]
    exact (if_pos hp).symm
  | @overflow position missing n s after wrote hm hover h =>
    rw [finish_of_delivery (by omega) (hmissing ▸ h), hmissing]
    exact (if_neg (Nat.not_lt.mpr hover)).symm
  | @delivered position missing n s after wrote made out hm hfits h rest ih =>
    have hlaid : offset + length ≤ (patchRange [⟨wrote, 0⟩] position missing buffer).length := by
      rwa [(patchRange_around _ (by omega)).1]
    rw [finish_of_delivery (by omega) (hmissing ▸ h), hmissing, Nat.mod_eq_of_lt hfits,
      ih (by omega) (by omega) hfits hlaid, ← patchRange_cons (by omega), reported_delivered,
      Nat.add_assoc]

/-- Whatever the position comes to, no byte behind the range is touched. -/
theorem finish_behind {f : Filling σ} {out : Run σ Unit × List UInt8}
    (hin : offset + length ≤ f.buffer.length) (h : f.finish offset length = some out) :
    out.2.length = f.buffer.length ∧
      out.2.drop (offset + length) = f.buffer.drop (offset + length) := by
  refine finish.partial_correctness offset length
    (fun f out => offset + length ≤ f.buffer.length →
      out.2.length = f.buffer.length ∧
        out.2.drop (offset + length) = f.buffer.drop (offset + length)) ?_ f out h hin
  intro again ih f out h hin
  split at h
  · cases h
    exact ⟨rfl, rfl⟩
  rename_i hp
  have hfinish : f.position + (offset + length - f.position) = offset + length := by omega
  have hlaid (wrote : List UInt8) := patchRange_around [⟨wrote, 0⟩] (hfinish ▸ hin)
  rw [hfinish] at hlaid
  dsimp only at h
  split at h
  · cases h
    exact ⟨(hlaid _).1, (hlaid _).2.2⟩
  · cases h
    exact ⟨(hlaid _).1, (hlaid _).2.2⟩
  · obtain ⟨hlength, hbehind⟩ := ih _ _ h (by rw [(hlaid _).1]; exact hin)
    exact ⟨hlength.trans (hlaid _).1, hbehind.trans (hlaid _).2.2⟩

end Filling

section Draining

variable [Ending σ] {size total : Nat}

theorem drainFrom_of_end (h : Reader.read size s = (⟨wrote, .ok 0⟩, after)) :
    drainFrom size total s = ⟨.ok total, [.drained total size], after⟩ := by
  rw [drainFrom]
  split <;> rename_i heq <;> rw [h] at heq <;> cases heq
  rfl

theorem drainFrom_of_stop (h : Reader.read size s = (⟨wrote, .error stop⟩, after)) :
    drainFrom size total s = ⟨.error (.ofStop stop), [], after⟩ := by
  rw [drainFrom]
  split <;> rename_i heq <;> rw [h] at heq <;> cases heq
  rfl

theorem drainFrom_of_delivery (h : Reader.read size s = (⟨wrote, .ok (n + 1)⟩, after)) :
    drainFrom size total s = drainFrom size ((total + (n + 1)) % wordLimit) after := by
  rw [drainFrom]
  split <;> rename_i heq <;> rw [h] at heq <;> cases heq
  rfl

end Draining

end Wrapping

end ServiceKit.Transfer
