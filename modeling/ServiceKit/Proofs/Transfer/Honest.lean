import Mathlib.Data.Stream.Init
import ServiceKit.Proofs.Transfer.Agreement
import ServiceKit.Proofs.Transfer.Courses

/-!
Honest streams. A read of one fails and leaves all as it was, or hands over the next bytes, none at
all if it likes, and says how many. A range filled from such a stream holds the bytes that the reads
were answered with, each once and in order, and their number is told when the stream ends early.
-/

namespace ServiceKit.Transfer

open Text (wordLimit)

variable {σ : Type} [Reader σ]

/-- `R s p` says that `s` stands at byte `p` of the source. Whatever the schedule, a read lays the next
bytes of the source at the front of its room and moves past them, or fails. -/
structure Honest (source : Stream' UInt8) (R : σ → Nat → Prop) : Prop where
  delivered : ∀ {s p room wrote n after}, R s p →
    Reader.read room s = (⟨wrote, .ok n⟩, after) →
    n ≤ room ∧ wrote = (source.drop p).take n ∧ R after (p + n)
  failed : ∀ {s p room wrote stop after}, R s p →
    Reader.read room s = (⟨wrote, .error stop⟩, after) →
    wrote = [] ∧ (∃ f, stop = .fault f) ∧ R after p

/-- An honest stream whose skips move past the next bytes, or fail. One that fails may have moved on
all the same, but not by all that it was asked for. -/
structure HonestSkipping [Skipping σ] (source : Stream' UInt8) (R : σ → Nat → Prop) : Prop
    extends Honest source R where
  moved : ∀ {s p n r after}, R s p → Skipping.skip n s = (.ok r, after) → r ≤ n ∧ R after (p + r)
  stuck : ∀ {s p n stop after}, R s p → Skipping.skip n s = (.error stop, after) →
    (∃ f, stop = .fault f) ∧ ∃ lost ≤ n - 1, R after (p + lost)

namespace Scripted

/-- The source goes on with what is left of the script, and then with zeros. No call of the script
reports a count of its own. -/
structure At (source : Stream' UInt8) (s : Scripted) (p : Nat) : Prop where
  rest_eq : source.drop p = s.rest ++ₛ Stream'.const 0
  reads : ∀ n, .claim n ∉ s.reads
  skips : ∀ n, .claim n ∉ s.skips

variable {source : Stream' UInt8} {s : Scripted} {p : Nat} {a : Act} {acts : List Act}

theorem At.deliver (h : At source s p) (k : Nat) :
    Transfer.deliver k s.rest =
        ⟨(source.drop p).take (min k s.rest.length), .ok (min k s.rest.length)⟩ ∧
      At source { s with rest := s.rest.drop k } (p + min k s.rest.length) := by
  have hle : min k s.rest.length ≤ s.rest.length := Nat.min_le_right _ _
  refine ⟨?_, ?_, h.reads, h.skips⟩
  · rw [deliver_eq, h.rest_eq, Stream'.take_append_of_le_length _ _ _ hle]
  · rw [← Stream'.drop_drop, h.rest_eq, Stream'.drop_append_of_le_length _ _ _ hle,
      drop_min_length]

theorem At.read_on (h : At source s p) (hs : s.reads = a :: acts) :
    At source { s with reads := acts } p where
  rest_eq := h.rest_eq
  reads n hn := h.reads n (hs ▸ List.mem_cons_of_mem a hn)
  skips := h.skips

theorem At.skip_on (h : At source s p) (hs : s.skips = a :: acts) :
    At source { s with skips := acts } p where
  rest_eq := h.rest_eq
  reads := h.reads
  skips n hn := h.skips n (hs ▸ List.mem_cons_of_mem a hn)

end Scripted

theorem scripted_honest (source : Stream' UInt8) : HonestSkipping source (Scripted.At source) where
  delivered := by
    rintro ⟨rest, reads, skips⟩ p room wrote n after h hread
    match reads with
    | [] =>
      obtain ⟨hpiece, hafter⟩ := h.deliver room
      have hread : (deliver room rest, _) = _ := hread
      rw [hpiece] at hread
      cases hread
      exact ⟨Nat.min_le_left _ _, rfl, hafter⟩
    | .upTo k :: reads =>
      obtain ⟨hpiece, hafter⟩ := (h.read_on rfl).deliver (min room k)
      have hread : (deliver (min room k) rest, _) = _ := hread
      rw [hpiece] at hread
      cases hread
      exact ⟨by omega, rfl, hafter⟩
    | .claim k :: reads => exact absurd List.mem_cons_self (h.reads k)
    | .fail f :: reads => cases hread
  failed := by
    rintro ⟨rest, reads, skips⟩ p room wrote stop after h hread
    match reads with
    | [] => cases hread
    | .upTo k :: reads => cases hread
    | .claim k :: reads => exact absurd List.mem_cons_self (h.reads k)
    | .fail f :: reads =>
      cases hread
      exact ⟨rfl, ⟨f, rfl⟩, h.read_on rfl⟩
  moved := by
    rintro ⟨rest, reads, skips⟩ p n r after h hskip
    match skips with
    | [] =>
      cases hskip
      exact ⟨Nat.zero_le n, h⟩
    | .upTo k :: skips =>
      cases hskip
      exact ⟨by omega, ((h.skip_on rfl).deliver (min n k)).2⟩
    | .claim k :: skips => exact absurd List.mem_cons_self (h.skips k)
    | .fail f :: skips => cases hskip
  stuck := by
    rintro ⟨rest, reads, skips⟩ p n stop after h hskip
    match skips with
    | [] => cases hskip
    | .upTo k :: skips => cases hskip
    | .claim k :: skips => exact absurd List.mem_cons_self (h.skips k)
    | .fail f :: skips =>
      cases hskip
      exact ⟨⟨f, rfl⟩, 0, Nat.zero_le _, h.skip_on rfl⟩

theorem patch_cons {wrote room : List UInt8} (h : wrote.length ≤ room.length) (ps : List Patch) :
    patch (⟨wrote, wrote.length⟩ :: ps) room = wrote ++ patch ps (room.drop wrote.length) := by
  have hpiece := patch_cons_take ps (Nat.le_refl wrote.length) h
  rwa [List.take_length] at hpiece

namespace Honest

variable {source : Stream' UInt8} {R : σ → Nat → Prop} {position missing p : Nat} {s : σ}
  {made : List Call} {out : List Patch × Fetched × σ}

theorem consumed (hR : Honest source R) (h : Fetching position missing s made out) (hs : R s p) :
    R out.2.2 (p + gained made) := by
  induction h generalizing p with
  | full => exact hs
  | ended hm h => exact (hR.delivered hs h).2.2
  | stopped hm h => exact (hR.failed hs h).2.2
  | @overflow position missing n s after wrote hm hover h =>
    obtain ⟨hle, -, hafter⟩ := hR.delivered hs h
    have hgain : gained [Call.read missing (.ok (n + 1))] = n + 1 := Nat.min_eq_left hle
    rwa [hgain]
  | @delivered position missing n s after wrote made out hm hfits h more ih =>
    obtain ⟨hle, -, hafter⟩ := hR.delivered hs h
    have hgain : (Call.read missing (.ok (n + 1))).gain = n + 1 := Nat.min_eq_left hle
    rw [gained, hgain, ← Nat.add_assoc]
    exact ih hafter

/-- The bytes handed over lie at the front of the room, and the rest of the room is untouched. -/
theorem patched (hR : Honest source R) (h : Fetching position missing s made out) (hs : R s p)
    (hfit : position + missing < wordLimit) {room : List UInt8} (hroom : room.length = missing) :
    patch out.1 room = (source.drop p).take (gained made) ++ room.drop (gained made) := by
  induction h generalizing p room with
  | full => simp [patch, gained]
  | ended hm h =>
    obtain ⟨-, rfl, -⟩ := hR.delivered hs h
    simp [patch, layOver, gained, Call.gain, Call.answer]
  | stopped hm h =>
    obtain ⟨rfl, -, -⟩ := hR.failed hs h
    simp [patch, layOver, gained, Call.gain, Call.answer]
  | overflow hm hover h =>
    obtain ⟨hle, -, -⟩ := hR.delivered hs h
    omega
  | @delivered position missing n s after wrote made out hm hfits h more ih =>
    obtain ⟨hle, rfl, hafter⟩ := hR.delivered hs h
    have hgain : (Call.read missing (.ok (n + 1))).gain = n + 1 := Nat.min_eq_left hle
    have hlen : ((source.drop p).take (n + 1)).length = n + 1 := Stream'.length_take _ _
    have hle' : ((source.drop p).take (n + 1)).length ≤ room.length := by omega
    have hpiece := patch_cons hle' out.1
    have hbehind : (room.drop (n + 1)).length = missing - (n + 1) := by rw [List.length_drop, hroom]
    rw [hlen, ih hafter (by omega) hbehind, ← List.append_assoc, List.drop_drop,
      ← Stream'.drop_drop] at hpiece
    rw [hpiece, gained, hgain, Stream'.take_add (n + 1)]

theorem ne_overflow (hR : Honest source R) (h : Fetching position missing s made out) (hs : R s p)
    (hfit : position + missing < wordLimit) : out.2.1 ≠ .overflow := by
  induction h generalizing p with
  | full => simp
  | ended hm h => simp
  | stopped hm h => simp
  | overflow hm hover h =>
    obtain ⟨hle, -, -⟩ := hR.delivered hs h
    omega
  | delivered hm hfits h more ih =>
    obtain ⟨hle, -, hafter⟩ := hR.delivered hs h
    exact ih hafter (by omega)

theorem fault_of_stopped (hR : Honest source R) (h : Fetching position missing s made out)
    (hs : R s p) {stop : Stop} (hstop : out.2.1 = .stopped stop) : ∃ f, stop = .fault f := by
  induction h generalizing p with
  | full => cases hstop
  | ended hm h => cases hstop
  | stopped hm h =>
    cases hstop
    exact (hR.failed hs h).2.1
  | overflow hm hover h => cases hstop
  | delivered hm hfits h more ih => exact ih (hR.delivered hs h).2.2 hstop

/-- How a fetch from an honest stream ends: in full, or with a read that came back empty or failed. -/
theorem ending (hR : Honest source R) (h : Fetching position missing s made out) (hs : R s p)
    (hfit : position + missing < wordLimit) :
    (out.2.1 = .full ∧ (∀ c ∈ made, 0 < c.gain) ∧ gained made = missing) ∨
      ∃ before c, made = before ++ [c] ∧ (∀ d ∈ before, 0 < d.gain) ∧ gained made < missing ∧
        made.length ≤ gained made + 1 ∧
        (c.answer = .ok 0 ∧ out.2.1 = .ended (missing - gained made) ∨
          ∃ f, c.answer = .error (.fault f) ∧ out.2.1 = .stopped (.fault f)) := by
  rcases h.ending with hfull | ⟨before, c, rfl, hbefore, hlt, hend⟩
  · exact .inl hfull
  refine .inr ⟨before, c, rfl, hbefore, ?_⟩
  have hlength : (before ++ [c]).length ≤ gained before + 1 := by
    rw [List.length_append]
    exact Nat.succ_le_succ (length_le_gained hbefore)
  -- The last call brought nothing, whether it came back empty or failed.
  have hgained (hc : c.gain = 0) : gained (before ++ [c]) = gained before := by
    rw [gained_append, gained, hc]
    rfl
  rcases hend with ⟨hc, hended⟩ | ⟨stop, hc, hstopped⟩ | hover
  · rw [hgained (Call.gain_of_zero hc)]
    exact ⟨hlt, hlength, .inl ⟨hc, hended⟩⟩
  · obtain ⟨f, rfl⟩ := hR.fault_of_stopped h hs hstopped
    rw [hgained (Call.gain_of_error hc)]
    exact ⟨hlt, hlength, .inr ⟨f, hc, hstopped⟩⟩
  · exact absurd hover (hR.ne_overflow h hs hfit)

/-- A range of a buffer holds the bytes handed over at its front, and the buffer is the same
elsewhere. -/
theorem patchRange_eq (hR : Honest source R) {offset length : Nat} {buffer : List UInt8}
    (h : Fetching offset length s made out) (hs : R s p) (hin : offset + length ≤ buffer.length)
    (hbuffer : buffer.length < wordLimit) :
    patchRange out.1 offset length buffer =
      buffer.take offset ++ (source.drop p).take (gained made)
        ++ buffer.drop (offset + gained made) := by
  have hle := h.gained_le
  have hroom : length ≤ (buffer.drop offset).length := by
    rw [List.length_drop]
    omega
  unfold patchRange
  rw [hR.patched h hs (Nat.lt_of_le_of_lt hin hbuffer) (List.length_take_of_le hroom),
    ← List.drop_drop, ← List.drop_drop, List.append_assoc, List.append_assoc, List.append_assoc,
    drop_take_append_drop hroom, Nat.min_eq_right hle]

end Honest

/-- The bytes of the reads up to the first that comes back empty or fails come to lie in the range,
in order; they are all that is taken from the stream and all that changes. A premature end tells how
many they are. -/
theorem fillRange_of_honest {source : Stream' UInt8} {R : σ → Nat → Prop} (hR : Honest source R)
    {s : σ} {p : Nat} (hs : R s p) (buffer : List UInt8) (offset length : Nat)
    (hbuffer : buffer.length < wordLimit) :
    let run := fillRange buffer offset length (Recorded.start s)
    let calls := run.1.state.calls
    let t := gained calls
    fillRange buffer offset length s
        = (⟨run.1.result, run.1.notices, run.1.state.inner⟩, run.2) ∧
      (buffer.length < offset + length →
        run.1.result = .error (.error (.outsideBuffer offset length buffer.length)) ∧
        calls = [] ∧ run.1.state.inner = s ∧ run.2 = buffer) ∧
      (offset + length ≤ buffer.length →
        R run.1.state.inner (p + t) ∧
        run.2 = buffer.take offset ++ (source.drop p).take t ++ buffer.drop (offset + t) ∧
        ((run.1.result = .ok () ∧ t = length ∧ (∀ c ∈ calls, 0 < c.gain) ∧
            calls.length ≤ length) ∨
          ∃ before c, calls = before ++ [c] ∧ (∀ d ∈ before, 0 < d.gain) ∧ t < length ∧
            calls.length ≤ t + 1 ∧
            (c.answer = .ok 0 ∧
                run.1.result = .error (.error (.unexpectedEnd .read length t)) ∨
              ∃ f, c.answer = .error (.fault f) ∧ run.1.result = .error (.error (.fault f))))) := by
  intro run calls t
  rcases Nat.lt_or_ge buffer.length (offset + length) with hout | hin
  · have hrun : run = _ := fillRange_outside hout (Recorded.start s)
    refine ⟨?_, fun _ => ?_, fun hin => absurd hin (Nat.not_le_of_lt hout)⟩
    · rw [fillRange_outside hout, hrun]
      rfl
    · simp [calls, hrun, Recorded.start]
  obtain ⟨made, out, hcourse, hplain, hrecorded⟩ := exists_filling hin s
  have hrun : run = _ := hrecorded
  have hcalls : calls = made := by simp only [calls, hrun]
  have ht : t = gained made := by rw [← hcalls]
  refine ⟨by rw [hplain, hrun], fun hout => absurd hin (Nat.not_le_of_lt hout), fun _ => ?_⟩
  rw [ht, hcalls, hrun]
  refine ⟨hR.consumed hcourse hs, hR.patchRange_eq hcourse hs hin hbuffer, ?_⟩
  rcases hR.ending hcourse hs (Nat.lt_of_le_of_lt hin hbuffer) with ⟨hfull, hmade, hall⟩ |
    ⟨before, c, rfl, hbefore, hlt, hlength, hend⟩
  · refine .inl ⟨?_, hall, hmade, hall ▸ length_le_gained hmade⟩
    simp only [hfull, concludeRead]
  · refine .inr ⟨before, c, rfl, hbefore, hlt, hlength, ?_⟩
    rcases hend with ⟨hc, hended⟩ | ⟨f, hc, hstopped⟩
    · refine .inl ⟨hc, ?_⟩
      simp only [hended, concludeRead, Nat.sub_sub_self (Nat.le_of_lt hlt)]
    · refine .inr ⟨f, hc, ?_⟩
      simp only [hstopped, concludeRead, Halt.ofStop]

theorem fillRange_of_honest_script :
    let script : Scripted := ⟨[1, 2, 3, 4, 5, 6], [.upTo 2, .upTo 1, .upTo 0], []⟩
    let source := script.rest ++ₛ Stream'.const 0
    let run := fillRange (List.replicate 8 9) 2 5 (Recorded.start script)
    Scripted.At source script 0 ∧
      run.1.result = .error (.error (.unexpectedEnd .read 5 3)) ∧
      run.2 = [9, 9, 1, 2, 3, 9, 9, 9] ∧ Scripted.At source run.1.state.inner 3 := by
  intro script source run
  let calls : List Call := [.read 5 (.ok 2), .read 3 (.ok 1), .read 2 (.ok 0)]
  have hscript : Scripted.At source script 0 := ⟨rfl, by simp [script], by simp [script]⟩
  have hfetch : fetch 2 5 (Recorded.start script) =
      ([⟨[1, 2], 2⟩, ⟨[3], 1⟩, ⟨[], 0⟩], .ended 2, ⟨⟨[4, 5, 6], [], []⟩, calls⟩) := by
    rw [fetch_of_delivery (by decide) (by decide) rfl,
      fetch_of_delivery (by decide) (by decide) rfl, fetch_of_end (by decide) rfl]
    rfl
  have hrun : run.1 = ⟨.error (.error (.unexpectedEnd .read 5 3)), [.ended .read 5 3],
      ⟨⟨[4, 5, 6], [], []⟩, calls⟩⟩ := by
    have h : run = _ := fillRange_inside (by decide) (Recorded.start script)
    rw [h, hfetch]
    rfl
  have ht : gained run.1.state.calls = 3 := by rw [hrun]; rfl
  obtain ⟨-, -, hinside⟩ := fillRange_of_honest (scripted_honest source).toHonest hscript
    (List.replicate 8 9) 2 5 (by decide)
  obtain ⟨hafter, hbuffer, -⟩ := hinside (by decide)
  refine ⟨hscript, by rw [hrun], ?_, ?_⟩
  · rw [show run.2 = _ from hbuffer, ht]
    rfl
  · rw [← ht, ← Nat.zero_add (gained run.1.state.calls)]
    exact hafter

end ServiceKit.Transfer
