import ServiceKit.Proofs.Transfer.Wrapping
import ServiceKit.Transfer.Scripted

/-!
Filling a range from any reader, whatever counts it reports. The reads are offered what is left of
the range and nothing else, and the bytes around it stay as they are. The one thing that a count can
break is the position: it is moved on by what was reported, and sixty-four bits may not hold it. With
overflow checks the call ends there. Without them the position comes round, and the bytes in front of
the range are no longer safe.
-/

namespace ServiceKit.Transfer

open Text (wordLimit)

theorem concludeRead_eq_overflow {length : Nat} {fetched : Fetched} :
    (concludeRead length fetched).1 = .error .overflow ↔ fetched = .overflow := by
  cases fetched with
  | full | ended | overflow => simp [concludeRead]
  | stopped stop => cases stop <;> simp [concludeRead, Halt.ofStop]

theorem concludeRead_eq_overrun {length : Nat} {fetched : Fetched} :
    (concludeRead length fetched).1 = .error .overrun ↔ fetched = .stopped .overrun := by
  cases fetched with
  | full | ended | overflow => simp [concludeRead]
  | stopped stop => cases stop <;> simp [concludeRead, Halt.ofStop]

theorem concludeRead_eq_unexpectedEnd {length requested transferred : Nat} {operation : Operation}
    {fetched : Fetched}
    (h : (concludeRead length fetched).1
      = .error (.error (.unexpectedEnd operation requested transferred))) :
    ∃ missing, fetched = .ended missing ∧ operation = .read ∧ requested = length ∧
      transferred = length - missing := by
  cases fetched with
  | full | overflow => simp [concludeRead] at h
  | ended missing =>
    simp only [concludeRead, Except.error.injEq, Halt.error.injEq, TransferFault.unexpectedEnd.injEq]
      at h
    obtain ⟨rfl, rfl, rfl⟩ := h
    exact ⟨missing, rfl, rfl, rfl, rfl⟩
  | stopped stop => cases stop <;> simp [concludeRead, Halt.ofStop] at h

namespace Fetching

variable {σ : Type} [Reader σ] {position missing : Nat} {s : σ} {made : List Call}
  {out : List Patch × Fetched × σ}

/-- Each call is offered all that the counts before it have left over, and that is never nothing. -/
theorem asked_of_split (h : Fetching position missing s made out) {before after : List Call}
    {c : Call} (hsplit : made = before ++ c :: after) :
    0 < c.asked ∧ reported before + c.asked = missing := by
  induction h generalizing before with
  | full => simp at hsplit
  | ended hm | stopped hm | overflow hm =>
    cases before with
    | nil =>
      obtain ⟨rfl, -⟩ := List.cons.inj hsplit
      exact ⟨Nat.pos_of_ne_zero hm, Nat.zero_add _⟩
    | cons b before => simp at hsplit
  | delivered hm hfits h rest ih =>
    cases before with
    | nil =>
      obtain ⟨rfl, -⟩ := List.cons.inj hsplit
      exact ⟨Nat.pos_of_ne_zero hm, Nat.zero_add _⟩
    | cons b before =>
      obtain ⟨rfl, hmore⟩ := List.cons.inj hsplit
      obtain ⟨hpos, hasked⟩ := ih hmore
      rw [reported_delivered]
      omega

theorem reported_le (h : Fetching position missing s made out)
    (hkept : ∀ c ∈ made, c.count ≤ c.asked) : reported made ≤ missing := by
  rcases List.eq_nil_or_concat made with rfl | ⟨before, c, rfl⟩
  · exact Nat.zero_le _
  · rw [List.concat_eq_append] at h hkept ⊢
    have hasked := (h.asked_of_split rfl).2
    have hc := hkept c (List.mem_append_right _ List.mem_cons_self)
    rw [reported_append_singleton]
    omega

/-- The position overflows exactly where the counts reported lead beyond sixty-four bits. -/
theorem overflow_iff (h : Fetching position missing s made out) (hp : position < wordLimit) :
    out.2.1 = .overflow ↔ wordLimit ≤ position + reported made := by
  induction h with
  | full => simpa [reported] using hp
  | ended => simpa [reported, Call.count, Call.answer] using hp
  | stopped => simpa [reported, Call.count, Call.answer] using hp
  | overflow hm hover => simpa [reported, Call.count, Call.answer] using hover
  | delivered hm hfits h rest ih =>
    rw [ih hfits, reported_delivered, Nat.add_assoc]

/-- What is missing at the end of the stream is what the counts reported have left over. -/
theorem missing_of_ended (h : Fetching position missing s made out) {left : Nat}
    (hend : out.2.1 = .ended left) : 0 < left ∧ left + reported made = missing := by
  induction h with
  | full | stopped | overflow => cases hend
  | ended hm =>
    cases hend
    exact ⟨Nat.pos_of_ne_zero hm, rfl⟩
  | delivered hm hfits h rest ih =>
    have hrest := ih hend
    rw [reported_delivered]
    omega

/-- An unexpected end tells of the whole range and of what the reads reported, which is less. -/
theorem short_of_unexpectedEnd (h : Fetching position missing s made out) {operation : Operation}
    {requested transferred : Nat}
    (hend : (concludeRead missing out.2.1).1
      = .error (.error (.unexpectedEnd operation requested transferred))) :
    operation = .read ∧ requested = missing ∧ transferred = reported made ∧
      transferred < requested := by
  obtain ⟨left, hended, rfl, rfl, rfl⟩ := concludeRead_eq_unexpectedEnd hend
  obtain ⟨hpos, hsum⟩ := h.missing_of_ended hended
  exact ⟨rfl, rfl, by omega, by omega⟩

theorem answer_of_stopped (h : Fetching position missing s made out) {stop : Stop}
    (hstop : out.2.1 = .stopped stop) : ∃ before c, made = before ++ [c] ∧ c.answer = .error stop := by
  rcases h.ending with ⟨hfull, -⟩ | ⟨before, c, hmade, -, -, ⟨-, hended⟩ | ⟨stop', hc, hstopped⟩ | hover⟩
  · simp [hfull] at hstop
  · simp [hended] at hstop
  · obtain rfl := Fetched.stopped.inj (hstopped.symm.trans hstop)
    exact ⟨before, c, hmade, hc⟩
  · simp [hover] at hstop

end Fetching

variable {σ : Type} [Reader σ]

/-- Each read is offered all that the counts so far leave of the range, nothing outside it changes,
and the position overflows exactly if it cannot hold the sum of the counts. Up to there a build
without overflow checks does the same. -/
theorem fillRange_within_range {buffer : List UInt8} {offset length : Nat}
    (hbuffer : buffer.length < wordLimit) (hin : offset + length ≤ buffer.length) (s : σ) :
    let run := fillRange buffer offset length (Recorded.start s)
    let calls := run.1.state.calls
    fillRange buffer offset length s
        = (⟨run.1.result, run.1.notices, run.1.state.inner⟩, run.2) ∧
      (∀ before c after, calls = before ++ c :: after →
        0 < c.asked ∧ reported before + c.asked = length) ∧
      (run.2.length = buffer.length ∧ run.2.take offset = buffer.take offset ∧
        run.2.drop (offset + length) = buffer.drop (offset + length)) ∧
      (∀ operation requested transferred,
        run.1.result = .error (.error (.unexpectedEnd operation requested transferred)) →
        operation = .read ∧ requested = length ∧ transferred = reported calls ∧
          transferred < requested) ∧
      (run.1.result = .error .overflow ↔ wordLimit ≤ offset + reported calls) ∧
      ((∀ c ∈ calls, c.count ≤ c.asked) → run.1.result ≠ .error .overflow) ∧
      (run.1.result = .error .overrun →
        ∃ before c, calls = before ++ [c] ∧ c.answer = .error .overrun) ∧
      Wrapping.fillRange buffer offset length s =
        (if offset + reported calls < wordLimit then
          some (⟨run.1.result, run.1.notices, run.1.state.inner⟩, run.2)
        else Wrapping.Filling.finish offset length
          ⟨(offset + reported calls) % wordLimit, run.2, run.1.state.inner⟩) ∧
      (∀ out, Wrapping.fillRange buffer offset length s = some out →
        out.2.length = buffer.length ∧
          out.2.drop (offset + length) = buffer.drop (offset + length)) := by
  intro run calls
  obtain ⟨made, out, hcourse, hplain, hrecorded⟩ := exists_filling hin s
  have hrun : run = _ := hrecorded
  have hcalls : calls = made := by simp only [calls, hrun]
  have hresult : run.1.result = (concludeRead length out.2.1).1 := by rw [hrun]
  have hover : run.1.result = .error .overflow ↔ wordLimit ≤ offset + reported calls := by
    rw [hresult, concludeRead_eq_overflow, hcalls]
    exact hcourse.overflow_iff (by omega)
  have hasked : ∀ before c after, calls = before ++ c :: after →
      0 < c.asked ∧ reported before + c.asked = length :=
    fun before c after hsplit => hcourse.asked_of_split (hcalls ▸ hsplit)
  have hwrapping : Wrapping.fillRange buffer offset length s
      = Wrapping.Filling.finish offset length ⟨offset, buffer, s⟩ := if_pos hin
  refine ⟨by rw [hplain, hrun], hasked, ?_, ?_, hover, ?_, ?_, ?_, fun out hout => ?_⟩
  · rw [hrun]
    exact patchRange_around out.1 hin
  · intro operation requested transferred hend
    rw [hcalls]
    exact hcourse.short_of_unexpectedEnd (hresult ▸ hend)
  · intro hkept hoverflow
    have hle := hcourse.reported_le (hcalls ▸ hkept)
    have hbeyond := hover.mp hoverflow
    rw [hcalls] at hbeyond
    omega
  · intro hoverrun
    rw [hresult, concludeRead_eq_overrun] at hoverrun
    rw [hcalls]
    exact hcourse.answer_of_stopped hoverrun
  · rw [hwrapping, Wrapping.Filling.finish_of_fetching hcourse (by omega) (by omega) (by omega) hin,
      hcalls, hrun]
  · rw [hwrapping] at hout
    exact Wrapping.Filling.finish_behind hin hout

/-- A reader that hands over one byte, and then claims more than any position can hold. -/
theorem fillRange_within_range_claimed :
    let buffer : List UInt8 := List.replicate 8 9
    let script : Scripted := ⟨[1, 2, 3], [.upTo 1, .claim (wordLimit - 1)], []⟩
    let run := fillRange buffer 2 5 (Recorded.start script)
    buffer.length < wordLimit ∧ 2 + 5 ≤ buffer.length ∧ run.2.take 2 = [9, 9] ∧
      run.2.drop (2 + 5) = [9] ∧ run.1.result = .error .overflow := by
  intro buffer script run
  have hcalls : run.1.state.calls = [.read 5 (.ok 1), .read 4 (.ok (wordLimit - 1))] := by
    have h : run = _ := fillRange_inside (by decide) (Recorded.start script)
    rw [h, fetch_of_delivery (by decide) (by decide) rfl,
      fetch_of_overflow (by decide) (by decide) rfl]
    rfl
  obtain ⟨-, -, ⟨-, hfront, hback⟩, -, hover, -⟩ :=
    fillRange_within_range (by decide) (by decide : 2 + 5 ≤ buffer.length) script
  refine ⟨by decide, by decide, hfront, hback, hover.mpr ?_⟩
  rw [show (fillRange buffer 2 5 (Recorded.start script)).1.state.calls = _ from hcalls]
  decide

/-- A count that is far too large overflows the position, though the range is well inside its
buffer. Without checks the next read is laid over the byte in front of the range. -/
theorem fillRange_overflows_position :
    let script : Scripted := ⟨[1, 2], [.claim (wordLimit - 1)], []⟩
    (fillRange [0, 0, 0, 0] 1 2 script).1.result = .error .overflow ∧
      (Wrapping.fillRange [0, 0, 0, 0] 1 2 script).map (fun out => (out.1.result, out.2))
        = some (.error (.error (.unexpectedEnd .read 2 1)), [1, 2, 0, 0]) := by
  intro script
  refine ⟨?_, ?_⟩
  · rw [fillRange_inside (by decide), fetch_of_overflow (by decide) (by decide) rfl]
    rfl
  · rw [Wrapping.fillRange, if_pos (by decide), Wrapping.Filling.finish_of_delivery (by decide) rfl,
      Wrapping.Filling.finish_of_delivery (by decide) rfl,
      Wrapping.Filling.finish_of_end (by decide) rfl]
    rfl

end ServiceKit.Transfer
