import ServiceKit.Proofs.Transfer.WithinRange

/-!
Reading a stream to its end. A stream is emptied by reads of one size, up to the first that comes
back empty or is stopped. A drain makes these reads and adds up the counts they report. The sum is
exact as long as sixty-four bits hold it. Where they do not, a drain with overflow checks breaks off
at the read that led beyond, and one without makes all the reads and tells what is left of the sum.
-/

namespace ServiceKit.Transfer

open Text (wordLimit)

variable {σ : Type} [Reader σ]

/-- The reads of `size` bytes that empty a stream: the calls, what the last one ended them with, and
the stream after it. -/
inductive Emptying (size : Nat) : σ → List Call → Except Stop Unit → σ → Prop
  | ended {s last : σ} {wrote : List UInt8} (h : Reader.read size s = (⟨wrote, .ok 0⟩, last)) :
      Emptying size s [.read size (.ok 0)] (.ok ()) last
  | stopped {s last : σ} {wrote : List UInt8} {stop : Stop}
      (h : Reader.read size s = (⟨wrote, .error stop⟩, last)) :
      Emptying size s [.read size (.error stop)] (.error stop) last
  | delivered {s after last : σ} {wrote : List UInt8} {n : Nat} {made : List Call}
      {verdict : Except Stop Unit} (h : Reader.read size s = (⟨wrote, .ok (n + 1)⟩, after))
      (rest : Emptying size after made verdict last) :
      Emptying size s (.read size (.ok (n + 1)) :: made) verdict last

theorem exists_emptying [Ending σ] (size : Nat) (s : σ) :
    ∃ made verdict last, Emptying size s made verdict last := by
  induction hk : Ending.supply s using Nat.strongRecOn generalizing s with
  | ind k ih =>
  rcases hread : Reader.read size s with ⟨⟨wrote, outcome⟩, after⟩
  cases outcome with
  | error stop => exact ⟨_, _, after, .stopped hread⟩
  | ok n =>
    cases n with
    | zero => exact ⟨_, _, after, .ended hread⟩
    | succ n =>
      have hlt : Ending.supply after < k := by
        have hsupply := Ending.supply_lt size s n (by rw [hread])
        rwa [hread, hk] at hsupply
      obtain ⟨made, verdict, last, hmore⟩ := ih _ hlt after rfl
      exact ⟨_, verdict, last, .delivered hread hmore⟩

/-- How a drain comes out that counted `total` bytes up to the read that ended it. -/
def concludeDrain (size total : Nat) : Except Stop Unit → Except Halt Nat × List Notice
  | .ok () => (.ok total, [.drained total size])
  | .error stop => (.error (.ofStop stop), [])

namespace Emptying

variable {size : Nat} {s last : σ} {made : List Call} {verdict : Except Stop Unit}

variable [Ending σ]

/-- A drain whose sum fits makes all the reads, whether a record is kept or not. -/
theorem drainFrom_eq (h : Emptying size s made verdict last) {total : Nat}
    (hfit : total + reported made < wordLimit) :
    drainFrom size total s =
        ⟨(concludeDrain size (total + reported made) verdict).1,
          (concludeDrain size (total + reported made) verdict).2, last⟩ ∧
      ∀ calls, drainFrom size total (⟨s, calls⟩ : Recorded σ) =
        ⟨(concludeDrain size (total + reported made) verdict).1,
          (concludeDrain size (total + reported made) verdict).2, ⟨last, calls ++ made⟩⟩ := by
  induction h generalizing total with
  | ended h =>
    refine ⟨drainFrom_of_end h, fun calls => ?_⟩
    rw [drainFrom_of_end (Recorded.read_eq h calls)]
    rfl
  | stopped h =>
    refine ⟨drainFrom_of_stop h, fun calls => ?_⟩
    rw [drainFrom_of_stop (Recorded.read_eq h calls)]
    rfl
  | @delivered s after last wrote n made verdict h rest ih =>
    rw [reported_delivered, ← Nat.add_assoc] at hfit ⊢
    have hn : total + (n + 1) < wordLimit := by omega
    obtain ⟨hplain, hrecorded⟩ := ih hfit
    refine ⟨by rw [drainFrom_of_delivery hn h, hplain], fun calls => ?_⟩
    rw [drainFrom_of_delivery hn (Recorded.read_eq h calls), hrecorded, List.append_assoc,
      List.singleton_append]

theorem drainFrom_overflow (h : Emptying size s made verdict last) {total : Nat}
    (ht : total < wordLimit) (hover : wordLimit ≤ total + reported made) :
    ∃ before c rest after, made = before ++ c :: rest ∧ total + reported before < wordLimit ∧
      wordLimit ≤ total + reported before + c.count ∧
      drainFrom size total s = ⟨.error .overflow, [], after⟩ ∧
      ∀ calls, drainFrom size total (⟨s, calls⟩ : Recorded σ) =
        ⟨.error .overflow, [], ⟨after, calls ++ (before ++ [c])⟩⟩ := by
  induction h generalizing total with
  | ended | stopped => simp only [reported, Call.count, Call.answer] at hover; omega
  | @delivered s after last wrote n made verdict h rest ih =>
    by_cases hn : total + (n + 1) < wordLimit
    · rw [reported_delivered, ← Nat.add_assoc] at hover
      obtain ⟨before, c, more, final, rfl, hfit, hbeyond, hplain, hrecorded⟩ := ih hn hover
      refine ⟨.read size (.ok (n + 1)) :: before, c, more, final, rfl, ?_, ?_, ?_, fun calls => ?_⟩
      · rwa [reported_delivered, ← Nat.add_assoc]
      · rwa [reported_delivered, ← Nat.add_assoc]
      · rw [drainFrom_of_delivery hn h, hplain]
      · rw [drainFrom_of_delivery hn (Recorded.read_eq h calls), hrecorded, List.append_assoc]
        rfl
    · have hn : wordLimit ≤ total + (n + 1) := Nat.le_of_not_lt hn
      refine ⟨[], .read size (.ok (n + 1)), made, after, rfl, ht, hn, ?_, fun calls => ?_⟩
      · rw [drainFrom_of_overflow hn h]
      · rw [drainFrom_of_overflow hn (Recorded.read_eq h calls)]
        rfl

theorem drain_eq (h : Emptying size s made verdict last) (hsize : size ≠ 0)
    (hfit : reported made < wordLimit) :
    drain size s = ⟨(concludeDrain size (reported made) verdict).1,
        (concludeDrain size (reported made) verdict).2, last⟩ ∧
      drain size (Recorded.start s) = ⟨(concludeDrain size (reported made) verdict).1,
        (concludeDrain size (reported made) verdict).2, ⟨last, made⟩⟩ := by
  rw [← Nat.zero_add (reported made)] at hfit ⊢
  obtain ⟨hplain, hrecorded⟩ := h.drainFrom_eq hfit
  rw [drain, drain, if_neg hsize, if_neg hsize]
  exact ⟨hplain, hrecorded []⟩

theorem drain_overflow (h : Emptying size s made verdict last) (hsize : size ≠ 0)
    (hover : wordLimit ≤ reported made) :
    ∃ before c rest after, made = before ++ c :: rest ∧ reported before < wordLimit ∧
      wordLimit ≤ reported before + c.count ∧ drain size s = ⟨.error .overflow, [], after⟩ ∧
      drain size (Recorded.start s) = ⟨.error .overflow, [], ⟨after, before ++ [c]⟩⟩ := by
  rw [← Nat.zero_add (reported made)] at hover
  obtain ⟨before, c, rest, after, hmade, hfit, hbeyond, hplain, hrecorded⟩ :=
    h.drainFrom_overflow (by decide) hover
  rw [Nat.zero_add] at hfit hbeyond
  refine ⟨before, c, rest, after, hmade, hfit, hbeyond, ?_, ?_⟩
  · rw [drain, if_neg hsize, hplain]
  · rw [drain, if_neg hsize, Recorded.start, hrecorded, List.nil_append]

/-- A drain without overflow checks makes all the reads, and its sum comes round. -/
theorem wrapping_drainFrom (h : Emptying size s made verdict last) {total : Nat}
    (ht : total < wordLimit) :
    Wrapping.drainFrom size total s =
        ⟨(concludeDrain size ((total + reported made) % wordLimit) verdict).1,
          (concludeDrain size ((total + reported made) % wordLimit) verdict).2, last⟩ ∧
      ∀ calls, Wrapping.drainFrom size total (⟨s, calls⟩ : Recorded σ) =
        ⟨(concludeDrain size ((total + reported made) % wordLimit) verdict).1,
          (concludeDrain size ((total + reported made) % wordLimit) verdict).2,
          ⟨last, calls ++ made⟩⟩ := by
  induction h generalizing total with
  | @ended s last wrote h =>
    have htotal : (total + reported [.read size (.ok 0)]) % wordLimit = total :=
      Nat.mod_eq_of_lt ht
    rw [htotal]
    refine ⟨Wrapping.drainFrom_of_end h, fun calls => ?_⟩
    rw [Wrapping.drainFrom_of_end (Recorded.read_eq h calls)]
    rfl
  | stopped h =>
    refine ⟨Wrapping.drainFrom_of_stop h, fun calls => ?_⟩
    rw [Wrapping.drainFrom_of_stop (Recorded.read_eq h calls)]
    rfl
  | @delivered s after last wrote n made verdict h rest ih =>
    have hround : ((total + (n + 1)) % wordLimit + reported made) % wordLimit
        = (total + reported (.read size (.ok (n + 1)) :: made)) % wordLimit := by
      rw [Nat.mod_add_mod, reported_delivered, Nat.add_assoc]
    obtain ⟨hplain, hrecorded⟩ := ih (Nat.mod_lt (total + (n + 1)) (Nat.two_pow_pos 64))
    rw [hround] at hplain hrecorded
    refine ⟨by rw [Wrapping.drainFrom_of_delivery h, hplain], fun calls => ?_⟩
    rw [Wrapping.drainFrom_of_delivery (Recorded.read_eq h calls), hrecorded, List.append_assoc,
      List.singleton_append]

theorem wrapping_drain (h : Emptying size s made verdict last) (hsize : size ≠ 0) :
    Wrapping.drain size s =
        ⟨(concludeDrain size (reported made % wordLimit) verdict).1,
          (concludeDrain size (reported made % wordLimit) verdict).2, last⟩ ∧
      Wrapping.drain size (Recorded.start s) =
        ⟨(concludeDrain size (reported made % wordLimit) verdict).1,
          (concludeDrain size (reported made % wordLimit) verdict).2, ⟨last, made⟩⟩ := by
  obtain ⟨hplain, hrecorded⟩ := h.wrapping_drainFrom (Nat.two_pow_pos 64)
  rw [Nat.zero_add] at hplain hrecorded
  rw [Wrapping.drain, Wrapping.drain, if_neg hsize, if_neg hsize]
  exact ⟨hplain, hrecorded []⟩

end Emptying

/-- A drain gives the sum of the counts exactly if sixty-four bits hold it. Otherwise the addition
overflows: with overflow checks nothing is read behind the count that leads beyond, and without them
all is read and the sum comes round. -/
theorem drain_eq_reported [Ending σ] {size : Nat} (hsize : size ≠ 0) {s last : σ}
    {made : List Call} (h : Emptying size s made (.ok ()) last) :
    let run := drain size (Recorded.start s)
    drain size s = ⟨run.result, run.notices, run.state.inner⟩ ∧
      (∀ total, run.result = .ok total ↔ total = reported made ∧ reported made < wordLimit) ∧
      (reported made < wordLimit → run.state = ⟨last, made⟩) ∧
      (run.result = .error .overflow ↔ wordLimit ≤ reported made) ∧
      (wordLimit ≤ reported made → ∃ before c rest, made = before ++ c :: rest ∧
        run.state.calls = before ++ [c] ∧ reported before < wordLimit ∧
        wordLimit ≤ reported before + c.count) ∧
      Wrapping.drain size s = ⟨.ok (reported made % wordLimit),
        [.drained (reported made % wordLimit) size], last⟩ ∧
      Wrapping.drain size (Recorded.start s) = ⟨.ok (reported made % wordLimit),
        [.drained (reported made % wordLimit) size], ⟨last, made⟩⟩ := by
  intro run
  have hwrapping := h.wrapping_drain hsize
  rcases Nat.lt_or_ge (reported made) wordLimit with hfit | hover
  · obtain ⟨hplain, hrecorded⟩ := h.drain_eq hsize hfit
    have hrun : run = ⟨.ok (reported made), [.drained (reported made) size], ⟨last, made⟩⟩ :=
      hrecorded
    rw [hrun]
    refine ⟨hplain, fun total => ⟨fun htotal => ?_, ?_⟩, fun _ => rfl, ⟨nofun, fun hover => ?_⟩,
      fun hover => ?_, hwrapping⟩
    · exact ⟨(Except.ok.inj htotal).symm, hfit⟩
    · rintro ⟨rfl, -⟩
      rfl
    · omega
    · omega
  · obtain ⟨before, c, rest, after, hmade, hbefore, hbeyond, hplain, hrecorded⟩ :=
      h.drain_overflow hsize hover
    have hrun : run = ⟨.error .overflow, [], ⟨after, before ++ [c]⟩⟩ := hrecorded
    rw [hrun]
    refine ⟨hplain, fun total => ⟨nofun, fun htotal => ?_⟩, fun hfit => ?_, ⟨fun _ => hover,
      fun _ => rfl⟩, fun _ => ⟨before, c, rest, hmade, rfl, hbefore, hbeyond⟩, hwrapping⟩
    · omega
    · omega

/-- A reader that claims far more than it was offered room for. -/
theorem drain_eq_reported_claims :
    let script : Scripted := ⟨[], [.claim 5, .claim (wordLimit - 10), .claim 1], []⟩
    let made : List Call :=
      [.read 4 (.ok 5), .read 4 (.ok (wordLimit - 10)), .read 4 (.ok 1), .read 4 (.ok 0)]
    4 ≠ 0 ∧ Emptying 4 script made (.ok ()) ⟨[], [], []⟩ ∧
      (drain 4 script).result = .ok (wordLimit - 4) := by
  intro script made
  have hmade : Emptying 4 script made (.ok ()) ⟨[], [], []⟩ :=
    .delivered rfl (.delivered rfl (.delivered rfl (.ended rfl)))
  obtain ⟨hplain, hok, -⟩ := drain_eq_reported (by decide) hmade
  refine ⟨by decide, hmade, ?_⟩
  rw [hplain]
  exact (hok (wordLimit - 4)).mpr (by decide)

/-- Two counts whose sum is one more than sixty-four bits hold. Without checks nothing is told of
them. -/
theorem drain_overflows_total :
    let script : Scripted := ⟨[], [.claim (wordLimit - 1), .claim 1], []⟩
    Emptying 4 script [.read 4 (.ok (wordLimit - 1)), .read 4 (.ok 1), .read 4 (.ok 0)] (.ok ())
        ⟨[], [], []⟩ ∧
      (drain 4 script).result = .error .overflow ∧ (Wrapping.drain 4 script).result = .ok 0 := by
  intro script
  refine ⟨.delivered rfl (.delivered rfl (.ended rfl)), ?_, ?_⟩
  · rw [drain, if_neg (by decide), drainFrom_of_delivery (by decide) rfl,
      drainFrom_of_overflow (by decide) rfl]
  · rw [Wrapping.drain, if_neg (by decide), Wrapping.drainFrom_of_delivery rfl,
      Wrapping.drainFrom_of_delivery rfl, Wrapping.drainFrom_of_end rfl]
    rfl

end ServiceKit.Transfer
