import ServiceKit.Proofs.Channel.Turns
import ServiceKit.Proofs.Transfer.Promptness
import ServiceKit.Transfer.Buffered
import ServiceKit.Transfer.Scripted
import ServiceKit.Transfer.Unseekable

/-!
The first fault that a reader or a channel answers with ends the transfer, and the transfer fails
with it. This holds for every stream that stands on the reader, with one exception: a read that is
made in order to skip is made again when it is interrupted.
-/

namespace ServiceKit.Transfer

class Logged (σ : Type) where
  log : σ → List Call

instance {σ : Type} : Logged (Recorded σ) where
  log r := r.calls

instance {σ : Type} [Logged σ] : Logged (Buffered σ) where
  log b := Logged.log b.inner

instance {σ : Type} [Logged σ] : Logged (Unseekable σ) where
  log u := Logged.log u.inner

structure MarkedCall where
  skipping : Bool
  call : Call

instance : Answered MarkedCall where
  fault? m := Answered.fault? m.call

/-- A call is made again when it was made within a skip and interrupted. -/
def retried (m : MarkedCall) (f : Fault) : Prop := m.skipping = true ∧ f.isInterruption = true

structure Marked (σ : Type) where
  stream : σ
  calls : List MarkedCall

namespace Marked

variable {σ : Type} [Logged σ]

def start (s : σ) : Marked σ := ⟨s, []⟩

def note (skipping : Bool) (m : Marked σ) (after : σ) : Marked σ :=
  ⟨after, m.calls ++
    ((Logged.log after).drop (Logged.log m.stream).length).map (MarkedCall.mk skipping)⟩

variable [Reader σ]

instance : Reader (Marked σ) where
  read room m := ((Reader.read room m.stream).1, m.note false (Reader.read room m.stream).2)

instance [Skipping σ] : Skipping (Marked σ) where
  skip n m := ((Skipping.skip n m.stream).1, m.note true (Skipping.skip n m.stream).2)

/-- The marked calls are those that the stream has logged on top of `base`. -/
def Tallies (base : List Call) (m : Marked σ) : Prop :=
  Logged.log m.stream = base ++ m.calls.map MarkedCall.call

theorem read_eq {room : Nat} {m : Marked σ} {answer : ReadAnswer} {after : σ}
    (h : Reader.read room m.stream = (answer, after)) :
    Reader.read room m = (answer, m.note false after) := by
  show ((Reader.read room m.stream).1, m.note false (Reader.read room m.stream).2) = _
  rw [h]

theorem skip_eq [Skipping σ] {n : Nat} {m : Marked σ} {answer : Except Stop Nat} {after : σ}
    (h : Skipping.skip n m.stream = (answer, after)) :
    Skipping.skip n m = (answer, m.note true after) := by
  show ((Skipping.skip n m.stream).1, m.note true (Skipping.skip n m.stream).2) = _
  rw [h]

section Note

variable {α : Type} {m : Marked σ} {after : σ} {result : Except Halt α}
  {again : Call → Fault → Prop}

omit [Reader σ] in
theorem note_calls {made : List Call} (skipping : Bool)
    (h : Logged.log after = Logged.log m.stream ++ made) :
    (m.note skipping after).calls = m.calls ++ made.map (MarkedCall.mk skipping) := by
  rw [note, h, List.drop_left]

omit [Reader σ] in
theorem note_promptly {skipping : Bool}
    (hmark : ∀ c f, retried ⟨skipping, c⟩ f ↔ again c f)
    (h : RunsPromptly Logged.log again m.stream after result) :
    RunsPromptly Marked.calls retried m (m.note skipping after) result := by
  obtain ⟨made, hafter, hmade⟩ := h
  exact ⟨made.map (MarkedCall.mk skipping), note_calls skipping hafter,
    hmade.map (fun _ => rfl) hmark⟩

omit [Reader σ] in
theorem Tallies.note {base : List Call} (ht : m.Tallies base) (skipping : Bool)
    (h : RunsPromptly Logged.log again m.stream after result) :
    (m.note skipping after).Tallies base := by
  obtain ⟨made, hafter, -⟩ := h
  have hcalls : (made.map (MarkedCall.mk skipping)).map MarkedCall.call = made := by
    rw [List.map_map]
    exact List.map_id _
  show Logged.log after = _
  rw [note_calls skipping hafter, List.map_append, hcalls, hafter, ht, List.append_assoc]

end Note

theorem reads (hR : ReadsPromptly (Logged.log : σ → List Call) never) :
    ReadsPromptly (Marked.calls : Marked σ → List MarkedCall) retried := by
  intro room m
  exact note_promptly (fun c f => by simp [retried, never]) (hR room m.stream)

theorem steps [Skipping σ] (hS : StepsPromptly (Logged.log : σ → List Call) interrupted) :
    StepsPromptly (Marked.calls : Marked σ → List MarkedCall) retried := by
  intro n m
  exact note_promptly (fun c f => by simp [retried, interrupted]) (hS n m.stream)

/-- The marks change nothing, and they go with the calls that the stream logs. -/
theorem skipRemaining_stream [Skipping σ]
    (hR : ReadsPromptly (Logged.log : σ → List Call) never)
    (hS : StepsPromptly (Logged.log : σ → List Call) interrupted) {base : List Call}
    (length remaining : Nat) (s : σ) {m : Marked σ} (hm : m.stream = s) (ht : m.Tallies base) :
    (skipRemaining length remaining m).result = (skipRemaining length remaining s).result ∧
      (skipRemaining length remaining m).state.stream
        = (skipRemaining length remaining s).state ∧
      (skipRemaining length remaining m).state.Tallies base := by
  induction remaining, s using skipRemaining.induct generalizing m with
  | case1 s =>
    rw [skipRemaining_zero, skipRemaining_zero]
    exact ⟨rfl, hm, ht⟩
  | case2 remaining s hr stop after hskip =>
    subst hm
    rw [skipRemaining_of_stop hr hskip, skipRemaining_of_stop hr (skip_eq hskip)]
    exact ⟨rfl, rfl, ht.note true (hS.answer hskip)⟩
  | case3 remaining s hr n after hskip ih =>
    subst hm
    rw [skipRemaining_of_progress hr hskip, skipRemaining_of_progress hr (skip_eq hskip)]
    exact ih rfl (ht.note true (hS.answer hskip))
  | case4 remaining s hr after hskip wrote stop last hprobe =>
    subst hm
    have hmarked := read_eq (m := m.note true after) hprobe
    rw [skipRemaining_of_probe_stop hr hskip hprobe,
      skipRemaining_of_probe_stop hr (skip_eq hskip) hmarked]
    exact ⟨rfl, rfl, (ht.note true (hS.answer hskip)).note false (hR.answer hprobe)⟩
  | case5 remaining s hr after hskip wrote last hprobe =>
    subst hm
    have hmarked := read_eq (m := m.note true after) hprobe
    rw [skipRemaining_of_probe_end hr hskip hprobe,
      skipRemaining_of_probe_end hr (skip_eq hskip) hmarked]
    exact ⟨rfl, rfl, (ht.note true (hS.answer hskip)).note false (hR.answer hprobe)⟩
  | case6 remaining s hr after hskip wrote n last hprobe ih =>
    subst hm
    have hmarked := read_eq (m := m.note true after) hprobe
    rw [skipRemaining_of_probe_byte hr hskip hprobe,
      skipRemaining_of_probe_byte hr (skip_eq hskip) hmarked]
    exact ih rfl ((ht.note true (hS.answer hskip)).note false (hR.answer hprobe))

end Marked

section Standing

variable {σ : Type} [Reader σ]

theorem mapError_ofStop_eq_fault {α : Type} {outcome : Except Stop α} {f : Fault} :
    outcome.mapError Halt.ofStop = .error (.error (.fault f)) ↔ outcome = .error (.fault f) := by
  constructor
  · intro h
    cases outcome with
    | ok a => cases h
    | error stop =>
      cases stop with
      | overrun => cases h
      | fault g =>
        cases h
        rfl
  · rintro rfl
    rfl

theorem prompt_call (c : Call) : Prompt never [c] (c.answer.mapError Halt.ofStop) := by
  refine prompt_singleton fun f hf => mapError_ofStop_eq_fault.mpr ?_
  cases hanswer : c.answer with
  | ok n => simp [Answered.fault?, hanswer] at hf
  | error stop => cases stop <;> simp_all [Answered.fault?]

theorem Recorded.relays : Relays (Logged.log : Recorded σ → List Call) fun _ => True where
  reads := fun room r =>
    ⟨[.read room (Reader.read room r.inner).1.outcome], rfl, prompt_call (.read room _)⟩
  asks := by
    intro room r _
    show r.calls.length < (r.calls ++ [_]).length
    rw [List.length_append]
    exact Nat.lt_succ_self _
  dry_of_fault := fun _ _ _ _ => trivial

theorem Recorded.steps [Skipping σ] :
    StepsPromptly (Logged.log : Recorded σ → List Call) never := fun n r =>
  ⟨[.skip n (Skipping.skip n r.inner).1], rfl, prompt_call (.skip n _)⟩

namespace Buffered

/-- A read of an empty buffer is one read beneath, and a fault of the one is a fault of the other. -/
theorem read_of_empty {b : Buffered σ} (hp : b.pending = []) (room : Nat) :
    ∃ size, (b.read room).2.inner = (Reader.read size b.inner).2 ∧
      ∀ f, ((Reader.read size b.inner).1.outcome = .error (.fault f) ↔
          (b.read room).1.outcome = .error (.fault f)) ∧
        ((b.read room).1.outcome = .error (.fault f) → (b.read room).2.pending = []) := by
  by_cases hc : b.capacity ≤ room
  · refine ⟨room, ?_, fun f => ?_⟩
    · rw [read_of_large hp hc]
      rfl
    · rw [read_of_large hp hc]
      exact ⟨Iff.rfl, fun _ => hp⟩
  · rw [read_of_small hp (Nat.not_le.mp hc), refill]
    refine ⟨b.capacity, ?_⟩
    rcases hread : Reader.read b.capacity b.inner with ⟨⟨wrote, outcome⟩, inner⟩
    cases outcome with
    | error stop => exact ⟨rfl, fun f => ⟨Iff.rfl, fun _ => hp⟩⟩
    | ok n =>
      by_cases hn : n ≤ b.capacity
      · simp [hn, serve, deliver]
      · simp [hn]

variable [Logged σ] {dry : σ → Prop}

theorem relays (hR : Relays (Logged.log : σ → List Call) dry) :
    Relays (Logged.log : Buffered σ → List Call) fun b => b.pending = [] ∧ dry b.inner where
  reads := by
    intro room b
    by_cases hp : b.pending = []
    · obtain ⟨size, hinner, hfault⟩ := read_of_empty hp room
      have hread := hR.reads size b.inner
      rw [← hinner] at hread
      exact hread.imp fun f hf =>
        mapError_ofStop_eq_fault.mpr ((hfault f).1.mp (mapError_ofStop_eq_fault.mp hf))
    · rw [show Reader.read room b = serve room b from read_of_pending hp]
      exact ⟨[], (List.append_nil _).symm, prompt_nil⟩
  asks := by
    intro room b ⟨hp, hdry⟩
    obtain ⟨size, hinner, -⟩ := read_of_empty hp room
    show (Logged.log b.inner).length < (Logged.log (b.read room).2.inner).length
    rw [hinner]
    exact hR.asks size b.inner hdry
  dry_of_fault := by
    intro room b f hf
    by_cases hp : b.pending = []
    · obtain ⟨size, hinner, hfault⟩ := read_of_empty hp room
      refine ⟨(hfault f).2 hf, ?_⟩
      show dry (b.read room).2.inner
      rw [hinner]
      exact hR.dry_of_fault size b.inner f ((hfault f).1.mpr hf)
    · rw [show Reader.read room b = serve room b from read_of_pending hp] at hf
      cases hf

theorem steps [Patient σ] (hR : Relays (Logged.log : σ → List Call) dry) :
    StepsPromptly (Logged.log : Buffered σ → List Call) interrupted := by
  intro n b
  by_cases hp : b.pending = []
  · rw [skip_of_empty hp]
    exact ((relays hR).passBy n 0 b).1
  · rw [skip_of_pending hp]
    exact ⟨[], (List.append_nil _).symm, prompt_nil⟩

end Buffered

namespace Unseekable

variable [Logged σ] {dry : σ → Prop}

theorem relays (hR : Relays (Logged.log : σ → List Call) dry) :
    Relays (Logged.log : Unseekable σ → List Call) fun u => dry u.inner where
  reads room u := hR.reads room u.inner
  asks room u := hR.asks room u.inner
  dry_of_fault room u f := hR.dry_of_fault room u.inner f

theorem steps [Patient σ] (hR : Relays (Logged.log : σ → List Call) dry) :
    StepsPromptly (Logged.log : Unseekable σ → List Call) interrupted := fun n u =>
  ((relays hR).passBy n 0 u).1

end Unseekable

end Standing

section Channels

variable {σ : Type} [Channel σ]

theorem offer_promptly (data : List UInt8) (position : Nat) (r : Channel.Recorded σ) :
    RunsPromptly Channel.Recorded.calls never r (Channel.offer data position r).2
      ((Channel.offer data position r).1.mapError fun f => Halt.error (.fault f)) := by
  refine ⟨[⟨position, data.length, (Channel.offer data position r.inner).1⟩], rfl,
    prompt_singleton fun f hf => ?_⟩
  show (Channel.offer data position r.inner).1.mapError _ = _
  cases hanswer : (Channel.offer data position r.inner).1 with
  | ok n => simp [Answered.fault?, hanswer] at hf
  | error g =>
    obtain rfl : g = f := by simpa [Answered.fault?, hanswer] using hf
    rfl

theorem writeRemaining_promptly (data : List UInt8) (position : Nat) (r : Channel.Recorded σ) :
    RunsPromptly Channel.Recorded.calls never r (Channel.writeRemaining data position r).2
      ((Channel.writeRemaining data position r).1.mapError Halt.error) := by
  induction data, position, r using Channel.writeRemaining.induct with
  | case1 position r =>
    rw [Channel.writeRemaining_nil]
    exact .refl r _
  | case2 data position r hd f after hoffer =>
    have hstep := offer_promptly data position r
    rw [hoffer] at hstep
    rw [Channel.writeRemaining_of_fault hd hoffer]
    exact hstep.of_error
  | case3 data position r hd n after hoffer ih =>
    have hstep := offer_promptly data position r
    rw [hoffer] at hstep
    rw [Channel.writeRemaining_of_taken hd hoffer]
    exact hstep.trans ih

theorem writeAll_promptly (data : List UInt8) (position : Nat) (r : Channel.Recorded σ) :
    RunsPromptly Channel.Recorded.calls never r (Channel.writeAll data position r).2
      ((Channel.writeAll data position r).1.mapError Halt.error) := by
  unfold Channel.writeAll
  split
  · exact .refl r _
  · exact writeRemaining_promptly data position r

end Channels

/-- Filling a range fails with the first fault, and the call that it answered is the last. -/
def FillsPromptly (σ : Type) [Reader σ] [Logged σ] : Prop :=
  ∀ buffer offset length (s : σ),
    let run := (fillRange buffer offset length s).1
    RunsPromptly Logged.log never s run.state run.result

def DrainsPromptly (σ : Type) [Reader σ] [Ending σ] [Logged σ] : Prop :=
  ∀ size (s : σ), RunsPromptly Logged.log never s (drain size s).state (drain size s).result

def SkipsPromptly (σ : Type) [Reader σ] [Skipping σ] [Logged σ] : Prop :=
  ∀ length (s : σ),
    RunsPromptly Logged.log never s (skipExactly length s).state (skipExactly length s).result

def WritesPromptly (σ : Type) [Channel σ] : Prop :=
  ∀ data position (r : Channel.Recorded σ),
    let run := Channel.writeAll data position r
    RunsPromptly Channel.Recorded.calls never r run.2 (run.1.mapError Halt.error)

/-- Marked calls show which faults a skip fails with: all but the interruptions that came to it
within a skip of the stream's own. These are met by another call, so the skip is prompt exactly if
there were none. -/
def SkipsByReading (σ : Type) [Reader σ] [Skipping σ] [Logged σ] : Prop :=
  ∀ length (s : σ),
    let plain := skipExactly length s
    let run := skipExactly length (Marked.start s)
    run.result = plain.result ∧ run.state.stream = plain.state ∧
      Logged.log plain.state = Logged.log s ++ run.state.calls.map MarkedCall.call ∧
      Prompt retried run.state.calls run.result ∧
      (Prompt never run.state.calls run.result ↔
        ∀ m ∈ run.state.calls, ∀ f, Answered.fault? m = some f → ¬ retried m f)

theorem skipsByReading {σ : Type} [Reader σ] [Skipping σ] [Logged σ]
    (hR : ReadsPromptly (Logged.log : σ → List Call) never)
    (hS : StepsPromptly (Logged.log : σ → List Call) interrupted) : SkipsByReading σ := by
  intro length s plain run
  have ht : (Marked.start s).Tallies (Logged.log s) := (List.append_nil _).symm
  obtain ⟨hresult, hstream, htally⟩ := Marked.skipRemaining_stream hR hS length length s rfl ht
  obtain ⟨made, hmade, hprompt⟩ :=
    (Marked.reads hR).skipRemaining (Marked.steps hS) length length (Marked.start s)
  have hcalls : run.state.calls = made := hmade
  have hlog : Logged.log run.state.stream = Logged.log s ++ made.map MarkedCall.call :=
    hcalls ▸ htally
  have hplain : run.state.stream = plain.state := hstream
  rw [← hplain, hcalls]
  exact ⟨hresult, rfl, hlog, hprompt, hprompt.never_iff⟩

/-- Whatever the reader or the channel, and whether the stream is the reader itself, a buffer over
it or a file that cannot seek: a fault ends the transfer at once, but for an interrupted read that is
made in order to skip. -/
theorem first_fault_ends (σ ρ : Type) [Reader σ] [Channel ρ] :
    (FillsPromptly (Recorded σ) ∧ FillsPromptly (Buffered (Recorded σ)) ∧
        FillsPromptly (Unseekable (Recorded σ))) ∧
      (∀ [Ending σ], DrainsPromptly (Recorded σ) ∧ DrainsPromptly (Buffered (Recorded σ)) ∧
        DrainsPromptly (Unseekable (Recorded σ))) ∧
      (∀ [Skipping σ], SkipsPromptly (Recorded σ)) ∧
      (∀ [Patient σ], SkipsByReading (Buffered (Recorded σ)) ∧
        SkipsByReading (Unseekable (Recorded σ))) ∧
      WritesPromptly ρ := by
  have hdirect : Relays (Logged.log : Recorded σ → List Call) _ := Recorded.relays
  have hbuffered := Buffered.relays hdirect
  have hunseekable := Unseekable.relays hdirect
  refine ⟨?_, ?_, ?_, ?_, ?_⟩
  · exact ⟨hdirect.reads.fillRange, hbuffered.reads.fillRange, hunseekable.reads.fillRange⟩
  · intro _
    exact ⟨hdirect.reads.drain, hbuffered.reads.drain, hunseekable.reads.drain⟩
  · intro _ length r
    exact hdirect.reads.skipRemaining Recorded.steps length length r
  · intro _
    exact ⟨skipsByReading hbuffered.reads (Buffered.steps hdirect),
      skipsByReading hunseekable.reads (Unseekable.steps hdirect)⟩
  · exact writeAll_promptly

/-- A buffer whose first fill is interrupted: the skip asks again and ends well. -/
theorem skip_after_interruption :
    let script : Scripted := ⟨[1, 2], [.fail (.bare .interrupted)], []⟩
    let buffered := Buffered.ofReader 4 (⟨script, []⟩ : Recorded Scripted)
    let run := skipExactly 1 buffered
    run.result = .ok () ∧
      run.state.inner.calls =
        [.read 4 (.error (.fault (.bare .interrupted))), .read 4 (.ok 2)] ∧
      ¬ SkipsPromptly (Buffered (Recorded Scripted)) := by
  intro script buffered run
  let interruption : Stop := .fault (.bare .interrupted)
  let retry : Buffered (Recorded Scripted) :=
    ⟨⟨⟨[1, 2], [], []⟩, [.read 4 (.error interruption)]⟩, 4, [], [0, 0, 0, 0]⟩
  let last : Buffered (Recorded Scripted) :=
    ⟨⟨⟨[], [], []⟩, [.read 4 (.error interruption), .read 4 (.ok 2)]⟩, 4, [2], [1, 2, 0, 0]⟩
  have hfirst : Reader.read (min chunkSize 1) buffered = (⟨[], .error interruption⟩, retry) := rfl
  have hsecond : Reader.read (min chunkSize 1) retry = (⟨[1], .ok (0 + 1)⟩, last) := rfl
  have hskip : Skipping.skip 1 buffered = (.ok (0 + 1), last) := by
    show passBy 1 0 buffered = _
    rw [passBy_of_interruption Nat.one_ne_zero rfl hfirst,
      passBy_of_delivery Nat.one_ne_zero (by decide) hsecond]
    exact passBy_zero 1 last
  have hrun : skipExactly 1 buffered = ⟨.ok (), [], last⟩ := by
    show skipRemaining 1 1 buffered = _
    rw [skipRemaining_of_progress Nat.one_ne_zero hskip]
    exact skipRemaining_zero 1 last
  refine ⟨by rw [show run = _ from hrun], by rw [show run = _ from hrun], fun hprompt => ?_⟩
  obtain ⟨made, hmade, hall⟩ := hprompt 1 buffered
  rw [hrun] at hmade
  have hsplit : made = [] ++ .read 4 (.error interruption) :: [.read 4 (.ok 2)] := hmade.symm
  exact absurd (hall.of_never hsplit rfl).1 (List.cons_ne_nil _ _)

end ServiceKit.Transfer
