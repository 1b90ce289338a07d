import Mathlib.Data.Nat.Find
import ServiceKit.Proofs.Channel.Overwrite

/-!
The offers of a write, one after the other. Each holds what the channel has not accepted yet and goes
to the place behind what it has. The write ends when nothing is left or with the first fault, and a
channel that stores what it accepts then holds that much of the data and is untouched elsewhere.
-/

namespace ServiceKit.Channel

open Text (wordLimit)

/-- An offer as the channel received it, and the answer to it. -/
structure Offer where
  data : List UInt8
  position : Nat
  answer : Except Fault Nat

/-- How much of an offer was accepted: the count answered, but no more than there was. -/
def Offer.taken (o : Offer) : Nat :=
  match o.answer with
  | .ok n => min n o.data.length
  | .error _ => 0

def accepted : List Offer → Nat
  | [] => 0
  | o :: rest => o.taken + accepted rest

structure Overheard (σ : Type) where
  inner : σ
  offers : List Offer

def laid (data : List UInt8) (position : Nat) (bytes : Nat → UInt8) (q : Nat) : UInt8 :=
  if position ≤ q then data.getD (q - position) (bytes q) else bytes q

theorem laid_eq (data : List UInt8) (position : Nat) (bytes : Nat → UInt8) (q : Nat) :
    laid data position bytes q = (byteAt? data position q).getD (bytes q) := by
  unfold laid byteAt?
  split
  · exact List.getD_eq_getElem?_getD
  · rfl

@[simp]
theorem laid_nil (position : Nat) (bytes : Nat → UInt8) : laid [] position bytes = bytes := by
  funext q
  rw [laid_eq, byteAt?_nil, Option.getD_none]

theorem laid_append (first rest : List UInt8) (position : Nat) (bytes : Nat → UInt8) :
    laid (first ++ rest) position bytes
      = laid rest (position + first.length) (laid first position bytes) := by
  funext q
  rw [laid_eq, laid_eq, laid_eq, byteAt?_append, Option.getD_or]

section

variable {σ : Type} [Channel σ]

def Overheard.offer (data : List UInt8) (position : Nat) (c : Overheard σ) :
    Except Fault Nat × Overheard σ :=
  ((Channel.offer data position c.inner).1,
    ⟨(Channel.offer data position c.inner).2,
      c.offers ++ [⟨data, position, (Channel.offer data position c.inner).1⟩]⟩)

instance : Channel (Overheard σ) where
  offer data position c := c.offer data position
  slack c := Channel.slack c.inner
  slack_lt data position c hd h := Channel.slack_lt data position c.inner hd h

/-- `R s bytes` says that `s` holds `bytes`. What the channel accepts of an offer it stores where the
offer went, and that is all it stores. -/
structure Stores (R : σ → (Nat → UInt8) → Prop) : Prop where
  taken : ∀ {s bytes data position n after}, R s bytes →
    Channel.offer data position s = (.ok n, after) → R after (laid (data.take n) position bytes)
  failed : ∀ {s bytes data position f after}, R s bytes →
    Channel.offer data position s = (.error f, after) → R after bytes

/-- The course of a write: the offers it makes and what it comes to. -/
inductive Course : List UInt8 → Nat → σ → List Offer → Except TransferFault Unit × σ → Prop
  | done {position : Nat} {s : σ} : Course [] position s [] (.ok (), s)
  | failed {data : List UInt8} {position : Nat} {s after : σ} {f : Fault} (hd : data ≠ [])
      (h : Channel.offer data position s = (.error f, after)) :
      Course data position s [⟨data, position, .error f⟩] (.error (.fault f), after)
  | taken {data : List UInt8} {position n : Nat} {s after : σ} {offers : List Offer}
      {out : Except TransferFault Unit × σ} (hd : data ≠ [])
      (h : Channel.offer data position s = (.ok n, after))
      (rest : Course (data.drop n) (position + min n data.length) after offers out) :
      Course data position s (⟨data, position, .ok n⟩ :: offers) out

/-- Every write takes a course, and whoever listens hears its offers. -/
theorem exists_course (data : List UInt8) (position : Nat) (s : σ) :
    ∃ offers, Course data position s offers (writeRemaining data position s) ∧
      ∀ earlier, writeRemaining data position (⟨s, earlier⟩ : Overheard σ) =
        ((writeRemaining data position s).1,
          ⟨(writeRemaining data position s).2, earlier ++ offers⟩) := by
  induction data, position, s using writeRemaining.induct with
  | case1 position s =>
    refine ⟨[], ?_, fun earlier => ?_⟩
    · rw [writeRemaining_nil]
      exact .done
    · rw [writeRemaining_nil, writeRemaining_nil, List.append_nil]
  | case2 data position s hd f after h =>
    refine ⟨[⟨data, position, .error f⟩], ?_, fun earlier => ?_⟩
    · rw [writeRemaining_of_fault hd h]
      exact .failed hd h
    · have hheard : Channel.offer data position (⟨s, earlier⟩ : Overheard σ) =
          (.error f, ⟨after, earlier ++ [⟨data, position, .error f⟩]⟩) := by
        simp only [Channel.offer, Overheard.offer, h]
      rw [writeRemaining_of_fault hd h, writeRemaining_of_fault hd hheard]
  | case3 data position s hd n after h ih =>
    obtain ⟨offers, hcourse, hrest⟩ := ih
    refine ⟨⟨data, position, .ok n⟩ :: offers, ?_, fun earlier => ?_⟩
    · rw [writeRemaining_of_taken hd h]
      exact .taken hd h hcourse
    · have hheard : Channel.offer data position (⟨s, earlier⟩ : Overheard σ) =
          (.ok n, ⟨after, earlier ++ [⟨data, position, .ok n⟩]⟩) := by
        simp only [Channel.offer, Overheard.offer, h]
      rw [writeRemaining_of_taken hd h, writeRemaining_of_taken hd hheard, hrest,
        List.append_assoc, List.singleton_append]

namespace Course

variable {data : List UInt8} {position : Nat} {s : σ} {offers : List Offer}
  {out : Except TransferFault Unit × σ}

theorem accepted_le (h : Course data position s offers out) : accepted offers ≤ data.length := by
  induction h with
  | done => exact Nat.le_refl 0
  | failed => exact Nat.zero_le _
  | taken hd h rest ih =>
    rw [List.length_drop] at ih
    simp only [accepted, Offer.taken]
    omega

theorem ok_iff (h : Course data position s offers out) :
    out.1 = .ok () ↔ accepted offers = data.length := by
  induction h with
  | done => simp [accepted]
  | @failed data position s after f hd h =>
    have hpos : 0 < data.length := List.length_pos_iff.mpr hd
    simp only [accepted, Offer.taken, reduceCtorEq, false_iff]
    omega
  | taken hd h rest ih =>
    have hle := rest.accepted_le
    rw [List.length_drop] at ih hle
    rw [ih]
    simp only [accepted, Offer.taken]
    omega

/-- An offer holds what the earlier ones left over, and goes behind it. -/
theorem offer_eq (h : Course data position s offers out) {before after : List Offer} {o : Offer}
    (hsplit : offers = before ++ o :: after) :
    o.data = data.drop (accepted before) ∧ o.position = position + accepted before ∧
      accepted before < data.length := by
  induction h generalizing before with
  | done => simp at hsplit
  | failed hd h =>
    cases before with
    | nil =>
      obtain ⟨rfl, -⟩ := List.cons.inj hsplit
      exact ⟨rfl, rfl, List.length_pos_iff.mpr hd⟩
    | cons b before => simp at hsplit
  | @taken data position n s later offers out hd h rest ih =>
    cases before with
    | nil =>
      obtain ⟨rfl, -⟩ := List.cons.inj hsplit
      exact ⟨rfl, rfl, List.length_pos_iff.mpr hd⟩
    | cons b before =>
      obtain ⟨rfl, hmore⟩ := List.cons.inj hsplit
      obtain ⟨hdata, hposition, hlt⟩ := ih hmore
      rw [List.length_drop] at hlt
      have hmin : min n data.length = n := by omega
      simp only [accepted, Offer.taken, hmin]
      rw [hmin] at hposition
      rw [List.drop_drop] at hdata
      exact ⟨hdata, by omega, by omega⟩

/-- The first fault is the answer to the last offer, and the result. -/
theorem last_of_fault (h : Course data position s offers out) {before after : List Offer}
    {o : Offer} {f : Fault} (hsplit : offers = before ++ o :: after) (ho : o.answer = .error f) :
    after = [] ∧ out.1 = .error (.fault f) := by
  induction h generalizing before with
  | done => simp at hsplit
  | failed hd h =>
    cases before with
    | nil =>
      obtain ⟨rfl, rfl⟩ := List.cons.inj hsplit
      cases ho
      exact ⟨rfl, rfl⟩
    | cons b before => simp at hsplit
  | taken hd h rest ih =>
    cases before with
    | nil =>
      obtain ⟨rfl, -⟩ := List.cons.inj hsplit
      cases ho
    | cons b before => exact ih (List.cons.inj hsplit).2

theorem fault_of_error (h : Course data position s offers out) {e : TransferFault}
    (he : out.1 = .error e) :
    ∃ before o f, offers = before ++ [o] ∧ o.answer = .error f ∧ e = .fault f := by
  induction h with
  | done => cases he
  | @failed data position s after f hd h =>
    cases he
    exact ⟨[], ⟨data, position, .error f⟩, f, rfl, rfl, rfl⟩
  | taken hd h rest ih =>
    obtain ⟨before, o, f, rfl, ho, hf⟩ := ih he
    exact ⟨_ :: before, o, f, rfl, ho, hf⟩

theorem offers_eq_nil (h : Course data position s offers out) (hd : data = []) : offers = [] := by
  cases h with
  | done => rfl
  | failed hne => exact absurd hd hne
  | taken hne => exact absurd hd hne

theorem stored {R : σ → (Nat → UInt8) → Prop} (hR : Stores R)
    (h : Course data position s offers out) {bytes : Nat → UInt8} (hs : R s bytes) :
    R out.2 (laid (data.take (accepted offers)) position bytes) := by
  induction h generalizing bytes with
  | done => simpa using hs
  | failed hd h => simpa [accepted, Offer.taken] using hR.failed hs h
  | @taken data position n s after offers out hd h rest ih =>
    have htaken := ih (hR.taken hs h)
    have hpiece : data.take n = data.take (min n data.length) := List.take_eq_take_min
    have hrest : data.drop n = data.drop (min n data.length) := by
      rw [List.drop_eq_drop_iff]
      omega
    have hlength : (data.take (min n data.length)).length = min n data.length := by
      rw [List.length_take]
      omega
    rw [hpiece, hrest] at htaken
    simp only [accepted, Offer.taken]
    rw [List.take_add, laid_append, hlength]
    exact htaken

end Course

theorem writeAll_of_wide {data : List UInt8} {position : Nat} (h : wordLimit ≤ position + data.length)
    (s : σ) : writeAll data position s =
      (.error (.fault (.carrying .invalidInput (.text "write range extends past u64::MAX"))), s) :=
  if_pos h

theorem writeAll_of_fits {data : List UInt8} {position : Nat} (h : position + data.length < wordLimit)
    (s : σ) : writeAll data position s = writeRemaining data position s :=
  if_neg (Nat.not_le_of_lt h)

/-- Each offer of a write holds the bytes not accepted yet and goes to the position behind the
accepted ones. The write succeeds exactly when all are accepted, and otherwise fails with the first
fault; what was accepted, and nothing else, is stored. -/
theorem writeAll_offers (data : List UInt8) (position : Nat) (s : σ) :
    let run := writeAll data position (⟨s, []⟩ : Overheard σ)
    let offers := run.2.offers
    (run.1, run.2.inner) = writeAll data position s ∧
      (wordLimit ≤ position + data.length →
        run.1 = .error
          (.fault (.carrying .invalidInput (.text "write range extends past u64::MAX"))) ∧
        offers = []) ∧
      (position + data.length < wordLimit →
        (∀ before o after, offers = before ++ o :: after →
          o.data = data.drop (accepted before) ∧ o.position = position + accepted before ∧
          accepted before < data.length ∧ o.position + o.taken < wordLimit) ∧
        accepted offers ≤ data.length ∧
        (run.1 = .ok () ↔ accepted offers = data.length) ∧
        (∀ e, run.1 = .error e →
          ∃ before o f, offers = before ++ [o] ∧ o.answer = .error f ∧ e = .fault f) ∧
        (∀ before o after f, offers = before ++ o :: after → o.answer = .error f →
          after = [] ∧ run.1 = .error (.fault f)) ∧
        (data = [] → offers = []) ∧
        ∀ (R : σ → (Nat → UInt8) → Prop) (bytes : Nat → UInt8), Stores R → R s bytes →
          R run.2.inner (laid (data.take (accepted offers)) position bytes)) := by
  intro run offers
  rcases Nat.lt_or_ge (position + data.length) wordLimit with hfits | hwide
  · obtain ⟨made, hcourse, hheard⟩ := exists_course data position s
    have hrun : run = ((writeRemaining data position s).1,
        ⟨(writeRemaining data position s).2, made⟩) :=
      (writeAll_of_fits hfits (⟨s, []⟩ : Overheard σ)).trans (hheard [])
    have hoffers : offers = made := by simp only [offers, hrun]
    rw [hoffers, hrun, writeAll_of_fits hfits]
    refine ⟨rfl, fun hwide => absurd hfits (Nat.not_lt_of_le hwide), fun _ => ⟨?_,
      hcourse.accepted_le, hcourse.ok_iff, fun e => hcourse.fault_of_error,
      fun before o after f => hcourse.last_of_fault, hcourse.offers_eq_nil,
      fun R bytes hR hs => hcourse.stored hR hs⟩⟩
    intro before o after hsplit
    obtain ⟨hdata, hposition, hbefore⟩ := hcourse.offer_eq hsplit
    refine ⟨hdata, hposition, hbefore, ?_⟩
    have htaken : o.taken ≤ o.data.length := by
      unfold Offer.taken
      split <;> omega
    rw [hdata, List.length_drop] at htaken
    omega
  · have hrun : run = _ := writeAll_of_wide hwide (⟨s, []⟩ : Overheard σ)
    refine ⟨?_, fun _ => ?_, fun hfits => absurd hwide (Nat.not_le_of_lt hfits)⟩
    · rw [hrun, writeAll_of_wide hwide]
    · simp only [offers, hrun, and_self]

end

/-- A channel that answers by a schedule of any counts and faults, in which zeros do not go on for
ever, and stores what it accepts. -/
structure Scheduled where
  bytes : Nat → UInt8
  answers : Nat → Except Fault Nat
  restless : ∀ n, ∃ m, answers (n + m) ≠ .ok 0

namespace Scheduled

def stored (data : List UInt8) (position : Nat) (bytes : Nat → UInt8) :
    Except Fault Nat → Nat → UInt8
  | .ok n => laid (data.take n) position bytes
  | .error _ => bytes

def next (c : Scheduled) (bytes : Nat → UInt8) : Scheduled where
  bytes
  answers n := c.answers (n + 1)
  restless n := by
    obtain ⟨m, hm⟩ := c.restless (n + 1)
    exact ⟨m, by rwa [Nat.add_right_comm] at hm⟩

def offer (data : List UInt8) (position : Nat) (c : Scheduled) : Except Fault Nat × Scheduled :=
  (c.answers 0, c.next (stored data position c.bytes (c.answers 0)))

def zeros (c : Scheduled) : Nat := Nat.find (c.restless 0)

theorem zeros_next_lt {c : Scheduled} (h : c.answers 0 = .ok 0) (bytes : Nat → UInt8) :
    (c.next bytes).zeros < c.zeros := by
  have hfound : c.answers (0 + c.zeros) ≠ .ok 0 := Nat.find_spec (c.restless 0)
  cases hz : c.zeros with
  | zero =>
    rw [hz] at hfound
    exact absurd h hfound
  | succ m =>
    rw [hz, ← Nat.add_assoc] at hfound
    exact Nat.lt_succ_of_le (Nat.find_le hfound)

end Scheduled

instance : Channel Scheduled where
  offer data position c := c.offer data position
  slack c := c.zeros
  slack_lt _ _ _ _ h := Scheduled.zeros_next_lt h _

theorem scheduled_stores : Stores fun (c : Scheduled) bytes => c.bytes = bytes where
  taken := by
    rintro c _ data position n after rfl h
    obtain ⟨hanswer, rfl⟩ := Prod.mk.inj h
    show Scheduled.stored data position c.bytes (c.answers 0) = _
    rw [hanswer]
    rfl
  failed := by
    rintro c _ data position f after rfl h
    obtain ⟨hanswer, rfl⟩ := Prod.mk.inj h
    show Scheduled.stored data position c.bytes (c.answers 0) = _
    rw [hanswer]
    rfl

/-- Takes nothing, then one byte, and then breaks. -/
def Scheduled.breaking : Scheduled where
  bytes _ := 0
  answers n := if n = 0 then .ok 0 else if n = 1 then .ok 1 else .error (.bare .brokenPipe)
  restless n := ⟨2, by simp⟩

/-- The byte that was taken is stored, and no other one. -/
theorem writeAll_offers_breaking :
    let data : List UInt8 := [1, 2, 3, 4]
    let run := writeAll data 5 (⟨.breaking, []⟩ : Overheard Scheduled)
    5 + data.length < wordLimit ∧
      run.1 = .error (.fault (.bare .brokenPipe)) ∧
      run.2.offers =
        [⟨[1, 2, 3, 4], 5, .ok 0⟩, ⟨[1, 2, 3, 4], 5, .ok 1⟩,
          ⟨[2, 3, 4], 6, .error (.bare .brokenPipe)⟩] ∧
      run.2.inner.bytes = laid [1] 5 fun _ => 0 := by
  intro data run
  let start : Overheard Scheduled := ⟨.breaking, []⟩
  let afterNone := (Channel.offer data 5 start).2
  let afterOne := (Channel.offer data 5 afterNone).2
  let last := (Channel.offer [2, 3, 4] 6 afterOne).2
  have hfits : 5 + data.length < wordLimit := by decide
  have hnone : Channel.offer data 5 start = (.ok 0, afterNone) := rfl
  have hone : Channel.offer data 5 afterNone = (.ok 1, afterOne) := rfl
  have hbroken : Channel.offer [2, 3, 4] 6 afterOne = (.error (.bare .brokenPipe), last) := rfl
  have hrun : run = (.error (.fault (.bare .brokenPipe)), last) := by
    show writeAll data 5 start = _
    rw [writeAll_of_fits hfits, writeRemaining_of_taken (by simp [data]) hnone]
    show writeRemaining data 5 afterNone = _
    rw [writeRemaining_of_taken (by simp [data]) hone]
    exact writeRemaining_of_fault (List.cons_ne_nil _ _) hbroken
  have hoffers : run.2.offers =
      [⟨[1, 2, 3, 4], 5, .ok 0⟩, ⟨[1, 2, 3, 4], 5, .ok 1⟩,
        ⟨[2, 3, 4], 6, .error (.bare .brokenPipe)⟩] := by
    rw [hrun]
    rfl
  obtain ⟨-, -, hcourse⟩ := writeAll_offers data 5 Scheduled.breaking
  obtain ⟨-, -, -, -, -, -, hstored⟩ := hcourse hfits
  have hbytes := hstored _ _ scheduled_stores rfl
  refine ⟨hfits, by rw [hrun], hoffers, hbytes.trans ?_⟩
  rw [show accepted run.2.offers = 1 by rw [hoffers]; rfl]
  rfl

end ServiceKit.Channel
