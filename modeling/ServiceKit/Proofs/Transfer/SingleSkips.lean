import ServiceKit.Proofs.Transfer.Honest
import ServiceKit.Transfer.Unseekable

/-!
One skip of a stream. However a stream skips, by moving its place, by dropping what it has buffered
or by reading, a skip that succeeds leaves it as reads of so many bytes would. Bytes at hand are
skipped up to the end, and no place beyond it is reached. A buffer skips what it holds, and when it
holds nothing reads on; what it takes beyond the skip it keeps.
-/

namespace ServiceKit.Transfer

variable {σ : Type} [Reader σ]

/-- Reads that lead from one state of a stream to another and report `r` bytes in all. Some may have
been interrupted. -/
inductive Discarding : σ → Nat → σ → Prop
  | nothing {s : σ} : Discarding s 0 s
  | delivered {s after last : σ} {room n r : Nat} {wrote : List UInt8}
      (h : Reader.read room s = (⟨wrote, .ok n⟩, after)) (rest : Discarding after r last) :
      Discarding s (n + r) last
  | interrupted {s after last : σ} {room r : Nat} {wrote : List UInt8} {stop : Stop}
      (hi : stop.isInterruption = true)
      (h : Reader.read room s = (⟨wrote, .error stop⟩, after)) (rest : Discarding after r last) :
      Discarding s r last

theorem Discarding.of_read {s after : σ} {room n : Nat} {wrote : List UInt8}
    (h : Reader.read room s = (⟨wrote, .ok n⟩, after)) : Discarding s n after := by
  have hread := Discarding.delivered h .nothing
  rwa [Nat.add_zero] at hread

/-- Skipping by reading makes such reads, of no more bytes than there were to skip. -/
theorem exists_discarding [Patient σ] {left passed total : Nat} {s last : σ}
    (h : passBy left passed s = (.ok total, last)) :
    ∃ r, total = passed + r ∧ r ≤ left ∧ Discarding s r last := by
  induction left, passed, s using passBy.induct with
  | case1 passed s =>
    rw [passBy_zero] at h
    cases h
    exact ⟨0, rfl, Nat.le_refl 0, .nothing⟩
  | case2 left passed s hl room wrote after hread =>
    rw [passBy_of_end hl hread] at h
    cases h
    exact ⟨0, rfl, Nat.zero_le _, .of_read hread⟩
  | case3 left passed s hl room wrote n after hread hn ih =>
    rw [passBy_of_delivery hl hn hread] at h
    obtain ⟨r, rfl, hr, hrest⟩ := ih h
    exact ⟨n + 1 + r, by omega, by omega, .delivered hread hrest⟩
  | case4 left passed s hl room wrote n after hread hn =>
    rw [passBy_of_overrun hl (Nat.not_le.mp hn) hread] at h
    cases h
  | case5 left passed s hl room wrote stop after hread hi ih =>
    rw [passBy_of_interruption hl hi hread] at h
    obtain ⟨r, rfl, hr, hrest⟩ := ih h
    exact ⟨r, rfl, hr, .interrupted hi hread hrest⟩
  | case6 left passed s hl room wrote stop after hread hi =>
    rw [passBy_of_stop hl (Bool.eq_false_iff.mpr hi) hread] at h
    cases h

/-- A skip that succeeds passes no more than it was asked to, and the state it leads to is one that
reads of as many bytes lead to. -/
def SkipsAsReads (σ : Type) [Reader σ] [Skipping σ] : Prop :=
  ∀ {n r : Nat} {s after : σ}, Skipping.skip n s = (.ok r, after) → r ≤ n ∧ Discarding s r after

theorem skipsAsReads_of_discardUpTo [Patient σ] {n r : Nat} {s after : σ}
    (h : discardUpTo n s = (.ok r, after)) : r ≤ n ∧ Discarding s r after := by
  obtain ⟨r', hr, hle, hreads⟩ := exists_discarding h
  rw [Nat.zero_add] at hr
  exact hr ▸ ⟨hle, hreads⟩

namespace Cursor

variable {c : Cursor} {room n : Nat}

theorem read_of_le (h : room ≤ c.rest.length) :
    c.read room = (⟨c.rest.take room, .ok room⟩, c.advance room) := by
  have hlen : (c.rest.take room).length = room := List.length_take_of_le h
  simp only [read, deliver, advance, hlen]

theorem skip_eq_min (n : Nat) (c : Cursor) :
    Skipping.skip n c = (.ok (min n c.rest.length), c.advance (min n c.rest.length)) := by
  rw [← c.step_eq]
  rfl

/-- A cursor moved over up to `n` bytes of the same content. It stands no further than it stood, or
at the end. -/
structure MovedOver (n : Nat) (c after : Cursor) : Prop where
  content : after.content = c.content
  rest : after.rest = c.rest.drop n
  within : after.position ≤ max c.position c.content.length

theorem movedOver_advance (n : Nat) (c : Cursor) :
    c.MovedOver n (c.advance (min n c.rest.length)) where
  content := rfl
  rest := by rw [c.rest_advance, drop_min_length]
  within := by
    rw [length_rest]
    simp only [advance]
    omega

end Cursor

namespace RegularFile

theorem skip_eq_min (n : Nat) (f : RegularFile) :
    Skipping.skip n f = (.ok (min (min n f.cursor.rest.length) seekLimit),
      ⟨f.cursor.advance (min (min n f.cursor.rest.length) seekLimit)⟩) := by
  rw [← f.cursor.step_eq]
  rfl

theorem skip_of_le_seekLimit (n : Nat) {f : RegularFile}
    (hf : f.cursor.content.length ≤ seekLimit) :
    Skipping.skip n f
      = (.ok (min n f.cursor.rest.length), ⟨f.cursor.advance (min n f.cursor.rest.length)⟩) := by
  have hlen := f.cursor.length_rest
  have hle : min n f.cursor.rest.length ≤ seekLimit := by omega
  rw [skip_eq_min, Nat.min_eq_left hle]

end RegularFile

theorem slice_skipsAsReads : SkipsAsReads Slice := by
  intro n r s after h
  have hread : Reader.read n s = (deliver n s.rest, ⟨s.rest.drop n⟩) := rfl
  rw [deliver_eq] at hread
  cases h
  exact ⟨Nat.min_le_left _ _, .of_read hread⟩

theorem cursor_skipsAsReads : SkipsAsReads Cursor := by
  intro n r c after h
  have hread : Reader.read (min n c.rest.length) c = _ := Cursor.read_of_le (Nat.min_le_right _ _)
  rw [Cursor.skip_eq_min] at h
  cases h
  exact ⟨Nat.min_le_left _ _, .of_read hread⟩

theorem regularFile_skipsAsReads : SkipsAsReads RegularFile := by
  intro n r f after h
  let step := min (min n f.cursor.rest.length) seekLimit
  have hle : step ≤ f.cursor.rest.length := by omega
  have hread : Reader.read step f
      = (⟨f.cursor.rest.take step, .ok step⟩, ⟨f.cursor.advance step⟩) := by
    simp only [Reader.read, Cursor.read_of_le hle]
  rw [RegularFile.skip_eq_min] at h
  cases h
  exact ⟨by omega, .of_read hread⟩

theorem pipe_skipsAsReads : SkipsAsReads Pipe := skipsAsReads_of_discardUpTo

theorem unseekable_skipsAsReads [Patient σ] : SkipsAsReads (Unseekable σ) :=
  skipsAsReads_of_discardUpTo

theorem buffered_skipsAsReads [Patient σ] : SkipsAsReads (Buffered σ) := by
  intro n r b after h
  by_cases hp : b.pending = []
  · rw [Buffered.skip_of_empty hp] at h
    exact skipsAsReads_of_discardUpTo h
  · have hread : Reader.read n b = (deliver n b.pending, { b with pending := b.pending.drop n }) :=
      Buffered.read_of_pending hp
    rw [deliver_eq] at hread
    rw [Buffered.skip_of_pending hp] at h
    cases h
    exact ⟨Nat.min_le_left _ _, .of_read hread⟩

/-- The answer to a read of a stream to which `rest` is still to come, and the state that it leaves.
The answer reports no more than the read handed over, which is what comes next; when it is an
interruption, nothing was taken. -/
inductive TrueAnswer (R : σ → Stream' UInt8 → Prop) (rest : Stream' UInt8) (room : Nat) :
    ReadAnswer × σ → Prop
  | delivered {wrote : List UInt8} {n : Nat} {after : σ} (hn : n ≤ room)
      (hwrote : wrote.take n = rest.take n) (hafter : R after (rest.drop n)) :
      TrueAnswer R rest room (⟨wrote, .ok n⟩, after)
  | failed {wrote : List UInt8} {stop : Stop} {after : σ}
      (hafter : stop.isInterruption = true → R after rest) :
      TrueAnswer R rest room (⟨wrote, .error stop⟩, after)

omit [Reader σ] in
theorem TrueAnswer.handOn {τ : Type} {R : σ → Stream' UInt8 → Prop} {R' : τ → Stream' UInt8 → Prop}
    {rest : Stream' UInt8} {room : Nat} {out : ReadAnswer × σ} (h : TrueAnswer R rest room out)
    (wrap : σ → τ) (hwrap : ∀ {s more}, R s more → R' (wrap s) more) :
    TrueAnswer R' rest room (out.1, wrap out.2) := by
  cases h with
  | delivered hn hwrote hafter => exact .delivered hn hwrote (hwrap hafter)
  | failed hafter => exact .failed fun hi => hwrap (hafter hi)

/-- `R s rest` says that `rest` is still to come from `s`, as far as reads deliver it. They never
report more than they hand over. -/
def Truthful (R : σ → Stream' UInt8 → Prop) : Prop :=
  ∀ ⦃s rest⦄, R s rest → ∀ room, TrueAnswer R rest room (Reader.read room s)

theorem Honest.truthful {source : Stream' UInt8} {R : σ → Nat → Prop} (hR : Honest source R) :
    Truthful fun s rest => ∃ p, R s p ∧ rest = source.drop p := by
  rintro s _ ⟨p, hs, rfl⟩ room
  rcases hread : Reader.read room s with ⟨⟨wrote, stop | n⟩, after⟩
  · exact .failed fun _ => ⟨p, (hR.failed hs hread).2.2, rfl⟩
  · obtain ⟨hle, rfl, hafter⟩ := hR.delivered hs hread
    have hlen : ((source.drop p).take n).length = n := Stream'.length_take _ _
    exact .delivered hle (List.take_of_length_le (Nat.le_of_eq hlen))
      ⟨p + n, hafter, Stream'.drop_drop _ _ _⟩

/-- A skip leaves what any reads of as many bytes would have left. -/
def LeavesAsReads [Skipping σ] (R : σ → Stream' UInt8 → Prop) : Prop :=
  ∀ {s rest}, R s rest → ∀ {n r after}, Skipping.skip n s = (.ok r, after) →
    r ≤ n ∧ R after (rest.drop r) ∧ ∀ last, Discarding s r last → R last (rest.drop r)

namespace Truthful

variable {R : σ → Stream' UInt8 → Prop} {s last : σ} {rest : Stream' UInt8} {r n room : Nat}
  {wrote : List UInt8}

theorem delivered (hR : Truthful R) (hs : R s rest)
    (h : Reader.read room s = (⟨wrote, .ok n⟩, last)) :
    n ≤ room ∧ wrote.take n = rest.take n ∧ R last (rest.drop n) := by
  cases h ▸ hR hs room with
  | delivered hn hwrote hafter => exact ⟨hn, hwrote, hafter⟩

theorem interrupted (hR : Truthful R) (hs : R s rest) {stop : Stop}
    (h : Reader.read room s = (⟨wrote, .error stop⟩, last)) (hi : stop.isInterruption = true) :
    R last rest := by
  cases h ▸ hR hs room with
  | failed hafter => exact hafter hi

theorem le_length (hR : Truthful R) (hs : R s rest)
    (h : Reader.read room s = (⟨wrote, .ok n⟩, last)) : n ≤ wrote.length := by
  obtain ⟨-, hwrote, -⟩ := hR.delivered hs h
  have hlen : (wrote.take n).length = n := by rw [hwrote, Stream'.length_take]
  rw [List.length_take] at hlen
  omega

theorem discarded (hR : Truthful R) (h : Discarding s r last) (hs : R s rest) :
    R last (rest.drop r) := by
  induction h generalizing rest with
  | nothing => exact hs
  | delivered h more ih =>
    rw [← Stream'.drop_drop]
    exact ih (hR.delivered hs h).2.2
  | interrupted hi h more ih => exact ih (hR.interrupted hs h hi)

theorem leavesAsReads [Skipping σ] (hR : Truthful R) (hσ : SkipsAsReads σ) : LeavesAsReads R := by
  intro s rest hs n r after h
  obtain ⟨hle, hreads⟩ := hσ h
  exact ⟨hle, hR.discarded hreads hs, fun last hlast => hR.discarded hlast hs⟩

theorem unseekable (hR : Truthful R) : Truthful fun u : Unseekable σ => R u.inner :=
  fun _ _ hs room => (hR hs room).handOn Unseekable.mk id

end Truthful

namespace Buffered

def Carries (R : σ → Stream' UInt8 → Prop) (b : Buffered σ) (rest : Stream' UInt8) : Prop :=
  b.page.length = b.capacity ∧ ∃ beneath, R b.inner beneath ∧ rest = b.pending ++ₛ beneath

variable {R : σ → Stream' UInt8 → Prop} {b : Buffered σ} {rest : Stream' UInt8}

omit [Reader σ] in
theorem carries_ofReader {inner : σ} (capacity : Nat) (h : R inner rest) :
    Carries R (ofReader capacity inner) rest :=
  ⟨List.length_replicate, rest, h, rfl⟩

omit [Reader σ] in
theorem serve_truly (h : Carries R b rest) (room : Nat) :
    TrueAnswer (Carries R) rest room (serve room b) := by
  obtain ⟨hpage, beneath, hinner, rfl⟩ := h
  have hle : min room b.pending.length ≤ b.pending.length := Nat.min_le_right _ _
  have htake : (b.pending ++ₛ beneath).take (min room b.pending.length)
      = b.pending.take (min room b.pending.length) := Stream'.take_append_of_le_length _ _ _ hle
  have hdrop : (b.pending ++ₛ beneath).drop (min room b.pending.length)
      = b.pending.drop room ++ₛ beneath := by
    rw [Stream'.drop_append_of_le_length _ _ _ hle, drop_min_length]
  rw [serve, deliver_eq]
  refine .delivered (Nat.min_le_left _ _) ?_ ⟨hpage, beneath, hinner, hdrop⟩
  rw [List.take_take, Nat.min_self, htake]

omit [Reader σ] in
theorem carries_of_empty (hpage : b.page.length = b.capacity) (hp : b.pending = [])
    (h : R b.inner rest) : Carries R b rest := by
  refine ⟨hpage, rest, h, ?_⟩
  rw [hp]
  rfl

omit [Reader σ] in
theorem Carries.inner_of_empty (h : Carries R b rest) (hp : b.pending = []) : R b.inner rest := by
  obtain ⟨-, beneath, hinner, hrest⟩ := h
  rw [hp] at hrest
  exact hrest ▸ hinner

theorem refill_truly (hR : Truthful R) (h : Carries R b rest) (hp : b.pending = [])
    (room : Nat) : TrueAnswer (Carries R) rest room (refill room b) := by
  have hinner := h.inner_of_empty hp
  have hpage (wrote : List UInt8) : (layOver wrote b.page).length = b.capacity := by
    rw [length_layOver, h.1]
  rcases hread : Reader.read b.capacity b.inner with ⟨⟨wrote, stop | n⟩, inner⟩
  · rw [refill, hread]
    exact .failed fun hi => carries_of_empty (hpage wrote) hp (hR.interrupted hinner hread hi)
  · obtain ⟨hle, hwrote, hafter⟩ := hR.delivered hinner hread
    have htake : (layOver wrote b.page).take n = rest.take n := by
      rw [take_layOver (hR.le_length hinner hread) (h.1 ▸ hle), hwrote]
    rw [refill, hread]
    simp only [if_pos hle, htake]
    exact serve_truly
      ⟨hpage wrote, rest.drop n, hafter, (Stream'.append_take_drop n rest).symm⟩ room

theorem truthful (hR : Truthful R) : Truthful (Carries R) := by
  intro b rest h room
  by_cases hp : b.pending = []
  · by_cases hc : b.capacity ≤ room
    · have hcarries {inner : σ} {more : Stream' UInt8} (hmore : R inner more) :
          Carries R { b with inner } more := carries_of_empty h.1 hp hmore
      rw [show Reader.read room b = bypass room b from read_of_large hp hc, bypass]
      exact (hR (h.inner_of_empty hp) room).handOn (fun inner => { b with inner }) hcarries
    · rw [show Reader.read room b = refill room b from read_of_small hp (by omega)]
      exact refill_truly hR h hp room
  · rw [show Reader.read room b = serve room b from read_of_pending hp]
    exact serve_truly h room

end Buffered

/-- One skip through a buffer that holds bytes of a steady stream, or holds none. -/
theorem Buffered.exists_skip [Patient σ] {R : σ → List UInt8 → Prop} {b : Buffered σ}
    {rest : List UInt8} (hR : Steady R) (h : Holds R b rest) (n : Nat) :
    ∃ r after, Skipping.skip n b = (.ok r, after) ∧
      (b.pending ≠ [] → r = min n b.pending.length) ∧ (b.pending = [] → r = min n rest.length) ∧
      (r = 0 → n = 0 ∨ rest = []) ∧ Holds R after (rest.drop r) := by
  by_cases hp : b.pending = []
  · obtain ⟨after, hskip, hafter⟩ := exists_skip_of_empty hR h hp n
    refine ⟨_, after, hskip, fun hne => absurd hp hne, fun _ => rfl, fun hr => ?_, hafter⟩
    rw [← List.length_eq_zero_iff]
    omega
  · obtain ⟨after, hskip, hafter, -⟩ := exists_skip_of_pending h hp n
    refine ⟨_, after, hskip, fun _ => rfl, fun hnil => absurd hnil hp, fun hr => ?_, hafter⟩
    have hlen : b.pending.length ≠ 0 := fun h => hp (List.length_eq_zero_iff.mp h)
    omega

/-- A skip that succeeds counts at most what was asked for, and leaves what reads of so many bytes
leave. A slice, a cursor and a file are skipped up to the end exactly, and a buffer drops what it
holds, or goes up to the end when it holds nothing. -/
theorem skip_leaves_as_reads [Patient σ] :
    (SkipsAsReads Slice ∧ SkipsAsReads Cursor ∧ SkipsAsReads RegularFile ∧ SkipsAsReads Pipe ∧
      SkipsAsReads (Unseekable σ) ∧ SkipsAsReads (Buffered σ)) ∧
    (∀ R : σ → Stream' UInt8 → Prop, Truthful R →
      LeavesAsReads (fun u : Unseekable σ => R u.inner) ∧ LeavesAsReads (Buffered.Carries R)) ∧
    (∀ n (s : Slice), Skipping.skip n s = (.ok (min n s.rest.length), ⟨s.rest.drop n⟩)) ∧
    (∀ n (c : Cursor), ∃ after,
      Skipping.skip n c = (.ok (min n c.rest.length), after) ∧ c.MovedOver n after) ∧
    (∀ n (f : RegularFile), f.cursor.content.length ≤ seekLimit → ∃ after : RegularFile,
      Skipping.skip n f = (.ok (min n f.cursor.rest.length), after) ∧
        f.cursor.MovedOver n after.cursor) ∧
    ∀ R : σ → List UInt8 → Prop, Steady R → ∀ b rest, Buffered.Holds R b rest → ∀ n,
      ∃ r after, Skipping.skip n b = (.ok r, after) ∧
        (b.pending ≠ [] → r = min n b.pending.length) ∧ (b.pending = [] → r = min n rest.length) ∧
        (r = 0 → n = 0 ∨ rest = []) ∧ Buffered.Holds R after (rest.drop r) ∧
        ∃ left, R after.inner left ∧ rest.drop r = after.pending ++ left := by
  refine ⟨⟨slice_skipsAsReads, cursor_skipsAsReads, regularFile_skipsAsReads, pipe_skipsAsReads,
    unseekable_skipsAsReads, buffered_skipsAsReads⟩, fun R hR => ?_, fun n s => rfl,
    fun n c => ⟨_, c.skip_eq_min n, c.movedOver_advance n⟩,
    fun n f hf => ⟨_, RegularFile.skip_of_le_seekLimit n hf, f.cursor.movedOver_advance n⟩,
    fun R hR b rest h n => ?_⟩
  · exact ⟨hR.unseekable.leavesAsReads unseekable_skipsAsReads,
      (Buffered.truthful hR).leavesAsReads buffered_skipsAsReads⟩
  · obtain ⟨r, after, hskip, hpending, hempty, hzero, hafter⟩ := Buffered.exists_skip hR h n
    exact ⟨r, after, hskip, hpending, hempty, hzero, hafter, hafter.2⟩

/-- A buffer whose first fill is interrupted and takes more than is skipped, one over a stream that
comes in pieces, and a file that stands behind its end. -/
theorem skip_leaves_as_reads_script :
    let script : Scripted := ⟨[1, 2, 3, 4, 5, 6], [.fail (.bare .interrupted), .upTo 4], []⟩
    let source := script.rest ++ₛ Stream'.const 0
    let pieces : Scripted := ⟨[1, 2, 3, 4, 5], [.upTo 2, .upTo 1], []⟩
    let file : RegularFile := ⟨⟨[1, 2, 3], 7⟩⟩
    (∃ after, Skipping.skip 2 (Buffered.ofReader 4 script) = (.ok 2, after) ∧
      Discarding (Buffered.ofReader 4 script) 2 after ∧
      Buffered.Carries (fun s rest => ∃ p, Scripted.At source s p ∧ rest = source.drop p) after
        (source.drop 2)) ∧
    (∃ after, Skipping.skip 3 (Buffered.ofReader 2 pieces) = (.ok 3, after) ∧
      Buffered.Holds (fun s rest => s.Generous ∧ s.rest = rest) after [4, 5]) ∧
    ∃ after : RegularFile, Skipping.skip 5 file = (.ok 0, after) ∧ after.cursor.position ≤ 7 := by
  intro script source pieces file
  let filled : Buffered Scripted := ⟨⟨[5, 6], [], []⟩, 4, [3, 4], [1, 2, 3, 4]⟩
  let retry : Buffered Scripted := ⟨⟨script.rest, [.upTo 4], []⟩, 4, [], [0, 0, 0, 0]⟩
  have hfirst : Reader.read (min chunkSize 2) (Buffered.ofReader 4 script)
      = (⟨[], .error (.fault (.bare .interrupted))⟩, retry) := rfl
  have hsecond : Reader.read (min chunkSize 2) retry = (⟨[1, 2], .ok (1 + 1)⟩, filled) := rfl
  have hskip : Skipping.skip 2 (Buffered.ofReader 4 script) = (.ok 2, filled) := by
    rw [Buffered.skip_of_empty rfl, discardUpTo, passBy_of_interruption (by decide) rfl hfirst,
      passBy_of_delivery (by decide) (by decide) hsecond]
    exact passBy_zero 2 filled
  have hscript : Scripted.At source script 0 := ⟨rfl, by simp [script], by simp [script]⟩
  have hpieces : pieces.Generous ∧ pieces.rest = [1, 2, 3, 4, 5] := by
    simp [pieces, Scripted.Generous]
  obtain ⟨⟨-, -, -, -, -, hreads⟩, hleaves, -, -, hfile, hsteady⟩ :=
    @skip_leaves_as_reads Scripted _ _
  refine ⟨⟨filled, hskip, (hreads hskip).2, ?_⟩, ?_, ?_⟩
  · obtain ⟨-, hbuffered⟩ := hleaves _ (scripted_honest source).toHonest.truthful
    exact (hbuffered (Buffered.carries_ofReader 4 ⟨0, hscript, rfl⟩) hskip).2.1
  · obtain ⟨r, after, hskip, -, hempty, -, hafter, -⟩ :=
      hsteady _ scripted_steady _ _ (Buffered.holds_ofReader 2 hpieces) 3
    obtain rfl := hempty rfl
    exact ⟨after, hskip, hafter⟩
  · obtain ⟨after, hskip, hmoved⟩ := hfile 5 file (by decide)
    exact ⟨after, hskip, hmoved.within⟩

end ServiceKit.Transfer
