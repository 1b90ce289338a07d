import ServiceKit.Proofs.Command.Tasks
import ServiceKit.Proofs.Transfer.Courses

/-!
Reading a range of a regular file. A range that is in the file is read; one that starts behind the
end cannot be reached, and one that only ends there falls short. On the way to the range no seek
leads behind the end of the file, and none is longer than a seek can be.
-/

namespace ServiceKit.Transfer.RegularFile

variable {length remaining n : Nat} {f after : RegularFile} {made : List Call}
  {run : Run RegularFile Unit}

theorem skip_eq {answer : Except Stop Nat} (h : Skipping.skip n f = (answer, after)) :
    answer = .ok (min (f.cursor.step n) seekLimit) ∧
      after.cursor = f.cursor.advance (min (f.cursor.step n) seekLimit) := by
  cases h
  exact ⟨rfl, rfl⟩

theorem at_end (hn : n ≠ 0) (h : Skipping.skip n f = (.ok 0, after)) :
    after.cursor.content.length ≤ after.cursor.position := by
  have hlimit : 0 < seekLimit := by decide
  obtain ⟨hanswer, hafter⟩ := skip_eq h
  have hstep : 0 = min (f.cursor.step n) seekLimit := Except.ok.inj hanswer
  rw [← hstep] at hafter
  rw [hafter]
  unfold Cursor.step at hstep
  simp only [Cursor.advance]
  omega

theorem read_at_end {wrote : List UInt8} {answer : Except Stop Nat}
    (hend : f.cursor.content.length ≤ f.cursor.position)
    (h : Reader.read n f = (⟨wrote, answer⟩, after)) : answer = .ok 0 := by
  have hrest : f.cursor.rest = [] := List.drop_of_length_le hend
  have hread : ((deliver n f.cursor.rest), _) = _ := h
  rw [hrest] at hread
  cases hread
  simp

/-- The seeks of a skip. Each is a step that a seek can make, and starts where the ones before it
have led to and ends within the file. -/
theorem seeks (h : Passing length remaining f made run)
    (hbound : f.cursor.position ≤ f.cursor.content.length) {before rest : List Call} {asked : Nat}
    {answer : Except Stop Nat} (hsplit : made = before ++ .skip asked answer :: rest) :
    ∃ step, answer = .ok step ∧ step ≤ seekLimit ∧
      f.cursor.position + gained before + step ≤ f.cursor.content.length := by
  induction h generalizing before with
  | done => simp at hsplit
  | stopped hr h => cases (skip_eq h).1
  | @moved remaining n s after made run hr h more ih =>
    obtain ⟨hanswer, hafter⟩ := skip_eq h
    have hstep : n + 1 = min (s.cursor.step remaining) seekLimit := Except.ok.inj hanswer
    rw [← hstep] at hafter
    have hn : n + 1 ≤ remaining ∧ n + 1 ≤ s.cursor.content.length - s.cursor.position := by
      unfold Cursor.step at hstep
      omega
    cases before with
    | nil =>
      obtain ⟨hcall, -⟩ := List.cons.inj hsplit
      cases hcall
      exact ⟨n + 1, rfl, by omega, by simp only [gained]; omega⟩
    | cons b before =>
      obtain ⟨rfl, hmore⟩ := List.cons.inj hsplit
      have hposition : after.cursor.position = s.cursor.position + (n + 1) := by rw [hafter]; rfl
      have hcontent : after.cursor.content = s.cursor.content := by rw [hafter]; rfl
      obtain ⟨step, hok, hle, hwithin⟩ := ih (by rw [hposition, hcontent]; omega) hmore
      rw [hposition, hcontent] at hwithin
      rw [gained_moved]
      exact ⟨step, hok, hle, by omega⟩
  | probeStopped hr h hp => cases read_at_end (at_end hr h) hp
  | @ended remaining s after last wrote hr h hp =>
    rcases before with _ | ⟨b, _ | ⟨b', before⟩⟩
    · obtain ⟨hcall, -⟩ := List.cons.inj hsplit
      cases hcall
      exact ⟨0, rfl, Nat.zero_le _, by simpa only [gained, Nat.add_zero] using hbound⟩
    · simp at hsplit
    · simp at hsplit
  | probed hr h hp more ih => cases read_at_end (at_end hr h) hp

end ServiceKit.Transfer.RegularFile

namespace ServiceKit.Command

open Files (Tree)
open Text (wordLimit)
open Transfer (Reader Skipping RegularFile Recorded SteadySkipping gained seekLimit skipExactly)

section Streams

variable {σ : Type} [Reader σ] [Skipping σ] {R : σ → List UInt8 → Prop} {s : σ}
  {rest : List UInt8} {r : ReadRequest}

theorem rangeOf_behind (hR : SteadySkipping R) (hs : R s rest) (h : rest.length < r.offset) :
    (rangeOf r s).result = .error
      (.reaching r.offset r.path (.error (.unexpectedEnd .skip r.offset rest.length))) := by
  obtain ⟨after, hskip, -⟩ := hR.skipRemaining hs r.offset r.offset
  have hmissing : r.offset - rest.length ≠ 0 := by omega
  have htold : r.offset - (r.offset - rest.length) = rest.length := by omega
  rw [Transfer.concludeSkip, if_neg hmissing, htold] at hskip
  have hskipped : skipExactly r.offset s = _ := hskip
  unfold rangeOf
  simp only [hskipped]

/-- A range that starts in a steady stream and goes on behind its end falls short. -/
theorem rangeOf_across (hR : SteadySkipping R) (hs : R s rest) (hstart : r.offset ≤ rest.length)
    (hend : rest.length < r.offset + r.length) (hlength : r.length < wordLimit) :
    (rangeOf r s).result = .error (.reading r.length r.path
      (.error (.unexpectedEnd .read r.length (rest.length - r.offset)))) := by
  obtain ⟨after, hskip, hafter⟩ := hR.skipRemaining hs r.offset r.offset
  have hnothing : r.offset - rest.length = 0 := by omega
  rw [hnothing] at hskip
  have hskipped : skipExactly r.offset s = ⟨.ok (), [], after⟩ := hskip
  obtain ⟨ps, last, hfetch, -, -⟩ :=
    hR.toSteady.fetch hafter (show 0 + r.length < wordLimit by omega)
  have hshort : ¬ r.length ≤ rest.length - r.offset := by omega
  have htold : r.length - (r.length - (rest.length - r.offset)) = rest.length - r.offset := by omega
  rw [List.length_drop, if_neg hshort] at hfetch
  unfold rangeOf
  simp only [hskipped, Transfer.readExactly, hfetch, Transfer.concludeRead, htold]
  rfl

end Streams

/-- Reading a range of a regular file succeeds exactly if the range is within it. Otherwise it ends
early, with all that the file had to offer. The seeks to the offset are steps that a seek can make,
and none leads out of the file. -/
theorem fileRange_of_regular {t : Tree} {r : ReadRequest} {content : List UInt8}
    (hopen : t.openToRead r.path = .ok (.file content)) (hlength : r.length < wordLimit) :
    (∀ bytes, (fileRange t r).result = .ok bytes ↔
        r.offset + r.length ≤ content.length ∧ bytes = (content.drop r.offset).take r.length) ∧
      (content.length < r.offset → (fileRange t r).result = .error
        (.reaching r.offset r.path (.error (.unexpectedEnd .skip r.offset content.length)))) ∧
      (r.offset ≤ content.length → content.length < r.offset + r.length →
        (fileRange t r).result = .error (.reading r.length r.path
          (.error (.unexpectedEnd .read r.length (content.length - r.offset))))) ∧
      ∀ before asked answer rest,
        (skipExactly r.offset (Recorded.start (⟨⟨content, 0⟩⟩ : RegularFile))).state.calls
          = before ++ .skip asked answer :: rest →
        ∃ step, answer = .ok step ∧ step ≤ seekLimit ∧ gained before + step ≤ content.length := by
  have hfile : fileRange t r = rangeOf r (⟨⟨content, 0⟩⟩ : RegularFile) := by rw [fileRange, hopen]
  have hstart : (⟨⟨content, 0⟩⟩ : RegularFile).cursor.rest = content := rfl
  have hbehind (h : content.length < r.offset) := hfile ▸
    rangeOf_behind Transfer.regularFile_steady hstart h
  have hacross (hle : r.offset ≤ content.length) (hlt : content.length < r.offset + r.length) :=
    hfile ▸ rangeOf_across Transfer.regularFile_steady hstart hle hlt hlength
  refine ⟨fun bytes => ⟨fun hok => ?_, ?_⟩, hbehind, hacross, ?_⟩
  · by_cases hrange : r.offset + r.length ≤ content.length
    · rw [fileRange_of_file hopen hrange hlength] at hok
      exact ⟨hrange, (Except.ok.inj hok).symm⟩
    · rcases Nat.lt_or_ge content.length r.offset with hlt | hle
      · cases (hbehind hlt).symm.trans hok
      · cases (hacross hle (Nat.lt_of_not_le hrange)).symm.trans hok
  · rintro ⟨hrange, rfl⟩
    rw [fileRange_of_file hopen hrange hlength]
  · intro before asked answer rest hsplit
    obtain ⟨made, run, hcourse, -, hrecorded⟩ :=
      Transfer.exists_skipping r.offset (⟨⟨content, 0⟩⟩ : RegularFile)
    rw [hrecorded] at hsplit
    obtain ⟨step, hok, hle, hwithin⟩ := RegularFile.seeks hcourse (Nat.zero_le _) hsplit
    exact ⟨step, hok, hle, by simpa using hwithin⟩

/-- Three reads of a file of three bytes: within it, across its end, and from as far behind the end
as an offset can be. -/
theorem fileRange_of_regular_segment :
    let t : Tree := ⟨["home"], Files.devices ++ [(["home", "segment"], .file [1, 2, 3])], .usual⟩
    t.openToRead "segment" = .ok (.file [1, 2, 3]) ∧ 5 < wordLimit ∧
      (fileRange t ⟨"segment", 1, 2⟩).result = .ok [2, 3] ∧
      (fileRange t ⟨"segment", 1, 5⟩).result
        = .error (.reading 5 "segment" (.error (.unexpectedEnd .read 5 2))) ∧
      (fileRange t ⟨"segment", wordLimit - 1, 0⟩).result
        = .error (.reaching (wordLimit - 1) "segment"
            (.error (.unexpectedEnd .skip (wordLimit - 1) 3))) := by
  intro t
  have hopen : t.openToRead "segment" = .ok (.file [1, 2, 3]) := by rfl
  obtain ⟨hwithin, -⟩ := fileRange_of_regular (r := ⟨"segment", 1, 2⟩) hopen (by decide)
  obtain ⟨-, -, hacross, -⟩ := fileRange_of_regular (r := ⟨"segment", 1, 5⟩) hopen (by decide)
  obtain ⟨-, hbehind, -⟩ :=
    fileRange_of_regular (r := ⟨"segment", wordLimit - 1, 0⟩) hopen (by decide)
  exact ⟨hopen, by decide, (hwithin [2, 3]).mpr ⟨by decide, rfl⟩, hacross (by decide) (by decide),
    hbehind (by decide)⟩

end ServiceKit.Command
