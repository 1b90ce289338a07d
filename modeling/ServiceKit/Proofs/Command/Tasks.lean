import ServiceKit.Command.Run
import ServiceKit.Proofs.Channel.Overwrite
import ServiceKit.Proofs.Logging.Changes
import ServiceKit.Proofs.Success
import ServiceKit.Proofs.Text.HexSpelling
import ServiceKit.Proofs.Transfer.Streams

/-!
What the tasks that read and write come to, and what a run makes of a task. A range that is in a file
is read; bytes that are written to a file lie in it afterwards; the exit status tells whether a task
was done.
-/

namespace ServiceKit.Command

open Channel (Volume WritableFile LaysDown written writeAll)
open Files (Tree)
open Host (Platform)
open Text (Styled wordLimit)
open Text.Hex (Spells)
open Transfer (Reader Skipping RegularFile SteadySkipping)

section Reading

variable {σ : Type} [Reader σ] [Skipping σ] {R : σ → List UInt8 → Prop} {s : σ}
  {rest : List UInt8} {r : ReadRequest}

theorem rangeOf_of_steady (hR : SteadySkipping R) (hs : R s rest)
    (hrange : r.offset + r.length ≤ rest.length) (hlength : r.length < wordLimit) :
    rangeOf r s = ⟨.ok ((rest.drop r.offset).take r.length), []⟩ := by
  obtain ⟨after, hskip, hafter⟩ := hR.skipRemaining hs r.offset r.offset
  have hnothing : r.offset - rest.length = 0 := by omega
  rw [hnothing] at hskip
  have hskipped : Transfer.skipExactly r.offset s = ⟨.ok (), [], after⟩ := hskip
  have hthere : r.length ≤ (rest.drop r.offset).length := by
    rw [List.length_drop]
    omega
  obtain ⟨ps, last, hfetch, -, hpatch⟩ :=
    hR.toSteady.fetch hafter (show 0 + r.length < wordLimit by omega)
  rw [if_pos hthere] at hfetch
  have hread : Transfer.readExactly r.length after
      = ⟨.ok ((rest.drop r.offset).take r.length), [], last⟩ := by
    have hbytes := hpatch (List.replicate r.length 0) List.length_replicate
    have hover : (List.replicate r.length (0 : UInt8)).drop (rest.drop r.offset).length = [] := by
      rw [List.drop_eq_nil_iff, List.length_replicate]
      exact hthere
    rw [hover, List.append_nil] at hbytes
    rw [Transfer.readExactly, hfetch]
    simp only [Transfer.concludeRead, hbytes]
    rfl
  unfold rangeOf
  simp only [hskipped, hread]
  rfl

theorem fileRange_of_file {t : Tree} {content : List UInt8}
    (ht : t.openToRead r.path = .ok (.file content))
    (hrange : r.offset + r.length ≤ content.length) (hlength : r.length < wordLimit) :
    fileRange t r = ⟨.ok ((content.drop r.offset).take r.length), []⟩ := by
  have hstart : (⟨⟨content, 0⟩⟩ : RegularFile).cursor.rest = content := rfl
  rw [fileRange, ht]
  exact rangeOf_of_steady Transfer.regularFile_steady hstart hrange hlength

end Reading

section Writing

section Taking

variable (v : Volume)

/-- However little a file takes at once, it is a first part of what it is offered. -/
theorem writableFile_laysDown : LaysDown (fun f => f.volume = v) WritableFile.content := by
  intro data position f n after hv hd h
  change f.offer data position = (.ok n, after) at h
  unfold WritableFile.offer at h
  split at h
  · simp at h
  · rw [if_neg (by simpa using hd)] at h
    split at h
    · simp at h
    · rename_i hroom
      obtain ⟨hn, rfl⟩ := Prod.mk.inj h
      obtain rfl := Except.ok.inj hn
      have hpos : 0 < data.length := List.length_pos_iff.mpr hd
      have hshare := f.volume.share_pos position data.length hpos
      refine ⟨?_, hv, ?_⟩
      · rw [List.length_take]
        omega
      · rw [List.length_take, ← List.take_eq_take_min]

/-- A file takes something of all that ends within the largest size. -/
theorem writableFile_obliging :
    Channel.Obliging (fun f : WritableFile => f.volume = v) (v.sizeLimit + 1) := by
  rintro data position f rfl hd h
  have hpos : 0 < data.length := List.length_pos_iff.mpr hd
  have hlimit := f.volume.sizeLimit_lt
  have hsmall : ¬ (Channel.filePositionLimit ≤ position
      ∨ Channel.filePositionLimit ≤ position + data.length) := by omega
  have hroom : ¬ f.volume.sizeLimit ≤ position := by omega
  let taken := data.take
    (min (f.volume.sizeLimit - position) (f.volume.share position data.length))
  have hoffer : f.offer data position = (.ok taken.length,
      { f with content := Channel.overwrite taken position f.content }) := by
    rw [WritableFile.offer, if_neg hsmall, if_neg (by simpa using hd), if_neg hroom]
  exact ⟨_, _, hoffer⟩

end Taking

variable {t : Tree} {r : WriteRequest} {d : List UInt8} {n : Nat}

/-- A guarded write comes to what the write does, and if that is good, to what closing does. -/
theorem writeGuarded_eq {σ : Type} [Channel σ] (path : String) (position : Nat) (d : List UInt8)
    (sync : Option Fault) (s : σ) :
    (writeGuarded path position d sync s).1.result
        = ((writeAll d position s).1.mapError (.writing path)).bind
            (fun _ => (Closing.verdict sync).mapError (.syncing path)) ∧
      (writeGuarded path position d sync s).2 = (writeAll d position s).2 := by
  unfold writeGuarded
  cases writeAll d position s with
  | mk result after =>
    cases result with
    | error e => exact ⟨rfl, rfl⟩
    | ok _ =>
      refine ⟨?_, rfl⟩
      simp only [Closing.Guard.close_new]
      rfl

theorem writeGuarded_eq_ok {σ : Type} [Channel σ] {path : String} {position : Nat}
    {sync : Option Fault} {s : σ}
    (h : (writeGuarded path position d sync s).1.result = .ok ()) :
    sync = none ∧ (writeAll d position s).1 = .ok () := by
  rw [(writeGuarded_eq path position d sync s).1] at h
  obtain ⟨_, hwhole, hclosed⟩ := bind_eq_ok h
  refine ⟨?_, mapError_eq_ok.mp hwhole⟩
  cases sync with
  | none => rfl
  | some f => contradiction

theorem decodeData_of_spells (h : Spells r.hex.toList d) : decodeData r.hex = .ok d :=
  mapError_eq_ok.mpr (Text.Hex.decode_trim_of_spells h)

variable {l : Files.Location} {content : List UInt8} {opened : Tree}

theorem writeBytes_of_fault {f : Fault} (hd : decodeData r.hex = .ok d)
    (hopen : t.openToWrite r.path r.create = .error f) :
    writeBytes t r = (.failed (.openingToWrite r.path f), t) := by
  unfold writeBytes
  rw [hd]
  simp only [hopen]

theorem writeBytes_of_directory (hd : decodeData r.hex = .ok d)
    (hopen : t.openToWrite r.path r.create = .ok (l, .directory, opened)) :
    writeBytes t r = (.failed (.openingToWrite r.path Files.isDirectory), opened) := by
  unfold writeBytes
  rw [hd]
  simp only [hopen]

theorem writeBytes_of_file (hd : decodeData r.hex = .ok d)
    (hopen : t.openToWrite r.path r.create = .ok (l, .file content, opened)) :
    writeBytes t r =
      let guarded := writeGuarded r.path r.position d none (⟨content, t.volume⟩ : WritableFile)
      (guarded.1.map fun _ => d.length, opened.put l (.file guarded.2.content)) := by
  unfold writeBytes
  rw [hd]
  simp only [hopen]

theorem writeBytes_of_device {v : Files.Device} (hd : decodeData r.hex = .ok d)
    (hopen : t.openToWrite r.path r.create = .ok (l, .device v, opened)) :
    writeBytes t r =
      ((writeGuarded r.path r.position d (some (.system 22)) (⟨v⟩ : Files.WritableDevice)).1.map
        fun _ => d.length, opened) := by
  unfold writeBytes
  rw [hd]
  simp only [hopen]

/-- A write that succeeds has met a regular file, perhaps a new one, and laid the bytes over it. -/
theorem writeBytes_eq_ok (hd : decodeData r.hex = .ok d) (h : (writeBytes t r).1.result = .ok n) :
    ∃ l content opened, t.openToWrite r.path r.create = .ok (l, .file content, opened) ∧
      (writeBytes t r).2 = opened.put l (.file (written d r.position content)) := by
  cases hopen : t.openToWrite r.path r.create with
  | error f =>
    rw [writeBytes_of_fault hd hopen] at h
    cases h
  | ok place =>
    obtain ⟨l, entry, opened⟩ := place
    cases entry with
    | file content =>
      rw [writeBytes_of_file hd hopen] at h ⊢
      obtain ⟨_, hguarded, -⟩ := map_eq_ok h
      obtain ⟨-, hwhole⟩ := writeGuarded_eq_ok hguarded
      have hcontent := LaysDown.content_writeAll (writableFile_laysDown t.volume) rfl hwhole
      have hafter := (writeGuarded_eq r.path r.position d none (⟨content, t.volume⟩ : WritableFile)).2
      refine ⟨l, content, opened, rfl, ?_⟩
      rw [← hcontent, ← hafter]
    | directory =>
      rw [writeBytes_of_directory hd hopen] at h
      cases h
    | device v =>
      rw [writeBytes_of_device hd hopen] at h
      obtain ⟨_, hguarded, -⟩ := map_eq_ok h
      obtain ⟨hsync, -⟩ := writeGuarded_eq_ok hguarded
      cases hsync

theorem writeBytes_of_fits (hd : decodeData r.hex = .ok d)
    (hopen : t.openToWrite r.path r.create = .ok (l, .file content, opened))
    (hfits : r.position + d.length ≤ t.volume.sizeLimit) :
    (writeBytes t r).1.result = .ok d.length := by
  have hlimit := t.volume.sizeLimit_lt
  have hword : Channel.filePositionLimit < wordLimit := by decide
  have hwhole : (writeAll d r.position (⟨content, t.volume⟩ : WritableFile)).1 = .ok () := by
    rw [writeAll, if_neg (by omega)]
    exact LaysDown.writeRemaining_ok (writableFile_laysDown t.volume)
      (writableFile_obliging t.volume) d r.position _ rfl (Nat.lt_succ_of_le hfits)
  have hguarded := (writeGuarded_eq r.path r.position d none (⟨content, t.volume⟩ : WritableFile)).1
  rw [hwhole] at hguarded
  rw [writeBytes_of_file hd hopen]
  simp only [Performed.map]
  rw [hguarded]
  rfl

end Writing

section Runs

variable {host : Platform} {t : Tree} {i : Invocation} {words : List String}

theorem Performed.result_map {α β : Type} (p : Performed α) (g : α → β) :
    (p.map g).result = p.result.map g := rfl

section Performing

variable (host : Platform) (settings : Settings) (format : Format) (t : Tree)

theorem result_perform_read (r : ReadRequest) :
    (perform host settings format t (.read r)).1.result
      = (fileRange t r).result.map (showRange r · format) := by
  rw [perform, ← Performed.result_map]

theorem result_perform_write (r : WriteRequest) :
    (perform host settings format t (.write r)).1.result
      = (writeBytes t r).1.result.map (showWritten r · format) := by
  rw [perform, ← Performed.result_map]

theorem tree_perform_write (r : WriteRequest) :
    (perform host settings format t (.write r)).2 = (writeBytes t r).2 := by
  rw [perform]

end Performing

theorem Failure.status_ne_zero (f : Failure) : f.status ≠ 0 := by
  unfold Failure.status
  split <;> simp

theorem status_ofPerformed_eq_zero {logged : List Event} {p : Performed Styled} :
    (Conclusion.ofPerformed logged p).status = 0 ↔ ∃ out, p.result = .ok out := by
  unfold Conclusion.ofPerformed
  cases p.result with
  | ok out => simp
  | error f => simpa [Conclusion.ofFailure] using f.status_ne_zero

theorem run_of_line (h : readLine words = .ok i) : run host t words = carryOut host t i := by
  rw [run, h]

/-- A run that succeeds has been prepared and has done its task. -/
theorem of_status_eq_zero (h : (carryOut host t i).1.status = 0) :
    ∃ settings out, (perform host settings i.format t i.task).1.result = .ok out ∧
      (carryOut host t i).2 = (perform host settings i.format t i.task).2 := by
  unfold carryOut at h ⊢
  cases hp : prepare t i with
  | error e =>
    rw [hp] at h
    exact absurd h (Failure.host e).status_ne_zero
  | ok prepared =>
    obtain ⟨settings, control, filter⟩ := prepared
    rw [hp] at h
    obtain ⟨out, hout⟩ := status_ofPerformed_eq_zero.mp h
    exact ⟨settings, out, hout, rfl⟩

theorem prepare_of_filter {settings : Settings} {f : Logging.Filter}
    (hsettings : effectiveSettings t i.config i.logLevel = .ok settings)
    (hf : Logging.filterOf settings.logging = .ok f) :
    prepare t i = .ok (settings, ⟨settings.logging, some f⟩, f.render) := by
  have hinstall : Logging.Control.install false settings.logging
      = .ok ⟨settings.logging, some f⟩ := by
    rw [Logging.Control.install, Logging.Control.ofSettings_of_filter hf]
    rfl
  rw [prepare, hsettings]
  show (Logging.Control.install false settings.logging).bind _ = _
  rw [hinstall]
  rfl

/-- Without a settings file and a level of its own a run can always be prepared. -/
theorem exists_prepare (hconfig : i.config = none) (hlevel : i.logLevel = none) :
    ∃ prepared, prepare t i = .ok prepared := by
  have hsettings : effectiveSettings t i.config i.logLevel = .ok {} := by
    rw [hconfig, hlevel]
    rfl
  exact ⟨_, prepare_of_filter hsettings (Logging.filterOf_of_paths .info [] (by simp))⟩

/-- A prepared run whose task is done ends well and shows what the task gives. -/
theorem carryOut_of_prepared {prepared : Settings × Logging.Control × String} {out : Styled}
    (hp : prepare t i = .ok prepared)
    (hout : (perform host prepared.1 i.format t i.task).1.result = .ok out) :
    (carryOut host t i).1.status = 0 ∧ (carryOut host t i).1.output = out := by
  obtain ⟨settings, control, filter⟩ := prepared
  rw [carryOut, hp]
  simp only [Conclusion.ofPerformed]
  rw [hout]
  exact ⟨rfl, rfl⟩

end Runs

end ServiceKit.Command
