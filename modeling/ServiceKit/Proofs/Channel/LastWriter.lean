import Mathlib.Data.List.Induction
import ServiceKit.Proofs.Channel.Offers
import ServiceKit.Proofs.Channel.Overwrite

/-!
Runs of writes to bytes in memory. Each byte of the content is in the end the one that the last write
over its place put there, else the one it was, else zero, and nothing else matters: not how a write
was cut on its way, nor whether its data came in one piece.
-/

namespace ServiceKit.Channel

open Text (wordLimit)

theorem Memory.offer_eq_ok {data : List UInt8} {position n : Nat} {m after : Memory}
    (h : m.offer data position = (.ok n, after)) :
    n = data.length ∧ after.content = overwrite data position m.content := by
  unfold Memory.offer at h
  split at h
  · simp at h
  · obtain ⟨hn, rfl⟩ := Prod.mk.inj h
    exact ⟨(Except.ok.inj hn).symm, rfl⟩

theorem Memory.offer_of_fits {data : List UInt8} {position : Nat}
    (h : position + data.length < wordLimit) (m : Memory) :
    m.offer data position = (.ok data.length, ⟨overwrite data position m.content⟩) :=
  if_neg (Nat.not_le_of_lt h)

theorem memory_laysDown : LaysDown (fun _ : Memory => True) Memory.content := by
  intro data position m n after _ hd h
  obtain ⟨rfl, hcontent⟩ := Memory.offer_eq_ok h
  rw [List.take_length]
  exact ⟨List.length_pos_iff.mpr hd, trivial, hcontent⟩

theorem memory_obliging : Obliging (fun _ : Memory => True) wordLimit := by
  intro data position m _ _ h
  exact ⟨_, _, Memory.offer_of_fits h m⟩

namespace Scripted

/-- Memory behind a channel that passes on a beginning of each offer only: one byte and as many more
as the cuts say, or all of it when there are no more cuts. -/
def chopping (cuts : List Nat) (m : Memory) : Scripted := ⟨m, cuts.map fun n => .upTo (n + 1)⟩

def Chops (s : Scripted) : Prop := ∃ cuts m, s = chopping cuts m

theorem Chops.exists_part {s : Scripted} (hs : s.Chops) {data : List UInt8} (hd : data ≠ [])
    (position : Nat) :
    ∃ n acts, 0 < n ∧ (∀ m, Chops ⟨m, acts⟩) ∧
      Channel.offer data position s
        = ((s.memory.offer (data.take n) position).1,
            ⟨(s.memory.offer (data.take n) position).2, acts⟩) := by
  obtain ⟨cuts, m, rfl⟩ := hs
  cases cuts with
  | nil =>
    refine ⟨data.length, [], List.length_pos_iff.mpr hd, fun m => ⟨[], m, rfl⟩, ?_⟩
    rw [List.take_length]
    rfl
  | cons n cuts => exact ⟨n + 1, _, n.succ_pos, fun m => ⟨cuts, m, rfl⟩, rfl⟩

end Scripted

theorem chopping_laysDown : LaysDown Scripted.Chops fun s => s.memory.content := by
  intro data position s n after hs hd h
  obtain ⟨k, acts, hk, hacts, hoffer⟩ := hs.exists_part hd position
  rw [hoffer] at h
  obtain ⟨hn, rfl⟩ := Prod.mk.inj h
  obtain ⟨rfl, hcontent⟩ := Memory.offer_eq_ok (Prod.ext hn rfl)
  have hpos : 0 < data.length := List.length_pos_iff.mpr hd
  refine ⟨?_, hacts _, ?_⟩
  · rw [List.length_take]
    omega
  · rw [List.length_take, ← List.take_eq_take_min]
    exact hcontent

theorem chopping_obliging : Obliging Scripted.Chops wordLimit := by
  intro data position s hs hd h
  obtain ⟨k, acts, hk, hacts, hoffer⟩ := hs.exists_part hd position
  have hfits : position + (data.take k).length < wordLimit := by
    rw [List.length_take]
    omega
  rw [Memory.offer_of_fits hfits] at hoffer
  exact ⟨_, _, hoffer⟩

inductive Route where
  | direct
  | chopped (cuts : List Nat)
  deriving DecidableEq

structure Write where
  data : List UInt8
  position : Nat
  route : Route
  deriving DecidableEq

namespace Write

def carryOut (w : Write) (m : Memory) : Except TransferFault Unit × Memory :=
  match w.route with
  | .direct => writeAll w.data w.position m
  | .chopped cuts =>
    let out := writeAll w.data w.position (Scripted.chopping cuts m)
    (out.1, out.2.memory)

def carryOutAll : List Write → Memory → List (Except TransferFault Unit) × Memory
  | [], m => ([], m)
  | w :: rest, m =>
    let out := w.carryOut m
    let more := carryOutAll rest out.2
    (out.1 :: more.1, more.2)

def Fits (w : Write) : Prop := w.position + w.data.length < wordLimit

variable {w : Write} {writes : List Write}

/-- Whatever its way, a write succeeds and lays down its data. -/
theorem carryOut_eq (h : w.Fits) (m : Memory) :
    w.carryOut m = (.ok (), ⟨written w.data w.position m.content⟩) := by
  obtain ⟨data, position, route⟩ := w
  unfold carryOut
  cases route with
  | direct =>
    have hok := memory_laysDown.writeRemaining_ok memory_obliging data position m trivial h
    have hcontent := memory_laysDown.content_writeRemaining data position m trivial hok
    show writeAll data position m = _
    rw [writeAll_of_fits h]
    exact Prod.ext hok (congrArg Memory.mk hcontent)
  | chopped cuts =>
    let s := Scripted.chopping cuts m
    have hs : s.Chops := ⟨cuts, m, rfl⟩
    have hok := chopping_laysDown.writeRemaining_ok chopping_obliging data position s hs h
    have hcontent := chopping_laysDown.content_writeRemaining data position s hs hok
    show ((writeAll data position s).1, (writeAll data position s).2.memory) = _
    rw [writeAll_of_fits h]
    exact Prod.ext hok (congrArg Memory.mk hcontent)

def layAll (writes : List Write) (content : List UInt8) : List UInt8 :=
  writes.foldl (fun content w => written w.data w.position content) content

theorem carryOutAll_eq (h : ∀ w ∈ writes, w.Fits) (m : Memory) :
    carryOutAll writes m = (writes.map fun _ => .ok (), ⟨layAll writes m.content⟩) := by
  induction writes generalizing m with
  | nil => rfl
  | cons w rest ih =>
    obtain ⟨hw, hrest⟩ := List.forall_mem_cons.mp h
    rw [carryOutAll, carryOut_eq hw, ih hrest]
    rfl

/-- The byte that the last write over a place has for it. -/
def lastByte? (writes : List Write) (q : Nat) : Option UInt8 :=
  writes.reverse.findSome? fun w => byteAt? w.data w.position q

theorem lastByte?_append_singleton (writes : List Write) (w : Write) (q : Nat) :
    lastByte? (writes ++ [w]) q = (byteAt? w.data w.position q).or (lastByte? writes q) := by
  unfold lastByte?
  rw [List.reverse_append, List.reverse_singleton, List.singleton_append, List.findSome?_cons]
  cases byteAt? w.data w.position q <;> rfl

theorem getD_layAll (writes : List Write) (content : List UInt8) (q : Nat) :
    (layAll writes content)[q]?.getD 0 = (lastByte? writes q).getD (content[q]?.getD 0) := by
  induction writes using List.reverseRecOn with
  | nil => rfl
  | append_singleton writes w ih =>
    have hlast : layAll (writes ++ [w]) content
        = written w.data w.position (layAll writes content) := by
      rw [layAll, List.foldl_append]
      rfl
    rw [hlast, getD_written, ih, lastByte?_append_singleton, Option.getD_or]

theorem length_layAll (writes : List Write) (content : List UInt8) :
    (layAll writes content).length
      = writes.foldl (fun n w => max n (reach w.data w.position)) content.length := by
  induction writes generalizing content with
  | nil => rfl
  | cons w rest ih =>
    rw [List.foldl_cons, ← length_written]
    exact ih (written w.data w.position content)

/-- Writes of the same data to the same places, on whatever ways. -/
def SameData (writes writes' : List Write) : Prop :=
  writes.map (fun w => (w.data, w.position)) = writes'.map fun w => (w.data, w.position)

theorem layAll_congr {writes' : List Write} (h : SameData writes writes') (content : List UInt8) :
    layAll writes content = layAll writes' content := by
  have hpairs (ws : List Write) : layAll ws content
      = (ws.map fun w => (w.data, w.position)).foldl (fun c p => written p.1 p.2 c) content := by
    rw [List.foldl_map]
    rfl
  rw [hpairs, hpairs, h]

theorem SameData.fits {writes' : List Write} (h : SameData writes writes')
    (hw : ∀ w ∈ writes, w.Fits) : ∀ w ∈ writes', w.Fits := by
  intro w hmem
  have hpair : (w.data, w.position) ∈ writes.map fun w => (w.data, w.position) := by
    rw [h]
    exact List.mem_map_of_mem hmem
  obtain ⟨v, hv, heq⟩ := List.mem_map.mp hpair
  obtain ⟨hdata, hposition⟩ := Prod.mk.inj heq
  have hfits := hw v hv
  rwa [Fits, hdata, hposition] at hfits

/-- Writes that end within sixty-four bits all succeed, whatever their ways to the memory. Each byte
of the content is then the one that the last write over its place had for it, else the one it was,
else zero. -/
theorem content_carryOutAll (h : ∀ w ∈ writes, w.Fits) (m : Memory) :
    let out := carryOutAll writes m
    out.1 = writes.map (fun _ => .ok ()) ∧
      out.2.content.length
        = writes.foldl (fun n w => max n (reach w.data w.position)) m.content.length ∧
      (∀ q < out.2.content.length,
        out.2.content[q]? = some ((lastByte? writes q).getD (m.content[q]?.getD 0))) ∧
      (∀ writes', SameData writes writes' → carryOutAll writes' m = out) ∧
      ∀ before after first rest position route route₁ route₂,
        writes = before ++ ⟨first ++ rest, position, route⟩ :: after →
        (carryOutAll (before ++ ⟨first, position, route₁⟩
          :: ⟨rest, position + first.length, route₂⟩ :: after) m).2 = out.2 := by
  intro out
  have hout : out = (writes.map fun _ => .ok (), ⟨layAll writes m.content⟩) := carryOutAll_eq h m
  refine ⟨by rw [hout], by rw [hout, length_layAll], fun q hq => ?_, fun writes' hsame => ?_, ?_⟩
  · have hbyte := getD_layAll writes m.content q
    rw [hout] at hq ⊢
    rw [List.getElem?_eq_getElem hq] at hbyte ⊢
    rw [← hbyte]
    rfl
  · have hlength : writes.length = writes'.length := by
      simpa using congrArg List.length hsame
    rw [hout, carryOutAll_eq (hsame.fits h), layAll_congr hsame, List.map_const', List.map_const',
      hlength]
  · intro before after first rest position route route₁ route₂ hsplit
    subst hsplit
    have hpieces : ∀ w ∈ before ++ ⟨first, position, route₁⟩
        :: ⟨rest, position + first.length, route₂⟩ :: after, w.Fits := by
      simp only [List.forall_mem_append, List.forall_mem_cons] at h ⊢
      obtain ⟨hbefore, hwhole, hafter⟩ := h
      change position + (first ++ rest).length < wordLimit at hwhole
      rw [List.length_append] at hwhole
      refine ⟨hbefore, ?_, ?_, hafter⟩
      · show position + first.length < wordLimit
        omega
      · show position + first.length + rest.length < wordLimit
        omega
    rw [hout, carryOutAll_eq hpieces]
    simp only [layAll, List.foldl_append, List.foldl_cons, written_append]

/-- Writes that overlap, that leave a gap and that are empty. -/
theorem content_carryOutAll_overlapping :
    let m : Memory := ⟨[1, 2, 3]⟩
    let writes : List Write :=
      [⟨[9, 9], 1, .chopped [0]⟩, ⟨[], 40, .direct⟩, ⟨[7, 8, 8], 5, .chopped [1, 0]⟩,
        ⟨[4], 2, .direct⟩]
    (∀ w ∈ writes, w.Fits) ∧
      (carryOutAll writes m).2.content.length = 8 ∧
      (carryOutAll writes m).2.content[2]? = some 4 ∧
      (carryOutAll writes m).2.content[3]? = some 0 := by
  intro m writes
  have hfits : ∀ w ∈ writes, w.Fits := by
    unfold Fits
    decide
  obtain ⟨-, hlength, hbyte, -⟩ := content_carryOutAll hfits m
  have height : (carryOutAll writes m).2.content.length = 8 := hlength
  refine ⟨hfits, height, ?_, ?_⟩
  · rw [hbyte 2 (by omega)]
    rfl
  · rw [hbyte 3 (by omega)]
    rfl

end Write

end ServiceKit.Channel
