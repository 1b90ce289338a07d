import Mathlib.Data.Finset.Card
import ServiceKit.Proofs.Construction.Cache
import ServiceKit.Proofs.Construction.Moves
import ServiceKit.Proofs.Construction.Transparency

/-!
Threads that resolve with one factory, their steps in any order. Two of them may search for the same
key and keep what they found one after the other; what they found is the same, and the key is kept
once. Every request is counted once, as a hit or as a search, and one that begins after the key was
handed out is a hit.
-/

namespace ServiceKit.Construction

variable {Ty : Type} [Family Ty]

/-- Whether the request has still to be counted, as a hit or as a search. -/
def Phase.pending : Phase Ty → Bool
  | .looking _ | .hitting .. | .missing _ => true
  | .idle | .searching .. | .keeping .. => false

/-- A handle under way is for the constructor that a search selects. -/
def Phase.Faithful [DecidableEq Ty] (declared : Ty → List (Constructor Ty)) : Phase Ty → Prop
  | .hitting k h | .keeping k h => Factory.search declared k = some h.constructor
  | .idle | .looking _ | .missing _ | .searching .. => True

/-- A request that was not found kept was made before its key was handed out. -/
def Phase.Since (history : List (Occasion Ty)) (t : Thread) : Phase Ty → Prop
  | .idle => True
  | .looking k | .hitting k _ => ∃ before, Begun history before t k
  | .missing k | .searching k _ | .keeping k _ =>
    ∃ before, Begun history before t k ∧ k ∉ (obtained before).map (·.1)

theorem Phase.Since.append {history : List (Occasion Ty)} {t : Thread} {p : Phase Ty}
    (h : p.Since history t) {o : Occasion Ty} (ho : o.thread ≠ t) : p.Since (history ++ [o]) t := by
  cases p with
  | idle => trivial
  | looking k | hitting k _ =>
    obtain ⟨before, hb⟩ := h
    exact ⟨before, hb.append ho⟩
  | missing k | searching k _ | keeping k _ =>
    obtain ⟨before, hb, hk⟩ := h
    exact ⟨before, hb.append ho, hk⟩

theorem append_singleton_eq_split {α : Type} {xs front rest : List α} {o e : α}
    (h : xs ++ [o] = front ++ e :: rest) :
    (front = xs ∧ e = o ∧ rest = []) ∨ ∃ rest', rest = rest' ++ [o] ∧ xs = front ++ e :: rest' := by
  rcases List.eq_nil_or_concat rest with rfl | ⟨rest', o', rfl⟩
  · obtain ⟨rfl, he⟩ := List.append_inj' h rfl
    exact .inl ⟨rfl, (List.singleton_inj.mp he).symm, rfl⟩
  · rw [List.concat_eq_append, ← List.cons_append, ← List.append_assoc] at h
    obtain ⟨rfl, he⟩ := List.append_inj' h rfl
    exact .inr ⟨rest', by rw [List.concat_eq_append, List.singleton_inj.mp he], rfl⟩

namespace Threads

section Invariants

variable {s : Threads Ty} {t : Thread} {p : Phase Ty} {n : Nat}

/-- So many threads have a request that is still to be counted. -/
def Pending (s : Threads Ty) (n : Nat) : Prop :=
  ∃ ts : Finset Thread, (∀ t, t ∈ ts ↔ (s.phase t).pending = true) ∧ ts.card = n

theorem Pending.same (h : s.Pending n) (hp : p.pending = (s.phase t).pending) :
    (s.enter t p).Pending n := by
  obtain ⟨ts, hts, hn⟩ := h
  exact ⟨ts, forall_phase_enter (P := fun u q => u ∈ ts ↔ q.pending = true)
    (by rw [hts, hp]) fun u _ => hts u, hn⟩

theorem Pending.one_more (h : s.Pending n) (hs : (s.phase t).pending = false)
    (hp : p.pending = true) : (s.enter t p).Pending (n + 1) := by
  obtain ⟨ts, hts, rfl⟩ := h
  refine ⟨insert t ts, forall_phase_enter
    (P := fun u q => u ∈ insert t ts ↔ q.pending = true) ?_ fun u hu => ?_, ?_⟩
  · simp [hp]
  · rw [Finset.mem_insert, or_iff_right hu, hts]
  · exact Finset.card_insert_of_notMem (by simp [hts, hs])

theorem Pending.one_less (h : s.Pending n) (hs : (s.phase t).pending = true)
    (hp : p.pending = false) : ∃ m, n = m + 1 ∧ (s.enter t p).Pending m := by
  obtain ⟨ts, hts, rfl⟩ := h
  refine ⟨(ts.erase t).card, ?_, ts.erase t, forall_phase_enter
    (P := fun u q => u ∈ ts.erase t ↔ q.pending = true) ?_ fun u hu => ?_, rfl⟩
  · exact (Finset.card_erase_add_one ((hts t).mpr hs)).symm
  · simp [hp]
  · rw [Finset.mem_erase, and_iff_right hu, hts]

theorem Pending.of_quiet (h : s.Pending n) (hq : s.Quiet) : n = 0 := by
  obtain ⟨ts, hts, rfl⟩ := h
  rw [Finset.card_eq_zero, Finset.eq_empty_iff_forall_notMem]
  intro t ht
  rw [hts, hq t] at ht
  contradiction

/-- Every request is counted once: as a search or as a hit, or it is still to be counted. -/
structure Balanced (s : Threads Ty) : Prop where
  calls : ∃ n, s.Pending n ∧ s.begun.length = s.factory.resolutions + s.factory.hits + n
  hits : s.factory.hits = s.ended.countP (·.2.hit)

theorem balanced_start : Balanced (start : Threads Ty) where
  calls := ⟨0, ⟨∅, by simp [start, Phase.pending], rfl⟩, rfl⟩
  hits := rfl

/-- The keys kept are those that a handle was handed out for, each of them once. -/
structure Complete (s : Threads Ty) : Prop where
  nodup : s.factory.keys.Nodup
  mem_iff : ∀ k, k ∈ s.factory.keys ↔ k ∈ (obtained s.history).map (·.1)
  hitting : ∀ t k h, s.phase t = .hitting k h → k ∈ s.factory.keys

theorem complete_start : Complete (start : Threads Ty) where
  nodup := List.nodup_nil
  mem_iff k := Iff.rfl
  hitting t k h hp := by simp [start] at hp

theorem Complete.enter (hs : Complete s) {f : Factory Ty}
    (hf : ∀ k ∈ s.factory.keys, k ∈ f.keys) (hp : ∀ k h, p = .hitting k h → k ∈ f.keys) :
    ∀ u k h, (s.enter t p).phase u = .hitting k h → k ∈ f.keys :=
  forall_phase_enter (P := fun _ q => ∀ k h, q = .hitting k h → k ∈ f.keys) hp
    fun u _ k h hu => hf k (hs.hitting u k h hu)

/-- Every request that ended had begun, and it was a hit if its key had been handed out by then. -/
structure Timely (s : Threads Ty) : Prop where
  phase : ∀ t, (s.phase t).Since s.history t
  ended : ∀ front t k r rest, s.history = front ++ .ended t k r :: rest →
    ∃ before, Begun front before t k ∧ (k ∈ (obtained before).map (·.1) → r.hit = true)

theorem timely_start : Timely (start : Threads Ty) where
  phase _ := trivial
  ended front t k r rest h := by simp [start] at h

theorem Timely.since (hs : Timely s) (hp : s.phase t = p) : p.Since s.history t :=
  hp ▸ hs.phase t

theorem Timely.enter (hs : Timely s) (hp : p.Since s.history t) :
    ∀ u, ((s.enter t p).phase u).Since s.history u :=
  forall_phase_enter (P := fun u q => q.Since s.history u) hp fun u _ => hs.phase u

theorem Timely.enter_append (hs : Timely s) {o : Occasion Ty} (ho : o.thread = t)
    (hp : p.Since (s.history ++ [o]) t) :
    ∀ u, ((s.enter t p).phase u).Since (s.history ++ [o]) u :=
  forall_phase_enter (P := fun u q => q.Since (s.history ++ [o]) u) hp
    fun u hu => (hs.phase u).append (ho ▸ hu.symm)

theorem Timely.begin (hs : Timely s) (k : Key Ty) :
    Timely ((s.enter t (.looking k)).record (.began t k)) where
  phase := hs.enter_append rfl ⟨s.history, .now s.history t k⟩
  ended front u q r rest h := by
    rcases append_singleton_eq_split h with ⟨-, ho, -⟩ | ⟨rest', -, h⟩
    · contradiction
    · exact hs.ended front u q r rest' h

theorem Timely.finish (hs : Timely s) {k : Key Ty} {r : Resolved Ty} (f : Factory Ty)
    (hr : ∃ before, Begun s.history before t k ∧
      (k ∈ (obtained before).map (·.1) → r.hit = true)) :
    Timely { s.finish t k r with factory := f } where
  phase := hs.enter_append rfl trivial
  ended front u q a rest h := by
    rcases append_singleton_eq_split h with ⟨rfl, ho, -⟩ | ⟨rest', -, h⟩
    · obtain ⟨rfl, rfl, rfl⟩ := Occasion.ended.inj ho
      exact hr
    · exact hs.ended front u q a rest' h

end Invariants

variable [DecidableEq Ty] {declared : Ty → List (Constructor Ty)} {s s' : Threads Ty}

theorem Balanced.move (hb : Balanced s) (h : Move declared s s') : Balanced s' := by
  obtain ⟨⟨n, hn, hc⟩, hh⟩ := hb
  cases h with
  | begins hp =>
    refine ⟨⟨n + 1, hn.one_more (by rw [hp]; rfl) rfl, ?_⟩, ?_⟩
    · rw [begun_ask, List.length_append, hc]
      rfl
    · rw [ended_ask]
      exact hh
  | finds hp hl => exact ⟨⟨n, hn.same (by rw [hp]; rfl), hc⟩, hh⟩
  | lacks hp hl => exact ⟨⟨n, hn.same (by rw [hp]; rfl), hc⟩, hh⟩
  | hits hp =>
    obtain ⟨m, rfl, hm⟩ := hn.one_less (p := .idle) (by rw [hp]; rfl) rfl
    refine ⟨⟨m, hm, ?_⟩, ?_⟩
    · rw [begun_finish, hc]
      dsimp only
      omega
    · rw [ended_finish, List.countP_append, ← hh]
      rfl
  | counts hp =>
    obtain ⟨m, rfl, hm⟩ := hn.one_less (p := .searching _ _) (by rw [hp]; rfl) rfl
    refine ⟨⟨m, hm, ?_⟩, hh⟩
    show s.begun.length = s.factory.resolutions + 1 + s.factory.hits + m
    omega
  | refuses hp hs =>
    refine ⟨⟨n, hn.same (p := .idle) (by rw [hp]; rfl), ?_⟩, ?_⟩
    · rw [begun_finish, hc]
    · rw [ended_finish, List.countP_append, ← hh]
      rfl
  | selects hp hs => exact ⟨⟨n, hn.same (by rw [hp]; rfl), hc⟩, hh⟩
  | keeps hp =>
    refine ⟨⟨n, hn.same (p := .idle) (by rw [hp]; rfl), ?_⟩, ?_⟩
    · rw [begun_finish, hc]
    · rw [ended_finish, List.countP_append, ← hh]
      rfl

variable (declared) in
/-- What is kept, under way and handed out is what a search selects. -/
structure Honest (s : Threads Ty) : Prop where
  kept : s.factory.Faithful declared
  phase : ∀ t, (s.phase t).Faithful declared
  ended : ∀ k r, (k, r) ∈ s.ended → r.result.map (·.constructor) = Factory.select declared k

theorem honest_start : Honest declared start where
  kept := Factory.faithful_empty
  phase _ := trivial
  ended := by simp [Threads.ended, start]

theorem Honest.faithful (hs : Honest declared s) {t : Thread} {p : Phase Ty}
    (hp : s.phase t = p) : p.Faithful declared :=
  hp ▸ hs.phase t

theorem Honest.enter (hs : Honest declared s) {t : Thread} {p : Phase Ty}
    (hp : p.Faithful declared) : ∀ u, ((s.enter t p).phase u).Faithful declared :=
  forall_phase_enter (P := fun _ q => q.Faithful declared) hp fun u _ => hs.phase u

theorem Honest.finish (hs : Honest declared s) {t : Thread} {k : Key Ty} {r : Resolved Ty}
    {f : Factory Ty} (hf : f.Faithful declared)
    (hr : r.result.map (·.constructor) = Factory.select declared k) :
    Honest declared { s.finish t k r with factory := f } where
  kept := hf
  phase := hs.enter trivial
  ended q a ha := by
    rw [ended_finish, List.mem_append, List.mem_singleton] at ha
    rcases ha with ha | ha
    · exact hs.ended q a ha
    · obtain ⟨rfl, rfl⟩ := Prod.mk.inj ha
      exact hr

theorem Honest.move (hs : Honest declared s) (h : Move declared s s') : Honest declared s' := by
  cases h with
  | begins hp =>
    refine ⟨hs.kept, hs.enter trivial, fun k r hr => hs.ended k r ?_⟩
    rwa [ended_ask] at hr
  | finds hp hl => exact { hs with phase := hs.enter (hs.kept _ _ hl) }
  | lacks hp hl => exact { hs with phase := hs.enter trivial }
  | @hits t k g hp =>
    have hsearch : Factory.search declared k = some g.constructor := hs.faithful hp
    exact hs.finish hs.kept (by rw [Factory.select, hsearch]; rfl)
  | counts hp => exact { hs with phase := hs.enter trivial }
  | refuses hp hn => exact hs.finish hs.kept (by rw [Factory.select, hn]; rfl)
  | selects hp hc => exact { hs with phase := hs.enter hc }
  | @keeps t k g hp =>
    have hsearch : Factory.search declared k = some g.constructor := hs.faithful hp
    exact hs.finish (hs.kept.keep hsearch) (by rw [Factory.select, hsearch]; rfl)

theorem Complete.move (hs : Complete s) (h : Move declared s s') : Complete s' := by
  have hsame : ∀ k ∈ s.factory.keys, k ∈ s.factory.keys := fun _ hk => hk
  cases h with
  | begins hp =>
    refine ⟨hs.nodup, fun q => ?_, hs.enter hsame (by simp)⟩
    show q ∈ s.factory.keys ↔ q ∈ (obtained (s.history ++ [_])).map (·.1)
    rw [obtained_began, hs.mem_iff]
  | finds hp hl =>
    refine { hs with hitting := hs.enter hsame ?_ }
    rintro k h ⟨rfl, rfl⟩
    exact Factory.mem_keys_iff.mpr ⟨_, hl⟩
  | lacks hp hl => exact { hs with hitting := hs.enter hsame (by simp) }
  | @hits t k g hp =>
    refine ⟨hs.nodup, fun q => ?_, hs.enter hsame (by simp)⟩
    have hk : q = k → q ∈ s.factory.keys := fun hq => hq ▸ hs.hitting t k g hp
    show q ∈ s.factory.keys ↔ q ∈ (obtained (s.history ++ [_])).map (·.1)
    rw [obtained_given, List.map_append, List.mem_append, ← hs.mem_iff, List.map_singleton,
      List.mem_singleton, or_iff_left_of_imp hk]
  | counts hp => exact { hs with hitting := hs.enter hsame (by simp) }
  | refuses hp hn =>
    refine ⟨hs.nodup, fun q => ?_, hs.enter hsame (by simp)⟩
    show q ∈ s.factory.keys ↔ q ∈ (obtained (s.history ++ [_])).map (·.1)
    rw [obtained_refused, hs.mem_iff]
  | selects hp hc => exact { hs with hitting := hs.enter hsame (by simp) }
  | @keeps t k g hp =>
    have hmore : ∀ q ∈ s.factory.keys, q ∈ (Factory.keep k g s.factory.cache).map (·.1) :=
      fun q hq => Factory.mem_keys_keep.mpr (.inr hq)
    refine ⟨Factory.nodup_keys_keep hs.nodup, fun q => ?_, hs.enter hmore (by simp)⟩
    show q ∈ (Factory.keep k g s.factory.cache).map (·.1)
      ↔ q ∈ (obtained (s.history ++ [_])).map (·.1)
    rw [obtained_given, List.map_append, List.mem_append, ← hs.mem_iff, List.map_singleton,
      List.mem_singleton, Factory.mem_keys_keep, or_comm]
    exact Iff.rfl

theorem Timely.move (hs : Timely s) (hc : Complete s) (h : Move declared s s') : Timely s' := by
  cases h with
  | begins hp => exact hs.begin _
  | @finds t k g hp hl =>
    have hsince := hs.since hp
    exact { hs with phase := hs.enter (p := .hitting k g) hsince }
  | @lacks t k hp hl =>
    obtain ⟨before, hb⟩ := hs.since hp
    -- What was handed out is kept, so what is not kept was not handed out by now, let alone before.
    have hk : k ∉ (obtained before).map (·.1) := fun hk => by
      rw [Factory.lookup?_eq_none_iff, hc.mem_iff] at hl
      exact hl (List.map_subset _ hb.obtained_subset hk)
    exact { hs with phase := hs.enter (p := .missing k) ⟨before, hb, hk⟩ }
  | hits hp =>
    obtain ⟨before, hb⟩ := hs.since hp
    exact hs.finish _ ⟨before, hb, fun _ => rfl⟩
  | @counts t k hp =>
    have hsince := hs.since hp
    exact { hs with phase := hs.enter (p := .searching k _) hsince }
  | refuses hp hn =>
    obtain ⟨before, hb, hk⟩ := hs.since hp
    exact hs.finish _ ⟨before, hb, fun h => absurd h hk⟩
  | @selects t k n c hp hsearch =>
    have hsince := hs.since hp
    exact { hs with phase := hs.enter (p := .keeping k ⟨c, n⟩) hsince }
  | keeps hp =>
    obtain ⟨before, hb, hk⟩ := hs.since hp
    exact hs.finish _ ⟨before, hb, fun h => absurd h hk⟩

theorem Honest.search_of_obtained (hs : Honest declared s) {k : Key Ty} {h : Handle Ty}
    (hk : (k, h) ∈ obtained s.history) : Factory.search declared k = some h.constructor := by
  obtain ⟨hit, hk⟩ := mem_obtained hk
  exact Factory.select_eq_ok.mp (hs.ended _ _ hk).symm

theorem Honest.call_of_ended (hs : Honest declared s) {k : Key Ty} {r : Resolved Ty}
    (hk : (k, r) ∈ s.ended) (a : Arguments Ty) :
    r.result.bind (·.call a) = (Factory.empty.build declared k.target k.signature a).result := by
  rw [Factory.faithful_empty.build_result, ← hs.ended k r hk]
  cases r.result <;> rfl

variable (declared)

/-- Once no request is under way each was counted once, as a search or as a hit; what it came to is
what an empty factory gives; and one that began after its key had been handed out was a hit. -/
theorem execute_start_accounted (schedule : List (Turn Ty)) :
    let s := start.execute declared schedule
    (s.Quiet → s.factory.resolutions + s.factory.hits = s.begun.length) ∧
    s.factory.hits = s.ended.countP (·.2.hit) ∧
    s.factory.cache.length = ((obtained s.history).map (·.1)).dedup.length ∧
    (∀ k r, (k, r) ∈ s.ended → ∀ a,
      r.result.bind (·.call a) = (Factory.empty.build declared k.target k.signature a).result) ∧
    (∀ k h, (k, h) ∈ obtained s.history →
      (declared k.target).find? (·.answers k) = some h.constructor ∧
        h.constructor.target = k.target ∧ h.constructor.signature = k.signature) ∧
    ∀ front t k r rest, s.history = front ++ .ended t k r :: rest →
      ∃ before, Begun front before t k ∧ (k ∈ (obtained before).map (·.1) → r.hit = true) := by
  intro s
  have hb : s.Balanced := execute_keeps (fun _ _ h hs => hs.move h) schedule balanced_start
  have hh : s.Honest declared := execute_keeps (fun _ _ h hs => hs.move h) schedule honest_start
  obtain ⟨hc, ht⟩ : s.Complete ∧ s.Timely :=
    execute_keeps (P := fun s => s.Complete ∧ s.Timely)
      (fun _ _ h hs => ⟨hs.1.move h, hs.2.move hs.1 h⟩) schedule ⟨complete_start, timely_start⟩
  refine ⟨fun hq => ?_, hb.hits, Factory.length_cache_eq hc.nodup hc.mem_iff,
    fun k r hk => hh.call_of_ended hk, fun k h hk => ?_, ht.ended⟩
  · obtain ⟨n, hn, hcalls⟩ := hb.calls
    rw [hn.of_quiet hq] at hcalls
    exact hcalls.symm
  · have hsearch := hh.search_of_obtained hk
    have hanswers := List.find?_some hsearch
    rw [Constructor.answers, Bool.and_eq_true, decide_eq_true_eq, decide_eq_true_eq] at hanswers
    exact ⟨hsearch, hanswers⟩

/-- Two threads miss one key, search twice and keep it once; then the first one has a hit. -/
example :
    let k : Key Sample := ⟨.twin, [.bool]⟩
    let s := start.execute Sample.declared
      [.ask 0 k, .ask 1 k, .go 0, .go 1, .go 0, .go 1, .go 0, .go 1, .go 0, .go 1,
        .ask 0 k, .go 0, .go 0]
    s.factory.resolutions = 2 ∧ s.factory.hits = 1 ∧ s.factory.cache.length = 1 ∧
      s.begun.length = 3 :=
  ⟨rfl, rfl, rfl, rfl⟩

end Threads

end ServiceKit.Construction
