import ServiceKit.Proofs.Transfer.Steady
import ServiceKit.Transfer.Buffered
import ServiceKit.Transfer.Memory
import ServiceKit.Transfer.Scripted

/-!
The streams that are steady: bytes in memory, a cursor wherever it stands, a regular file, a pipe, a
script that delivers non-empty pieces, and a buffer of any capacity over any steady stream.
-/

namespace ServiceKit.Transfer

variable {σ : Type} [Reader σ]

theorem drop_min_length (n : Nat) (rest : List UInt8) :
    rest.drop (min n rest.length) = rest.drop n := by
  rcases Nat.le_total n rest.length with h | h
  · rw [Nat.min_eq_left h]
  · rw [Nat.min_eq_right h, List.drop_of_length_le h, List.drop_length]

theorem deliver_eq (room : Nat) (rest : List UInt8) :
    deliver room rest = ⟨rest.take (min room rest.length), .ok (min room rest.length)⟩ := by
  rw [deliver, List.length_take, List.take_eq_take_min]

theorem exists_piece {R : σ → List UInt8 → Prop} {s after : σ} {rest : List UInt8} {room k : Nat}
    (hk : k ≤ room) (hz : k = 0 → room = 0) (h : Reader.read room s = (deliver k rest, after))
    (hR : R after (rest.drop k)) :
    ∃ n after, Reader.read room s = (⟨rest.take n, .ok n⟩, after) ∧ R after (rest.drop n) ∧
      n ≤ room ∧ n ≤ rest.length ∧ (n = 0 → room = 0 ∨ rest = []) := by
  refine ⟨min k rest.length, after, ?_, ?_, by omega, by omega, fun hn => ?_⟩
  · rw [h, deliver_eq]
  · rwa [drop_min_length]
  · rw [← List.length_eq_zero_iff]
    omega

/-- A stream that always delivers as much as fits is steady. -/
theorem steady_of_deliver {view : σ → List UInt8}
    (h : ∀ room s, (Reader.read room s).1 = deliver room (view s) ∧
      view (Reader.read room s).2 = (view s).drop room) :
    Steady fun s rest => view s = rest where
  read := by
    rintro s _ rfl room
    obtain ⟨hanswer, hview⟩ := h room s
    exact exists_piece (Nat.le_refl room) id (Prod.ext hanswer rfl) hview

theorem slice_steady : SteadySkipping fun (s : Slice) rest => s.rest = rest where
  toSteady := steady_of_deliver fun _ _ => ⟨rfl, rfl⟩
  skip := by
    rintro s _ rfl n
    exact ⟨min n s.rest.length, _, rfl, (drop_min_length n s.rest).symm, by omega, by omega⟩

theorem pipe_steady : SteadySkipping fun (p : Pipe) rest => p.rest = rest where
  toSteady := steady_of_deliver fun _ _ => ⟨rfl, rfl⟩
  skip := by
    rintro p _ rfl n
    have hp : Steady fun (p : Pipe) rest => p.rest = rest := steady_of_deliver fun _ _ => ⟨rfl, rfl⟩
    obtain ⟨after, hskip, hafter⟩ := hp.passBy rfl n 0
    rw [Nat.zero_add] at hskip
    exact ⟨_, after, hskip, hafter.trans (drop_min_length n p.rest).symm, by omega, by omega⟩

namespace Cursor

theorem rest_advance (n : Nat) (c : Cursor) : (c.advance n).rest = c.rest.drop n := by
  rw [rest, rest, advance, List.drop_drop]

theorem length_rest (c : Cursor) : c.rest.length = c.content.length - c.position := by
  rw [rest, List.length_drop]

theorem step_eq (n : Nat) (c : Cursor) : c.step n = min n c.rest.length := by
  rw [step, length_rest]

theorem read_rest (room : Nat) (c : Cursor) :
    (c.read room).1 = deliver room c.rest ∧ (c.read room).2.rest = c.rest.drop room := by
  refine ⟨rfl, ?_⟩
  have hn : (c.read room).2 = c.advance (min room c.rest.length) := by
    simp [read, advance, deliver]
  rw [hn, rest_advance, drop_min_length]

end Cursor

theorem cursor_steady : SteadySkipping fun (c : Cursor) rest => c.rest = rest where
  toSteady := steady_of_deliver Cursor.read_rest
  skip := by
    rintro c _ rfl n
    have hstep := c.step_eq n
    exact ⟨c.step n, _, rfl, c.rest_advance _, by omega, by omega⟩

theorem regularFile_steady : SteadySkipping fun (f : RegularFile) rest => f.cursor.rest = rest where
  toSteady := steady_of_deliver fun room f => f.cursor.read_rest room
  skip := by
    rintro f _ rfl n
    have hstep := f.cursor.step_eq n
    exact ⟨min (f.cursor.step n) seekLimit, _, rfl, f.cursor.rest_advance _, by omega, by omega⟩

def Scripted.Generous (s : Scripted) : Prop := ∀ a ∈ s.reads, ∃ n, a = .upTo (n + 1)

theorem scripted_steady : Steady fun (s : Scripted) rest => s.Generous ∧ s.rest = rest where
  read := by
    rintro ⟨rest, reads, skips⟩ _ ⟨hg, rfl⟩ room
    let R (s : Scripted) (rest : List UInt8) : Prop := s.Generous ∧ s.rest = rest
    cases reads with
    | nil =>
      have hafter : R ⟨rest.drop room, [], skips⟩ (rest.drop room) := ⟨hg, rfl⟩
      exact exists_piece (Nat.le_refl room) id rfl hafter
    | cons a reads =>
      obtain ⟨k, rfl⟩ := hg a List.mem_cons_self
      have hafter : R ⟨rest.drop (min room (k + 1)), reads, skips⟩ (rest.drop (min room (k + 1))) :=
        ⟨fun b hb => hg b (List.mem_cons_of_mem _ hb), rfl⟩
      exact exists_piece (by omega) (by omega) rfl hafter

namespace Buffered

/-- What is still to come through a buffer: what it holds, and then what is beneath. -/
def Holds (R : σ → List UInt8 → Prop) (b : Buffered σ) (rest : List UInt8) : Prop :=
  b.page.length = b.capacity ∧ ∃ beneath, R b.inner beneath ∧ rest = b.pending ++ beneath

variable {R : σ → List UInt8 → Prop} {b : Buffered σ} {rest : List UInt8}

omit [Reader σ] in
theorem holds_ofReader {inner : σ} (capacity : Nat) (h : R inner rest) :
    Holds R (ofReader capacity inner) rest :=
  ⟨List.length_replicate, rest, h, rfl⟩

omit [Reader σ] in
theorem serve_piece (h : Holds R b rest) (room : Nat) :
    ∃ n after, serve room b = (⟨rest.take n, .ok n⟩, after) ∧ Holds R after (rest.drop n) ∧
      n ≤ room ∧ n ≤ rest.length ∧ (n = 0 → room = 0 ∨ b.pending = []) := by
  obtain ⟨hpage, beneath, hinner, rfl⟩ := h
  have hn : min room b.pending.length ≤ b.pending.length := Nat.min_le_right _ _
  refine ⟨min room b.pending.length, { b with pending := b.pending.drop room }, ?_, ?_, by omega,
    ?_, fun hz => ?_⟩
  · rw [serve, deliver_eq, List.take_append_of_le_length hn]
  · refine ⟨hpage, beneath, hinner, ?_⟩
    rw [List.drop_append_of_le_length hn, drop_min_length]
  · rw [List.length_append]
    omega
  · rw [← List.length_eq_zero_iff]
    omega

/-- A fill makes bytes that are beneath pending, and at least one where there is any. -/
theorem exists_refill (hR : Steady R) (h : Holds R b rest) (hp : b.pending = [])
    (hc : b.capacity ≠ 0) (room : Nat) :
    ∃ filled : Buffered σ, refill room b = serve room filled ∧ Holds R filled rest ∧
      (filled.pending = [] → rest = []) := by
  obtain ⟨hpage, beneath, hinner, hrest⟩ := h
  rw [hp, List.nil_append] at hrest
  subst hrest
  obtain ⟨n, inner, hread, hafter, hroom, hlen, hzero⟩ := hR.read hinner b.capacity
  have hwrote : (rest.take n).length = n := List.length_take_of_le hlen
  have htake : (layOver (rest.take n) b.page).take n = rest.take n := by
    rw [take_layOver (Nat.le_of_eq hwrote.symm) (hpage ▸ hroom), List.take_take, Nat.min_self]
  refine ⟨{ b with
    inner, page := layOver (rest.take n) b.page, pending := rest.take n }, ?_, ?_, ?_⟩
  · rw [refill, hread]
    simp only [if_pos hroom, htake]
  · exact ⟨by rw [length_layOver, hpage], rest.drop n, hafter, (List.take_append_drop n rest).symm⟩
  · intro hempty
    have hn : n = 0 := by
      have hnil : rest.take n = [] := hempty
      rw [← List.length_take_of_le hlen, hnil, List.length_nil]
    exact (hzero hn).resolve_left hc

theorem holds_steady (hR : Steady R) : Steady (Holds R) where
  read := by
    intro b rest h room
    by_cases hp : b.pending = []
    · by_cases hc : b.capacity ≤ room
      · obtain ⟨hpage, beneath, hinner, rfl⟩ := h
        obtain ⟨n, inner, hread, hafter, hn⟩ := hR.read hinner room
        refine ⟨n, { b with inner }, ?_, ⟨hpage, beneath.drop n, hafter, ?_⟩, ?_⟩
        · rw [show Reader.read room b = bypass room b from read_of_large hp hc, bypass, hread, hp]
          rfl
        · rw [hp]
          rfl
        · rwa [hp]
      · obtain ⟨filled, hfill, hholds, hend⟩ := exists_refill hR h hp (by omega) room
        obtain ⟨n, after, hserve, hafter, hn, hlen, hzero⟩ := serve_piece hholds room
        refine ⟨n, after, ?_, hafter, hn, hlen, fun hz => (hzero hz).imp_right hend⟩
        rw [show Reader.read room b = refill room b from read_of_small hp (by omega), hfill, hserve]
    · obtain ⟨n, after, hserve, hafter, hn, hlen, hzero⟩ := serve_piece h room
      refine ⟨n, after, ?_, hafter, hn, hlen, fun hz => .inl ((hzero hz).resolve_right hp)⟩
      rw [show Reader.read room b = serve room b from read_of_pending hp, hserve]

variable [Patient σ]

theorem exists_skip_of_pending (h : Holds R b rest) (hp : b.pending ≠ []) (n : Nat) :
    ∃ after, Skipping.skip n b = (.ok (min n b.pending.length), after) ∧
      Holds R after (rest.drop (min n b.pending.length)) ∧ b.pending.length ≤ rest.length := by
  obtain ⟨hpage, beneath, hinner, rfl⟩ := h
  have hn : min n b.pending.length ≤ b.pending.length := Nat.min_le_right _ _
  refine ⟨_, skip_of_pending hp n, ⟨hpage, beneath, hinner, ?_⟩, ?_⟩
  · rw [List.drop_append_of_le_length hn, drop_min_length]
  · rw [List.length_append]
    exact Nat.le_add_right _ _

theorem exists_skip_of_empty (hR : Steady R) (h : Holds R b rest) (hp : b.pending = []) (n : Nat) :
    ∃ after, Skipping.skip n b = (.ok (min n rest.length), after) ∧
      Holds R after (rest.drop (min n rest.length)) := by
  obtain ⟨after, hskip, hafter⟩ := (holds_steady hR).passBy h n 0
  rw [Nat.zero_add] at hskip
  exact ⟨after, (skip_of_empty hp n).trans hskip, by rwa [drop_min_length]⟩

end Buffered

/-- A buffer of any capacity over a steady stream is steady, and so are its skips. -/
theorem buffered_steady [Patient σ] {R : σ → List UInt8 → Prop} (hR : Steady R) :
    SteadySkipping (Buffered.Holds R) where
  toSteady := Buffered.holds_steady hR
  skip := by
    intro b rest h n
    by_cases hp : b.pending = []
    · obtain ⟨after, hskip, hafter⟩ := Buffered.exists_skip_of_empty hR h hp n
      exact ⟨_, after, hskip, hafter, Nat.min_le_left _ _, Nat.min_le_right _ _⟩
    · obtain ⟨after, hskip, hafter, hle⟩ := Buffered.exists_skip_of_pending h hp n
      exact ⟨_, after, hskip, hafter, Nat.min_le_left _ _, Nat.le_trans (Nat.min_le_right _ _) hle⟩

end ServiceKit.Transfer
