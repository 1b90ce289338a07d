import ServiceKit.Command.Line
import ServiceKit.Proofs.Success

/-!
The numbers on a command line. Whatever the words and their order, a number that reaches the task has
been read as one of sixty-four bits.
-/

namespace ServiceKit.Command

open Text (wordLimit)

namespace Given

theorem number_lt {p : Parameter} {text : String} {n : Nat} (h : number p text = .ok n) :
    n < wordLimit :=
  Text.readNatural_lt (by decide) (mapError_eq_ok.mp h)

structure Bounded (g : Given) : Prop where
  offset : ∀ n ∈ g.offset, n < wordLimit
  length : ∀ n ∈ g.length, n < wordLimit
  position : ∀ n ∈ g.position, n < wordLimit
  bufferSize : ∀ n ∈ g.bufferSize, n < wordLimit

variable {g g' : Given} {p : Parameter} {text : String}

theorem bounded_empty : Bounded {} := by constructor <;> simp

theorem Bounded.set (hg : g.Bounded) (h : g.set p text = .ok g') : g'.Bounded := by
  have hnumber {n m : Nat} (hn : number p text = .ok n) (hm : m ∈ some n) : m < wordLimit := by
    obtain rfl := Option.mem_some.mp hm
    exact number_lt hn
  cases p with
  | config | format | path =>
    obtain ⟨_, -, h⟩ := bind_eq_ok h
    obtain rfl := Except.ok.inj h
    exact ⟨hg.offset, hg.length, hg.position, hg.bufferSize⟩
  | offset =>
    obtain ⟨n, hn, h⟩ := bind_eq_ok h
    obtain rfl := Except.ok.inj h
    exact ⟨fun _ => hnumber hn, hg.length, hg.position, hg.bufferSize⟩
  | length =>
    obtain ⟨n, hn, h⟩ := bind_eq_ok h
    obtain rfl := Except.ok.inj h
    exact ⟨hg.offset, fun _ => hnumber hn, hg.position, hg.bufferSize⟩
  | position =>
    obtain ⟨n, hn, h⟩ := bind_eq_ok h
    obtain rfl := Except.ok.inj h
    exact ⟨hg.offset, hg.length, fun _ => hnumber hn, hg.bufferSize⟩
  | bufferSize =>
    obtain ⟨n, hn, h⟩ := bind_eq_ok h
    obtain rfl := Except.ok.inj h
    exact ⟨hg.offset, hg.length, hg.position, fun _ => hnumber hn⟩
  | logLevel | hex | create | help | version =>
    obtain rfl := Except.ok.inj h
    exact ⟨hg.offset, hg.length, hg.position, hg.bufferSize⟩

theorem Bounded.accept (hg : g.Bounded) (h : g.accept p text = .ok g') : g'.Bounded := by
  unfold Given.accept at h
  split at h
  · contradiction
  · exact hg.set h

end Given

namespace Progress

variable {scope : Scope} {s s' : Progress} {word : String}

def Bounded (s : Progress) : Prop := s.given.Bounded

theorem Bounded.resolve (hs : s.Bounded) (h : s.resolve = .ok s') : s'.Bounded := by
  unfold Progress.resolve at h
  split at h
  · rwa [← Except.ok.inj h]
  · contradiction
  · obtain ⟨g, hg, h⟩ := bind_eq_ok h
    rw [← Except.ok.inj h]
    exact Given.Bounded.accept hs hg

theorem Bounded.operand (hs : s.Bounded) (h : s.operand scope word = .ok s') : s'.Bounded := by
  unfold Progress.operand at h
  split at h
  · obtain ⟨r, hr, h⟩ := bind_eq_ok h
    have hresolved : r.Bounded := hs.resolve hr
    rwa [← Except.ok.inj h]
  · contradiction

theorem Bounded.switch {p : Parameter} (hs : s.Bounded) (h : s.switch scope p = .ok s') :
    s'.Bounded := by
  obtain ⟨r, hr, h⟩ := bind_eq_ok h
  have hresolved : r.Bounded := hs.resolve (mapError_eq_ok.mp hr)
  split at h
  · contradiction
  · contradiction
  · obtain ⟨g, hg, h⟩ := bind_eq_ok h
    rw [← Except.ok.inj h]
    exact Given.Bounded.accept hresolved (mapError_eq_ok.mp hg)

theorem Bounded.long {value : Option String} (hs : s.Bounded)
    (h : s.long scope word value = .ok s') : s'.Bounded := by
  unfold Progress.long at h
  split at h
  · contradiction
  · split at h
    · split at h
      · contradiction
      · exact hs.switch h
    · split at h
      · obtain ⟨r, hr, h⟩ := bind_eq_ok h
        have hresolved : r.Bounded := hs.resolve (mapError_eq_ok.mp hr)
        obtain ⟨g, hg, h⟩ := bind_eq_ok h
        rw [← Except.ok.inj h]
        exact Given.Bounded.accept hresolved (mapError_eq_ok.mp hg)
      · obtain ⟨r, hr, h⟩ := bind_eq_ok h
        have hresolved : r.Bounded := hs.resolve (mapError_eq_ok.mp hr)
        rwa [← Except.ok.inj h]

theorem Bounded.short {letter : Char} (hs : s.Bounded) (h : s.short scope letter = .ok s') :
    s'.Bounded := by
  unfold Progress.short at h
  split at h
  · contradiction
  · exact hs.switch h

theorem Bounded.plain (hs : s.Bounded) (h : s.plain scope word = .ok s') : s'.Bounded := by
  unfold Progress.plain at h
  split at h
  · rwa [← Except.ok.inj h]
  · exact hs.operand h

theorem Bounded.take (hs : s.Bounded) (h : s.take scope word = .ok s') : s'.Bounded := by
  unfold Progress.take at h
  split at h
  · exact hs.operand (mapError_eq_ok.mp h)
  · split at h
    · rwa [← Except.ok.inj h]
    · exact hs.long h
    · exact hs.short h
    · exact hs.plain (mapError_eq_ok.mp h)

theorem Bounded.readWords {words : List String} (hs : s.Bounded)
    (h : readWords scope s words = .ok s') : s'.Bounded := by
  induction words generalizing s with
  | nil => rwa [← Except.ok.inj h]
  | cons word rest ih =>
    obtain ⟨r, hr, h⟩ := bind_eq_ok h
    exact ih (hs.take hr) h

end Progress

/-- The numbers of a task fit sixty-four bits. -/
def Task.Bounded : Task → Prop
  | .platform => True
  | .read r => r.offset < wordLimit ∧ r.length < wordLimit
  | .write r => r.position < wordLimit
  | .drain r => ∀ n ∈ r.size, n < wordLimit

theorem Given.Bounded.task {g : Given} (hg : g.Bounded) {c : Subcommand} {task : Task}
    (h : c.task g = .ok task) : task.Bounded := by
  have hdefault {o : Option Nat} (ho : ∀ n ∈ o, n < wordLimit) : o.getD 0 < wordLimit := by
    cases o with
    | none => decide
    | some n => exact ho n rfl
  unfold Subcommand.task at h
  split at h
  · rw [← Except.ok.inj h]
    trivial
  · rename_i length _ hlength
    rw [← Except.ok.inj h]
    exact ⟨hdefault hg.offset, hg.length length hlength⟩
  · rw [← Except.ok.inj h]
    exact hdefault hg.position
  · rw [← Except.ok.inj h]
    exact hg.bufferSize
  · contradiction

theorem bounded_of_readSubcommand {s : Progress} {c : Subcommand} {words : List String}
    {i : Invocation} (h : readSubcommand s c words = .ok i) : i.task.Bounded := by
  obtain ⟨inner, hwords, h⟩ := bind_eq_ok h
  obtain ⟨resolved, hresolved, h⟩ := bind_eq_ok h
  obtain ⟨task, htask, h⟩ := bind_eq_ok h
  obtain ⟨outer, -, h⟩ := bind_eq_ok h
  have hstart : Progress.Bounded {} := Given.bounded_empty
  have hinner : inner.Bounded := hstart.readWords hwords
  have hgiven : resolved.Bounded := hinner.resolve (mapError_eq_ok.mp hresolved)
  rw [← Except.ok.inj h]
  exact Given.Bounded.task hgiven (mapError_eq_ok.mp htask)

theorem bounded_of_readProgram {s : Progress} {words : List String} {i : Invocation}
    (h : readProgram s words = .ok i) : i.task.Bounded := by
  induction words generalizing s with
  | nil =>
    obtain ⟨r, -, h⟩ := bind_eq_ok h
    contradiction
  | cons word rest ih =>
    unfold readProgram at h
    split at h
    · split at h <;> contradiction
    · split at h
      · exact bounded_of_readSubcommand h
      · obtain ⟨r, -, h⟩ := bind_eq_ok h
        exact ih h

/-- The numbers of every task that a command line asks for fit sixty-four bits. -/
theorem bounded_of_readLine {words : List String} {i : Invocation} (h : readLine words = .ok i) :
    i.task.Bounded :=
  bounded_of_readProgram h

end ServiceKit.Command
