import ServiceKit.Proofs.Transfer.Turns
import ServiceKit.Transfer.Recorded
import ServiceKit.Channel.Basic

/-!
Where a fault leads that answers a call. A run is prompt when such a fault is its result and the call
was its last one, unless the call is of those that are made again; then another call follows.
-/

namespace ServiceKit.Transfer

class Answered (κ : Type) where
  fault? : κ → Option Fault

instance : Answered Call where
  fault? c :=
    match c.answer with
    | .error (.fault f) => some f
    | _ => none

instance : Answered Channel.Call where
  fault? c :=
    match c.answer with
    | .error f => some f
    | .ok _ => none

variable {κ σ α β : Type}

theorem split_append {made more before rest : List κ} {c : κ}
    (h : made ++ more = before ++ c :: rest) :
    (∃ left, made = before ++ c :: left ∧ rest = left ++ more) ∨
      ∃ between, more = between ++ c :: rest := by
  rcases List.append_eq_append_iff.mp h with ⟨between, -, hmore⟩ | ⟨left, hmade, hrest⟩
  · exact .inr ⟨between, hmore⟩
  · cases left with
    | nil => exact .inr ⟨[], by simpa using hrest.symm⟩
    | cons d left =>
      obtain ⟨rfl, rfl⟩ := List.cons.inj hrest
      exact .inl ⟨left, hmade, rfl⟩

variable [Answered κ] {again : κ → Fault → Prop}

def never : κ → Fault → Prop := fun _ _ => False

def interrupted : κ → Fault → Prop := fun _ f => f.isInterruption = true

def Prompt (again : κ → Fault → Prop) (made : List κ) (result : Except Halt α) : Prop :=
  ∀ before c rest f, made = before ++ c :: rest → Answered.fault? c = some f →
    (again c f ∧ rest ≠ []) ∨
      (¬ again c f ∧ rest = [] ∧ result = .error (.error (.fault f)))

/-- From `s` to `after` a run logged calls that were prompt in ending it. -/
def RunsPromptly (log : σ → List κ) (again : κ → Fault → Prop) (s after : σ)
    (result : Except Halt α) : Prop :=
  ∃ made, log after = log s ++ made ∧ Prompt again made result

section Prompt

variable {made more : List κ} {result : Except Halt α}

theorem prompt_nil : Prompt again [] result := by
  intro before c rest f h _
  simp at h

theorem Prompt.append
    (hmade : ∀ before c rest f, made = before ++ c :: rest → Answered.fault? c = some f →
      again c f ∧ rest ++ more ≠ [])
    (hmore : Prompt again more result) : Prompt again (made ++ more) result := by
  intro before c rest f h hf
  rcases split_append h with ⟨left, hleft, rfl⟩ | ⟨between, hbetween⟩
  · exact .inl (hmade before c left f hleft hf)
  · exact hmore between c rest f hbetween hf

/-- Calls that left a value behind, and the calls of the rest of the run. -/
theorem Prompt.append_of_ok {a : β} (hmade : Prompt again made (.ok a : Except Halt β))
    (hmore : Prompt again more result) : Prompt again (made ++ more) result := by
  refine Prompt.append (fun before c rest f h hf => ?_) hmore
  rcases hmade before c rest f h hf with ⟨hagain, hrest⟩ | ⟨-, -, habsurd⟩
  · exact ⟨hagain, fun hnil => hrest (List.append_eq_nil_iff.mp hnil).1⟩
  · cases habsurd

theorem Prompt.imp {other : Except Halt β}
    (himp : ∀ f, result = .error (.error (.fault f)) → other = .error (.error (.fault f)))
    (h : Prompt again made result) : Prompt again made other := by
  intro before c rest f hsplit hf
  rcases h before c rest f hsplit hf with hagain | ⟨hagain, hrest, hresult⟩
  · exact .inl hagain
  · exact .inr ⟨hagain, hrest, himp f hresult⟩

theorem Prompt.of_never (h : Prompt never made result) {before rest : List κ} {c : κ} {f : Fault}
    (hsplit : made = before ++ c :: rest) (hf : Answered.fault? c = some f) :
    rest = [] ∧ result = .error (.error (.fault f)) := by
  rcases h before c rest f hsplit hf with ⟨habsurd, -⟩ | ⟨-, hend⟩
  · exact habsurd.elim
  · exact hend

/-- All faults are told at once exactly if no call was made again. -/
theorem Prompt.never_iff (h : Prompt again made result) :
    Prompt never made result ↔
      ∀ c ∈ made, ∀ f, Answered.fault? c = some f → ¬ again c f := by
  constructor
  · intro hnever c hc f hf
    obtain ⟨before, rest, hsplit⟩ := List.append_of_mem hc
    have hend := (hnever.of_never hsplit hf).1
    rcases h before c rest f hsplit hf with ⟨-, hrest⟩ | ⟨hagain, -⟩
    · exact absurd hend hrest
    · exact hagain
  · intro hnone before c rest f hsplit hf
    have hc : c ∈ made := hsplit ▸ List.mem_append_right before List.mem_cons_self
    rcases h before c rest f hsplit hf with ⟨hagain, -⟩ | ⟨-, hend⟩
    · exact absurd hagain (hnone c hc f hf)
    · exact .inr ⟨id, hend⟩

theorem prompt_singleton {c : κ}
    (h : ∀ f, Answered.fault? c = some f → result = .error (.error (.fault f))) :
    Prompt never [c] result := by
  intro before d rest f hsplit hf
  cases before with
  | nil =>
    obtain ⟨rfl, rfl⟩ := List.cons.inj hsplit
    exact .inr ⟨id, rfl, h f hf⟩
  | cons b bs => simp at hsplit

theorem Prompt.map {ι : Type} [Answered ι] {other : ι → Fault → Prop} {g : κ → ι}
    (h : Prompt again made result)
    (hfault : ∀ c, Answered.fault? (g c) = Answered.fault? c)
    (hother : ∀ c f, other (g c) f ↔ again c f) : Prompt other (made.map g) result := by
  intro before c rest f hsplit hf
  obtain ⟨left, right, rfl, -, hright⟩ := List.map_eq_append_iff.mp hsplit
  obtain ⟨d, tail, rfl, rfl, rfl⟩ := List.map_eq_cons_iff.mp hright
  rw [hfault] at hf
  rw [hother, ne_eq, List.map_eq_nil_iff]
  exact h left d tail f rfl hf

end Prompt

namespace RunsPromptly

variable {log : σ → List κ} {s mid after : σ} {result : Except Halt α}

theorem refl (s : σ) (result : Except Halt α) : RunsPromptly log again s s result :=
  ⟨[], (List.append_nil _).symm, prompt_nil⟩

theorem trans {a : β} (h : RunsPromptly log again s mid (.ok a : Except Halt β))
    (hrest : RunsPromptly log again mid after result) :
    RunsPromptly log again s after result := by
  obtain ⟨made, hmid, hmade⟩ := h
  obtain ⟨more, hafter, hmore⟩ := hrest
  exact ⟨made ++ more, by rw [hafter, hmid, List.append_assoc], hmade.append_of_ok hmore⟩

theorem imp {other : Except Halt β}
    (himp : ∀ f, result = .error (.error (.fault f)) → other = .error (.error (.fault f)))
    (h : RunsPromptly log again s after result) : RunsPromptly log again s after other := by
  obtain ⟨made, hafter, hmade⟩ := h
  exact ⟨made, hafter, hmade.imp himp⟩

/-- Once a step has left a value, the run may end with any result. -/
theorem of_ok {a : β} (h : RunsPromptly log again s after (.ok a : Except Halt β))
    (result : Except Halt α) : RunsPromptly log again s after result :=
  h.trans (refl after result)

theorem of_error {halt : Halt}
    (h : RunsPromptly log again s after (.error halt : Except Halt β)) :
    RunsPromptly log again s after (.error halt : Except Halt α) :=
  h.imp fun _ heq => congrArg Except.error (Except.error.inj heq)

theorem length_le (h : RunsPromptly log again s after result) :
    (log s).length ≤ (log after).length := by
  obtain ⟨made, hafter, -⟩ := h
  rw [hafter, List.length_append]
  exact Nat.le_add_right _ _

theorem of_never_ok {a : α} (h : RunsPromptly log never s after (.ok a : Except Halt α)) :
    RunsPromptly log again s after (.ok a : Except Halt α) := by
  obtain ⟨made, hafter, hmade⟩ := h
  refine ⟨made, hafter, fun before c rest f hsplit hf => ?_⟩
  cases (hmade.of_never hsplit hf).2

/-- A stop that is no interruption is told at once also where interruptions are not. -/
theorem of_never_stop {stop : Stop} (hi : stop.isInterruption = false)
    (h : RunsPromptly log never s after (.error (.ofStop stop) : Except Halt α)) :
    RunsPromptly log interrupted s after (.error (.ofStop stop) : Except Halt α) := by
  obtain ⟨made, hafter, hmade⟩ := h
  refine ⟨made, hafter, fun before c rest f hsplit hf => ?_⟩
  obtain ⟨hrest, hresult⟩ := hmade.of_never hsplit hf
  cases stop with
  | overrun => cases hresult
  | fault g =>
    obtain rfl : g = f := by simpa [Halt.ofStop] using hresult
    have hnot : ¬ g.isInterruption = true := by simpa [Stop.isInterruption] using hi
    exact .inr ⟨hnot, hrest, hresult⟩

/-- An interruption, and a run after it that makes a call. -/
theorem trans_interruption {stop : Stop} (hi : stop.isInterruption = true)
    (h : RunsPromptly log never s mid (.error (.ofStop stop) : Except Halt β))
    (hmore : (log mid).length < (log after).length)
    (hrest : RunsPromptly log interrupted mid after result) :
    RunsPromptly log interrupted s after result := by
  obtain ⟨made, hmid, hmade⟩ := h
  obtain ⟨more, hafter, hpromptly⟩ := hrest
  have hne : more ≠ [] := by
    rintro rfl
    rw [hafter, List.append_nil] at hmore
    exact Nat.lt_irrefl _ hmore
  refine ⟨made ++ more, by rw [hafter, hmid, List.append_assoc], ?_⟩
  refine Prompt.append (fun before c rest f hsplit hf => ?_) hpromptly
  obtain ⟨-, hresult⟩ := hmade.of_never hsplit hf
  cases stop with
  | overrun => cases hi
  | fault g =>
    obtain rfl : g = f := by simpa [Halt.ofStop] using hresult
    exact ⟨hi, fun hnil => hne (List.append_eq_nil_iff.mp hnil).2⟩

end RunsPromptly

end ServiceKit.Transfer
