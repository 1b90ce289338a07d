import Mathlib.Data.List.Basic
import ServiceKit.Proofs.Success
import ServiceKit.Settings.Decode

/-!
Tables that are read entry by entry. Every reader of settings is put together from steps for single
keys; where the keys of a table are distinct, what a field has in the end depends on the value under
its own key only.
-/

namespace ServiceKit.Settings

open Toml (Value)

abbrev Step (σ : Type) : Type := String → Value → σ → Except Misfit σ

variable {σ α β : Type} {step next : Step σ} {key key' : String} {v : Value}
  {entries : List (String × Value)} {s s' : σ}

/-- Reads the entries of a table in order. -/
def readEntries (step : Step σ) : List (String × Value) → σ → Except Misfit σ
  | [], s => .ok s
  | (key, v) :: rest, s => (step key v s).bind (readEntries step rest)

def skip : Step σ := fun _ _ s => .ok s

/-- Reads the entry under one key into a field, and hands entries under other keys on. -/
def readField (key : String) (decode : Value → Except Misfit α) (put : σ → α → σ)
    (next : Step σ) : Step σ := fun k v s =>
  if k = key then (decode v).map (put s) else next k v s

theorem readField_bind {decode : Value → Except Misfit α} {put : σ → α → σ}
    (f : σ → Except Misfit σ) :
    (readField key' decode put next key v s).bind f =
      if key = key' then (decode v).bind fun a => f (put s a) else (next key v s).bind f := by
  unfold readField
  split
  · cases decode v <;> rfl
  · rfl

/-- A reader that goes from entry to entry by the step. -/
theorem eq_readEntries {read : List (String × Value) → σ → Except Misfit σ}
    (hnil : ∀ s, read [] s = .ok s)
    (hcons : ∀ key v rest s, read ((key, v) :: rest) s = (step key v s).bind (read rest))
    (entries : List (String × Value)) (s : σ) : read entries s = readEntries step entries s := by
  induction entries generalizing s with
  | nil => exact hnil s
  | cons e rest ih =>
    have htail : read rest = readEntries step rest := funext ih
    rw [hcons, htail]
    rfl

/-! ### What a step does to a field -/

def Keeps (step : Step σ) (field : σ → α) : Prop :=
  ∀ ⦃key v s s'⦄, step key v s = .ok s' → field s' = field s

/-- The step puts into the field what stands under the key, and changes it under no other key. -/
structure Fills (step : Step σ) (key : String) (decode : Value → Except Misfit α)
    (field : σ → α) : Prop where
  sets : ∀ ⦃v s s'⦄, step key v s = .ok s' → decode v = .ok (field s')
  keeps : ∀ ⦃k v s s'⦄, k ≠ key → step k v s = .ok s' → field s' = field s

theorem keeps_skip (field : σ → α) : Keeps skip field :=
  fun _ _ _ _ h => congrArg field (Except.ok.inj h).symm

theorem Keeps.readField {field : σ → α} {decode : Value → Except Misfit β} {put : σ → β → σ}
    (hput : ∀ s b, field (put s b) = field s) (h : Keeps next field) :
    Keeps (readField key decode put next) field := by
  intro k v s s' hs
  unfold Settings.readField at hs
  split at hs
  · obtain ⟨b, -, rfl⟩ := map_eq_ok hs
    exact hput s b
  · exact h hs

theorem Keeps.fills {field : σ → α} {decode : Value → Except Misfit α} {put : σ → α → σ}
    (hput : ∀ s a, field (put s a) = a) (h : Keeps next field) :
    Fills (Settings.readField key decode put next) key decode field where
  sets v s s' hs := by
    unfold Settings.readField at hs
    rw [if_pos rfl] at hs
    obtain ⟨a, ha, rfl⟩ := map_eq_ok hs
    rw [ha, hput]
  keeps k v s s' hne hs := by
    unfold Settings.readField at hs
    rw [if_neg hne] at hs
    exact h hs

theorem Fills.readField {field : σ → α} {decode : Value → Except Misfit α}
    {decode' : Value → Except Misfit β} {put : σ → β → σ}
    (hput : ∀ s b, field (put s b) = field s) (hne : key ≠ key') (h : Fills next key decode field) :
    Fills (Settings.readField key' decode' put next) key decode field where
  sets v s s' hs := by
    unfold Settings.readField at hs
    rw [if_neg hne] at hs
    exact h.sets hs
  keeps k v s s' hk hs := by
    unfold Settings.readField at hs
    split at hs
    · obtain ⟨b, -, rfl⟩ := map_eq_ok hs
      exact hput s b
    · exact h.keeps hk hs

/-- What a field has after values were read that may be present: what they decode to, and what it
had before if there are none. -/
structure Filled (decode : Value → Except Misfit α) (Present : Value → Prop)
    (before after : α) : Prop where
  given : ∀ v, Present v → decode v = .ok after
  absent : (∀ v, ¬ Present v) → after = before

theorem Filled.exists_present {decode : Value → Except Misfit α} {Present : Value → Prop}
    {before after : α} (h : Filled decode Present before after) (hne : after ≠ before) :
    ∃ v, Present v ∧ decode v = .ok after := by
  by_contra hnone
  exact hne (h.absent fun v hv => hnone ⟨v, hv, h.given v hv⟩)

theorem Filled.unique {decode : Value → Except Misfit α} {Present : Value → Prop}
    {before after after' : α} (h : Filled decode Present before after)
    (h' : Filled decode Present before after') : after = after' := by
  by_cases hpresent : ∃ v, Present v
  · obtain ⟨v, hv⟩ := hpresent
    exact Except.ok.inj ((h.given v hv).symm.trans (h'.given v hv))
  · have hnone : ∀ v, ¬ Present v := fun v hv => hpresent ⟨v, hv⟩
    exact (h.absent hnone).trans (h'.absent hnone).symm

/-- A run over a table with distinct keys, for one field. -/
theorem Fills.filled {field : σ → α} {decode : Value → Except Misfit α}
    (hf : Fills step key decode field) (hk : (entries.map (·.1)).Nodup)
    (h : readEntries step entries s = .ok s') :
    Filled decode (fun v => (key, v) ∈ entries) (field s) (field s') := by
  induction entries generalizing s with
  | nil =>
    obtain rfl := Except.ok.inj h
    exact ⟨fun v hv => absurd hv List.not_mem_nil, fun _ => rfl⟩
  | cons e rest ih =>
    obtain ⟨k, w⟩ := e
    obtain ⟨hfree, hrest⟩ := List.nodup_cons.mp hk
    obtain ⟨t, hstep, h⟩ := bind_eq_ok h
    have hread := ih hrest h
    by_cases hkey : k = key
    -- Distinct keys: what comes later leaves the field as the first entry has set it.
    · subst hkey
      have hnone : ∀ v, (k, v) ∉ rest := fun v hv =>
        hfree (List.mem_map_of_mem (f := (·.1)) hv)
      have hset : decode w = .ok (field s') := by
        rw [hread.absent hnone]
        exact hf.sets hstep
      refine ⟨fun v hv => ?_, fun habsent => absurd List.mem_cons_self (habsent w)⟩
      rcases List.mem_cons.mp hv with heq | hv
      · obtain ⟨-, rfl⟩ := Prod.mk.inj heq
        exact hset
      · exact absurd hv (hnone v)
    · refine ⟨fun v hv => ?_, fun habsent => ?_⟩
      · rcases List.mem_cons.mp hv with heq | hv
        · exact absurd (Prod.mk.inj heq).1.symm hkey
        · exact hread.given v hv
      · calc field s' = field t := hread.absent fun v hv => habsent v (List.mem_cons_of_mem _ hv)
          _ = field s := hf.keeps hkey hstep

/-! ### Entries that can be read -/

def Accepts (step : Step σ) (key : String) (v : Value) : Prop := ∀ s, ∃ s', step key v s = .ok s'

theorem accepts_skip : Accepts (skip : Step σ) key v := fun s => ⟨s, rfl⟩

theorem Accepts.readField {decode : Value → Except Misfit α} {put : σ → α → σ}
    (hdecode : key = key' → ∃ a, decode v = .ok a) (h : Accepts next key v) :
    Accepts (readField key' decode put next) key v := by
  intro s
  unfold Settings.readField
  split
  · rename_i hkey
    obtain ⟨a, ha⟩ := hdecode hkey
    exact ⟨put s a, by rw [ha]; rfl⟩
  · exact h s

theorem exists_readEntries (h : ∀ e ∈ entries, Accepts step e.1 e.2) (s : σ) :
    ∃ s', readEntries step entries s = .ok s' := by
  induction entries generalizing s with
  | nil => exact ⟨s, rfl⟩
  | cons e rest ih =>
    obtain ⟨he, hrest⟩ := List.forall_mem_cons.mp h
    obtain ⟨t, ht⟩ := he s
    obtain ⟨s', hs'⟩ := ih hrest t
    exact ⟨s', by rw [readEntries, ht]; exact hs'⟩

end ServiceKit.Settings
