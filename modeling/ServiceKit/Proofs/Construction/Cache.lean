import Mathlib.Data.List.Dedup
import ServiceKit.Proofs.Construction.History

/-!
The keys of what a factory keeps. Keeping a handle adds its key unless it is there, so that every
key stands once, and there are as many entries as different keys were ever kept.
-/

namespace ServiceKit.Construction.Factory

variable {Ty : Type} [Family Ty] [DecidableEq Ty]

omit [DecidableEq Ty] in
def keys (f : Factory Ty) : List (Key Ty) := f.cache.map (·.1)

variable {k q : Key Ty} {h : Handle Ty} {cache : List (Key Ty × Handle Ty)} {f : Factory Ty}

theorem keys_keep (k : Key Ty) (h : Handle Ty) (cache : List (Key Ty × Handle Ty)) :
    (keep k h cache).map (·.1)
      = if k ∈ cache.map (·.1) then cache.map (·.1) else cache.map (·.1) ++ [k] := by
  induction cache with
  | nil => simp [keep]
  | cons e rest ih =>
    rw [keep]
    split
    · rename_i he
      simp [he]
    · rename_i he
      simp only [List.map_cons, ih, List.mem_cons, or_iff_right (Ne.symm he)]
      split <;> rfl

theorem mem_keys_keep :
    q ∈ (keep k h cache).map (·.1) ↔ q = k ∨ q ∈ cache.map (·.1) := by
  rw [keys_keep]
  split
  · rename_i hk
    constructor
    · exact .inr
    · rintro (rfl | hq)
      · exact hk
      · exact hq
  · rw [List.mem_append, List.mem_singleton, or_comm]

theorem nodup_keys_keep (hn : (cache.map (·.1)).Nodup) : ((keep k h cache).map (·.1)).Nodup := by
  rw [keys_keep]
  split
  · exact hn
  · rename_i hk
    exact List.nodup_append.mpr ⟨hn, List.nodup_singleton k, by
      rintro q hq _ hk' rfl
      exact hk (List.mem_singleton.mp hk' ▸ hq)⟩

theorem lookup?_eq_none_iff : f.lookup? k = none ↔ k ∉ f.keys := by
  simp only [lookup?, keys, List.lookup_eq_none_iff, List.mem_map]
  grind

theorem mem_keys_iff : k ∈ f.keys ↔ ∃ h, f.lookup? k = some h := by
  rw [← not_iff_not, ← lookup?_eq_none_iff, ← Option.ne_none_iff_exists', not_not]

/-- If the keys are those of a list, there are as many entries as the list has different members. -/
theorem length_cache_eq (hn : f.keys.Nodup) {ks : List (Key Ty)} (h : ∀ k, k ∈ f.keys ↔ k ∈ ks) :
    f.cache.length = ks.dedup.length := by
  have hperm : f.keys.Perm ks.dedup :=
    (List.perm_ext_iff_of_nodup hn ks.nodup_dedup).mpr fun k => by rw [h, List.mem_dedup]
  rw [← hperm.length_eq, keys, List.length_map]

end ServiceKit.Construction.Factory
