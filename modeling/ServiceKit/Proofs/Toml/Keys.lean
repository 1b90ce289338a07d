import Mathlib.Data.List.Nodup
import ServiceKit.Toml.Table

/-!
Keys of tables under construction. Whatever is added to a table, by a header, by an assignment or on
the way to another table, goes to a key that is free or replaces what stands under its key; so in
every table each key stands once.
-/

namespace ServiceKit.Toml

namespace Value

def IsPlain : Value → Prop
  | .list _ => False
  | .table _ => False
  | _ => True

/-- In the value, and in all values within it, each key of a table stands once. -/
inductive Keyed : Value → Prop
  | plain {v : Value} (h : v.IsPlain) : Keyed v
  | list {items : List Value} (h : ∀ v ∈ items, Keyed v) : Keyed (.list items)
  | table {entries : List (String × Value)} (hk : (entries.map (·.1)).Nodup)
      (h : ∀ e ∈ entries, Keyed e.2) : Keyed (.table entries)

variable {items : List Value} {entries : List (String × Value)}

theorem Keyed.of_mem_list {v : Value} (h : Keyed (.list items)) (hv : v ∈ items) : v.Keyed := by
  cases h with
  | plain h => exact absurd h id
  | list h => exact h v hv

theorem Keyed.nodup (h : Keyed (.table entries)) : (entries.map (·.1)).Nodup := by
  cases h with
  | plain h => exact absurd h id
  | table hk => exact hk

theorem Keyed.of_mem_table {e : String × Value} (h : Keyed (.table entries)) (he : e ∈ entries) :
    e.2.Keyed := by
  cases h with
  | plain h => exact absurd h id
  | table _ h => exact h e he

end Value

inductive Node.Keyed : Node → Prop
  | leaf {v : Value} (h : v.Keyed) : Keyed (.leaf v)
  | table {origin : Origin} {es : List (String × Node)} (hk : (es.map (·.1)).Nodup)
      (h : ∀ e ∈ es, Keyed e.2) : Keyed (.table origin es)
  | tables {elements : List (List (String × Node))}
      (hk : ∀ es ∈ elements, (es.map (·.1)).Nodup)
      (h : ∀ es ∈ elements, ∀ e ∈ es, Keyed e.2) : Keyed (.tables elements)

/-- Each key of a table under construction stands once, and so it is within its nodes. -/
structure Entries.Keyed (es : Entries) : Prop where
  nodup : (es.map (·.1)).Nodup
  node : ∀ e ∈ es, e.2.Keyed

namespace Node.Keyed

variable {origin : Origin} {es : Entries} {elements : List Entries}

theorem ofEntries (h : es.Keyed) : Node.Keyed (.table origin es) := .table h.nodup h.node

theorem entries (h : Node.Keyed (.table origin es)) : es.Keyed := by
  cases h with
  | table hk h => exact ⟨hk, h⟩

theorem ofElements (h : ∀ es ∈ elements, es.Keyed) : Node.Keyed (.tables elements) :=
  .tables (fun es hes => (h es hes).nodup) (fun es hes => (h es hes).node)

theorem element (h : Node.Keyed (.tables elements)) : ∀ es ∈ elements, es.Keyed := by
  cases h with
  | tables hk h => exact fun es hes => ⟨hk es hes, h es hes⟩

end Node.Keyed

namespace Entries

/-- An addition to a table that keeps its keys apart. -/
def KeepsKeyed (f : Entries → Option Entries) : Prop :=
  ∀ {es es'}, Entries.Keyed es → f es = some es' → es'.Keyed

variable {es es' inner : Entries} {key : String} {n : Node} {v : Value}
  {values : List (List String × Value)} {f : Entries → Option Entries}

theorem keyed_nil : Entries.Keyed [] := ⟨List.nodup_nil, by simp⟩

theorem mem_of_find? (h : find? key es = some n) : (key, n) ∈ es := by
  induction es with
  | nil => cases h
  | cons e rest ih =>
    obtain ⟨k, m⟩ := e
    simp only [find?, List.lookup_cons] at h ih
    split at h
    · rename_i heq
      obtain rfl := Option.some.inj h
      obtain rfl : key = k := by simpa using heq
      exact List.mem_cons_self
    · exact List.mem_cons_of_mem _ (ih h)

theorem notMem_keys_of_find? (h : find? key es = none) : key ∉ es.map (·.1) := by
  intro hmem
  obtain ⟨e, he, rfl⟩ := List.mem_map.mp hmem
  have hne := List.lookup_eq_none_iff.mp h e he
  simp at hne

theorem keys_set (key : String) (n : Node) (es : Entries) :
    (set key n es).map (·.1) = es.map (·.1) ∨
      (set key n es).map (·.1) = es.map (·.1) ++ [key] ∧ key ∉ es.map (·.1) := by
  induction es with
  | nil => exact .inr ⟨rfl, by simp⟩
  | cons e rest ih =>
    simp only [set]
    split
    · rename_i heq
      exact .inl (by simp [heq])
    · rename_i hne
      rcases ih with hsame | ⟨hnew, hfree⟩
      · exact .inl (by rw [List.map_cons, List.map_cons, hsame])
      · refine .inr ⟨by rw [List.map_cons, List.map_cons, hnew, List.cons_append], ?_⟩
        rw [List.map_cons, List.mem_cons, not_or]
        exact ⟨Ne.symm hne, hfree⟩

theorem mem_set {e : String × Node} (h : e ∈ set key n es) : e = (key, n) ∨ e ∈ es := by
  induction es with
  | nil => exact .inl (List.mem_singleton.mp h)
  | cons d rest ih =>
    simp only [set] at h
    split at h
    · exact (List.mem_cons.mp h).imp_right (List.mem_cons_of_mem d)
    · rcases List.mem_cons.mp h with rfl | h
      · exact .inr List.mem_cons_self
      · exact (ih h).imp_right (List.mem_cons_of_mem d)

theorem nodup_append_free {keys : List String} (h : keys.Nodup) (hfree : key ∉ keys) :
    (keys ++ [key]).Nodup :=
  List.nodup_append.mpr ⟨h, List.nodup_singleton key, fun a ha b hb => by
    obtain rfl := List.mem_singleton.mp hb
    exact fun hab => hfree (hab ▸ ha)⟩

namespace Keyed

theorem find? (h : es.Keyed) (hf : Entries.find? key es = some n) : n.Keyed :=
  h.node _ (mem_of_find? hf)

theorem set (h : es.Keyed) (hn : n.Keyed) : (Entries.set key n es).Keyed := by
  refine ⟨?_, fun e he => ?_⟩
  · rcases keys_set key n es with hsame | ⟨hnew, hfree⟩
    · rw [hsame]
      exact h.nodup
    · rw [hnew]
      exact nodup_append_free h.nodup hfree
  · rcases mem_set he with rfl | he
    · exact hn
    · exact h.node e he

theorem append_free (h : es.Keyed) (hn : n.Keyed) (hfree : key ∉ es.map (·.1)) :
    Entries.Keyed (es ++ [(key, n)]) := by
  refine ⟨?_, fun e he => ?_⟩
  · rw [List.map_append]
    exact nodup_append_free h.nodup hfree
  · rcases List.mem_append.mp he with he | he
    · exact h.node e he
    · obtain rfl := List.mem_singleton.mp he
      exact hn

theorem erase (h : es.Keyed) (key : String) :
    Entries.Keyed (Entries.erase key es) ∧ key ∉ (Entries.erase key es).map (·.1) := by
  refine ⟨⟨h.nodup.sublist (List.filter_sublist.map _), ?_⟩, ?_⟩
  · exact fun e he => h.node e (List.mem_of_mem_filter he)
  · intro hmem
    obtain ⟨e, he, rfl⟩ := List.mem_map.mp hmem
    simp [Entries.erase] at he

end Keyed

theorem keyed_updateLast (hf : KeepsKeyed f) {elements elements' : List Entries}
    (h : ∀ es ∈ elements, es.Keyed) (hu : updateLast f elements = some elements') :
    ∀ es ∈ elements', es.Keyed := by
  induction elements using updateLast.induct generalizing elements' with
  | case1 => cases hu
  | case2 es =>
    obtain ⟨es', hes', rfl⟩ := Option.map_eq_some_iff.mp hu
    exact List.forall_mem_singleton.mpr (hf (h es List.mem_cons_self) hes')
  | case3 es rest hne ih =>
    rw [updateLast.eq_3 f es rest hne] at hu
    obtain ⟨rest', hrest', rfl⟩ := Option.map_eq_some_iff.mp hu
    obtain ⟨hes, hrest⟩ := List.forall_mem_cons.mp h
    exact List.forall_mem_cons.mpr ⟨hes, ih hrest hrest'⟩

theorem keepsKeyed_within (hf : KeepsKeyed f) (path : List String) :
    KeepsKeyed (within f path) := by
  induction path with
  | nil => exact fun h hw => hf h hw
  | cons key path ih =>
    intro es es' h hw
    unfold within at hw
    split at hw
    · obtain ⟨inner, hinner, rfl⟩ := Option.map_eq_some_iff.mp hw
      exact h.set (.ofEntries (ih keyed_nil hinner))
    · rename_i origin old hfind
      obtain ⟨inner, hinner, rfl⟩ := Option.map_eq_some_iff.mp hw
      exact h.set (.ofEntries (ih (h.find? hfind).entries hinner))
    · rename_i elements hfind
      obtain ⟨elements', helements, rfl⟩ := Option.map_eq_some_iff.mp hw
      exact h.set (.ofElements (keyed_updateLast ih (h.find? hfind).element helements))
    · cases hw

theorem keepsKeyed_addLeaf (key : String) (hv : v.Keyed) : KeepsKeyed (addLeaf key v) := by
  intro es es' h ha
  unfold addLeaf at ha
  split at ha
  · rename_i hfree
    obtain rfl := Option.some.inj ha
    exact h.append_free (.leaf hv) (notMem_keys_of_find? hfree)
  · cases ha

theorem keepsKeyed_assign (hv : v.Keyed) (path : List String) : KeepsKeyed (assign v path) := by
  induction path with
  | nil =>
    intro es es' h ha
    cases ha
  | cons key path ih =>
    intro es es' h ha
    cases path with
    | nil => exact keepsKeyed_addLeaf key hv h ha
    | cons next path =>
      unfold assign at ha
      split at ha
      · rename_i hfree
        obtain ⟨inner, hinner, rfl⟩ := Option.map_eq_some_iff.mp ha
        exact h.append_free (.ofEntries (ih keyed_nil hinner)) (notMem_keys_of_find? hfree)
      · cases ha
      · rename_i old hfind
        split at ha
        · cases ha
        · obtain ⟨inner, hinner, rfl⟩ := Option.map_eq_some_iff.mp ha
          exact h.set (.ofEntries (ih (h.find? hfind).entries hinner))
      · rename_i old hfind
        obtain ⟨inner, hinner, rfl⟩ := Option.map_eq_some_iff.mp ha
        exact h.set (.ofEntries (ih (h.find? hfind).entries hinner))
      · rename_i elements hfind
        split at ha
        · cases ha
        · obtain ⟨elements', helements, rfl⟩ := Option.map_eq_some_iff.mp ha
          exact h.set (.ofElements (keyed_updateLast ih (h.find? hfind).element helements))
      · cases ha

theorem Keyed.assignAll (h : es.Keyed) (hv : ∀ e ∈ values, e.2.Keyed)
    (ha : Entries.assignAll es values = some es') : es'.Keyed := by
  induction values generalizing es with
  | nil => exact Option.some.inj ha ▸ h
  | cons e rest ih =>
    obtain ⟨he, hrest⟩ := List.forall_mem_cons.mp hv
    unfold Entries.assignAll at ha
    split at ha
    · cases ha
    · rename_i more hmore
      exact ih (keepsKeyed_assign he e.1 h hmore) hrest ha

theorem keepsKeyed_addTable (hv : ∀ e ∈ values, e.2.Keyed) (key : String) :
    KeepsKeyed (addTable values key) := by
  intro es es' h ha
  unfold addTable at ha
  split at ha
  · rename_i hfree
    obtain ⟨inner, hinner, rfl⟩ := Option.map_eq_some_iff.mp ha
    exact h.append_free (.ofEntries (keyed_nil.assignAll hv hinner)) (notMem_keys_of_find? hfree)
  · rename_i old hfind
    obtain ⟨inner, hinner, rfl⟩ := Option.map_eq_some_iff.mp ha
    obtain ⟨hleft, hfree⟩ := h.erase key
    exact hleft.append_free (.ofEntries ((h.find? hfind).entries.assignAll hv hinner)) hfree
  · cases ha

theorem keepsKeyed_addElement (hv : ∀ e ∈ values, e.2.Keyed) (key : String) :
    KeepsKeyed (addElement values key) := by
  intro es es' h ha
  unfold addElement at ha
  split at ha
  · rename_i hfree
    obtain ⟨inner, hinner, rfl⟩ := Option.map_eq_some_iff.mp ha
    have hone : ∀ es ∈ [inner], Entries.Keyed es :=
      List.forall_mem_singleton.mpr (keyed_nil.assignAll hv hinner)
    exact h.append_free (.ofElements hone) (notMem_keys_of_find? hfree)
  · rename_i elements hfind
    obtain ⟨inner, hinner, rfl⟩ := Option.map_eq_some_iff.mp ha
    refine h.set (.ofElements ?_)
    rw [List.forall_mem_append, List.forall_mem_singleton]
    exact ⟨(h.find? hfind).element, keyed_nil.assignAll hv hinner⟩
  · cases ha

theorem keepsKeyed_atPath {add : String → Entries → Option Entries}
    (hadd : ∀ key, KeepsKeyed (add key)) (path : List String) : KeepsKeyed (atPath add path) := by
  intro es es' h ha
  unfold atPath at ha
  split at ha
  · cases ha
  · exact keepsKeyed_within (hadd _) _ h ha

end Entries

theorem nodeValues_eq (es : List (String × Node)) :
    nodeValues es = es.map fun e => (e.1, e.2.value) := by
  induction es with
  | nil => simp [nodeValues]
  | cons e rest ih => simp [nodeValues, ih]

theorem tableValues_eq (elements : List (List (String × Node))) :
    tableValues elements = elements.map fun es => .table (nodeValues es) := by
  induction elements with
  | nil => simp [tableValues]
  | cons es rest ih => simp [tableValues, ih]

theorem keys_nodeValues (es : List (String × Node)) :
    (nodeValues es).map (·.1) = es.map (·.1) := by
  rw [nodeValues_eq, List.map_map]
  rfl

theorem keyed_nodeValues {es : List (String × Node)} (hk : (es.map (·.1)).Nodup)
    (h : ∀ e ∈ es, e.2.value.Keyed) : (Value.table (nodeValues es)).Keyed := by
  refine .table ?_ fun e he => ?_
  · rw [keys_nodeValues]
    exact hk
  · rw [nodeValues_eq] at he
    obtain ⟨d, hd, rfl⟩ := List.mem_map.mp he
    exact h d hd

theorem Node.Keyed.value {n : Node} (h : n.Keyed) : n.value.Keyed := by
  induction h with
  | leaf h => rwa [Node.value]
  | table hk _ ih =>
    rw [Node.value]
    exact keyed_nodeValues hk ih
  | tables hk _ ih =>
    rw [Node.value, tableValues_eq]
    refine .list fun v hv => ?_
    obtain ⟨es, hes, rfl⟩ := List.mem_map.mp hv
    exact keyed_nodeValues (hk es hes) (ih es hes)

theorem Entries.Keyed.table {es : Entries} (h : es.Keyed) : (Value.table (nodeValues es)).Keyed :=
  keyed_nodeValues h.nodup fun e he => (h.node e he).value

theorem keyed_inlineTable {entries : List (List String × Value)} {v : Value}
    (h : ∀ e ∈ entries, e.2.Keyed) (hv : inlineTable? entries = some v) : v.Keyed := by
  obtain ⟨es, hes, rfl⟩ := Option.map_eq_some_iff.mp hv
  exact (Entries.keyed_nil.assignAll h hes).table

/-- The value of an assignment is keyed; headers hold none. -/
def Statement.Keyed : Statement → Prop
  | .assign _ v => v.Keyed
  | _ => True

theorem keyed_splitValues {ss : List Statement} (h : ∀ s ∈ ss, s.Keyed) :
    (∀ e ∈ (splitValues ss).1, e.2.Keyed) ∧ ∀ s ∈ (splitValues ss).2, s.Keyed := by
  induction ss with
  | nil => exact ⟨by simp [splitValues], by simp [splitValues]⟩
  | cons s rest ih =>
    obtain ⟨hs, hrest⟩ := List.forall_mem_cons.mp h
    cases s with
    | assign path v => exact ⟨List.forall_mem_cons.mpr ⟨hs, (ih hrest).1⟩, (ih hrest).2⟩
    | header path | arrayHeader path => exact ⟨by simp [splitValues], h⟩

theorem Entries.Keyed.addTables {es es' : Entries} {ss : List Statement} (h : es.Keyed)
    (hs : ∀ s ∈ ss, s.Keyed) (ha : Toml.addTables es ss = some es') : es'.Keyed := by
  induction es, ss using addTables.induct generalizing es' with
  | case1 es =>
    rw [Toml.addTables] at ha
    exact Option.some.inj ha ▸ h
  | case2 => simp [Toml.addTables] at ha
  | case3 es path rest hat => simp [Toml.addTables, hat] at ha
  | case4 es path rest more hat ih =>
    obtain ⟨-, hrest⟩ := List.forall_mem_cons.mp hs
    obtain ⟨hvalues, hbehind⟩ := keyed_splitValues hrest
    rw [Toml.addTables, hat] at ha
    exact ih (keepsKeyed_atPath (keepsKeyed_addTable hvalues) path h hat) hbehind ha
  | case5 es path rest hat => simp [Toml.addTables, hat] at ha
  | case6 es path rest more hat ih =>
    obtain ⟨-, hrest⟩ := List.forall_mem_cons.mp hs
    obtain ⟨hvalues, hbehind⟩ := keyed_splitValues hrest
    rw [Toml.addTables, hat] at ha
    exact ih (keepsKeyed_atPath (keepsKeyed_addElement hvalues) path h hat) hbehind ha

/-- Statements whose values are keyed make up a keyed document. -/
theorem keyed_assemble {ss : List Statement} {d : List (String × Value)} (hs : ∀ s ∈ ss, s.Keyed)
    (h : assemble? ss = some d) : (Value.table d).Keyed := by
  obtain ⟨hvalues, hbehind⟩ := keyed_splitValues hs
  obtain ⟨es, hes, h⟩ := Option.bind_eq_some_iff.mp h
  obtain ⟨more, hmore, h⟩ := Option.bind_eq_some_iff.mp h
  obtain rfl := Option.some.inj h
  exact ((Entries.keyed_nil.assignAll hvalues hes).addTables hbehind hmore).table

end ServiceKit.Toml
