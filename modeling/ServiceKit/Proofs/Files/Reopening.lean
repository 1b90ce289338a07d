import Mathlib.Data.List.Basic
import ServiceKit.Files.Tree

/-!
Opening a path again. A file that is put where one stands, or where nothing does, leaves all
directories in their places, so that the path that led there for writing still does and is then read
as that file.
-/

namespace ServiceKit.Files.Tree

variable {t opened : Tree} {here k l : Location} {e : Entry} {path : String} {create : Bool}
  {content : List UInt8}

theorem put_put (t : Tree) (l : Location) (e e' : Entry) : (t.put l e).put l e' = t.put l e' := by
  unfold put
  rw [List.filter_cons_of_neg (by simp), List.filter_filter]
  simp only [Bool.and_self]

/-- What does not take the place of a directory leaves directories where they are. -/
theorem at?_put_directory (hl : t.at? l ≠ some .directory) (hk : t.at? k = some .directory)
    (e : Entry) : (t.put l e).at? k = some .directory := by
  have hkl : k ≠ l := by
    rintro rfl
    exact hl hk
  cases hlookup : t.entries.lookup k with
  | some old =>
    have hold : old = .directory := by
      rw [at?, hlookup] at hk
      exact Option.some.inj hk
    rw [at?_put_of_ne hkl hlookup, hold]
  | none =>
    -- The directory is there because something stands below it, and that still does.
    have habove : (t.working :: t.entries.map (·.1)).any (k.isPrefixOf ·) = true := by
      rw [at?, hlookup] at hk
      by_contra hnone
      simp only [hnone, if_false] at hk
      contradiction
    have hstill : ((t.put l e).working :: (t.put l e).entries.map (·.1)).any (k.isPrefixOf ·)
        = true := by
      rw [List.any_eq_true] at habove ⊢
      obtain ⟨m, hm, hbelow⟩ := habove
      refine ⟨m, ?_, hbelow⟩
      rcases List.mem_cons.mp hm with rfl | hm
      · exact List.mem_cons_self
      · obtain ⟨entry, hentry, rfl⟩ := List.mem_map.mp hm
        refine List.mem_cons_of_mem _ ?_
        show entry.1 ∈ l :: (t.entries.filter (·.1 != l)).map (·.1)
        by_cases hplace : entry.1 = l
        · rw [hplace]
          exact List.mem_cons_self
        · have hkept : entry ∈ t.entries.filter (·.1 != l) :=
            List.mem_filter.mpr ⟨hentry, by simpa using hplace⟩
          exact List.mem_cons_of_mem _ (List.mem_map_of_mem hkept)
    have hnone : (t.put l e).entries.lookup k = none := by
      have hbeq : (k == l) = false := by simpa using hkl
      simp only [put, List.lookup_cons, hbeq, lookup_filter_ne hkl, hlookup]
    rw [at?, hnone]
    exact if_pos hstill

theorem walk_put (hl : t.at? l ≠ some .directory) (e : Entry) {names : List String}
    (h : t.walk here names = .ok k) : (t.put l e).walk here names = .ok k := by
  induction names generalizing here with
  | nil => exact h
  | cons name rest ih =>
    unfold walk at h ⊢
    split at h
    · contradiction
    · rename_i hhere
      rw [at?_put_directory hl hhere]
      split at h
      · contradiction
      · rename_i hname
        simp only [if_neg hname]
        exact ih h
    · contradiction

structure Leads (t : Tree) (path : String) (l : Location) : Prop where
  length : checkLength path = .ok ()
  walk : t.walk (t.start (Path.ofText path)) (Path.ofText path).steps = .ok l

theorem Leads.put (h : t.Leads path k) (hl : t.at? l ≠ some .directory) (e : Entry) :
    (t.put l e).Leads path k where
  length := h.length
  walk := walk_put hl e h.walk

theorem Leads.openToRead (h : t.Leads path l) :
    t.openToRead path = match t.at? l with
      | none => .error missing
      | some e => .ok e := by
  unfold Tree.openToRead
  rw [h.length]
  show (t.walk _ _).bind _ = _
  rw [h.walk]
  rfl

/-- What opening for writing gives as a file stands where the path leads, or has been created there
in the place of nothing. -/
theorem openToWrite_eq_file (h : t.openToWrite path create = .ok (l, .file content, opened)) :
    t.Leads path l ∧
      (t.at? l = some (.file content) ∧ opened = t ∨
        t.at? l = none ∧ create = true ∧ content = [] ∧ opened = t.put l (.file [])) := by
  unfold openToWrite at h
  cases hlength : checkLength path with
  | error f =>
    rw [hlength] at h
    contradiction
  | ok _ =>
    rw [hlength] at h
    change (t.walk _ _).bind _ = _ at h
    cases hwalk : t.walk (t.start (Path.ofText path))
        (if create then (Path.ofText path).names else (Path.ofText path).steps) with
    | error f =>
      rw [hwalk] at h
      contradiction
    | ok k =>
      rw [hwalk] at h
      simp only [Except.bind] at h
      split at h
      · contradiction
      · rename_i hopen
        have hsteps : (if create then (Path.ofText path).names else (Path.ofText path).steps)
            = (Path.ofText path).steps := by
          cases create with
          | false => rfl
          | true =>
            have hclosed : (Path.ofText path).closed = false := by simpa using hopen
            rw [Path.steps, hclosed]
            simp
        rw [hsteps] at hwalk
        split at h
        · rename_i hnone
          split at h
          · rename_i hcreate
            obtain ⟨rfl, hrest⟩ := Prod.mk.inj (Except.ok.inj h)
            obtain ⟨hentry, rfl⟩ := Prod.mk.inj hrest
            obtain rfl := Entry.file.inj hentry
            exact ⟨⟨hlength, hwalk⟩, .inr ⟨hnone, hcreate, rfl, rfl⟩⟩
          · contradiction
        · contradiction
        · rename_i entry hnotdir hthere
          obtain ⟨rfl, hrest⟩ := Prod.mk.inj (Except.ok.inj h)
          obtain ⟨rfl, rfl⟩ := Prod.mk.inj hrest
          exact ⟨⟨hlength, hwalk⟩, .inl ⟨hthere, rfl⟩⟩

/-- A path opened for writing led to the file that it gives, or to nothing if the file is new. Once
another content has been put in its place, the path is read as that content. -/
theorem openToRead_after_put (h : t.openToWrite path create = .ok (l, .file content, opened))
    (content' : List UInt8) :
    (t.openToRead path = .ok (.file content) ∨
        t.openToRead path = .error missing ∧ create = true ∧ content = []) ∧
      (opened.put l (.file content')).openToRead path = .ok (.file content') := by
  obtain ⟨hleads, hplace⟩ := openToWrite_eq_file h
  have hnotdir : t.at? l ≠ some .directory := by
    rcases hplace with ⟨hthere, -⟩ | ⟨hnone, -⟩
    · simp [hthere]
    · simp [hnone]
  have hput : opened.put l (.file content') = t.put l (.file content') := by
    rcases hplace with ⟨-, rfl⟩ | ⟨-, -, -, rfl⟩
    · rfl
    · rw [put_put]
  constructor
  · rcases hplace with ⟨hthere, -⟩ | ⟨hnone, hcreate, hempty, -⟩
    · left
      rw [hleads.openToRead, hthere]
    · right
      rw [hleads.openToRead, hnone]
      exact ⟨rfl, hcreate, hempty⟩
  · rw [hput, (hleads.put hnotdir _).openToRead, at?_put]

end ServiceKit.Files.Tree
