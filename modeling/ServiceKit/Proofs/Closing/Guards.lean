import Mathlib.Data.List.Count
import ServiceKit.Closing.Guard

/-!
Guards in use. Whatever has been done through a guard, at its end it closes what it holds, once, or
hands it out; what was taken out of it or exchanged before, it does not close.
-/

namespace ServiceKit.Closing

variable {ρ ι : Type}

inductive Access (ρ : Type) where
  | update (change : ρ → ρ)
  | takeOut
  | replace (r : ρ)

namespace Access

/-- The resource that an access puts into the guard. -/
def put? : Access ρ → Option ρ
  | .replace r => some r
  | _ => none

def Keeps (name : ρ → ι) : Access ρ → Prop
  | .update change => ∀ r, name (change r) = name r
  | _ => True

end Access

def Signs [Closeable ρ] (name : ρ → String) : Prop :=
  ∀ r, (Closeable.close r).marks = [.closed (name r)]

/-- Any resource under a name, which closing leaves in place of all else. -/
structure Named (ρ : Type) where
  name : String
  resource : ρ

instance [Closeable ρ] : Closeable (Named ρ) where
  close r :=
    let closed := Closeable.close r.resource
    ⟨closed.result, [.closed r.name], ⟨r.name, closed.after⟩⟩
  label r := Closeable.label r.resource

theorem Named.signs [Closeable ρ] : Signs (Named.name : Named ρ → String) :=
  fun _ => rfl

namespace Guard

def after (g : Guard ρ) : Access ρ → Guard ρ
  | .update change => g.update change
  | .takeOut => g.takeOut.2
  | .replace r => g.replace r

def afterAll (g : Guard ρ) (accesses : List (Access ρ)) : Guard ρ :=
  accesses.foldl after g

/-- The resource that an access removes from the guard. -/
def lost? (g : Guard ρ) : Access ρ → Option ρ
  | .update _ => none
  | .takeOut => g.takeOut.1
  | .replace _ => g.held

/-- The resources that accesses remove, in the order in which they do. -/
def removed (g : Guard ρ) : List (Access ρ) → List ρ
  | [] => []
  | a :: rest => (g.lost? a).toList ++ (g.after a).removed rest

@[simp]
theorem afterAll_cons (g : Guard ρ) (a : Access ρ) (rest : List (Access ρ)) :
    g.afterAll (a :: rest) = (g.after a).afterAll rest := rfl

/-- What an access removes and what is held after it are together what was held before and what the
access put in. -/
theorem lost_append_held {name : ρ → ι} (g : Guard ρ) {a : Access ρ} (h : a.Keeps name) :
    ((g.lost? a).toList ++ (g.after a).held.toList).map name
      = (g.held.toList ++ a.put?.toList).map name := by
  cases a with
  | update change =>
    obtain ⟨held⟩ := g
    cases held with
    | none => rfl
    | some r => exact congrArg (fun n => [n]) (h r)
  | takeOut => rfl
  | replace r => rfl

/-- What was removed and what is held are together what was put in, in its order. -/
theorem removed_append_held {name : ρ → ι} (g : Guard ρ) {accesses : List (Access ρ)}
    (h : ∀ a ∈ accesses, a.Keeps name) :
    (g.removed accesses ++ (g.afterAll accesses).held.toList).map name
      = (g.held.toList ++ accesses.filterMap Access.put?).map name := by
  induction accesses generalizing g with
  | nil => simp [removed, afterAll]
  | cons a rest ih =>
    obtain ⟨ha, hrest⟩ := List.forall_mem_cons.mp h
    -- the step lemma speaks of one access, the induction of the later ones
    calc (g.removed (a :: rest) ++ (g.afterAll (a :: rest)).held.toList).map name
      _ = (g.lost? a).toList.map name
            ++ ((g.after a).removed rest ++ ((g.after a).afterAll rest).held.toList).map name := by
          simp [removed]
      _ = ((g.lost? a).toList ++ (g.after a).held.toList).map name
            ++ (rest.filterMap Access.put?).map name := by
          rw [ih (g.after a) hrest, List.map_append, List.map_append, List.append_assoc]
      _ = (g.held.toList ++ (a :: rest).filterMap Access.put?).map name := by
          rw [lost_append_held g ha, ← List.map_append, List.append_assoc]
          cases hput : a.put? with
          | none => rw [List.filterMap_cons_none hput]; rfl
          | some r => rw [List.filterMap_cons_some hput]; rfl

/-- What is held is none of what was removed, if no name was put in twice. -/
theorem ne_of_mem_removed {name : ρ → ι} {accesses : List (Access ρ)} {first r s : ρ}
    (hkeeps : ∀ a ∈ accesses, a.Keeps name)
    (hnames : ((first :: accesses.filterMap Access.put?).map name).Nodup)
    (hheld : ((new first).afterAll accesses).held = some r)
    (hs : s ∈ (new first).removed accesses) : name s ≠ name r := by
  have htogether := removed_append_held (new first) hkeeps
  rw [hheld, List.map_append] at htogether
  change _ = (first :: accesses.filterMap Access.put?).map name at htogether
  rw [← htogether] at hnames
  exact (List.nodup_append.mp hnames).2.2 _ (List.mem_map_of_mem hs) _ (List.mem_singleton_self _)

variable [Closeable ρ] {g : Guard ρ} {r : ρ}

/-- What each way to end a guard comes to: closing tells the verdict and logs nothing, going away
logs the events instead, and what is handed out is not closed. -/
structure EndsWith (g : Guard ρ) (verdict : Except Fault Unit) (marks : List Mark)
    (events : List Event) : Prop where
  close : g.close = ⟨verdict, marks, []⟩
  lapse : g.lapse = ⟨(), marks, events⟩
  fail : ∀ f, g.returnThrough (some f) = ⟨.error f, marks, events⟩
  release : g.release = ⟨g.held, [], []⟩
  emptied : g.takeOut.2.lapse = ⟨(), [], []⟩

theorem EndsWith.of_close_of_lapse {v : Except Fault Unit} {marks : List Mark}
    {events : List Event} (hclose : g.close = ⟨v, marks, []⟩)
    (hlapse : g.lapse = ⟨(), marks, events⟩) : g.EndsWith v marks events where
  close := hclose
  lapse := hlapse
  fail f := by simp [returnThrough, hlapse, Report.andThen, Report.silent]
  release := rfl
  emptied := rfl

theorem endsWith_of_none (h : g.held = none) : g.EndsWith (.ok ()) [] [] := by
  obtain ⟨held⟩ := g
  obtain rfl : held = none := h
  exact .of_close_of_lapse rfl rfl

theorem endsWith_of_ok (h : g.held = some r) (hclose : (Closeable.close r).result = .ok ()) :
    g.EndsWith (.ok ()) (Closeable.close r).marks [] := by
  apply EndsWith.of_close_of_lapse
  · rw [close_of_held h, hclose]
  · rw [lapse_of_held h, closeLogged_of_ok hclose]

theorem endsWith_of_error {f : Fault} (h : g.held = some r)
    (hclose : (Closeable.close r).result = .error f) :
    g.EndsWith (.error f) (Closeable.close r).marks
      [failure (Closeable.label (Closeable.close r).after) f] := by
  apply EndsWith.of_close_of_lapse
  · rw [close_of_held h, hclose]
  · rw [lapse_of_held h, closeLogged_of_error hclose]

theorem marks_of_signs {name : ρ → String} (hsigns : Signs name) (g : Guard ρ) :
    g.close.marks = (g.held.toList.map name).map .closed ∧ g.lapse.marks = g.close.marks := by
  obtain ⟨held⟩ := g
  cases held with
  | none => exact ⟨rfl, rfl⟩
  | some r =>
    rw [lapse_of_held (r := r) rfl, close_of_held (r := r) rfl]
    exact ⟨hsigns r, rfl⟩

theorem count_of_signs {name : ρ → String} (hsigns : Signs name) (g : Guard ρ) (n : String) :
    g.close.marks.count (.closed n) = (g.held.toList.map name).count n := by
  have hinjective : Function.Injective Mark.closed := fun _ _ h => Mark.closed.inj h
  rw [(marks_of_signs hsigns g).1, List.count_map_of_injective _ _ hinjective]

/-- Whatever is done through a guard, every way to end it closes what it then holds, once, or hands
it out. What was removed and what is held are together what was put in, so that each time a name was
put in it is removed once or closed once. -/
theorem guard_afterAll (first : ρ) (accesses : List (Access ρ)) :
    let g := (new first).afterAll accesses
    let removed := (new first).removed accesses
    let supplied := first :: accesses.filterMap Access.put?
    (g.held = none → g.EndsWith (.ok ()) [] []) ∧
    (∀ r, g.held = some r →
      ((Closeable.close r).result = .ok () →
        g.EndsWith (.ok ()) (Closeable.close r).marks []) ∧
      ∀ f, (Closeable.close r).result = .error f →
        g.EndsWith (.error f) (Closeable.close r).marks
          [failure (Closeable.label (Closeable.close r).after) f]) ∧
    ∀ name : ρ → String, (∀ a ∈ accesses, a.Keeps name) →
      (removed ++ g.held.toList).map name = supplied.map name ∧
      ((supplied.map name).Nodup → ∀ r ∈ removed, ∀ s, g.held = some s → name r ≠ name s) ∧
      (Signs name → ∀ n,
        g.close.marks.count (.closed n) + (removed.map name).count n
            = (supplied.map name).count n ∧
          g.lapse.marks.count (.closed n) = g.close.marks.count (.closed n)) := by
  intro g removed supplied
  refine ⟨endsWith_of_none, fun r hr => ⟨endsWith_of_ok hr, fun f => endsWith_of_error hr⟩,
    fun name hkeeps => ?_⟩
  have htogether : (removed ++ g.held.toList).map name = supplied.map name :=
    removed_append_held (new first) hkeeps
  refine ⟨htogether, fun hnames r hr s hs => ne_of_mem_removed hkeeps hnames hs hr,
    fun hsigns n => ⟨?_, ?_⟩⟩
  · rw [count_of_signs hsigns, ← htogether, List.map_append, List.count_append, Nat.add_comm]
  · rw [(marks_of_signs hsigns g).2]

/-- A file is exchanged for a connection, which loses its peer: the end of the guard closes the
connection once, with one event, and not the file. -/
theorem guard_afterAll_exchanged :
    let draft : Named Resource := ⟨"draft", .file none⟩
    let line : Named Resource := ⟨"line", .connection (some "10.0.0.7:80")⟩
    let accesses := [.replace line, .update fun r => ⟨r.name, .connection none⟩]
    let g := (new draft).afterAll accesses
    g.lapse = ⟨(), [.closed "line"], [failure "TcpStream" (.system 107)]⟩ ∧
      g.close.marks.count (.closed "line") = 1 ∧ g.close.marks.count (.closed "draft") = 0 := by
  intro draft line accesses g
  obtain ⟨_, hheld, hnamed⟩ := guard_afterAll draft accesses
  have hkeeps : ∀ a ∈ accesses, a.Keeps Named.name := by
    simp [accesses, Access.Keeps]
  obtain ⟨_, _, hcount⟩ := hnamed Named.name hkeeps
  exact ⟨((hheld ⟨"line", .connection none⟩ rfl).2 (.system 107) rfl).lapse,
    (hcount Named.signs "line").1, Nat.succ.inj (hcount Named.signs "draft").1⟩

end Guard

end ServiceKit.Closing
