import ServiceKit.Proofs.Closing.Guards

/-!
Closing a whole list. Every resource that is there is closed once, in its turn, whatever the closing
of those before it came to, and a fault goes into the log under the resource's own description.
Wrappers around a resource change nothing in all this.
-/

namespace ServiceKit.Closing

open Closeable (close label)

variable {ρ : Type}

def Wrapped.held? : Wrapped ρ → Option ρ
  | .bare r => some r
  | .absent => none
  | .present inner => inner.held?
  | .boxed inner => inner.held?
  | .borrowed inner => inner.held?

variable [Closeable ρ]

namespace Wrapped

variable {w : Wrapped ρ} {r : ρ}

theorem close_of_held (h : w.held? = some r) :
    (close w).result = (close r).result ∧ (close w).marks = (close r).marks ∧
      (close w).after.held? = some (close r).after := by
  induction w with
  | bare s =>
    obtain rfl : s = r := Option.some.inj h
    exact ⟨rfl, rfl, rfl⟩
  | absent => cases h
  | present inner ih => exact ih h
  | boxed inner ih => exact ih h
  | borrowed inner ih => exact ih h

theorem label_of_held (h : w.held? = some r) : label w = label r := by
  induction w with
  | bare s =>
    obtain rfl : s = r := Option.some.inj h
    rfl
  | absent => cases h
  | present inner ih => exact ih h
  | boxed inner ih => exact ih h
  | borrowed inner ih => exact ih h

theorem close_of_empty (h : w.held? = none) :
    (close w).result = .ok () ∧ (close w).marks = [] := by
  induction w with
  | bare s => cases h
  | absent => exact ⟨rfl, rfl⟩
  | present inner ih => exact ih h
  | boxed inner ih => exact ih h
  | borrowed inner ih => exact ih h

theorem closeLogged_of_held (h : w.held? = some r) : closeLogged w = closeLogged r := by
  obtain ⟨hresult, hmarks, hafter⟩ := close_of_held h
  unfold closeLogged
  rw [hresult, hmarks, label_of_held hafter]

theorem closeLogged_of_empty (h : w.held? = none) : closeLogged w = .silent () := by
  obtain ⟨hresult, hmarks⟩ := close_of_empty h
  rw [closeLogged_of_ok hresult, hmarks]
  rfl

/-- To close a list of wrapped resources is to close what they hold. -/
theorem closeAll_eq_closeAll_held (ws : List (Wrapped ρ)) :
    closeAll ws = closeAll (ws.filterMap held?) := by
  induction ws with
  | nil => rfl
  | cons w rest ih =>
    cases h : w.held? with
    | none =>
      rw [closeAll, closeLogged_of_empty h, ih, List.filterMap_cons_none h]
      rfl
    | some r => rw [closeAll, closeLogged_of_held h, ih, List.filterMap_cons_some h, closeAll]

end Wrapped

/-- What the log calls a resource whose closing fails, and the fault. -/
def failure? (r : ρ) : Option (String × Fault) :=
  match (close r).result with
  | .ok () => none
  | .error f => some (label (close r).after, f)

theorem events_closeLogged (r : ρ) :
    (closeLogged r).events = (failure? r).toList.map fun x => failure x.1 x.2 := by
  cases h : (close r).result with
  | ok _ =>
    rw [closeLogged_of_ok h, failure?, h]
    rfl
  | error f =>
    rw [closeLogged_of_error h, failure?, h]
    rfl

theorem closeAll_eq (rs : List ρ) :
    closeAll rs = ⟨(), rs.flatMap fun r => (close r).marks,
      (rs.filterMap failure?).map fun x => failure x.1 x.2⟩ := by
  induction rs with
  | nil => rfl
  | cons r rest ih =>
    have hevents : (r :: rest).filterMap failure?
        = (failure? r).toList ++ rest.filterMap failure? := by
      cases h : failure? r with
      | none => rw [List.filterMap_cons_none h]; rfl
      | some x => rw [List.filterMap_cons_some h]; rfl
    rw [closeAll, ih, hevents, List.map_append, ← events_closeLogged]
    rfl

/-- Closing a list of wrapped resources comes to closing those that are there, each once and in
order. One event is logged for each fault, with what the resource itself is called then. -/
theorem closeAll_wrapped (ws : List (Wrapped ρ)) :
    let there := ws.filterMap Wrapped.held?
    let report := closeAll ws
    report = closeAll there ∧
      report.marks = there.flatMap (fun r => (close r).marks) ∧
      (∀ name, Signs name → report.marks = there.map fun r => .closed (name r)) ∧
      report.events = (there.filterMap failure?).map fun x =>
        ⟨"quorum_io::cleanup", "error while closing",
          [("resource", .plain x.1), ("error", .plain x.2.message)]⟩ := by
  intro there report
  have hthere : report = closeAll there := Wrapped.closeAll_eq_closeAll_held ws
  have hreport := hthere.trans (closeAll_eq there)
  have hmarks : report.marks = there.flatMap fun r => (close r).marks := by rw [hreport]
  refine ⟨hthere, hmarks, fun name hsigns => ?_, by rw [hreport]; rfl⟩
  rw [hmarks, funext hsigns, ← List.map_eq_flatMap]

/-- A box that fails, nothing in two wrappers, a file, and a lost connection behind a borrow. -/
theorem closeAll_wrapped_mixed :
    let broken : Fault := .bare .brokenPipe
    let ws : List (Wrapped (Named Bare)) :=
      [.present (.boxed (.bare ⟨"a", .probe "p" (some broken)⟩)), .boxed (.present .absent),
        .bare ⟨"b", .file none⟩, .borrowed (.present (.bare ⟨"c", .connection none⟩))]
    Signs (Named.name : Named Bare → String) ∧
      (closeAll ws).marks = [.closed "a", .closed "b", .closed "c"] ∧
      (closeAll ws).events = [failure "probe p" broken, failure "TcpStream" (.system 107)] := by
  intro broken ws
  obtain ⟨-, -, hsigned, hevents⟩ := closeAll_wrapped ws
  exact ⟨Named.signs, hsigned Named.name Named.signs, hevents⟩

end ServiceKit.Closing
