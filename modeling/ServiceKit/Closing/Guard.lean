import ServiceKit.Closing.Resource

/-!
Guards: each holds a resource and, when it goes away still holding one, closes it quietly. Meanwhile
the resource can be worked with, taken out or exchanged.
-/

namespace ServiceKit.Closing

structure Guard (ρ : Type) where
  held : Option ρ
  deriving DecidableEq

namespace Guard

variable {ρ : Type}

def new (r : ρ) : Guard ρ := ⟨some r⟩

def update (g : Guard ρ) (change : ρ → ρ) : Guard ρ := ⟨g.held.map change⟩

def takeOut (g : Guard ρ) : Option ρ × Guard ρ := (g.held, ⟨none⟩)

/-- The guard with another resource; the one it held is not closed. -/
def replace (_ : Guard ρ) (r : ρ) : Guard ρ := ⟨some r⟩

variable [Closeable ρ]

def lapse (g : Guard ρ) : Report Unit :=
  match g.held with
  | none => .silent ()
  | some r => closeLogged r

/-- Closes what is held and tells how that went; the emptied guard goes away after it. -/
def close (g : Guard ρ) : Report (Except Fault Unit) :=
  let (held, left) := g.takeOut
  match held with
  | none => (Report.silent (.ok ())).andThen left.lapse
  | some r => (closeOnce r).andThen left.lapse

/-- Hands out what is held without closing it; the emptied guard goes away after it. -/
def release (g : Guard ρ) : Report (Option ρ) :=
  let (held, left) := g.takeOut
  (Report.silent held).andThen left.lapse

/-- A function that holds the guard either fails on its way, so that the guard goes away, or ends by
closing it. -/
def returnThrough (g : Guard ρ) : Option Fault → Report (Except Fault Unit)
  | some f => (Report.silent (.error f)).andThen g.lapse
  | none => g.close

variable {g : Guard ρ} {r : ρ}

@[simp]
theorem lapse_empty : lapse (⟨none⟩ : Guard ρ) = .silent () := rfl

theorem lapse_of_held (h : g.held = some r) : g.lapse = closeLogged r := by
  rw [lapse, h]

theorem close_of_held (h : g.held = some r) :
    g.close = ⟨(Closeable.close r).result, (Closeable.close r).marks, []⟩ := by
  simp [close, h, takeOut, closeOnce, Report.andThen, Report.silent]

theorem close_new (r : ρ) :
    (new r).close = ⟨(Closeable.close r).result, (Closeable.close r).marks, []⟩ :=
  close_of_held rfl

end Guard

end ServiceKit.Closing
