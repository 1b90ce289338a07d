import Mathlib.Logic.Relation
import ServiceKit.Fault.Conversion

/-!
Errors on their way through the conversions, any number of them, boxed in between. A fault that is
only passed on comes out as it went in. One that is wrapped on the way is still inside, whole, and
the words of every error are still said.
-/

namespace ServiceKit

namespace Cause

/-- One error directly inside another: what it carries, or what stands behind it. -/
def Bears (c inner : Cause) : Prop :=
  c.source = some inner ∨ ∃ kind, c = .fault (.carrying kind inner)

def Contains : Cause → Cause → Prop := Relation.ReflTransGen Bears

/-- An error that keeps another one: its words, behind any others, and the error itself. -/
def Keeps (outer inner : Cause) : Prop :=
  inner.chain <:+ outer.chain ∧ outer.Contains inner

theorem Keeps.refl (c : Cause) : c.Keeps c :=
  ⟨List.suffix_refl _, .refl⟩

theorem Keeps.trans {a b c : Cause} (hab : a.Keeps b) (hbc : b.Keeps c) : a.Keeps c :=
  ⟨hbc.1.trans hab.1, hab.2.trans hbc.2⟩

theorem keeps_carrying (kind : FaultKind) (c : Cause) : (fault (.carrying kind c)).Keeps c :=
  ⟨List.suffix_refl _, .single (.inr ⟨kind, rfl⟩)⟩

/-- An error speaks its own words before those of the error behind it. -/
theorem keeps_of_source {outer inner : Cause} (hsource : outer.source = some inner)
    (hchain : outer.chain = outer.message :: inner.chain) : outer.Keeps inner :=
  ⟨hchain ▸ List.suffix_cons _ _, .single (.inl hsource)⟩

theorem keeps_passing (f : Fault) : (transfer (.fault f)).Keeps (.fault f) :=
  keeps_of_source rfl rfl

theorem keeps_interrupted (message : String) (c : Cause) :
    (fault (.interrupted message c)).Keeps c :=
  keeps_of_source rfl rfl

theorem keeps_toFault (c : Cause) : (fault c.toFault).Keeps c := by
  cases c with
  | fault f => exact .refl _
  | text m => exact keeps_carrying .other _
  | transfer e => exact keeps_carrying .other _
  | interruption m c => exact keeps_carrying .other _

theorem toFault_of_ne_fault {c : Cause} (h : ∀ f, c ≠ .fault f) :
    c.toFault = .carrying .other c := by
  cases c with
  | fault f => exact absurd rfl (h f)
  | text m => rfl
  | transfer e => rfl
  | interruption m c => rfl

end Cause

/-- The forms that an error takes between conversions. -/
inductive ErrorForm where
  | fault (f : Fault)
  | transfer (e : TransferFault)
  | boxed (c : Cause)

namespace ErrorForm

def error : ErrorForm → Cause
  | .fault f => .fault f
  | .transfer (.fault f) => .fault f
  | .transfer e => .transfer e
  | .boxed c => c

/-- The conversions that pass a fault on: into a transfer's error and out of it, into a box and out of
it. -/
inductive Passes : ErrorForm → ErrorForm → Prop
  | enter (f : Fault) : Passes (.fault f) (.transfer (.fault f))
  | leave (e : TransferFault) : Passes (.transfer e) (.fault e.toFault)
  | box (f : Fault) : Passes (.fault f) (.boxed (.fault f))
  | unbox (c : Cause) : Passes (.boxed c) (.fault c.toFault)

/-- All conversions: also a transfer's error may be boxed, and what is boxed may have led to an
interruption. -/
inductive Converts : ErrorForm → ErrorForm → Prop
  | pass {x y : ErrorForm} (h : Passes x y) : Converts x y
  | boxTransfer (e : TransferFault) : Converts (.transfer e) (.boxed (.transfer e))
  | interrupt (message : String) (c : Cause) :
      Converts (.boxed c) (.fault (.interrupted message c))

variable {x y : ErrorForm}

theorem keeps_leave (e : TransferFault) :
    (error (.fault e.toFault)).Keeps (error (.transfer e)) := by
  cases e with
  | fault f => exact .refl _
  | unexpectedEnd operation requested transferred => exact Cause.keeps_carrying .unexpectedEnd _
  | outsideBuffer offset length capacity => exact Cause.keeps_carrying .invalidInput _
  | emptyBuffer => exact Cause.keeps_carrying .invalidInput _

theorem keeps_boxTransfer (e : TransferFault) :
    (Cause.transfer e).Keeps (error (.transfer e)) := by
  cases e with
  | fault f => exact Cause.keeps_passing f
  | unexpectedEnd operation requested transferred => exact .refl _
  | outsideBuffer offset length capacity => exact .refl _
  | emptyBuffer => exact .refl _

theorem Converts.keeps (h : Converts x y) : y.error.Keeps x.error := by
  cases h with
  | pass h =>
    cases h with
    | enter f => exact .refl _
    | leave e => exact keeps_leave e
    | box f => exact .refl _
    | unbox c => exact Cause.keeps_toFault c
  | boxTransfer e => exact keeps_boxTransfer e
  | interrupt message c => exact Cause.keeps_interrupted message c

theorem keeps_of_conversions (h : Relation.ReflTransGen Converts x y) :
    y.error.Keeps x.error := by
  induction h with
  | refl => exact .refl _
  | tail _ hstep ih => exact hstep.keeps.trans ih

def IsFault (f : Fault) (x : ErrorForm) : Prop :=
  x = .fault f ∨ x = .transfer (.fault f) ∨ x = .boxed (.fault f)

theorem IsFault.pass {f : Fault} (hx : x.IsFault f) (h : Passes x y) : y.IsFault f := by
  rcases hx with rfl | rfl | rfl
  · cases h with
    | enter => exact .inr (.inl rfl)
    | box => exact .inr (.inr rfl)
  · cases h with
    | leave => exact .inl rfl
  · cases h with
    | unbox => exact .inl rfl

theorem isFault_of_passes {f : Fault} (h : Relation.ReflTransGen Passes (.fault f) x) :
    x.IsFault f := by
  induction h with
  | refl => exact .inl rfl
  | tail _ hstep ih => exact ih.pass hstep

end ErrorForm

theorem TransferFault.kind_toFault {e : TransferFault} (h : ∀ f, e ≠ .fault f) :
    e.toFault.kind = if e.isEnd then .unexpectedEnd else .invalidInput := by
  cases e with
  | fault f => exact absurd rfl (h f)
  | unexpectedEnd operation requested transferred => rfl
  | outsideBuffer offset length capacity => rfl
  | emptyBuffer => rfl

/-- A fault comes back out of a transfer's error and out of a box as the very fault, and any other
error becomes a fault with its words and the errors behind it. What is wrapped on the way is still
inside the error that comes out. -/
theorem conversions_keep :
    (∀ f : Fault, (TransferFault.fault f).toFault = f ∧ (Cause.fault f).toFault = f) ∧
      (∀ e : TransferFault, (∀ f, e ≠ .fault f) →
        (e.toFault.kind = .unexpectedEnd ↔ e.isEnd = true) ∧
          (e.isEnd = false → e.toFault.kind = .invalidInput) ∧
          e.toFault.message = e.message ∧ e.toFault.source = e.source) ∧
      (∀ c : Cause, (∀ f, c ≠ .fault f) →
        c.toFault.kind = .other ∧ c.toFault.message = c.message ∧
          c.toFault.source = c.source ∧ c.toFault.sourceMessages = c.sourceMessages) ∧
      (∀ message c, let f := Fault.interrupted message c
        f.kind = .interrupted ∧ f.message = message ∧ f.source = some c) ∧
      (∀ f y, Relation.ReflTransGen ErrorForm.Passes (.fault f) y → y.IsFault f) ∧
      ∀ x y, Relation.ReflTransGen ErrorForm.Converts x y →
        y.error.Keeps x.error ∧ ∀ f, y = .fault f → y.error.toFault = f := by
  refine ⟨fun f => ⟨rfl, rfl⟩, fun e he => ?_, fun c hc => ?_, fun _ _ => ⟨rfl, rfl, rfl⟩,
    fun f y => ErrorForm.isFault_of_passes, fun x y h => ⟨ErrorForm.keeps_of_conversions h, ?_⟩⟩
  · have hkind := TransferFault.kind_toFault he
    refine ⟨?_, fun hend => by rw [hkind, hend]; rfl, e.toFault_message he, ?_⟩
    · rw [hkind]
      cases e.isEnd <;> simp
    · cases e with
      | fault f => exact absurd rfl (he f)
      | unexpectedEnd operation requested transferred => rfl
      | outsideBuffer offset length capacity => rfl
      | emptyBuffer => rfl
  · rw [Cause.toFault_of_ne_fault hc]
    exact ⟨rfl, rfl, rfl, rfl⟩
  · rintro f rfl
    rfl

/-- A connection that was reset, passed on by a transfer, and then the cause of an interruption. -/
theorem conversions_keep_reset :
    let reset : Fault := .system 104
    let waiting : Fault := .interrupted "waiting for leader" (.fault reset)
    (ErrorForm.boxed (.fault reset)).IsFault reset ∧
      (Cause.fault waiting).Keeps (.fault reset) ∧ (Cause.fault waiting).toFault = waiting ∧
      (TransferFault.unexpectedEnd .read 11 10).toFault.kind = .unexpectedEnd ∧
      TransferFault.emptyBuffer.toFault.kind = .invalidInput ∧
      (Cause.text "quota exceeded").toFault.message = "quota exceeded" := by
  intro reset waiting
  obtain ⟨-, htransfer, hcause, -, hpassed, hconverted⟩ := conversions_keep
  have hboxed : Relation.ReflTransGen ErrorForm.Passes (.fault reset) (.boxed (.fault reset)) :=
    ((Relation.ReflTransGen.single (.enter reset)).tail (.leave _)).tail (.box _)
  have hwaiting : Relation.ReflTransGen ErrorForm.Converts (.fault reset) (.fault waiting) :=
    ((Relation.ReflTransGen.single (.pass (.enter reset))).tail (.pass (.leave _))).tail
      (.pass (.box _)) |>.tail (.interrupt "waiting for leader" _)
  obtain ⟨hkept, hsettled⟩ := hconverted _ _ hwaiting
  exact ⟨hpassed _ _ hboxed, hkept, hsettled waiting rfl,
    (htransfer (.unexpectedEnd .read 11 10) nofun).1.mpr rfl,
    (htransfer .emptyBuffer nofun).2.1 rfl, (hcause (.text "quota exceeded") nofun).2.1⟩

end ServiceKit
