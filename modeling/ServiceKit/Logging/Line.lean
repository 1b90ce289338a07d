import ServiceKit.Event
import ServiceKit.Logging.Control
import ServiceKit.Text.Styled

/-!
Events as lines of a log, and which of them a filter lets through.
-/

namespace ServiceKit.Logging

open Text (Span Styled)

/-- The message is a field, too, when a directive asks for fields. -/
def Filter.admits (f : Filter) (e : Event) : Bool :=
  f.passes e.origin ("message" :: e.fields.map (·.1)) .debug

/-- Without a layer nothing is let through. -/
def Control.admits (c : Control) (e : Event) : Bool :=
  match c.active with
  | none => false
  | some f => f.admits e

def fieldOnLine (name : String) (v : FieldValue) : Styled :=
  [.plain " ", ⟨.italic, name⟩, ⟨.dim, "="⟩, .plain v.onLine]

def onLine (stamp : String) (e : Event) : Styled :=
  [⟨.dim, stamp⟩, .plain " ", ⟨.blue, "DEBUG"⟩, .plain " ", ⟨.dim, e.origin⟩, ⟨.dim, ":"⟩,
    .plain (" " ++ e.message)] ++ (e.fields.flatMap fun (name, v) => fieldOnLine name v)
    ++ [.plain "\n"]

end ServiceKit.Logging
