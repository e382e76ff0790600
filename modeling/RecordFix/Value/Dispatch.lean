import RecordFix.Value.Hash

/-!
# Dispatch on the kind of a value

A dispatch is a list of handlers, each for one kind of value, and at most one for a kind. It answers a value by the
handler for its kind; where there is none, the caller gives a fallback or takes the mismatch as an error.
-/

namespace RecordFix

/-- A dispatch with a second handler for one kind. -/
inductive DispatchError where
  | repeated (kind : ValueKind)

def DispatchError.message : DispatchError → String
  | .repeated kind => "already expecting " ++ kind.label

/-- Handlers in the order in which they were given. -/
structure Dispatch (α : Type) where
  handlers : List (ValueKind × (Value → α)) := []

namespace Dispatch

variable {α : Type}

def on (d : Dispatch α) (kind : ValueKind) (handler : Value → α) : Except DispatchError (Dispatch α) :=
  if d.handlers.any (·.1 == kind) then .error (.repeated kind) else .ok ⟨d.handlers ++ [(kind, handler)]⟩

/-- The answer of the handler for the kind of the value. -/
def answer? (d : Dispatch α) (v : Value) : Option α :=
  (d.handlers.find? (·.1 == v.kind)).map fun h => h.2 v

def orElse (d : Dispatch α) (fallback : Value → α) (v : Value) : α :=
  (d.answer? v).getD (fallback v)

/-- The answer, or the mismatch that lists the kinds for which there is a handler. -/
def orMismatch (d : Dispatch α) (v : Value) : Except ValueError α :=
  match d.answer? v with
  | some a => .ok a
  | none => .error (.typeMismatch (" or ".intercalate (d.handlers.map (·.1.label))) v.kind)

end Dispatch

end RecordFix
