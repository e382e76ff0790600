import RecordFix.Event
import RecordFix.Record

/-!
# Events as records

A builder folds the events of a record into its fields. A value is attached to the innermost open entity: in a list
at its end, and in a map under its name, where a second value makes the field an array. Each open entity is known by
the steps that lead to it.
-/

namespace RecordFix

structure Builder where
  record : Record := {}
  id : String := ""
  openEntities : List (List Step) := []

namespace Builder

/-- Attaches a value in a hash; the step or two that lead to it. -/
def attachField (name : String) (v : Value) (h : Hash) : Hash × List Step :=
  let grown := h.add name v
  match h.contains name, grown.get? name with
  | true, some (.array items _) => (grown, [.field name, .item (items.length - 1)])
  | _, _ => (grown, [.field name])

/-- Attaches a value to the container that is some steps down; the steps that lead to the value. -/
def attach (name : String) (v : Value) : List Step → Value → Option (Value × List Step)
  | [], .hash fields o =>
    let (grown, steps) := attachField name v ⟨fields, o⟩
    some (grown.toValue, steps)
  | [], .array items o => some (.array (Value.pushItem o items v) o, [.item items.length])
  | .field k :: steps, .hash fields o => do
    let (grown, relative) ← attach name v steps (← fields.lookup k)
    return (.hash (Hash.putEntry k grown fields) o, .field k :: relative)
  | .item i :: steps, .array items o => do
    let (grown, relative) ← attach name v steps (← items[i]?)
    return (.array (items.set i grown) o, .item i :: relative)
  | _, _ => none

/-- Attaches a value to the innermost open entity. -/
def add (b : Builder) (name : String) (v : Value) : Except StreamError (Builder × List Step) :=
  let place := b.openEntities.headD []
  match attach name v place b.record.fields.toValue with
  | some (.hash fields o, steps) => .ok ({ b with record := { b.record with fields := ⟨fields, o⟩ } }, steps)
  | _ => .error (.entityNotFound place)

/-- An empty record whose id is a virtual field. -/
def start (id : String) : Builder := { record := ({} : Record).putVirtual idField (Value.ofString id), id := id }

/-- The empty container of an entity. -/
def emptyEntity (name : String) : Value :=
  if isMarked name then .array [] none else .hash [] none

def openEntity (b : Builder) (name : String) : Except StreamError Builder := do
  let (b, steps) ← b.add name (emptyEntity name)
  return { b with openEntities := steps :: b.openEntities }

def closeEntity (b : Builder) : Except StreamError Builder :=
  match b.openEntities with
  | [] => .error .entitiesNotBalanced
  | _ :: outer => .ok { b with openEntities := outer }

def addLiteral (b : Builder) (name value : String) : Except StreamError Builder := do
  return (← b.add name (Value.ofString value)).1

end Builder

end RecordFix
