import RecordFix.Path

/-!
# Slots

A path of plain field names, indices and the markers `$first` and `$last` addresses a single slot. `slot?` reads it,
and `fillSlot` writes it as it is, with the value's own origin.
-/

namespace RecordFix

/-- The 0-based position that a segment addresses in an array of this size, if it is there. -/
def slotPosition? (size : Nat) (segment : String) : Option Nat :=
  match Marker.ofSegment? segment with
  | some .append => none
  | some .first => if size = 0 then none else some 0
  | some .last => if size = 0 then none else some (size - 1)
  | none =>
    match parseIndex? segment with
    | some (n + 1) => if n < size then some n else none
    | _ => none

namespace Value

def slot? : Path → Value → Option Value
  | [], v => some v
  | segment :: rest, v =>
    match v with
    | hash fields _ => (fields.lookup segment).bind (slot? rest)
    | array items _ => (slotPosition? items.length segment).bind fun i => items[i]?.bind (slot? rest)
    | string .. => none

def fillSlot (w : Value) : Path → Value → Value
  | [], _ => w
  | segment :: rest, v =>
    match v with
    | hash fields o =>
      match fields.lookup segment with
      | some child => hash (Hash.putEntry segment (fillSlot w rest child) fields) o
      | none => v
    | array items o =>
      match slotPosition? items.length segment with
      | some i => array (items.modify i (fillSlot w rest)) o
      | none => v
    | string .. => v

end Value

namespace Hash

/-- The value of the slot at a path. -/
def slot? (h : Hash) (path : Path) : Option Value :=
  if path.isEmpty then none else h.toValue.slot? path

/-- Writes the slot at a path, if there is one. -/
def fillSlot (h : Hash) (path : Path) (w : Value) : Hash :=
  if path.isEmpty then h
  else
    match Value.fillSlot w path h.toValue with
    | .hash fields origin => ⟨fields, origin⟩
    | _ => h

end Hash

end RecordFix
