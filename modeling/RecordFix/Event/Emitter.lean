import RecordFix.Event
import RecordFix.Settings
import RecordFix.Value.Hash

/-!
# Records as events

A text is sent as a literal and a hash as an entity. An array whose name has the array marker is an entity with
numbered members; any other array is one too or, if the settings say so, its items repeat the name. An array that is
a member of another gets the array marker.
-/

namespace RecordFix

namespace Value

mutual

/-- A value under a name. -/
def events (settings : Settings) (name : String) : Value → List Event
  | string text _ => [.literal name text]
  | hash fields _ => .startEntity name :: (fieldEvents settings fields ++ [.endEntity])
  | array items _ =>
    if !isMarked name && !settings.repeatedFieldsToEntities then repeatedEvents settings name items
    else if !isMarked name && items.isEmpty then []
    else .startEntity name :: (memberEvents settings 0 items ++ [.endEntity])

def fieldEvents (settings : Settings) : List (String × Value) → List Event
  | [] => []
  | (k, v) :: fs => events settings k v ++ fieldEvents settings fs

/-- Values that all have one name. -/
def repeatedEvents (settings : Settings) (name : String) : List Value → List Event
  | [] => []
  | v :: vs => events settings name v ++ repeatedEvents settings name vs

/-- Values that are named by their positions. -/
def memberEvents (settings : Settings) (position : Nat) : List Value → List Event
  | [] => []
  | v :: vs =>
    let member := settings.memberName position
    events settings (if v.kind = .array then member ++ arrayMarker else member) v ++
      memberEvents settings (position + 1) vs

end

end Value

/-- The fields of a record between its start and its end. -/
def Hash.recordEvents (settings : Settings) (id : String) (h : Hash) : List Event :=
  .startRecord id :: (Value.fieldEvents settings h.fields ++ [.endRecord])

end RecordFix
