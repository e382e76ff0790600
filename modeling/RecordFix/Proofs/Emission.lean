import RecordFix.Event.Emitter
import RecordFix.Proofs.Forest

/-!
# Emitting forests

The events that a record is sent as are those of a forest (`events_entries`), and they do not depend on origins
(`events_rebase`).
-/

namespace RecordFix

namespace Value

mutual

/-- The entries that a value under a name is sent as. -/
def entries (settings : Settings) (name : String) : Value → Forest
  | string text _ => [.literal name text]
  | hash fields _ => [.entity name (fieldEntries settings fields)]
  | array items _ =>
    if !isMarked name && !settings.repeatedFieldsToEntities then repeatedEntries settings name items
    else if !isMarked name && items.isEmpty then []
    else [.entity name (memberEntries settings 0 items)]

def fieldEntries (settings : Settings) : List (String × Value) → Forest
  | [] => []
  | (k, v) :: fs => entries settings k v ++ fieldEntries settings fs

def repeatedEntries (settings : Settings) (name : String) : List Value → Forest
  | [] => []
  | v :: vs => entries settings name v ++ repeatedEntries settings name vs

def memberEntries (settings : Settings) (position : Nat) : List Value → Forest
  | [] => []
  | v :: vs =>
    let member := settings.memberName position
    entries settings (if v.kind = .array then member ++ arrayMarker else member) v ++
      memberEntries settings (position + 1) vs

end

variable (settings : Settings)

mutual

theorem events_entries (name : String) : ∀ v : Value, (v.entries settings name).events = v.events settings name
  | string _ _ => rfl
  | hash fields _ => by
    simp only [entries, events, Forest.events, Entry.events, events_fieldEntries fields, List.append_nil]
  | array items _ => by
    simp only [entries, events]
    split
    · exact events_repeatedEntries name items
    · split
      · rfl
      · simp only [Forest.events, Entry.events, events_memberEntries 0 items, List.append_nil]

theorem events_fieldEntries :
    ∀ fs : List (String × Value), (fieldEntries settings fs).events = fieldEvents settings fs
  | [] => rfl
  | (k, v) :: fs => by
    simp only [fieldEntries, fieldEvents, Forest.events_append, events_entries k v, events_fieldEntries fs]

theorem events_repeatedEntries (name : String) :
    ∀ vs : List Value, (repeatedEntries settings name vs).events = repeatedEvents settings name vs
  | [] => rfl
  | v :: vs => by
    simp only [repeatedEntries, repeatedEvents, Forest.events_append, events_entries name v,
      events_repeatedEntries name vs]

theorem events_memberEntries (position : Nat) :
    ∀ vs : List Value, (memberEntries settings position vs).events = memberEvents settings position vs
  | [] => rfl
  | v :: vs => by
    simp only [memberEntries, memberEvents, Forest.events_append, events_entries _ v,
      events_memberEntries (position + 1) vs]

end

mutual

theorem events_rebase (name : String) (o : Option String) :
    ∀ v : Value, (v.rebase o).events settings name = v.events settings name
  | string _ _ => rfl
  | hash fields _ => by simp only [rebase, events, fieldEvents_rebaseFields o fields]
  | array items _ => by
    have hempty : (rebaseItems o 1 items).isEmpty = items.isEmpty := by cases items <;> rfl
    simp only [rebase, events, repeatedEvents_rebaseItems name o 1 items, memberEvents_rebaseItems 0 o 1 items, hempty]

theorem fieldEvents_rebaseFields (o : Option String) :
    ∀ fs : List (String × Value), fieldEvents settings (rebaseFields o fs) = fieldEvents settings fs
  | [] => rfl
  | (k, v) :: fs => by simp only [rebaseFields, fieldEvents, events_rebase k _ v, fieldEvents_rebaseFields o fs]

theorem repeatedEvents_rebaseItems (name : String) (o : Option String) (i : Nat) :
    ∀ vs : List Value, repeatedEvents settings name (rebaseItems o i vs) = repeatedEvents settings name vs
  | [] => rfl
  | v :: vs => by
    simp only [rebaseItems, repeatedEvents, events_rebase name _ v, repeatedEvents_rebaseItems name o (i + 1) vs]

theorem memberEvents_rebaseItems (position : Nat) (o : Option String) (i : Nat) :
    ∀ vs : List Value, memberEvents settings position (rebaseItems o i vs) = memberEvents settings position vs
  | [] => rfl
  | v :: vs => by
    simp only [rebaseItems, memberEvents, kind_rebase, events_rebase _ _ v,
      memberEvents_rebaseItems (position + 1) o (i + 1) vs]

end

end Value

/-- A record is sent as the forest of its fields. -/
theorem Hash.recordEvents_rebase (settings : Settings) (id : String) (h : Hash) (o : Option String) :
    (h.rebase o).recordEvents settings id =
      .startRecord id :: ((Value.fieldEntries settings h.fields).events ++ [.endRecord]) := by
  rw [Value.events_fieldEntries, ← Value.fieldEvents_rebaseFields settings o]
  rfl

end RecordFix
