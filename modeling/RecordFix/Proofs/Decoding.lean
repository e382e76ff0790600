import Mathlib.Data.List.Nodup
import RecordFix.Event.Json
import RecordFix.Proofs.Forest
import RecordFix.Proofs.Marker

/-!
# Decoding into forests

The events that a JSON value is sent as are those of a forest (`events_entries`). If no key comes twice in an object
and none is marked, the fields that the forest of an object stands for are its members as they are, without nulls
(`fields_memberEntries`), and their names are distinct (`nodup_fieldValues`).
-/

namespace RecordFix

/-- The name of a field that holds a value, which has the array marker if this is an array. -/
def Value.fieldName (name : String) (v : Value) : String :=
  if v.kind = .array then name ++ arrayMarker else name

theorem Value.stem_fieldName {name : String} (h : isMarked name = false) (v : Value) :
    (unmarked? (v.fieldName name)).getD (v.fieldName name) = name := by
  unfold Value.fieldName
  split
  · exact unmarked?_getD_append name
  · exact unmarked?_getD_of_not h

namespace Json

/-! ### Properties of keys -/

mutual

/-- Whether the keys of each object, at any depth, have a property. -/
def AllKeys (P : List String → Prop) : Json → Prop
  | object members => P (members.map (·.1)) ∧ AllKeysMembers P members
  | array items => AllKeysItems P items
  | _ => True

def AllKeysItems (P : List String → Prop) : List Json → Prop
  | [] => True
  | j :: js => AllKeys P j ∧ AllKeysItems P js

def AllKeysMembers (P : List String → Prop) : List (String × Json) → Prop
  | [] => True
  | (_, j) :: ms => AllKeys P j ∧ AllKeysMembers P ms

end

private theorem keys_putMember (key : String) (j : Json) (ms : List (String × Json)) :
    (putMember key j ms).map (·.1) = if key ∈ ms.map (·.1) then ms.map (·.1) else ms.map (·.1) ++ [key] := by
  induction ms with
  | nil => rfl
  | cons m ms ih =>
    obtain ⟨k, i⟩ := m
    by_cases hk : k = key
    · subst hk
      simp only [putMember, beq_self_eq_true, ↓reduceIte, List.map_cons, List.mem_cons, true_or]
    · have hb : (k == key) = false := by simpa using hk
      simp only [putMember, hb, Bool.false_eq_true, ↓reduceIte, List.map_cons, ih, List.mem_cons, Ne.symm hk, false_or]
      split <;> rfl

private theorem allKeysMembers_putMember {P : List String → Prop} {key : String} {j : Json} (hj : j.AllKeys P)
    {ms : List (String × Json)} (h : AllKeysMembers P ms) : AllKeysMembers P (putMember key j ms) := by
  induction ms with
  | nil => exact ⟨hj, trivial⟩
  | cons m ms ih =>
    obtain ⟨k, i⟩ := m
    rw [putMember]
    split
    · exact ⟨hj, h.2⟩
    · exact ⟨h.1, ih h.2⟩

private theorem dedup_keys {ms : List (String × Json)} (h : AllKeysMembers List.Nodup ms) :
    ((dedup ms).map (·.1)).Nodup ∧ AllKeysMembers List.Nodup (dedup ms) := by
  have key : ∀ start : List (String × Json), (start.map (·.1)).Nodup → AllKeysMembers List.Nodup start →
      ((ms.foldl (fun acc m => putMember m.1 m.2 acc) start).map (·.1)).Nodup ∧
        AllKeysMembers List.Nodup (ms.foldl (fun acc m => putMember m.1 m.2 acc) start) := by
    induction ms with
    | nil => exact fun start hnd hstart => ⟨hnd, hstart⟩
    | cons m ms ih =>
      intro start hnd hstart
      refine ih h.2 _ ?_ (allKeysMembers_putMember h.1 hstart)
      rw [keys_putMember]
      split
      · exact hnd
      · rename_i hm
        exact List.nodup_append.2 ⟨hnd, List.nodup_singleton _, fun a ha b hb hab =>
          hm (List.mem_singleton.1 hb ▸ hab ▸ ha)⟩
  exact key [] List.nodup_nil trivial

mutual

/-- A text is read as a value in which no object has a key twice. -/
theorem allKeys_distinct : ∀ j : Json, j.distinct.AllKeys List.Nodup
  | object ms => dedup_keys (allKeys_distinctMembers ms)
  | array items => allKeys_distinctItems items
  | null => trivial
  | bool _ => trivial
  | number _ => trivial
  | string _ => trivial

theorem allKeys_distinctItems : ∀ js : List Json, AllKeysItems List.Nodup (distinctItems js)
  | [] => trivial
  | j :: js => ⟨allKeys_distinct j, allKeys_distinctItems js⟩

theorem allKeys_distinctMembers : ∀ ms : List (String × Json), AllKeysMembers List.Nodup (distinctMembers ms)
  | [] => trivial
  | (_, j) :: ms => ⟨allKeys_distinct j, allKeys_distinctMembers ms⟩

end

mutual

theorem AllKeys.and {P Q : List String → Prop} :
    ∀ {j : Json}, j.AllKeys P → j.AllKeys Q → j.AllKeys fun keys => P keys ∧ Q keys
  | object _, hp, hq => ⟨⟨hp.1, hq.1⟩, AllKeysMembers.and hp.2 hq.2⟩
  | array _, hp, hq => AllKeysItems.and hp hq
  | null, _, _ => trivial
  | bool _, _, _ => trivial
  | number _, _, _ => trivial
  | string _, _, _ => trivial

theorem AllKeysItems.and {P Q : List String → Prop} :
    ∀ {js : List Json}, AllKeysItems P js → AllKeysItems Q js → AllKeysItems (fun keys => P keys ∧ Q keys) js
  | [], _, _ => trivial
  | _ :: _, hp, hq => ⟨AllKeys.and hp.1 hq.1, AllKeysItems.and hp.2 hq.2⟩

theorem AllKeysMembers.and {P Q : List String → Prop} :
    ∀ {ms : List (String × Json)}, AllKeysMembers P ms → AllKeysMembers Q ms →
      AllKeysMembers (fun keys => P keys ∧ Q keys) ms
  | [], _, _ => trivial
  | _ :: _, hp, hq => ⟨AllKeys.and hp.1 hq.1, AllKeysMembers.and hp.2 hq.2⟩

end

/-- No key twice, and none with the array marker. -/
def PlainKeys (keys : List String) : Prop := keys.Nodup ∧ ∀ k ∈ keys, isMarked k = false

/-! ### Entries -/

mutual

/-- The entries that a value under a name is read as. -/
def entries (name : String) : Json → Forest
  | object members => [.entity name (memberEntries members)]
  | array items => [.entity (if isMarked name then name else name ++ arrayMarker) (itemEntries 1 items)]
  | null => []
  | string s => [.literal name s]
  | number n => [.literal name (numberText n)]
  | bool b => [.literal name (if b then "true" else "false")]

def memberEntries : List (String × Json) → Forest
  | [] => []
  | (k, j) :: ms => entries k j ++ memberEntries ms

def itemEntries (position : Nat) : List Json → Forest
  | [] => []
  | j :: js => entries (toString position) j ++ itemEntries (position + 1) js

end

mutual

theorem events_entries (name : String) : ∀ j : Json, (j.entries name).events = j.events name
  | object members => by
    simp only [entries, events, Forest.events, Entry.events, events_memberEntries members, List.append_nil]
  | array items => by
    simp only [entries, events, Forest.events, Entry.events, events_itemEntries 1 items, List.append_nil]
  | null => rfl
  | string _ => rfl
  | number _ => rfl
  | bool _ => rfl

theorem events_memberEntries : ∀ ms : List (String × Json), (memberEntries ms).events = memberEvents ms
  | [] => rfl
  | (k, j) :: ms => by
    simp only [memberEntries, memberEvents, Forest.events_append, events_entries k j, events_memberEntries ms]

theorem events_itemEntries (position : Nat) :
    ∀ js : List Json, (itemEntries position js).events = itemEvents position js
  | [] => rfl
  | j :: js => by
    simp only [itemEntries, itemEvents, Forest.events_append, events_entries _ j, events_itemEntries (position + 1) js]

end

/-! ### Fields -/

mutual

/-- The value that is read, which is none for a null. -/
def value? : Json → Option Value
  | object members => some (.hash (fieldValues members) none)
  | array items => some (.array (itemValues items) none)
  | null => none
  | string s => some (.ofString s)
  | number n => some (.ofString (numberText n))
  | bool b => some (.ofString (if b then "true" else "false"))

def fieldValues : List (String × Json) → List (String × Value)
  | [] => []
  | (k, j) :: ms => ((value? j).map fun v => (v.fieldName k, v)).toList ++ fieldValues ms

def itemValues : List Json → List Value
  | [] => []
  | j :: js => (value? j).toList ++ itemValues js

end

/-- Without their markers, the names of the fields are those of the members that are not null. -/
theorem stems_fieldValues {ms : List (String × Json)} (h : ∀ k ∈ ms.map (·.1), isMarked k = false) :
    ((fieldValues ms).map fun f => (unmarked? f.1).getD f.1).Sublist (ms.map (·.1)) := by
  induction ms with
  | nil => exact List.Sublist.refl _
  | cons m ms ih =>
    obtain ⟨k, j⟩ := m
    rw [List.map_cons, List.forall_mem_cons] at h
    have hms := ih h.2
    rw [fieldValues, List.map_append, List.map_cons]
    cases value? j with
    | none => exact hms.cons _
    | some v =>
      simp only [Option.map_some, Option.toList_some, List.map_cons, List.map_nil, List.singleton_append,
        Value.stem_fieldName h.1]
      exact hms.cons_cons _

theorem nodup_fieldValues {ms : List (String × Json)} (h : PlainKeys (ms.map (·.1))) :
    ((fieldValues ms).map (·.1)).Nodup := by
  -- the names are distinct even without the markers that arrays get, since no key has one of its own
  have hstems := (stems_fieldValues h.2).nodup h.1
  have hmap : ((fieldValues ms).map (·.1)).map (fun name => (unmarked? name).getD name) =
      (fieldValues ms).map fun f => (unmarked? f.1).getD f.1 := List.map_map
  rw [← hmap] at hstems
  exact List.Nodup.of_map _ hstems

mutual

/-- The entries of a value stand for the value alone. -/
theorem fields_entries {name : String} (hname : isMarked name = false) :
    ∀ j : Json, j.AllKeys PlainKeys →
      Forest.fields (j.entries name) = ((value? j).map fun v => (v.fieldName name, v)).toList
  | object members, h => by
    have hfields := fields_memberEntries members h.2 h.1.2
    have hgroup := group_of_nodup Value.gather_singleton (nodup_fieldValues h.1)
    simp only [entries, Forest.fields, Entry.name, Entry.value, hname, Bool.false_eq_true, ↓reduceIte, hfields, hgroup]
    rfl
  | array items, h => by
    have hitems := fields_itemEntries 1 items h
    simp only [entries, Forest.fields, Entry.name, Entry.value, hname, Bool.false_eq_true, ↓reduceIte,
      isMarked_append, hitems]
    rfl
  | null, _ => rfl
  | string _, _ => rfl
  | number _, _ => rfl
  | bool _, _ => rfl

theorem fields_memberEntries :
    ∀ ms : List (String × Json), AllKeysMembers PlainKeys ms → (∀ k ∈ ms.map (·.1), isMarked k = false) →
      Forest.fields (memberEntries ms) = fieldValues ms
  | [], _, _ => rfl
  | (k, j) :: ms, h, hk => by
    rw [List.map_cons, List.forall_mem_cons] at hk
    rw [memberEntries, Forest.fields_append, fields_entries hk.1 j h.1, fields_memberEntries ms h.2 hk.2, fieldValues]

theorem fields_itemEntries (position : Nat) :
    ∀ js : List Json, AllKeysItems PlainKeys js →
      (Forest.fields (itemEntries position js)).map (·.2) = itemValues js
  | [], _ => rfl
  | j :: js, h => by
    rw [itemEntries, Forest.fields_append, List.map_append, fields_entries (isMarked_toString position) j h.1,
      fields_itemEntries (position + 1) js h.2, itemValues]
    cases value? j <;> rfl

end

/-- The fields that a record of plain members is read as. -/
theorem build_memberEntries {ms : List (String × Json)} (h : (object ms).AllKeys PlainKeys) :
    (memberEntries ms).build = Hash.rebase ⟨fieldValues ms, none⟩ none := by
  rw [Forest.build, fields_memberEntries ms h.2 h.1.2,
    group_of_nodup Value.gather_singleton (nodup_fieldValues h.1)]

end Json

end RecordFix
