import RecordFix.Event.Encoder
import RecordFix.Proofs.Forest

/-!
# Encoding forests

The encoder builds its containers from the inside: the container of an entity is filed under the name of the entity
when it is complete. So the events of a forest file, one after the other, the values that its entries have as JSON
(`sendAll_forest`), and an object in which all are filed is that of the entries grouped by name
(`fileAll_object`). An event is refused before anything is changed, and no event takes a record away (`step_cases`), so
the encoder appends one object for a balanced record and keeps its records whatever comes (`records_of_events`).
-/

namespace RecordFix

namespace Json

/-- The items of an array, or else the value itself. -/
def toList : Json → List Json
  | array items => items
  | j => [j]

/-- What a name holds that comes with these values: the value if it is a single one, and otherwise an array. The items
of the first stand in it on their own if it is an array, the others are one item each. -/
def gather : List Json → Json
  | [] => array []
  | [j] => j
  | j :: js => array (j.toList ++ js)

end Json

/-- The name that an entry is filed under, which is without the array marker for an entity. -/
def Entry.key : Entry → String
  | .literal name _ => name
  | .entity name _ => (unmarked? name).getD name

mutual

/-- What an entry is as JSON. -/
def Entry.json : Entry → Json
  | .literal _ text => .string text
  | .entity name entries =>
    if isMarked name then .array ((Forest.members entries).map (·.2))
    else .object (group Json.gather (Forest.members entries))

/-- The entries of a forest as members, one for each. -/
def Forest.members : Forest → List (String × Json)
  | [] => []
  | e :: es => (e.key, e.json) :: Forest.members es

end

theorem Forest.members_append (es fs : Forest) : Forest.members (es ++ fs) = es.members ++ fs.members := by
  induction es with
  | nil => rfl
  | cons e es ih => simp only [List.cons_append, Forest.members, ih]

namespace Json

/-- Files values in a container, one after the other. -/
def fileAll (container : Json) (ms : List (String × Json)) : Json := ms.foldl (fun c m => c.file m.1 m.2) container

private def join (i j : Json) : Json := array (i.toList ++ [j])

private theorem fileMember_eq_fileUnder (name : String) (j : Json) (ms : List (String × Json)) :
    fileMember name j ms = fileUnder join name j ms := by
  induction ms with
  | nil => rfl
  | cons m ms ih =>
    obtain ⟨k, i⟩ := m
    cases i <;> simp only [fileMember, fileUnder, ih, join, toList, List.singleton_append]

theorem gather_singleton (j : Json) : gather [j] = j := rfl

private theorem gather_concat (js : List Json) (j : Json) (h : js ≠ []) : gather (js ++ [j]) = join (gather js) j := by
  cases js with
  | nil => exact absurd rfl h
  | cons i js =>
    cases js with
    | nil => rfl
    | cons u js => simp [gather, join, toList]

/-- Members that are filed in an empty object are grouped. -/
theorem fileAll_object (ms : List (String × Json)) : fileAll (object []) ms = object (group gather ms) := by
  rw [← foldl_file gather_singleton gather_concat]
  unfold fileAll
  generalize ([] : List (String × Json)) = start
  induction ms generalizing start with
  | nil => rfl
  | cons m ms ih =>
    rw [List.foldl_cons, List.foldl_cons, ← fileMember_eq_fileUnder]
    exact ih _

theorem fileAll_array (ms : List (String × Json)) : fileAll (array []) ms = array (ms.map (·.2)) := by
  have key : ∀ start, fileAll (array start) ms = array (start ++ ms.map (·.2)) := by
    induction ms with
    | nil => intro start; rw [List.map_nil, List.append_nil]; rfl
    | cons m ms ih =>
      intro start
      show fileAll (array (start ++ [m.2])) ms = _
      rw [ih, List.map_cons, List.append_assoc, List.singleton_append]
  exact key []

end Json

namespace Encoder

theorem sendAll_cons {e : Event} {s t : Encoder} (h : receive e s = .ok t) (es : List Event) :
    Receiver.sendAll receive (e :: es) s = Receiver.sendAll receive es t := by
  rw [Receiver.sendAll, h]

/-- The complete container of an entity is what the entity is as JSON, under its key. -/
private theorem frame_fileAll (name : String) (entries : Forest) :
    (frame name).1 = (Entry.entity name entries).key ∧
      (frame name).2.fileAll entries.members = (Entry.entity name entries).json := by
  cases h : unmarked? name with
  | some stem =>
    simp only [frame, Entry.key, Entry.json, isMarked, h]
    exact ⟨rfl, Json.fileAll_array _⟩
  | none =>
    simp only [frame, Entry.key, Entry.json, isMarked, h]
    exact ⟨rfl, Json.fileAll_object _⟩

mutual

/-- An entry is filed in the innermost container. -/
theorem sendAll_entry : ∀ (e : Entry) (rest : List Event) (name : String) (container : Json)
    (frames : List (String × Json)) (records : Array Json),
    Receiver.sendAll receive (e.events ++ rest) ⟨(name, container) :: frames, records⟩ =
      Receiver.sendAll receive rest ⟨(name, container.file e.key e.json) :: frames, records⟩
  | .literal _ _, _, _, _, _, _ => sendAll_cons rfl _
  | .entity entity entries, rest, name, container, frames, records => by
    obtain ⟨hkey, hjson⟩ := frame_fileAll entity entries
    -- the entity has a frame of its own on top, which is filled and then filed in the one below
    rw [Entry.events, List.cons_append, List.append_assoc,
      sendAll_cons (t := ⟨frame entity :: (name, container) :: frames, records⟩) rfl,
      show frame entity = ((frame entity).1, (frame entity).2) from rfl, sendAll_forest entries, hkey, hjson]
    exact sendAll_cons rfl _

/-- The entries of a forest are filed in the innermost container, one after the other. -/
theorem sendAll_forest : ∀ (es : Forest) (rest : List Event) (name : String) (container : Json)
    (frames : List (String × Json)) (records : Array Json),
    Receiver.sendAll receive (es.events ++ rest) ⟨(name, container) :: frames, records⟩ =
      Receiver.sendAll receive rest ⟨(name, container.fileAll es.members) :: frames, records⟩
  | [], _, _, _, _, _ => rfl
  | e :: es, rest, name, container, frames, records => by
    rw [Forest.events, List.append_assoc, sendAll_entry e, sendAll_forest es]
    rfl

end

/-- A record whose events are those of a forest becomes the object that the forest is. -/
theorem sendAll_record (id : String) (forest : Forest) (rest : List Event) (s : Encoder) :
    Receiver.sendAll receive (.startRecord id :: (forest.events ++ .endRecord :: rest)) s =
      Receiver.sendAll receive rest ⟨[], s.records.push (.object (group Json.gather forest.members))⟩ := by
  rw [sendAll_cons (t := ⟨[("", .object [])], s.records⟩) rfl, sendAll_forest, Json.fileAll_object]
  exact sendAll_cons rfl _

/-! ### Any events -/

/-- An event is refused and changes nothing, or it is taken, and the records so far are kept. -/
theorem step_cases (s : Encoder) (e : Event) :
    s.step e = (.error .entitiesNotBalanced, s) ∨
      ∃ t, s.step e = (.ok (), t) ∧ s.records.toList <+: t.records.toList := by
  obtain ⟨frames, records⟩ := s
  cases e with
  | startRecord id => exact .inr ⟨_, rfl, List.prefix_rfl⟩
  | endRecord =>
    match frames with
    | [] => exact .inl rfl
    | [(name, j)] => exact .inr ⟨⟨[], records.push j⟩, rfl, by simp⟩
    | _ :: _ :: _ => exact .inl rfl
  | startEntity name =>
    match frames with
    | [] => exact .inl rfl
    | _ :: _ => exact .inr ⟨_, rfl, List.prefix_rfl⟩
  | endEntity =>
    match frames with
    | [] => exact .inl rfl
    | [_] => exact .inl rfl
    | _ :: _ :: _ => exact .inr ⟨_, rfl, List.prefix_rfl⟩
  | literal name value =>
    match frames with
    | [] => exact .inl rfl
    | _ :: _ => exact .inr ⟨_, rfl, List.prefix_rfl⟩
  | resetStream => exact .inr ⟨_, rfl, List.prefix_rfl⟩
  | closeStream => exact .inr ⟨_, rfl, List.prefix_rfl⟩

theorem step_of_receive {s t : Encoder} {e : Event} (h : receive e s = .ok t) : s.step e = (.ok (), t) := by
  rw [receive] at h
  rcases step_cases s e with hstep | ⟨u, hstep, -⟩
  · rw [hstep] at h
    cases h
  · rw [hstep] at h
    cases h
    exact hstep

/-- An encoder that is given all of some events, also those after a refused one. -/
def afterAll (s : Encoder) (es : List Event) : Encoder := es.foldl (fun s e => (s.step e).2) s

/-- The outcomes of events that an encoder is given, one for each. -/
def outcomes (s : Encoder) : List Event → List (Except StreamError Unit)
  | [] => []
  | e :: es => (s.step e).1 :: (s.step e).2.outcomes es

/-- Events of which none stops a receiver are all taken. -/
theorem outcomes_of_sendAll {s t : Encoder} {es : List Event} (h : Receiver.sendAll receive es s = (none, t)) :
    (∀ o ∈ s.outcomes es, o = .ok ()) ∧ s.afterAll es = t := by
  induction es generalizing s with
  | nil => exact ⟨nofun, (Prod.ext_iff.1 h).2⟩
  | cons e es ih =>
    cases hs : receive e s with
    | error cause =>
      rw [Receiver.sendAll, hs] at h
      cases h
    | ok u =>
      rw [sendAll_cons hs] at h
      obtain ⟨hrest, hafter⟩ := ih h
      have hstep : s.step e = (.ok (), u) := step_of_receive hs
      rw [outcomes, afterAll, List.foldl_cons, hstep]
      exact ⟨List.forall_mem_cons.2 ⟨rfl, hrest⟩, hafter⟩

theorem prefix_records_afterAll (s : Encoder) (es : List Event) :
    s.records.toList <+: (s.afterAll es).records.toList := by
  induction es generalizing s with
  | nil => exact List.prefix_rfl
  | cons e es ih =>
    have hstep : s.records.toList <+: (s.step e).2.records.toList := by
      rcases step_cases s e with hstep | ⟨t, hstep, hkept⟩
      · exact hstep ▸ List.prefix_rfl
      · exact hstep ▸ hkept
    exact hstep.trans (ih (s.step e).2)

/-- The events of a forest between the start and the end of a record are all taken, and append the object of its
entries grouped by name. Of any events, those that are refused change nothing, and the records so far stay. -/
theorem records_of_events :
    (∀ es : List Event, balanced 0 es = true ↔ ∃ forest : Forest, forest.events = es) ∧
      (∀ (s : Encoder) (id : String) (forest : Forest),
        (∀ o ∈ s.outcomes (.startRecord id :: (forest.events ++ [.endRecord])), o = .ok ()) ∧
          s.afterAll (.startRecord id :: (forest.events ++ [.endRecord])) =
            ⟨[], s.records.push (.object (group Json.gather forest.members))⟩) ∧
      (∀ (s t : Encoder) (e : Event) (cause : StreamError), s.step e = (.error cause, t) → t = s) ∧
      ∀ (s : Encoder) (es : List Event), s.records.toList <+: (s.afterAll es).records.toList := by
  refine ⟨balanced_iff_exists_forest, ?_, ?_, prefix_records_afterAll⟩
  · intro s id forest
    exact outcomes_of_sendAll (sendAll_record id forest [] s)
  · intro s t e cause h
    rcases step_cases s e with hstep | ⟨u, hstep, -⟩
    · rw [hstep] at h
      exact (Prod.ext_iff.1 h).2.symm
    · rw [hstep] at h
      cases h

end Encoder

/-- A stripped name meets a literal of that name, and a list that comes first takes the others in. -/
example : Forest.members [.entity "a[]" [.literal "1" "x"], .literal "b" "z", .literal "a" "y"] =
      [("a", .array [.string "x"]), ("b", .string "z"), ("a", .string "y")] ∧
    group Json.gather [("a", .array [.string "x"]), ("b", .string "z"), ("a", .string "y")] =
      [("a", .array [.string "x", .string "y"]), ("b", .string "z")] := by
  exact ⟨rfl, rfl⟩

end RecordFix
