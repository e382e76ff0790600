import RecordFix.Proofs.Decoding
import RecordFix.Proofs.Emission
import RecordFix.Proofs.Encoding
import RecordFix.Proofs.Folding
import RecordFix.Transformation

/-!
# Transforming with an empty fix

What a transformation without expressions makes of a record is its normal form: nulls are gone, and numbers and
booleans are texts (`members_entries`). The array markers that are added when a record is read come back when it is
sent, at each level of nested arrays, and are taken away when it is encoded.
-/

namespace RecordFix

namespace Json

/-! ### Normal forms -/

mutual

/-- A value without nulls, in which numbers and booleans are texts. -/
def normalize? : Json → Option Json
  | object members => some (object (normalizeMembers members))
  | array items => some (array (normalizeItems items))
  | null => none
  | string s => some (string s)
  | number n => some (string (numberText n))
  | bool b => some (string (if b then "true" else "false"))

def normalizeMembers : List (String × Json) → List (String × Json)
  | [] => []
  | (k, j) :: ms => ((normalize? j).map fun i => (k, i)).toList ++ normalizeMembers ms

def normalizeItems : List Json → List Json
  | [] => []
  | j :: js => (normalize? j).toList ++ normalizeItems js

end

theorem keys_normalizeMembers (ms : List (String × Json)) :
    ((normalizeMembers ms).map (·.1)).Sublist (ms.map (·.1)) := by
  induction ms with
  | nil => exact List.Sublist.refl _
  | cons m ms ih =>
    obtain ⟨k, j⟩ := m
    rw [normalizeMembers, List.map_append, List.map_cons]
    cases normalize? j with
    | none => exact ih.cons _
    | some i => exact ih.cons_cons _

private theorem normalize?_of_value?_none : ∀ {j : Json}, value? j = none → normalize? j = none
  | null, _ => rfl

variable {settings : Settings}

mutual

/-- What is sent of a value that was read under a name is its normal form. -/
theorem members_entries (hmember : isMarked settings.memberTemplate = false) {name : String}
    (hname : isMarked name = false) :
    ∀ (j : Json) {v : Value}, j.AllKeys PlainKeys → value? j = some v →
      ∃ i, normalize? j = some i ∧ Forest.members (v.entries settings (v.fieldName name)) = [(name, i)]
  | object members, v, h, hv => by
    cases hv
    have hmembers := members_fieldEntries hmember members h.2 h.1.2
    -- the keys that are left are distinct too, so grouping does nothing
    have hnodup := (keys_normalizeMembers members).nodup h.1.1
    refine ⟨_, rfl, ?_⟩
    simp only [Value.fieldName, Value.kind, reduceCtorEq, ↓reduceIte, Value.entries, Forest.members, Entry.key,
      Entry.json, hname, Bool.false_eq_true, hmembers, unmarked?_getD_of_not hname,
      group_of_nodup gather_singleton hnodup]
  | array items, v, h, hv => by
    cases hv
    have hitems := members_memberEntries hmember 0 items h
    refine ⟨_, rfl, ?_⟩
    -- a marked name makes an entity of the array whatever the settings are, and the encoder takes the mark away
    simp only [Value.fieldName, Value.kind, ↓reduceIte, Value.entries, isMarked_append, Bool.not_true,
      Bool.false_and, Bool.false_eq_true, Forest.members, Entry.key, Entry.json, hitems, unmarked?_getD_append]
  | null, _, _, hv => nomatch hv
  | string _, _, _, hv => by
    cases hv
    exact ⟨_, rfl, rfl⟩
  | number _, _, _, hv => by
    cases hv
    exact ⟨_, rfl, rfl⟩
  | bool _, _, _, hv => by
    cases hv
    exact ⟨_, rfl, rfl⟩

theorem members_fieldEntries (hmember : isMarked settings.memberTemplate = false) :
    ∀ ms : List (String × Json), AllKeysMembers PlainKeys ms → (∀ k ∈ ms.map (·.1), isMarked k = false) →
      Forest.members (Value.fieldEntries settings (fieldValues ms)) = normalizeMembers ms
  | [], _, _ => rfl
  | (k, j) :: ms, h, hk => by
    rw [List.map_cons, List.forall_mem_cons] at hk
    have hms := members_fieldEntries hmember ms h.2 hk.2
    rw [fieldValues, normalizeMembers]
    cases hv : value? j with
    | none =>
      rw [normalize?_of_value?_none hv]
      exact hms
    | some v =>
      obtain ⟨i, hi, hsent⟩ := members_entries hmember hk.1 j h.1 hv
      rw [hi]
      show Forest.members (v.entries settings (v.fieldName k) ++ Value.fieldEntries settings (fieldValues ms)) = _
      rw [Forest.members_append, hsent, hms]
      rfl

theorem members_memberEntries (hmember : isMarked settings.memberTemplate = false) (position : Nat) :
    ∀ js : List Json, AllKeysItems PlainKeys js →
      (Forest.members (Value.memberEntries settings position (itemValues js))).map (·.2) = normalizeItems js
  | [], _ => rfl
  | j :: js, h => by
    rw [itemValues, normalizeItems]
    cases hv : value? j with
    | none =>
      rw [normalize?_of_value?_none hv]
      exact members_memberEntries hmember position js h.2
    | some v =>
      obtain ⟨i, hi, hsent⟩ := members_entries hmember (isMarked_memberName hmember position) j h.1 hv
      rw [hi]
      show (Forest.members (v.entries settings (v.fieldName (settings.memberName position)) ++
        Value.memberEntries settings (position + 1) (itemValues js))).map (·.2) = _
      rw [Forest.members_append, List.map_append, hsent, members_memberEntries hmember (position + 1) js h.2]
      rfl

end

end Json

/-! ### Stages without expressions -/

namespace Stage

variable {s : Stage} {σ : Type}

/-- Without expressions the end of a record sends the fields that were built. -/
theorem step_endRecord_empty (hfix : s.fix.expressions = []) (hopen : s.builder.openEntities = [])
    (hkept : s.builder.record.rejected = false) :
    s.step .endRecord = (.ok (s.builder.record.fields.recordEvents s.settings s.builder.id), s) := by
  obtain ⟨fix, registry, settings, env, record, id, openEntities⟩ := s
  cases hopen
  have hrun : (runExpressions registry settings.strictness []).run ⟨record, env⟩ = (.ok (), ⟨record, env⟩) := rfl
  simp only at hfix hkept
  simp only [step, finishRecord, hfix, hrun, hkept, Bool.false_eq_true, ↓reduceIte]

theorem feedAll_sent {receive : Receiver σ} {t : Stage} {e : Event} {sent : List Event} {r r' : σ}
    (h : s.step e = (.ok sent, t)) (hsent : receive.sendAll sent r = (none, r')) (es : List Event) :
    feedAll receive (e :: es) s r = feedAll receive es t r' := by
  simp only [feedAll, feed, h, hsent]

variable (hmember : isMarked s.settings.memberTemplate = false) (hfix : s.fix.expressions = [])

include hmember hfix

/-- An object comes out of a stage without expressions in its normal form. -/
theorem feedAll_recordEvents {ms : List (String × Json)} (hkeys : (Json.object ms).AllKeys Json.PlainKeys)
    (d : Decoder) (rest : List Event) (r : Encoder) :
    ∃ b : Builder, feedAll Encoder.receive (d.recordEvents ms ++ rest) s r =
      feedAll Encoder.receive rest { s with builder := b }
        ⟨[], r.records.push (.object (Json.normalizeMembers ms))⟩ := by
  let b := (Builder.start (d.nextId ms)).withFields (Json.memberEntries ms).build
  let t : Stage := { s with builder := b }
  have hread : feedAll Encoder.receive (d.recordEvents ms ++ rest) s r =
      feedAll Encoder.receive (.endRecord :: rest) t r := by
    rw [Decoder.recordEvents, List.cons_append, List.append_assoc, ← Json.events_memberEntries,
      feedAll_start_forest]
    rfl
  have hstep : t.step .endRecord = (.ok (b.record.fields.recordEvents s.settings b.id), t) :=
    step_endRecord_empty hfix rfl rfl
  have hsent : Receiver.sendAll Encoder.receive (b.record.fields.recordEvents s.settings b.id) r =
      (none, ⟨[], r.records.push (.object (Json.normalizeMembers ms))⟩) := by
    show Receiver.sendAll Encoder.receive ((Json.memberEntries ms).build.recordEvents s.settings b.id) r = _
    have hnodup := (Json.keys_normalizeMembers ms).nodup hkeys.1.1
    rw [Json.build_memberEntries hkeys, Hash.recordEvents_rebase, Encoder.sendAll_record,
      Json.members_fieldEntries hmember ms hkeys.2 hkeys.1.2, group_of_nodup Json.gather_singleton hnodup]
    rfl
  exact ⟨b, hread.trans (feedAll_sent hstep hsent rest)⟩

/-- Objects come out of a stage without expressions in their normal forms, in order. -/
theorem feedAll_decodeItems {objects : List (List (String × Json))}
    (hkeys : Json.AllKeysItems Json.PlainKeys (objects.map .object)) (d : Decoder) (r : Encoder) :
    (d.decodeItems (objects.map .object)).failure = none ∧
      ∃ (b : Builder) (r' : Encoder),
        feedAll Encoder.receive (d.decodeItems (objects.map .object)).events s r =
          (none, { s with builder := b }, r') ∧
        r'.records.toList = r.records.toList ++ objects.map fun ms => .object (Json.normalizeMembers ms) := by
  induction objects generalizing s d r with
  | nil => exact ⟨rfl, s.builder, r, rfl, (List.append_nil _).symm⟩
  | cons ms objects ih =>
    let d' : Decoder := { d with count := d.count + 1 }
    obtain ⟨b, hfed⟩ := feedAll_recordEvents hmember hfix hkeys.1 d (d'.decodeItems (objects.map .object)).events r
    obtain ⟨hfail, b', r', hrest, hrecords⟩ := ih (s := { s with builder := b }) hmember hfix hkeys.2 d'
      ⟨[], r.records.push (.object (Json.normalizeMembers ms))⟩
    refine ⟨hfail, b', r', hfed.trans hrest, ?_⟩
    rw [hrecords, Array.toList_push, List.append_assoc]
    rfl

end Stage

/-- A transformation with an empty fix succeeds on an object and on an array of objects. Its records are their normal
forms in the order of the input, and none is rejected. That no key is repeated in an object is so of all that is read
(`Json.allKeys_distinct`); only marked keys and a marked template for the names of members are excluded. -/
theorem transformJson_empty_fix (files : Files) (path : Option String) {settings : Settings}
    (hmember : isMarked settings.memberTemplate = false) {input : Json} {objects : List (List (String × Json))}
    (hinput : input = .array (objects.map .object) ∨ ∃ ms, objects = [ms] ∧ input = .object ms)
    (hdistinct : input.AllKeys List.Nodup) (hunmarked : input.AllKeys fun keys => ∀ k ∈ keys, isMarked k = false) :
    transformJson files ⟨⟨[]⟩, path⟩ settings input = .ok
      { records := objects.map fun ms => .object (Json.normalizeMembers ms)
        inputCount := objects.length
        emittedCount := objects.length
        rejectedCount := 0 } := by
  have hplain : input.AllKeys Json.PlainKeys := hdistinct.and hunmarked
  have hkeys : Json.AllKeysItems Json.PlainKeys (objects.map .object) := by
    rcases hinput with rfl | ⟨ms, rfl, rfl⟩
    · exact hplain
    · exact ⟨hplain, trivial⟩
  have hcount : recordCount input = .ok objects.length := by
    rcases hinput with rfl | ⟨ms, rfl, rfl⟩
    · simp only [recordCount, List.length_map]
    · rfl
  have hdecode : ∀ d : Decoder, d.decode input = d.decodeItems (objects.map .object) := by
    intro d
    rcases hinput with rfl | ⟨ms, rfl, rfl⟩ <;> rfl
  obtain ⟨hfail, b, r, hfed, hrecords⟩ := Stage.feedAll_decodeItems (s := Stage.start ⟨[]⟩ settings files path)
    hmember rfl hkeys { idField := settings.idField } {}
  have hrun : runInto Encoder.receive {} files ⟨⟨[]⟩, path⟩ settings input = .ok r := by
    simp only [runInto, hcount, hdecode, hfed, hfail]
    rfl
  have hlen : r.records.toList.length = objects.length := by
    rw [hrecords, List.nil_append, List.length_map]
  rw [transformJson, hcount, hrun]
  show Except.ok (⟨r.records.toList, objects.length, r.records.toList.length,
    objects.length - r.records.toList.length, none⟩ : Transformed) = _
  rw [hlen, Nat.sub_self, hrecords]
  rfl

/-- Arrays in arrays, empty containers and nulls come back where arrays without a marker would be repeated fields. -/
theorem transformJson_empty_fix_nested :
    transformJson Files.empty ⟨⟨[]⟩, none⟩ { repeatedFieldsToEntities := false }
        (.array [.object [("a", .array [.array [.null, .bool true], .array []]), ("b", .object []), ("c", .null)],
          .object []]) = .ok
      { records := [.object [("a", .array [.array [.string "true"], .array []]), ("b", .object [])], .object []]
        inputCount := 2
        emittedCount := 2
        rejectedCount := 0 } := by
  let objects : List (List (String × Json)) :=
    [[("a", .array [.array [.null, .bool true], .array []]), ("b", .object []), ("c", .null)], []]
  have hinput : Json.array [.object [("a", .array [.array [.null, .bool true], .array []]), ("b", .object []),
      ("c", .null)], .object []] = .array (objects.map .object) := rfl
  have hunmarked : ∀ k ∈ ["a", "b", "c"], isMarked k = false := by decide
  exact transformJson_empty_fix Files.empty none (by decide) (.inl hinput)
    ⟨⟨by decide, ⟨⟨trivial, trivial, trivial⟩, trivial, trivial⟩, ⟨by decide, trivial⟩, trivial, trivial⟩,
      ⟨by decide, trivial⟩, trivial⟩
    ⟨⟨hunmarked, ⟨⟨trivial, trivial, trivial⟩, trivial, trivial⟩, ⟨by decide, trivial⟩, trivial, trivial⟩,
      ⟨by decide, trivial⟩, trivial⟩

end RecordFix
