import RecordFix.Proofs.Emission
import RecordFix.Proofs.Folding
import RecordFix.Proofs.Marker
import RecordFix.Proofs.Placed

/-!
# Sending fields and folding them again

What an entity is folded into depends on its name alone, and repeated names are folded into an array. So fields come
back only if their names fit their values (`Value.Canonical`): then the entries under a name stand together and are
what the value consists of (`Value.fields_entries`), the forest of the fields stands for the fields themselves
(`Hash.build_fieldEntries`), and folding the events of the fields gives them back (`Stage.feedAll_fieldEvents`).
-/

namespace RecordFix

namespace Value

/-! ### Values without origins -/

mutual

/-- The value with no origins. -/
def bare : Value → Value
  | string t _ => string t none
  | array items _ => array (bareItems items) none
  | hash fields _ => hash (bareFields fields) none

def bareItems : List Value → List Value
  | [] => []
  | v :: vs => bare v :: bareItems vs

def bareFields : List (String × Value) → List (String × Value)
  | [] => []
  | (k, v) :: fs => (k, bare v) :: bareFields fs

end

mutual

theorem rebase_bare (o : Option String) : ∀ v : Value, v.bare.rebase o = v.rebase o
  | string _ _ => rfl
  | array items _ => by simp only [bare, rebase, rebaseItems_bareItems o 1 items]
  | hash fields _ => by simp only [bare, rebase, rebaseFields_bareFields o fields]

theorem rebaseItems_bareItems (o : Option String) (i : Nat) :
    ∀ vs : List Value, rebaseItems o i (bareItems vs) = rebaseItems o i vs
  | [] => rfl
  | v :: vs => by simp only [bareItems, rebaseItems, rebase_bare _ v, rebaseItems_bareItems o (i + 1) vs]

theorem rebaseFields_bareFields (o : Option String) :
    ∀ fs : List (String × Value), rebaseFields o (bareFields fs) = rebaseFields o fs
  | [] => rfl
  | (k, v) :: fs => by simp only [bareFields, rebaseFields, rebase_bare _ v, rebaseFields_bareFields o fs]

end

mutual

@[simp] theorem bare_rebase (o : Option String) : ∀ v : Value, (v.rebase o).bare = v.bare
  | string _ _ => rfl
  | array items _ => by simp only [rebase, bare, bareItems_rebaseItems o 1 items]
  | hash fields _ => by simp only [rebase, bare, bareFields_rebaseFields o fields]

theorem bareItems_rebaseItems (o : Option String) (i : Nat) :
    ∀ vs : List Value, bareItems (rebaseItems o i vs) = bareItems vs
  | [] => rfl
  | v :: vs => by simp only [rebaseItems, bareItems, bare_rebase _ v, bareItems_rebaseItems o (i + 1) vs]

theorem bareFields_rebaseFields (o : Option String) :
    ∀ fs : List (String × Value), bareFields (rebaseFields o fs) = bareFields fs
  | [] => rfl
  | (k, v) :: fs => by simp only [rebaseFields, bareFields, bare_rebase _ v, bareFields_rebaseFields o fs]

end

theorem bareItems_eq_map (vs : List Value) : bareItems vs = vs.map bare := by
  induction vs with
  | nil => rfl
  | cons v vs ih => simp only [bareItems, List.map_cons, ih]

theorem bareFields_eq_map (fs : List (String × Value)) : bareFields fs = fs.map fun f => (f.1, f.2.bare) := by
  induction fs with
  | nil => rfl
  | cons f fs ih => simp only [bareFields, List.map_cons, ih]

theorem toList_bare {v : Value} (h : v.kind ≠ .array) : v.bare.toList = [v.bare] := by
  cases v with
  | array items o => exact absurd rfl h
  | string t o => rfl
  | hash fields o => rfl

/-! ### Names that fit values -/

variable {settings : Settings} {name : String} {v : Value} {fs : List (String × Value)}

/-- Whether a field of this name that is sent is folded into a value like its own. A hash needs a name without the
array marker, and an array one with it. If names are repeated for arrays, an array may go without the marker when it
has two items or more and none of them is an array. -/
def NameFits (settings : Settings) (name : String) : Value → Prop
  | string .. => True
  | hash .. => isMarked name = false
  | array items _ => isMarked name = true ∨
      settings.repeatedFieldsToEntities = false ∧ 2 ≤ items.length ∧ ∀ v ∈ items, v.kind ≠ .array

mutual

/-- Whether the names of all fields, at any depth, fit their values. -/
def Canonical (settings : Settings) : Value → Prop
  | string .. => True
  | array items _ => CanonicalItems settings items
  | hash fields _ => CanonicalFields settings fields

def CanonicalItems (settings : Settings) : List Value → Prop
  | [] => True
  | v :: vs => Canonical settings v ∧ CanonicalItems settings vs

def CanonicalFields (settings : Settings) : List (String × Value) → Prop
  | [] => True
  | (k, v) :: fs => NameFits settings k v ∧ Canonical settings v ∧ CanonicalFields settings fs

end

theorem CanonicalFields.nameFits (h : CanonicalFields settings fs) : ∀ f ∈ fs, NameFits settings f.1 f.2 := by
  induction fs with
  | nil => exact List.forall_mem_nil _
  | cons f fs ih => exact List.forall_mem_cons.2 ⟨h.1, ih h.2.2⟩

/-- The values that come under the name of a field: the items of an array without a marker, or the one value. -/
def sentAs (name : String) : Value → List Value
  | array items o => if isMarked name then [bare (array items o)] else bareItems items
  | v => [bare v]

theorem sentAs_of_marked (h : isMarked name = true) (v : Value) : sentAs name v = [v.bare] := by
  cases v with
  | array items o => simp only [sentAs, h, ↓reduceIte]
  | string t o => rfl
  | hash fields o => rfl

theorem sentAs_of_not_array (h : v.kind ≠ .array) : sentAs name v = [v.bare] := by
  cases v with
  | array items o => exact absurd rfl h
  | string t o => rfl
  | hash fields o => rfl

/-- What comes under a name that fits is gathered to the value. -/
theorem gather_sentAs (h : NameFits settings name v) : sentAs name v ≠ [] ∧ gather (sentAs name v) = v.bare := by
  by_cases hv : v.kind = .array
  · cases v with
    | array items o =>
      rcases h with hname | ⟨-, hlen, hitems⟩
      · rw [sentAs_of_marked hname]
        exact ⟨by simp, gather_singleton _⟩
      · cases hm : isMarked name with
        | true =>
          rw [sentAs_of_marked hm]
          exact ⟨by simp, gather_singleton _⟩
        | false =>
          -- the first of two or more items stands for itself, since it is no array
          rcases items with - | ⟨a, - | ⟨b, items⟩⟩
          · simp at hlen
          · simp at hlen
          · have ha := toList_bare (hitems a (by simp))
            simp [sentAs, hm, bareItems, gather, ha, bare]
    | string t o => cases hv
    | hash fields o => cases hv
  · rw [sentAs_of_not_array hv]
    exact ⟨by simp, gather_singleton _⟩

/-- Fields with names that fit, each spread over what comes under its name, are grouped to themselves. -/
theorem group_sentAs (hnd : (fs.map (·.1)).Nodup) (h : CanonicalFields settings fs) :
    group gather ((fs.map fun f => (f.1, sentAs f.1 f.2)).flatMap spread) = bareFields fs := by
  have hfits := h.nameFits
  rw [group_flatMap_spread, List.map_map, bareFields_eq_map]
  · apply List.map_congr_left
    intro f hf
    simp only [Function.comp_apply, (gather_sentAs (hfits f hf)).2]
  · simpa [Function.comp_def] using hnd
  · intro b hb
    obtain ⟨f, hf, rfl⟩ := List.mem_map.1 hb
    exact (gather_sentAs (hfits f hf)).1

/-! ### Entries -/

mutual

/-- The entries of a value under a name that fits are what comes under the name. -/
theorem fields_entries (hmember : isMarked settings.memberTemplate = false) :
    ∀ (name : String) (v : Value), NameFits settings name v → v.Canonical settings → v.Distinct →
      Forest.fields (v.entries settings name) = spread (name, sentAs name v)
  | _, string _ _, _, _, _ => rfl
  | name, hash fields _, hfits, hc, hd => by
    have hfields := fields_fieldEntries hmember fields hc hd.2
    have hname : isMarked name = false := hfits
    simp only [entries, Forest.fields, Entry.name, Entry.value, hname, Bool.false_eq_true, ↓reduceIte, hfields,
      group_sentAs hd.1 hc]
    rfl
  | name, array items _, hfits, hc, hd => by
    cases hname : isMarked name with
    | true =>
      have hitems := fields_memberEntries hmember 0 items hc hd
      simp only [entries, hname, Bool.not_true, Bool.false_and, Bool.false_eq_true, ↓reduceIte, Forest.fields,
        Entry.name, Entry.value, hitems, sentAs]
      rfl
    | false =>
      rcases hfits with hmarked | ⟨hrepeated, -, harrays⟩
      · rw [hname] at hmarked
        cases hmarked
      · have hitems := fields_repeatedEntries hmember hname items harrays hc hd
        simp only [entries, hname, hrepeated, Bool.not_false, Bool.and_self, ↓reduceIte, hitems, sentAs,
          Bool.false_eq_true]

theorem fields_fieldEntries (hmember : isMarked settings.memberTemplate = false) :
    ∀ fs : List (String × Value), CanonicalFields settings fs → DistinctFields fs →
      Forest.fields (fieldEntries settings fs) = (fs.map fun f => (f.1, sentAs f.1 f.2)).flatMap spread
  | [], _, _ => rfl
  | (k, v) :: fs, hc, hd => by
    rw [fieldEntries, Forest.fields_append, fields_entries hmember k v hc.1 hc.2.1 hd.1,
      fields_fieldEntries hmember fs hc.2.2 hd.2]
    rfl

theorem fields_repeatedEntries (hmember : isMarked settings.memberTemplate = false) {name : String}
    (hname : isMarked name = false) :
    ∀ vs : List Value, (∀ v ∈ vs, v.kind ≠ .array) → CanonicalItems settings vs → DistinctItems vs →
      Forest.fields (repeatedEntries settings name vs) = spread (name, bareItems vs)
  | [], _, _, _ => rfl
  | v :: vs, hk, hc, hd => by
    rw [List.forall_mem_cons] at hk
    have hfits : NameFits settings name v := by
      cases v with
      | array items o => exact absurd rfl hk.1
      | string t o => trivial
      | hash fields o => exact hname
    rw [repeatedEntries, Forest.fields_append, fields_entries hmember name v hfits hc.1 hd.1,
      fields_repeatedEntries hmember hname vs hk.2 hc.2 hd.2, sentAs_of_not_array hk.1]
    rfl

theorem fields_memberEntries (hmember : isMarked settings.memberTemplate = false) (position : Nat) :
    ∀ vs : List Value, CanonicalItems settings vs → DistinctItems vs →
      (Forest.fields (memberEntries settings position vs)).map (·.2) = bareItems vs
  | [], _, _ => rfl
  | v :: vs, hc, hd => by
    have hrest := fields_memberEntries hmember (position + 1) vs hc.2 hd.2
    -- members that are arrays get a marker, and the others have none
    have hname := isMarked_memberName hmember position
    have hfits : NameFits settings
        (if v.kind = .array then settings.memberName position ++ arrayMarker else settings.memberName position) v := by
      cases v with
      | array items o => exact Or.inl (isMarked_append _)
      | string t o => trivial
      | hash fields o => exact hname
    have hsent : sentAs
        (if v.kind = .array then settings.memberName position ++ arrayMarker else settings.memberName position) v =
        [v.bare] := by
      by_cases hv : v.kind = .array
      · rw [if_pos hv]
        exact sentAs_of_marked (isMarked_append _) v
      · exact sentAs_of_not_array hv
    rw [memberEntries, Forest.fields_append, List.map_append, fields_entries hmember _ v hfits hc.1 hd.1, hrest, hsent]
    rfl

end

end Value

variable {settings : Settings}

/-- The forest that canonical fields are sent as stands for these fields. -/
theorem Hash.build_fieldEntries (hmember : isMarked settings.memberTemplate = false) {h : Hash}
    (hd : h.toValue.Distinct) (hc : h.toValue.Canonical settings) :
    (Value.fieldEntries settings h.fields).build = h.rebase none := by
  rw [Forest.build, Value.fields_fieldEntries hmember h.fields hc hd.2, Value.group_sentAs hd.1 hc]
  simp only [Hash.rebase, Value.rebaseFields_bareFields]

/-- A stage that gets the start of a record and the events of fields holds these fields afterwards, with the origins
of their places in a record. This is so of all fields whose names are distinct and fit their values, if the names of
members have no array marker. -/
theorem Stage.feedAll_fieldEvents {σ : Type} (receive : Receiver σ) (s : Stage) (id : String) (r : σ)
    (hmember : isMarked settings.memberTemplate = false) {h : Hash} (hd : h.toValue.Distinct)
    (hc : h.toValue.Canonical settings) :
    ∃ t : Stage, feedAll receive (.startRecord id :: Value.fieldEvents settings h.fields) s r = (none, t, r) ∧
      t.builder.record.fields = h.rebase none ∧ t.builder.openEntities = [] := by
  have hfed : feedAll receive (.startRecord id :: ((Value.fieldEntries settings h.fields).events ++ [])) s r = _ :=
    feedAll_start_forest s id _ [] r
  rw [List.append_nil, Value.events_fieldEntries] at hfed
  refine ⟨{ s with builder := (Builder.start id).withFields (Value.fieldEntries settings h.fields).build }, ?_,
    Hash.build_fieldEntries hmember hd hc, rfl⟩
  rw [hfed]
  rfl

/-- An array in an array and a hash among repeated fields come back. -/
theorem Stage.feedAll_fieldEvents_nested :
    ∃ t : Stage, feedAll Receiver.collector
        [.startRecord "1", .startEntity "a[]", .startEntity "m1[]", .literal "m1" "x", .endEntity, .startEntity "m2",
          .literal "b" "y", .endEntity, .endEntity, .literal "c" "z", .startEntity "c", .endEntity] {} #[] =
          (none, t, #[]) ∧
      t.builder.record.fields = Hash.rebase
        ⟨[("a[]", .array [.array [.ofString "x"] none, .hash [("b", .ofString "y")] none] none),
          ("c", .array [.ofString "z", .hash [] none] none)], none⟩ none ∧
      t.builder.openEntities = [] := by
  let settings : Settings := { repeatedFieldsToEntities := false, memberTemplate := "m%d" }
  let fields : List (String × Value) :=
    [("a[]", .array [.array [.ofString "x"] none, .hash [("b", .ofString "y")] none] none),
      ("c", .array [.ofString "z", .hash [] none] none)]
  have hmember : isMarked settings.memberTemplate = false := by decide
  have hd : (⟨fields, none⟩ : Hash).toValue.Distinct :=
    ⟨by decide, ⟨⟨trivial, trivial⟩, ⟨by decide, trivial, trivial⟩, trivial⟩, ⟨trivial, ⟨by decide, trivial⟩, trivial⟩,
      trivial⟩
  have hc : (⟨fields, none⟩ : Hash).toValue.Canonical settings :=
    ⟨.inl (by decide), ⟨⟨trivial, trivial⟩, ⟨trivial, trivial, trivial⟩, trivial⟩,
      .inr ⟨rfl, by decide, by simp [Value.ofString, Value.kind]⟩, ⟨trivial, trivial, trivial⟩, trivial⟩
  have hsent : Value.fieldEvents settings fields =
      [.startEntity "a[]", .startEntity "m1[]", .literal "m1" "x", .endEntity, .startEntity "m2",
        .literal "b" "y", .endEntity, .endEntity, .literal "c" "z", .startEntity "c", .endEntity] := by
    decide
  have hfed := Stage.feedAll_fieldEvents Receiver.collector {} "1" #[] hmember hd hc
  rw [hsent] at hfed
  exact hfed

end RecordFix
