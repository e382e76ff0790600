import RecordFix.Proofs.Inserting
import RecordFix.Proofs.PathText
import RecordFix.Proofs.SlotSteps

/-!
# Places that a field leads to

A path of plain names and 1-based indices leads to one node if each name is looked up in a hash and each index in an
array (`Value.Leads`), and so does the exact name of a field of a record (`Record.Leads`). There a lookup and a slot are
the same place: the lookup gives the node (`Record.Leads.get`), the slot holds it (`Record.Leads.slot?`), and filling
the slot puts another node in its place (`Record.Leads.fillSlot`), to which the field leads then
(`Record.Leads.replaced`).
-/

namespace RecordFix

/-- An index is a plain segment. -/
theorem isPlain_of_parseIndex? {segment : String} {n : Nat} (h : parseIndex? segment = some n) : IsPlain segment := by
  have hdigits : ∀ c ∈ segment.toList, (Text.digitValue? c).isSome = true := by
    unfold parseIndex? at h
    dsimp only at h
    split at h
    · cases h
    · rename_i hall
      rw [Bool.or_eq_true, not_or, Bool.not_eq_true', Bool.not_eq_false] at hall
      exact List.all_eq_true.1 hall.2
  refine ⟨?_, marker_of_parseIndex? h, ?_⟩
  · rintro rfl
    exact Option.some_ne_none n (h.symm.trans (by decide))
  · -- no character of glob syntax is a digit
    have hsub : ∀ c ∈ Glob.withoutMarker segment.toList, c ∈ segment.toList := by
      intro c hc
      unfold Glob.withoutMarker at hc
      split at hc
      · rename_i rest hrest
        rw [← List.mem_reverse, hrest]
        exact List.mem_cons_of_mem _ (List.mem_cons_of_mem _ (List.mem_reverse.1 hc))
      · exact hc
    have hno : ∀ c, (Text.digitValue? c).isSome = false → c ∉ Glob.withoutMarker segment.toList := by
      intro c hc hmem
      rw [hdigits c (hsub c hmem)] at hc
      cases hc
    rw [Glob.isPattern, Bool.or_eq_false_iff, Bool.and_eq_false_iff]
    constructor
    · rw [List.any_eq_false]
      intro c hc hglob
      rw [Bool.or_eq_true, Bool.or_eq_true, beq_iff_eq, beq_iff_eq, beq_iff_eq] at hglob
      rcases hglob with (rfl | rfl) | rfl
      · exact hno '*' (by decide) hc
      · exact hno '?' (by decide) hc
      · exact hno '|' (by decide) hc
    · exact Or.inl (by simpa using hno '[' (by decide))

namespace ItemChoice

variable {segment : String} {size i : Nat} {m : Marker}

theorem ofSegment_of_index (h : parseIndex? segment = some (i + 1)) : ofSegment size segment = .position i := by
  have hw : (segment == wildcard) = false := by simpa using (isPlain_of_parseIndex? h).wildcard
  simp only [ofSegment, hw, marker_of_parseIndex? h, h, Bool.false_eq_true, ↓reduceIte]

/-- In an array that is not empty a marker addresses the first or the last item. -/
theorem ofSegment_of_marker (h : Marker.ofSegment? segment = some m) (happend : m ≠ .append) (hsize : size ≠ 0) :
    ofSegment size segment = .position (m.itemPosition size) := by
  have hw : (segment == wildcard) = false := by
    rw [beq_eq_false_iff_ne]
    rintro rfl
    exact absurd h (by cases m <;> decide)
  unfold Marker.itemPosition
  cases m with
  | append => exact absurd rfl happend
  | first => simp only [ofSegment, hw, h, Bool.false_eq_true, ↓reduceIte]
  | last =>
    simp only [ofSegment, hw, h, hsize, Bool.false_eq_true, ↓reduceIte]
    rfl

end ItemChoice

namespace Value

variable {path : Path} {steps : List Step} {t v : Value}

/-- Whether a path leads by these steps to a node below a value: each of its plain names is looked up in a hash, and
each of its 1-based indices in an array. -/
inductive Leads : Path → List Step → Value → Value → Prop
  | here (v : Value) : Leads [] [] v v
  | field {segment : String} {rest : Path} {steps : List Step} {fields : List (String × Value)} {o : Option String}
      {child v : Value} (plain : IsPlain segment) (found : fields.lookup segment = some child)
      (below : Leads rest steps child v) : Leads (segment :: rest) (.field segment :: steps) (hash fields o) v
  | item {segment : String} {rest : Path} {steps : List Step} {items : List Value} {o : Option String} {i : Nat}
      {child v : Value} (index : parseIndex? segment = some (i + 1)) (found : items[i]? = some child)
      (below : Leads rest steps child v) : Leads (segment :: rest) (.item i :: steps) (array items o) v

namespace Leads

theorem plain (h : Leads path steps t v) : ∀ s ∈ path, IsPlain s := by
  induction h with
  | here v => exact List.forall_mem_nil _
  | field hplain _ _ ih => exact List.forall_mem_cons.2 ⟨hplain, ih⟩
  | item hindex _ _ ih => exact List.forall_mem_cons.2 ⟨isPlain_of_parseIndex? hindex, ih⟩

/-- A path of plain names and indices comes to a slot. -/
theorem reaches (h : Leads path steps t v) : Reaches path steps t v := by
  induction h with
  | here v => exact .here v
  | field _ hfound _ ih => exact .field hfound ih
  | item hindex hfound _ ih =>
    obtain ⟨hlt, -⟩ := List.getElem?_eq_some_iff.1 hfound
    exact .item (slotPosition?_eq_some_iff.2 ⟨ItemChoice.ofSegment_of_index hindex, hlt⟩) hfound ih

theorem plain_steps (h : Leads path steps t v) : PlainSteps steps := by
  induction h with
  | here v => exact plainSteps_nil
  | field hplain _ _ ih => exact plainSteps_field.2 ⟨hplain, ih⟩
  | item _ _ _ ih => exact plainSteps_item.2 ih

theorem steps_ne_nil (h : Leads path steps t v) (hne : path ≠ []) : steps ≠ [] := h.reaches.steps_ne_nil hne

theorem nodeAt? (h : Leads path steps t v) : t.nodeAt? steps = some v := h.reaches.nodeAt?

theorem slot? (h : Leads path steps t v) : t.slot? path = some v := h.reaches.slot?

theorem fillSlot (h : Leads path steps t v) (w : Value) : fillSlot w path t = replaceAt w steps t :=
  h.reaches.fillSlot w

/-- After a node is put in the place, the path leads to it. -/
theorem replaced (h : Leads path steps t v) (w : Value) : Leads path steps (replaceAt w steps t) w := by
  induction h with
  | here v => exact .here w
  | field hplain hfound _ ih =>
    rw [replaceAt, hfound]
    exact .field hplain Hash.lookup_putEntry_self ih
  | @item segment rest steps items o i child v hindex hfound _ ih =>
    obtain ⟨hlt, -⟩ := List.getElem?_eq_some_iff.1 hfound
    rw [replaceAt, hfound]
    exact .item hindex (by rw [List.getElem?_set_self hlt]) ih

/-- A path that goes on beyond the place finds what the rest of it finds below the node that is put there. -/
theorem findIn_replaceAt_append (h : Leads path steps t v) (hd : t.Distinct) (w : Value) {q : Path}
    (hw : q = [] ∨ w.isString = false) : (replaceAt w steps t).findIn (path ++ q) = w.findIn q :=
  h.reaches.findIn_replaceAt_append hd h.plain_steps w hw

/-- The node that is put in the place is found there. -/
theorem findIn_replaceAt (h : Leads path steps t v) (hd : t.Distinct) (w : Value) :
    (replaceAt w steps t).findIn path = .ok (some w) :=
  h.reaches.findIn_replaceAt hd h.plain_steps w

theorem findIn (h : Leads path steps t v) (hd : t.Distinct) : t.findIn path = .ok (some v) :=
  h.reaches.findIn hd h.plain_steps

end Leads

end Value

/-! ### Records -/

namespace Hash

/-- Puts a node in the place of the one that some steps lead to. -/
def replaceAt (w : Value) (steps : List Step) (h : Hash) : Hash :=
  match Value.replaceAt w steps h.toValue with
  | .hash fields origin => ⟨fields, origin⟩
  | _ => h

variable {h : Hash} {steps : List Step} {v w u : Value}

theorem toValue_replaceAt (hne : steps ≠ []) : (h.replaceAt w steps).toValue = Value.replaceAt w steps h.toValue := by
  have hhash : ∃ fields o, Value.replaceAt w steps h.toValue = .hash fields o :=
    Value.exists_replaceAt_hash fun hnil => absurd hnil hne
  obtain ⟨fields, o, hhash⟩ := hhash
  rw [replaceAt, hhash]
  rfl

theorem replaceAt_replaceAt (hne : steps ≠ []) (hnode : h.toValue.nodeAt? steps = some v) :
    (h.replaceAt u steps).replaceAt w steps = h.replaceAt w steps := by
  apply toValue_injective
  rw [toValue_replaceAt hne, toValue_replaceAt hne, toValue_replaceAt hne, Value.replaceAt_replaceAt hnode]

theorem replaceAt_self (hne : steps ≠ []) (hnode : h.toValue.nodeAt? steps = some v) : h.replaceAt v steps = h := by
  apply toValue_injective
  rw [toValue_replaceAt hne, Value.replaceAt_self hnode]

/-- Below a field of another name a replacement leaves a field alone. -/
theorem get?_replaceAt_of_ne {name field : String} (hne : field ≠ name) :
    (h.replaceAt w (.field name :: steps)).get? field = h.get? field := by
  cases hl : h.fields.lookup name with
  | none =>
    have hsame : Value.replaceAt w (.field name :: steps) h.toValue = h.toValue := by
      simp only [Value.replaceAt, toValue, hl]
    rw [replaceAt, hsame]
    rfl
  | some child =>
    have hput : Value.replaceAt w (.field name :: steps) h.toValue =
        .hash (putEntry name (Value.replaceAt w steps child) h.fields) h.origin := by
      simp only [Value.replaceAt, toValue, hl]
    rw [replaceAt, hput]
    exact lookup_putEntry_of_ne hne

end Hash

namespace Record

/-- Whether a field leads by these steps to a node of a record: as the exact name of a field, or else as a path of plain
names and 1-based indices. -/
inductive Leads (r : Record) (field : String) : List Step → Value → Prop
  | name {v : Value} (found : r.fields.get? field = some v) : Leads r field [.field field] v
  | path {steps : List Step} {v : Value} (noName : r.fields.get? field = none)
      (below : Value.Leads (Path.ofText field) steps r.fields.toValue v) : Leads r field steps v

/-- The record with a node in the place of the one that some steps lead to. -/
def replaceAt (w : Value) (steps : List Step) (r : Record) : Record :=
  { r with fields := r.fields.replaceAt w steps }

variable {r : Record} {field : String} {steps : List Step} {v w u : Value}

namespace Leads

theorem steps_ne_nil (h : r.Leads field steps v) : steps ≠ [] := by
  cases h with
  | name => exact List.cons_ne_nil _ _
  | path _ hbelow => exact hbelow.steps_ne_nil (Path.ofText_ne_nil field)

theorem nodeAt? (h : r.Leads field steps v) : r.fields.toValue.nodeAt? steps = some v := by
  cases h with
  | name hfound =>
    have hlookup : r.fields.fields.lookup field = some v := hfound
    rw [Hash.toValue, Value.nodeAt?, hlookup, Option.bind_some, Value.nodeAt?]
  | path _ hbelow => exact hbelow.nodeAt?

theorem slot? (h : r.Leads field steps v) : r.slot? field = some v := by
  unfold Record.slot?
  rw [Hash.contains_eq_isSome_get?]
  cases h with
  | name hfound => rw [hfound, Option.isSome_some, if_pos rfl]
  | path hno hbelow =>
    have hpath : (Path.ofText field).isEmpty = false := by simpa using Path.ofText_ne_nil field
    rw [hno, Option.isSome_none, if_neg Bool.false_ne_true, Hash.slot?, hpath, if_neg Bool.false_ne_true, hbelow.slot?]

private theorem replaceAt_name (hfound : r.fields.get? field = some v) (w : Value) :
    r.fields.replaceAt w [.field field] = r.fields.putRaw field w := by
  have hlookup : r.fields.fields.lookup field = some v := hfound
  apply Hash.toValue_injective
  rw [Hash.toValue_replaceAt (List.cons_ne_nil _ _)]
  simp only [Hash.toValue, Value.replaceAt, hlookup, Hash.putRaw]

theorem fillSlot (h : r.Leads field steps v) (w : Value) : r.fillSlot field w = r.replaceAt w steps := by
  unfold Record.fillSlot Record.replaceAt
  rw [Hash.contains_eq_isSome_get?]
  cases h with
  | name hfound => rw [hfound, Option.isSome_some, if_pos rfl, replaceAt_name hfound]
  | path hno hbelow =>
    have hpath : (Path.ofText field).isEmpty = false := by simpa using Path.ofText_ne_nil field
    rw [hno, Option.isSome_none, if_neg Bool.false_ne_true, Hash.fillSlot, hpath, if_neg Bool.false_ne_true,
      hbelow.fillSlot]
    rfl

/-- A field that is no exact name stays none when what it leads to is replaced. -/
private theorem get?_replaceAt (hno : r.fields.get? field = none)
    (hbelow : Value.Leads (Path.ofText field) steps r.fields.toValue v) (w : Value) :
    (r.fields.replaceAt w steps).get? field = none := by
  obtain ⟨segment, rest, hpath⟩ := List.exists_cons_of_ne_nil (Path.ofText_ne_nil field)
  rw [hpath, Hash.toValue] at hbelow
  cases hbelow with
  | field _ hfound _ =>
    have hne : field ≠ segment := by
      rintro rfl
      rw [Hash.get?, hfound] at hno
      cases hno
    rw [Hash.get?_replaceAt_of_ne hne, hno]

theorem replaced (h : r.Leads field steps v) (w : Value) : (r.replaceAt w steps).Leads field steps w := by
  cases h with
  | name hfound =>
    refine .name ?_
    unfold Record.replaceAt
    rw [replaceAt_name hfound]
    exact Hash.lookup_putEntry_self
  | path hno hbelow =>
    refine .path (get?_replaceAt hno hbelow w) ?_
    unfold Record.replaceAt
    rw [Hash.toValue_replaceAt (hbelow.steps_ne_nil (Path.ofText_ne_nil field))]
    exact hbelow.replaced w

/-- The node that is put in the place is found by a lookup of the field. -/
theorem get_replaceAt (h : r.Leads field steps v) (hd : r.fields.toValue.Distinct) (w : Value) :
    (r.replaceAt w steps).get field = .ok (some w) := by
  cases h with
  | name hfound =>
    refine get_of_get? ?_
    unfold Record.replaceAt
    rw [replaceAt_name hfound]
    exact Hash.lookup_putEntry_self
  | path hno hbelow =>
    refine get_of_find (get?_replaceAt hno hbelow w) hbelow.plain ?_
    unfold Record.replaceAt Hash.find
    rw [Hash.toValue_replaceAt (hbelow.steps_ne_nil (Path.ofText_ne_nil field))]
    exact hbelow.findIn_replaceAt hd w

theorem replaceAt_self (h : r.Leads field steps v) : r.replaceAt v steps = r := by
  unfold Record.replaceAt
  rw [Hash.replaceAt_self h.steps_ne_nil h.nodeAt?]

theorem get (h : r.Leads field steps v) (hd : r.fields.toValue.Distinct) : r.get field = .ok (some v) := by
  have hreplaced := h.get_replaceAt hd v
  rw [h.replaceAt_self] at hreplaced
  exact hreplaced

theorem replaceAt_replaceAt (h : r.Leads field steps v) :
    (r.replaceAt u steps).replaceAt w steps = r.replaceAt w steps := by
  unfold Record.replaceAt
  dsimp only
  rw [Hash.replaceAt_replaceAt h.steps_ne_nil h.nodeAt?]

end Leads

end Record

end RecordFix
