import RecordFix.Proofs.Canonical
import RecordFix.Proofs.FieldChange
import RecordFix.Proofs.Leftovers

/-!
# Values that are written back

A change of whole values that gives each value back as it got it is to change nothing. It does not where the value has
one place: a field of the root, or a slot. Elsewhere what is found is written at the path, and a lookup and a write do
not read a path alike: the write may start a new item or a new field (`Record.same_transformValue_iff`). When it
changes nothing is said along the path (`Value.Idle`).
-/

namespace RecordFix

namespace Value

variable {v w : Value} {k : String} {fs : List (String × Value)} {items : List Value}

/-! ### Changes up to origins -/

mutual

/-- What is placed stays as it is when it is rebased there. -/
theorem Placed.rebase_eq : ∀ {o : Option String} {v : Value}, v.Placed o → v.rebase o = v
  | _, string _ _, h => by
    cases h
    rfl
  | _, array items _, ⟨ho, hitems⟩ => by
    cases ho
    rw [rebase, PlacedItems.rebaseItems_eq hitems]
  | _, hash fields _, ⟨ho, _, hfields⟩ => by
    cases ho
    rw [rebase, PlacedFields.rebaseFields_eq hfields]

theorem PlacedItems.rebaseItems_eq :
    ∀ {o : Option String} {i : Nat} {vs : List Value}, PlacedItems o i vs → rebaseItems o i vs = vs
  | _, _, [], _ => rfl
  | _, _, _ :: _, h => by rw [rebaseItems, Placed.rebase_eq h.1, PlacedItems.rebaseItems_eq h.2]

theorem PlacedFields.rebaseFields_eq :
    ∀ {o : Option String} {fs : List (String × Value)}, PlacedFields o fs → rebaseFields o fs = fs
  | _, [], _ => rfl
  | _, _ :: _, h => by rw [rebaseFields, Placed.rebase_eq h.1, PlacedFields.rebaseFields_eq h.2]

end

/-- In a place, a value is known by what it is without origins. -/
theorem Placed.eq_of_bare {o : Option String} (hv : v.Placed o) (hw : w.Placed o) (h : v.bare = w.bare) : v = w :=
  calc
    v = v.rebase o := hv.rebase_eq.symm
    _ = v.bare.rebase o := (rebase_bare o v).symm
    _ = w.bare.rebase o := by rw [h]
    _ = w.rebase o := rebase_bare o w
    _ = w := hw.rebase_eq

private theorem lookup_bareFields : (bareFields fs).lookup k = (fs.lookup k).map bare := by
  induction fs with
  | nil => rfl
  | cons f fs ih =>
    obtain ⟨k', u⟩ := f
    rw [bareFields, List.lookup_cons, List.lookup_cons, ih]
    cases k == k' <;> rfl

private theorem bareFields_putEntry : bareFields (Hash.putEntry k w fs) = Hash.putEntry k w.bare (bareFields fs) := by
  induction fs with
  | nil => rfl
  | cons f fs ih =>
    obtain ⟨k', u⟩ := f
    rw [Hash.putEntry, bareFields, Hash.putEntry]
    split
    · rfl
    · rw [bareFields, ih]

/-- A field is as before after a write if and only if it was there with the value that is written. -/
theorem bareFields_putEntry_eq_iff :
    bareFields (Hash.putEntry k w fs) = bareFields fs ↔ (fs.lookup k).map bare = some w.bare := by
  rw [bareFields_putEntry, ← lookup_bareFields]
  constructor
  · intro h
    rw [← h]
    exact Hash.lookup_putEntry_self
  · exact Hash.putEntry_of_lookup

private theorem bareItems_set_eq_iff {i : Nat} {item : Value} (hi : items[i]? = some item) :
    bareItems (items.set i w) = bareItems items ↔ w.bare = item.bare := by
  obtain ⟨hlt, rfl⟩ := List.getElem?_eq_some_iff.1 hi
  rw [bareItems_eq_map, bareItems_eq_map, List.map_set]
  constructor
  · intro h
    have hget := congrArg (·[i]?) h
    simpa [hlt] using hget
  · intro h
    rw [h]
    apply List.ext_getElem?
    intro j
    rw [List.getElem?_set]
    split
    · rename_i hij
      subst hij
      simp [hlt]
    · rfl

private theorem bareItems_concat_ne : bareItems (items ++ [w]) ≠ bareItems items := by
  intro h
  have hlength := congrArg List.length h
  rw [bareItems_eq_map, bareItems_eq_map, List.length_map, List.length_map, List.length_append] at hlength
  exact Nat.succ_ne_self _ hlength

/-! ### Writing at a path -/

/-- Whether writing a value at a path below a container changes nothing but origins: the write stops on the way, or
the value is there already. -/
def Idle (v : Value) : Path → Value → Prop
  | [], _ => True
  | _ :: _, string .. => True
  | segment :: rest, hash fields o =>
    segment = wildcard ∨
      if rest = [] then (fields.lookup segment).map bare = some v.bare
      else
        match Marker.ofSegment? segment with
        | some .append => Idle v rest (hash fields o)
        | some m => ∀ child, fields.lookup (m.fieldName fields.length) = some child → Idle v rest child
        | none =>
          ((parseIndex? segment).isSome ∨ (fields.lookup segment).isSome) ∧
            ∀ child, fields.lookup segment = some child → Idle v rest child
  | segment :: rest, array items _ =>
    segment = wildcard ∨
      match Marker.ofSegment? segment with
      | some .append => False
      | some m => ∀ item, items[if m = .first then 0 else items.length - 1]? = some item →
          if rest = [] then item.bare = v.bare else item.kind = .hash → Idle v rest item
      | none => rest ≠ [] ∧ ∃ n fs p,
          parseIndex? segment = some (n + 1) ∧ items[n]? = some (hash fs p) ∧ Idle v rest (hash fs p)

section

variable {segment : String} {rest : Path} {o : Option String} {m : Marker} {n : Nat}

private theorem idle_hash_nil (hw : segment ≠ wildcard) :
    Idle v [segment] (hash fs o) ↔ (fs.lookup segment).map bare = some v.bare :=
  or_iff_right hw

private theorem idle_hash_cons (hw : segment ≠ wildcard) (hrest : rest ≠ []) :
    Idle v (segment :: rest) (hash fs o) ↔
      match Marker.ofSegment? segment with
      | some .append => Idle v rest (hash fs o)
      | some m => ∀ child, fs.lookup (m.fieldName fs.length) = some child → Idle v rest child
      | none =>
        ((parseIndex? segment).isSome ∨ (fs.lookup segment).isSome) ∧
          ∀ child, fs.lookup segment = some child → Idle v rest child :=
  (or_iff_right hw).trans (Iff.of_eq (if_neg hrest))

private theorem idle_array_cons (hw : segment ≠ wildcard) :
    Idle v (segment :: rest) (array items o) ↔
      match Marker.ofSegment? segment with
      | some .append => False
      | some m => ∀ item, items[m.itemPosition items.length]? = some item →
          if rest = [] then item.bare = v.bare else item.kind = .hash → Idle v rest item
      | none => rest ≠ [] ∧ ∃ n fs p,
          parseIndex? segment = some (n + 1) ∧ items[n]? = some (hash fs p) ∧ Idle v rest (hash fs p) :=
  or_iff_right hw

private theorem idle_hash_of_lookup {child : Value} (hw : segment ≠ wildcard) (hrest : rest ≠ [])
    (happend : Marker.ofSegment? segment ≠ some .append) (hl : fs.lookup (referredKey fs.length segment) = some child) :
    Idle v (segment :: rest) (hash fs o) ↔ Idle v rest child := by
  cases hm : Marker.ofSegment? segment with
  | some m =>
    have hm' : m ≠ .append := fun h => happend (h ▸ hm)
    rw [referredKey_of_marker hm] at hl
    simp only [idle_hash_cons hw hrest, hm, hl, Option.some.injEq, forall_eq']
  | none =>
    rw [referredKey_of_marker_none hm] at hl
    simp only [idle_hash_cons hw hrest, hm, hl, Option.isSome_some, or_true, true_and, Option.some.injEq, forall_eq']

/-- Below a field that is missing nothing changes if the segment is no name for a new one. -/
private theorem idle_hash_of_lookup_none (hw : segment ≠ wildcard) (hrest : rest ≠ [])
    (happend : Marker.ofSegment? segment ≠ some .append) (hl : fs.lookup (referredKey fs.length segment) = none) :
    Idle v (segment :: rest) (hash fs o) ↔ Marker.ofSegment? segment ≠ none ∨ parseIndex? segment ≠ none := by
  cases hm : Marker.ofSegment? segment with
  | some m =>
    have hm' : m ≠ .append := fun h => happend (h ▸ hm)
    rw [referredKey_of_marker hm] at hl
    simp [idle_hash_cons hw hrest, hm, hl]
  | none =>
    rw [referredKey_of_marker_none hm] at hl
    simp [idle_hash_cons hw hrest, hm, hl, Option.isSome_iff_ne_none]

private theorem bare_hash_eq_iff {gs : List (String × Value)} {o p : Option String} :
    (hash fs o).bare = (hash gs p).bare ↔ bareFields fs = bareFields gs := by
  rw [bare, bare, hash.injEq, and_iff_left rfl]

private theorem bare_array_eq_iff {vs : List Value} {o p : Option String} :
    (array vs o).bare = (array items p).bare ↔ bareItems vs = bareItems items := by
  rw [bare, bare, array.injEq, and_iff_left rfl]

private theorem bare_array_concat_ne : (array (items ++ [w]) o).bare ≠ (array items o).bare := by
  rw [Ne, bare_array_eq_iff]
  exact bareItems_concat_ne

private theorem bare_changeItem_iff {i : Nat} {item : Value} (hi : items[i]? = some item) :
    (array (items.set i w) o).bare = (array items o).bare ↔ w.bare = item.bare := by
  rw [bare_array_eq_iff]
  exact bareItems_set_eq_iff hi

private theorem bare_insertIn_hash_iff (ih : ∀ t, (insertIn .replace v rest t).1.bare = t.bare ↔ Idle v rest t) :
    (insertIn .replace v (segment :: rest) (hash fs o)).1.bare = (hash fs o).bare ↔
      Idle v (segment :: rest) (hash fs o) := by
  by_cases hw : segment = wildcard
  · subst hw
    rw [insertIn_hash_wildcard]
    exact iff_of_true rfl (Or.inl rfl)
  by_cases hrest : rest = []
  · subst hrest
    rw [insertIn_hash_last hw, InsertMode.write, Hash.put, Hash.toValue, bare_hash_eq_iff, bareFields_putEntry_eq_iff,
      bare_rebase, idle_hash_nil hw]
  by_cases happend : Marker.ofSegment? segment = some .append
  · rw [insertIn_hash_append hrest happend, ih]
    simp only [idle_hash_cons hw hrest, happend]
  -- any other segment refers to a field
  cases hl : fs.lookup (referredKey fs.length segment) with
  | some child =>
    rw [idle_hash_of_lookup hw hrest happend hl, ← ih child, insertIn_of_lookup hw hrest happend hl, bare_hash_eq_iff,
      bareFields_putEntry_eq_iff, hl, Option.map_some, Option.some.injEq]
    exact eq_comm
  | none =>
    rw [idle_hash_of_lookup_none hw hrest happend hl]
    by_cases href : Marker.ofSegment? segment ≠ none ∨ parseIndex? segment ≠ none
    · rw [insertIn_of_lookup_none hw hrest happend href hl]
      exact iff_of_true rfl href
    -- a new field stays, whatever is written below it
    · refine iff_of_false ?_ href
      rw [not_or, not_not, not_not] at href
      obtain ⟨hm, hindex⟩ := href
      rw [referredKey_of_marker_none hm] at hl
      rw [insertIn_new hw hrest hm hindex hl, bare_hash_eq_iff, bareFields_putEntry_eq_iff, hl]
      exact Option.some_ne_none _ ∘ Eq.symm

/-- The first or the last item is written in its place, if it is there. -/
private theorem bare_insertIn_position_iff (ih : ∀ t, (insertIn .replace v rest t).1.bare = t.bare ↔ Idle v rest t)
    (hm : Marker.ofSegment? segment = some m) (happend : m ≠ .append) :
    (insertIn .replace v (segment :: rest) (array items o)).1.bare = (array items o).bare ↔
      Idle v (segment :: rest) (array items o) := by
  have hidle : Idle v (segment :: rest) (array items o) ↔ ∀ item, items[m.itemPosition items.length]? = some item →
      if rest = [] then item.bare = v.bare else item.kind = .hash → Idle v rest item := by
    simp only [idle_array_cons (ne_wildcard_of_marker hm), hm]
  rw [hidle]
  by_cases hrest : rest = []
  · subst hrest
    rw [insertIn_array_position_nil hm happend, setItem]
    simp only [↓reduceIte]
    split
    · rename_i hlt
      have hi := List.getElem?_eq_getElem hlt
      rw [bare_changeItem_iff hi, bare_rebase, hi]
      simp only [Option.some.injEq, forall_eq']
      exact eq_comm
    · rename_i hout
      have hi := List.getElem?_eq_none (Nat.not_lt.1 hout)
      simp [hi]
  · simp only [hrest, ↓reduceIte]
    by_cases hhash : ∃ gs p, items[m.itemPosition items.length]? = some (hash gs p)
    · obtain ⟨gs, p, hi⟩ := hhash
      rw [insertIn_array_position_hash hrest hm happend hi, bare_changeItem_iff hi, ih, hi]
      simp [kind]
    · have hno : ∀ gs p, items[m.itemPosition items.length]? ≠ some (hash gs p) := fun gs p hi => hhash ⟨gs, p, hi⟩
      rw [insertIn_array_position_other hrest hm happend hno]
      refine iff_of_true rfl fun item hitem hkind => ?_
      cases item with
      | hash gs p => exact absurd hitem (hno gs p)
      | string t p => cases hkind
      | array vs p => cases hkind

/-- The item at an index is written in its place if it is a hash, and else there is a new one. -/
private theorem bare_insertIn_index_iff (ih : ∀ t, (insertIn .replace v rest t).1.bare = t.bare ↔ Idle v rest t)
    (hn : parseIndex? segment = some n) :
    (insertIn .replace v (segment :: rest) (array items o)).1.bare = (array items o).bare ↔
      Idle v (segment :: rest) (array items o) := by
  have hidle : Idle v (segment :: rest) (array items o) ↔
      rest ≠ [] ∧ ∃ i gs p, n = i + 1 ∧ items[i]? = some (hash gs p) ∧ Idle v rest (hash gs p) := by
    simp only [idle_array_cons (ne_wildcard_of_index hn), marker_of_parseIndex? hn, hn, Option.some.injEq]
  rw [hidle]
  by_cases hrest : rest = []
  · subst hrest
    rw [insertIn_array_index_nil hn]
    exact iff_of_false bare_array_concat_ne fun h => h.1 rfl
  by_cases hhash : ∃ gs p, 0 < n ∧ items[n - 1]? = some (hash gs p)
  · obtain ⟨gs, p, hpos, hi⟩ := hhash
    rw [insertIn_array_index_hash hrest hn hpos hi, bare_changeItem_iff hi, ih]
    constructor
    · exact fun h => ⟨hrest, n - 1, gs, p, (Nat.sub_add_cancel hpos).symm, hi, h⟩
    · rintro ⟨-, i, gs', p', rfl, hi', h⟩
      rw [Nat.add_sub_cancel, hi', Option.some.injEq] at hi
      exact hi ▸ h
  · have hno : ∀ gs p, 0 < n → items[n - 1]? ≠ some (hash gs p) := fun gs p hpos hi => hhash ⟨gs, p, hpos, hi⟩
    rw [insertIn_array_index_other hrest hn hno]
    refine iff_of_false bare_array_concat_ne ?_
    rintro ⟨-, i, gs, p, rfl, hi, -⟩
    exact hno gs p i.succ_pos hi

private theorem bare_insertIn_array_iff (ih : ∀ t, (insertIn .replace v rest t).1.bare = t.bare ↔ Idle v rest t) :
    (insertIn .replace v (segment :: rest) (array items o)).1.bare = (array items o).bare ↔
      Idle v (segment :: rest) (array items o) := by
  by_cases hw : segment = wildcard
  · subst hw
    rw [insertIn_array_wildcard]
    exact iff_of_true rfl (Or.inl rfl)
  cases hm : Marker.ofSegment? segment with
  | some m =>
    by_cases happend : m = .append
    · subst happend
      refine iff_of_false ?_ (by simp only [idle_array_cons hw, hm, not_false_eq_true])
      by_cases hrest : rest = []
      · subst hrest
        rw [insertIn_array_append_nil hm]
        exact bare_array_concat_ne
      · rw [insertIn_array_append hrest hm]
        exact bare_array_concat_ne
    · exact bare_insertIn_position_iff ih hm happend
  | none =>
    cases hn : parseIndex? segment with
    | some n => exact bare_insertIn_index_iff ih hn
    | none =>
      rw [insertIn_array_name hw hm hn]
      exact iff_of_false bare_array_concat_ne (by simp [idle_array_cons hw, hm, hn])

end

theorem bare_insertIn_iff (path : Path) (t : Value) :
    (insertIn .replace v path t).1.bare = t.bare ↔ Idle v path t := by
  induction path generalizing t with
  | nil => cases t <;> exact iff_of_true rfl trivial
  | cons segment rest ih =>
    cases t with
    | string t o => exact iff_of_true rfl trivial
    | hash fields o => exact bare_insertIn_hash_iff ih
    | array items o => exact bare_insertIn_array_iff ih

/-! ### Filling a slot -/

private theorem bareItems_modify {i : Nat} {item : Value} {f : Value → Value} (hi : items[i]? = some item)
    (hf : (f item).bare = item.bare) : bareItems (items.modify i f) = bareItems items := by
  rw [bareItems_eq_map, bareItems_eq_map]
  apply List.ext_getElem?
  intro j
  rw [List.getElem?_map, List.getElem?_map, List.getElem?_modify]
  by_cases hij : i = j
  · subst hij
    simp [hi, hf]
  · simp [hij]

/-- A slot that is filled with what it holds. -/
theorem bare_fillSlot {u : Value} (hu : u.bare = v.bare) (path : Path) (t : Value) (h : t.slot? path = some v) :
    (fillSlot u path t).bare = t.bare := by
  induction path generalizing t with
  | nil =>
    rw [slot?, Option.some.injEq] at h
    rw [fillSlot, hu, h]
  | cons segment rest ih =>
    cases t with
    | string t o => rfl
    | hash fields o =>
      rw [slot?] at h
      obtain ⟨child, hchild, hslot⟩ := Option.bind_eq_some_iff.1 h
      simp only [fillSlot, hchild]
      rw [bare_hash_eq_iff, bareFields_putEntry_eq_iff, hchild, Option.map_some, ih child hslot]
    | array items o =>
      rw [slot?] at h
      obtain ⟨i, hi, h⟩ := Option.bind_eq_some_iff.1 h
      obtain ⟨item, hitem, hslot⟩ := Option.bind_eq_some_iff.1 h
      simp only [fillSlot, hi]
      rw [bare_array_eq_iff]
      exact bareItems_modify hitem (ih item hslot)

end Value

/-! ### Records -/

namespace Hash

variable {h : Hash} {v : Value} {path : Path}

theorem bare_insert_iff : (h.insert .replace path v).1.toValue.bare = h.toValue.bare ↔ v.Idle path h.toValue := by
  have hinsert : (h.insert .replace path v).1.toValue = (Value.insertIn .replace v path h.toValue).1 :=
    congrArg Prod.fst (insert_toValue h .replace path v)
  rw [hinsert, Value.bare_insertIn_iff]

theorem bare_fillSlot {u : Value} (hu : u.bare = v.bare) (hv : h.slot? path = some v) :
    (h.fillSlot path u).toValue.bare = h.toValue.bare := by
  unfold slot? at hv
  unfold fillSlot
  split at hv
  · cases hv
  · rename_i hne
    rw [if_neg hne]
    have hfilled := Value.bare_fillSlot hu path h.toValue hv
    split
    · rename_i hw
      rw [hw] at hfilled
      exact hfilled
    · rfl

end Hash

namespace Record

variable {ε : Type}

private theorem bare_transformFields (names : List String) (h : Hash) :
    (transformFields (fun v => (.ok (some v) : Except ε (Option Value))) h names).1.toValue.bare = h.toValue.bare := by
  induction names generalizing h with
  | nil => rfl
  | cons name names ih =>
    unfold transformFields
    split
    · exact ih h
    · rename_i v hv
      dsimp only
      rw [ih, Hash.put, Hash.toValue, Hash.toValue, Value.bare, Value.bare, Value.bareFields_putEntry_eq_iff.2]
      have hlookup : h.fields.lookup name = some v := hv
      rw [hlookup, Option.map_some, Value.bare_rebase]

/-- Whether a field has one place for its value, or else has none, or the value that is found is there already when it
is written at the path. -/
def InPlace (r : Record) (field : String) : Prop :=
  (Path.ofText field).length = 1 ∨ r.fields.contains field = true ∨
    (r.fields.slot? (Path.ofText field)).isSome = true ∨
    ∀ v, r.get field = .ok (some v) → v.Idle (Path.ofText field) r.fields.toValue

private theorem eq_of_parts {r r' : Record} (hfields : r.fields = r'.fields)
    (hvirtual : r.virtualFields = r'.virtualFields) (hrejected : r.rejected = r'.rejected) : r = r' := by
  cases r
  cases r'
  cases hfields
  cases hvirtual
  cases hrejected
  rfl

private theorem frame_remove (r : Record) (field : String) :
    (r.remove field).virtualFields = r.virtualFields ∧ (r.remove field).rejected = r.rejected := by
  unfold remove
  split
  · exact ⟨rfl, rfl⟩
  · exact ⟨rfl, rfl⟩

/-- No change of whole values reaches the virtual fields or the mark. -/
theorem frame_transformValue (fail : ValueError → ε) (change : Value → Except ε (Option Value)) (r : Record)
    (field : String) :
    (r.transformValue fail change field).1.virtualFields = r.virtualFields ∧
      (r.transformValue fail change field).1.rejected = r.rejected := by
  unfold transformValue
  dsimp only
  split
  · exact ⟨rfl, rfl⟩
  · split
    · split
      · exact ⟨rfl, rfl⟩
      · exact frame_remove r field
      · exact ⟨rfl, rfl⟩
    · split
      · exact ⟨rfl, rfl⟩
      · exact ⟨rfl, rfl⟩
      · split
        · exact ⟨rfl, rfl⟩
        · exact frame_remove r field
        · exact ⟨rfl, rfl⟩

private theorem bare_transformValue_iff (fail : ValueError → ε) (r : Record) (field : String) :
    (r.transformValue fail (fun v => .ok (some v)) field).1.fields.toValue.bare = r.fields.toValue.bare ↔
      r.InPlace field := by
  unfold transformValue InPlace
  dsimp only
  split
  · rename_i hone
    rw [Bool.or_eq_true, decide_eq_true_eq] at hone
    exact iff_of_true (bare_transformFields _ _) (hone.imp_right Or.inl)
  · rename_i hone
    rw [Bool.or_eq_true, decide_eq_true_eq, not_or] at hone
    rw [or_iff_right hone.1, or_iff_right hone.2]
    split
    · rename_i v hv
      exact iff_of_true (Hash.bare_fillSlot (Value.bare_rebase _ v) hv) (Or.inl (by rw [hv, Option.isSome_some]))
    · rename_i hnone
      have hslot : ¬ (r.fields.slot? (Path.ofText field)).isSome = true := by simp [hnone]
      rw [or_iff_right hslot]
      split
      · rename_i e hget
        refine iff_of_true rfl fun v hv => ?_
        rw [hget] at hv
        cases hv
      · rename_i hget
        refine iff_of_true rfl fun v hv => ?_
        rw [hget] at hv
        cases hv
      · rename_i v hget
        simp only [hget, Except.ok.injEq, Option.some.injEq, forall_eq']
        exact Hash.bare_insert_iff

/-- A change of whole values that gives each value back as it got it leaves the virtual fields and the mark alone, and
also the fields, up to origins, if and only if the field is in place. Then the record is exactly as before if the
origins in it are those of its places. -/
theorem same_transformValue_iff (fail : ValueError → ε) (r : Record) (field : String) :
    let after := (r.transformValue fail (fun v => .ok (some v)) field).1
    after.virtualFields = r.virtualFields ∧ after.rejected = r.rejected ∧
      (after.fields.toValue.bare = r.fields.toValue.bare ↔ r.InPlace field) ∧
      ∀ o, r.Placed o → (after = r ↔ r.InPlace field) := by
  intro after
  have hframe : after.virtualFields = r.virtualFields ∧ after.rejected = r.rejected := frame_transformValue _ _ _ _
  have hiff : after.fields.toValue.bare = r.fields.toValue.bare ↔ r.InPlace field := bare_transformValue_iff _ _ _
  refine ⟨hframe.1, hframe.2, hiff, fun o hp => ?_⟩
  have hplaced : after.Placed o := by
    refine (FieldChange.transformValue fail (fun v w hv hw => ?_) field).placed hp
    cases hw
    exact hv
  rw [← hiff]
  constructor
  · exact fun h => by rw [h]
  · intro h
    have hfields : after.fields = r.fields :=
      Hash.toValue_injective (Value.Placed.eq_of_bare hplaced.fields hp.fields h)
    exact eq_of_parts hfields hframe.1 hframe.2

/-- A text in a hash in an array is found through the name of its field, and is then written into a new item. -/
theorem not_same_transformValue :
    ¬ ∀ (r : Record) (field : String),
      (r.transformValue id (fun v => .ok (some v)) field).1.fields.same r.fields = true := by
  intro h
  have hsame := h (.ofFields ⟨[("a", .ofList [.hash [("b", .ofString "x")] none])], none⟩) "a.b"
  have hnot : ((ofFields ⟨[("a", .ofList [.hash [("b", .ofString "x")] none])], none⟩).transformValue id
      (fun v => .ok (some v)) "a.b").1.fields.same
      (ofFields ⟨[("a", .ofList [.hash [("b", .ofString "x")] none])], none⟩).fields = false := by decide
  rw [hnot] at hsame
  cases hsame

end Record

end RecordFix
