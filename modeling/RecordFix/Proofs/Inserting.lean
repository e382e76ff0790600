import RecordFix.Path.Insert
import RecordFix.Proofs.Fields
import RecordFix.Proofs.Rebase

/-!
# One segment of an insertion

What an insertion does with the first segment of a path, one equation for each kind of segment. In a hash the last
segment is the field that is written, and any other goes on below the field it refers to, or below a new one
(`insertIn_of_lookup`, `insertIn_new`). In an array the value is added as an item, or the insertion goes on below an
item that is a hash, or else below a new one (`insertIn_array_append`, `insertIn_array_index_hash`,
`insertIn_array_name`).
-/

namespace RecordFix

/-- The 0-based position of the first or the last item of an array. -/
def Marker.itemPosition (size : Nat) (m : Marker) : Nat := if m = .first then 0 else size - 1

/-- The name of the field that a segment refers to in a hash. -/
def referredKey (size : Nat) (segment : String) : String :=
  match Marker.ofSegment? segment with
  | some m => m.fieldName size
  | none => segment

theorem referredKey_of_marker {segment : String} {m : Marker} (h : Marker.ofSegment? segment = some m) (size : Nat) :
    referredKey size segment = m.fieldName size := by
  rw [referredKey, h]

theorem referredKey_of_marker_none {segment : String} (h : Marker.ofSegment? segment = none) (size : Nat) :
    referredKey size segment = segment := by
  rw [referredKey, h]

theorem marker_of_parseIndex? {segment : String} {n : Nat} (h : parseIndex? segment = some n) :
    Marker.ofSegment? segment = none := by
  unfold Marker.ofSegment?
  split
  · exact (Option.some_ne_none n (h.symm.trans (by decide))).elim
  · exact (Option.some_ne_none n (h.symm.trans (by decide))).elim
  · exact (Option.some_ne_none n (h.symm.trans (by decide))).elim
  · rfl

namespace Value

variable {mode : InsertMode} {v child : Value} {segment : String} {rest : Path} {fields fs : List (String × Value)}
  {items : List Value} {o p : Option String} {m : Marker} {n : Nat}

/-! ### Segments that are no wildcards -/

theorem ne_wildcard_of_marker (hm : Marker.ofSegment? segment = some m) : segment ≠ wildcard := by
  rintro rfl
  exact absurd hm (by cases m <;> decide)

theorem ne_wildcard_of_index (hn : parseIndex? segment = some n) : segment ≠ wildcard := by
  rintro rfl
  exact Option.some_ne_none n (hn.symm.trans (by decide))

/-! ### In a hash -/

/-- The last segment of a path is the name of the field that is written. -/
theorem insertIn_hash_last (hw : segment ≠ wildcard) :
    insertIn mode v [segment] (hash fields o) = ((mode.write ⟨fields, o⟩ segment v).toValue, none) := by
  rw [insertIn]
  simp only [beq_iff_eq, hw, List.isEmpty_nil, ↓reduceIte]

theorem insertIn_hash_append (hrest : rest ≠ []) (hm : Marker.ofSegment? segment = some .append) :
    insertIn mode v (segment :: rest) (hash fields o) = insertIn mode v rest (hash fields o) := by
  rw [insertIn]
  simp only [beq_iff_eq, ne_wildcard_of_marker hm, List.isEmpty_iff, hrest, hm, ↓reduceIte]

/-- An insertion goes on below the field that a segment refers to. -/
theorem insertIn_of_lookup (hw : segment ≠ wildcard) (hrest : rest ≠ [])
    (hm : Marker.ofSegment? segment ≠ some .append)
    (hl : fields.lookup (referredKey fields.length segment) = some child) :
    insertIn mode v (segment :: rest) (hash fields o) =
      (hash (Hash.putEntry (referredKey fields.length segment) (insertIn mode v rest child).1 fields) o,
        (insertIn mode v rest child).2) := by
  have hget : (⟨fields, o⟩ : Hash).get? (referredKey fields.length segment) = some child := hl
  rw [insertIn]
  cases hmarker : Marker.ofSegment? segment with
  | some m =>
    have happend : m ≠ .append := fun h => hm (h ▸ hmarker)
    rw [referredKey_of_marker hmarker] at hget ⊢
    simp only [beq_iff_eq, hw, List.isEmpty_iff, hrest, hget, ↓reduceIte, Hash.toValue, Hash.putRaw]
  | none =>
    rw [referredKey_of_marker_none hmarker] at hget ⊢
    have hcontains : (⟨fields, o⟩ : Hash).contains segment = true := by
      rw [Hash.contains_eq_isSome_get?, hget, Option.isSome_some]
    simp only [beq_iff_eq, hw, List.isEmpty_iff, hrest, hcontains, hget, Bool.or_true, ↓reduceIte, Hash.toValue,
      Hash.putRaw]

/-- A marker or an index that refers to no field is an error. -/
theorem insertIn_of_lookup_none (hw : segment ≠ wildcard) (hrest : rest ≠ [])
    (hm : Marker.ofSegment? segment ≠ some .append)
    (href : Marker.ofSegment? segment ≠ none ∨ parseIndex? segment ≠ none)
    (hl : fields.lookup (referredKey fields.length segment) = none) :
    insertIn mode v (segment :: rest) (hash fields o) =
      (hash fields o, some (.missingReference segment (Hash.display ⟨fields, o⟩))) := by
  have hget : (⟨fields, o⟩ : Hash).get? (referredKey fields.length segment) = none := hl
  rw [insertIn]
  cases hmarker : Marker.ofSegment? segment with
  | some m =>
    have happend : m ≠ .append := fun h => hm (h ▸ hmarker)
    rw [referredKey_of_marker hmarker] at hget
    simp only [beq_iff_eq, hw, List.isEmpty_iff, hrest, hget, ↓reduceIte, Hash.toValue]
  | none =>
    rw [referredKey_of_marker_none hmarker] at hget
    have hindex : (parseIndex? segment).isSome = true :=
      Option.isSome_iff_ne_none.2 (href.resolve_left fun h => h hmarker)
    simp only [beq_iff_eq, hw, List.isEmpty_iff, hrest, hindex, hget, Bool.true_or, ↓reduceIte, Hash.toValue]

/-- A field name that is missing gets a hash. -/
theorem insertIn_new (hw : segment ≠ wildcard) (hrest : rest ≠ []) (hm : Marker.ofSegment? segment = none)
    (hindex : parseIndex? segment = none) (hl : fields.lookup segment = none) :
    insertIn mode v (segment :: rest) (hash fields o) =
      (hash (Hash.putEntry segment (insertIn mode v rest (hash [] (some (childOrigin o segment)))).1 fields) o,
        (insertIn mode v rest (hash [] (some (childOrigin o segment)))).2) := by
  have hcontains : (⟨fields, o⟩ : Hash).contains segment = false := by
    rw [Hash.contains_eq_isSome_get?, Hash.get?, hl, Option.isSome_none]
  -- the new field is put with an empty hash and then written again with what is made of it
  have hget : ((⟨fields, o⟩ : Hash).put segment (hash [] none)).get? segment =
      some (hash [] (some (childOrigin o segment))) := Hash.lookup_putEntry_self
  rw [insertIn]
  simp only [beq_iff_eq, hw, List.isEmpty_iff, hrest, hm, hindex, hcontains, hget, Option.isSome_none, Bool.or_self,
    Bool.false_eq_true, ↓reduceIte]
  rw [Hash.putRaw, Hash.put, Hash.putEntry_putEntry, Hash.toValue]

/-! ### In an array -/

theorem insertIn_array_append_nil (hm : Marker.ofSegment? segment = some .append) :
    insertIn mode v [segment] (array items o) = (array (pushItem o items v) o, none) := by
  rw [insertIn]
  simp only [beq_iff_eq, ne_wildcard_of_marker hm, hm, List.isEmpty_nil, ↓reduceIte]

theorem insertIn_array_append (hrest : rest ≠ []) (hm : Marker.ofSegment? segment = some .append) :
    insertIn mode v (segment :: rest) (array items o) = pushMade items o (insertIn mode v rest) := by
  rw [insertIn]
  simp only [beq_iff_eq, ne_wildcard_of_marker hm, hm, List.isEmpty_iff, hrest, ↓reduceIte]

theorem insertIn_array_position_nil (hm : Marker.ofSegment? segment = some m) (happend : m ≠ .append) :
    insertIn mode v [segment] (array items o) =
      (array (setItem o items (m.itemPosition items.length) v) o, none) := by
  rw [insertIn]
  simp only [beq_iff_eq, ne_wildcard_of_marker hm, hm, List.isEmpty_nil, ↓reduceIte, Marker.itemPosition]

/-- The first or last item is entered if it is a hash. -/
theorem insertIn_array_position_hash (hrest : rest ≠ []) (hm : Marker.ofSegment? segment = some m)
    (happend : m ≠ .append) (hi : items[m.itemPosition items.length]? = some (hash fs p)) :
    insertIn mode v (segment :: rest) (array items o) =
      (array (items.set (m.itemPosition items.length) (insertIn mode v rest (hash fs p)).1) o,
        (insertIn mode v rest (hash fs p)).2) := by
  unfold Marker.itemPosition at hi ⊢
  rw [insertIn]
  simp only [beq_iff_eq, ne_wildcard_of_marker hm, hm, List.isEmpty_iff, hrest, hi, ↓reduceIte]

/-- Nothing is written below a first or last item that is no hash, or that is not there. -/
theorem insertIn_array_position_other (hrest : rest ≠ []) (hm : Marker.ofSegment? segment = some m)
    (happend : m ≠ .append) (hi : ∀ fs p, items[m.itemPosition items.length]? ≠ some (hash fs p)) :
    insertIn mode v (segment :: rest) (array items o) = (array items o, none) := by
  unfold Marker.itemPosition at hi
  rw [insertIn]
  simp only [beq_iff_eq, ne_wildcard_of_marker hm, hm, List.isEmpty_iff, hrest, ↓reduceIte]

theorem insertIn_array_index_nil (hn : parseIndex? segment = some n) :
    insertIn mode v [segment] (array items o) = (array (pushItem o items v) o, none) := by
  rw [insertIn]
  simp only [beq_iff_eq, ne_wildcard_of_index hn, marker_of_parseIndex? hn, hn, List.isEmpty_nil, ↓reduceIte]

/-- The item at an index is entered if it is a hash. -/
theorem insertIn_array_index_hash (hrest : rest ≠ []) (hn : parseIndex? segment = some n) (hpos : 0 < n)
    (hi : items[n - 1]? = some (hash fs p)) :
    insertIn mode v (segment :: rest) (array items o) =
      (array (items.set (n - 1) (insertIn mode v rest (hash fs p)).1) o, (insertIn mode v rest (hash fs p)).2) := by
  rw [insertIn]
  simp only [beq_iff_eq, ne_wildcard_of_index hn, marker_of_parseIndex? hn, hn, List.isEmpty_iff, hrest,
    Nat.ne_of_gt hpos, hi, ↓reduceIte]

/-- An index that leads to no hash adds one. -/
theorem insertIn_array_index_other (hrest : rest ≠ []) (hn : parseIndex? segment = some n)
    (hi : ∀ fs p, 0 < n → items[n - 1]? ≠ some (hash fs p)) :
    insertIn mode v (segment :: rest) (array items o) = pushMade items o (insertIn mode v rest) := by
  have hitem : ∀ fs p, (if n = 0 then none else items[n - 1]?) ≠ some (hash fs p) := by
    intro fs p
    split
    · exact nofun
    · rename_i hzero
      exact hi fs p (Nat.pos_of_ne_zero hzero)
  rw [insertIn]
  simp only [beq_iff_eq, ne_wildcard_of_index hn, marker_of_parseIndex? hn, hn, List.isEmpty_iff, hrest, ↓reduceIte]

/-- A field name adds a hash, and the insertion goes on there with the same path. -/
theorem insertIn_array_name (hw : segment ≠ wildcard) (hm : Marker.ofSegment? segment = none)
    (hindex : parseIndex? segment = none) :
    insertIn mode v (segment :: rest) (array items o) = pushMade items o (insertIn mode v (segment :: rest)) := by
  rw [insertIn]
  by_cases hrest : rest = []
  · subst hrest
    simp only [beq_iff_eq, hw, hm, hindex, List.isEmpty_nil, ↓reduceIte]
    rw [pushMade, insertIn_hash_last hw]
    cases mode <;> simp [InsertMode.write, Hash.add, Hash.get?, Hash.put, Hash.putEntry, Hash.toValue, pushItem, rebase,
      rebaseFields]
  · simp only [beq_iff_eq, hw, hm, hindex, List.isEmpty_iff, hrest, ↓reduceIte]
    rw [pushMade, pushMade, insertIn_new hw hrest hm hindex rfl]
    rfl

/-! ### The whole path -/

/-- A hash that is written to stays one. -/
theorem exists_hash_insertIn (mode : InsertMode) (v : Value) (path : Path) (fields : List (String × Value))
    (o : Option String) : ∃ gs p, (insertIn mode v path (hash fields o)).1 = hash gs p := by
  induction path with
  | nil => exact ⟨fields, o, rfl⟩
  | cons segment rest ih =>
    unfold insertIn
    dsimp only
    split
    · exact ⟨fields, o, rfl⟩
    · split
      · exact ⟨_, _, rfl⟩
      · split
        · exact ih
        · split <;> exact ⟨_, _, rfl⟩
        · split
          · split <;> exact ⟨_, _, rfl⟩
          · split <;> exact ⟨_, _, rfl⟩

end Value

namespace Hash

/-- An insertion into a hash is one into the hash as a value. -/
theorem insert_toValue (h : Hash) (mode : InsertMode) (path : Path) (v : Value) :
    ((h.insert mode path v).1.toValue, (h.insert mode path v).2) = Value.insertIn mode v path h.toValue := by
  obtain ⟨gs, p, hhash⟩ := Value.exists_hash_insertIn mode v path h.fields h.origin
  unfold insert
  cases hins : Value.insertIn mode v path h.toValue with
  | mk u failure =>
    have hu : u = .hash gs p := by
      rw [← hhash]
      exact (congrArg Prod.fst hins).symm
    rw [hu]
    rfl

end Hash

end RecordFix
