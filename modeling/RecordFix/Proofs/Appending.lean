import RecordFix.Proofs.Inserting
import RecordFix.Proofs.Removing

/-!
# Appending loses nothing

A value that is appended at a path leaves every leaf where it is among the others, and what is new are the leaves of the
value or none (`Hash.leaves_insert_append`). This holds also of an insertion that fails, which adds nothing. Only a path
that ends in `$first` or `$last` is different: it overwrites an item.
-/

namespace RecordFix

/-- An element in front and one behind stay where they are. -/
private theorem Splits.between {α : Type} {all kept out : List α} (h : Splits all kept out) (front behind : List α) :
    Splits (front ++ all ++ behind) (front ++ kept ++ behind) out := by
  have hsplit := ((Splits.keep front).append h).append (Splits.keep behind)
  rw [List.nil_append, List.append_nil] at hsplit
  exact hsplit

namespace Value

variable {v child : Value} {items : List Value} {fields : List (String × Value)} {o : Option String} {k : String}
  {i : Nat} {segment : String} {rest path : Path}

/-! ### Leaves of what is written -/

theorem leavesItems_pushItem (o : Option String) (items : List Value) (v : Value) :
    leavesItems (pushItem o items v) = leavesItems items ++ v.leaves := by
  rw [pushItem, leavesItems_append, leavesItems_singleton, leaves_rebase]

theorem leaves_append (w v : Value) : (w.append v).leaves = w.leaves ++ v.leaves := by
  cases w with
  | array items o => exact leavesItems_pushItem o items v
  | string t o => simp only [append, leaves, leavesItems_pushItem, leavesItems, List.nil_append]
  | hash fields o => simp only [append, leaves, leavesItems_pushItem, leavesItems, List.nil_append]

/-- A field that is overwritten has its leaves between those of the others. -/
theorem exists_leavesFields_putEntry (hl : fields.lookup k = some child) :
    ∃ front behind, leavesFields fields = front ++ child.leaves ++ behind ∧
      ∀ w, leavesFields (Hash.putEntry k w fields) = front ++ w.leaves ++ behind := by
  induction fields with
  | nil => cases hl
  | cons f fs ih =>
    obtain ⟨l, u⟩ := f
    rw [List.lookup_cons, BEq.comm] at hl
    by_cases hk : (l == k) = true
    · rw [hk] at hl
      obtain rfl := Option.some.inj hl
      refine ⟨[], leavesFields fs, rfl, fun w => ?_⟩
      rw [Hash.putEntry, if_pos hk]
      rfl
    · rw [Bool.eq_false_iff.2 hk] at hl
      obtain ⟨front, behind, hbefore, hafter⟩ := ih hl
      refine ⟨u.leaves ++ front, behind, ?_, fun w => ?_⟩
      · rw [leavesFields, hbefore]
        simp only [List.append_assoc]
      · rw [Hash.putEntry, if_neg hk, leavesFields, hafter]
        simp only [List.append_assoc]

/-- A new field has its leaves behind those of the others. -/
theorem leavesFields_putEntry_new (hl : fields.lookup k = none) (w : Value) :
    leavesFields (Hash.putEntry k w fields) = leavesFields fields ++ w.leaves := by
  induction fields with
  | nil => exact List.append_nil _
  | cons f fs ih =>
    obtain ⟨l, u⟩ := f
    rw [List.lookup_cons, BEq.comm] at hl
    by_cases hk : (l == k) = true
    · rw [hk] at hl
      cases hl
    · rw [Bool.eq_false_iff.2 hk] at hl
      rw [Hash.putEntry, if_neg hk, leavesFields, leavesFields, ih hl, List.append_assoc]

/-- An item that is overwritten has its leaves between those of the others. -/
theorem exists_leavesItems_set (hi : items[i]? = some child) :
    ∃ front behind, leavesItems items = front ++ child.leaves ++ behind ∧
      ∀ w, leavesItems (items.set i w) = front ++ w.leaves ++ behind := by
  obtain ⟨hlt, hchild⟩ := List.getElem?_eq_some_iff.1 hi
  have hsplit : items = items.take i ++ child :: items.drop (i + 1) := by
    rw [← hchild, ← List.drop_eq_getElem_cons hlt, List.take_append_drop]
  refine ⟨leavesItems (items.take i), leavesItems (items.drop (i + 1)), ?_, fun w => ?_⟩
  · calc
      leavesItems items = leavesItems (items.take i ++ child :: items.drop (i + 1)) := congrArg leavesItems hsplit
      _ = _ := by rw [leavesItems_append, leavesItems, List.append_assoc]
  · rw [List.set_eq_take_append_cons_drop, if_pos hlt, leavesItems_append, leavesItems, List.append_assoc]

/-! ### What an insertion does to the leaves -/

/-- Whether a path has segments, and none is a wildcard, `$first` or `$last`, which may lead nowhere without an
error. -/
def Decisive (path : Path) : Prop :=
  path ≠ [] ∧ ∀ s ∈ path, s ≠ wildcard ∧ ∀ m, Marker.ofSegment? s = some m → m = .append

theorem Decisive.tail (hrest : rest ≠ []) (h : Decisive (segment :: rest)) : Decisive rest :=
  ⟨hrest, fun s hs => h.2 s (List.mem_cons_of_mem _ hs)⟩

/-- Whether a value after an insertion has the leaves that were there before, or these and, if all went well, those of
`v` among them. The first of these is an error where the path is decisive. -/
def GainsLeaves (v : Value) (decisive : Prop) (before : List String) (result : Value × Option ValueError) : Prop :=
  result.1.leaves = before ∧ (decisive → result.2 ≠ none) ∨
    result.2 = none ∧ Splits result.1.leaves before v.leaves

namespace GainsLeaves

variable {decisive decisive' : Prop} {before front behind : List String} {result result' : Value × Option ValueError}

theorem weaken (h : GainsLeaves v decisive before result) (hdecisive : decisive' → decisive) :
    GainsLeaves v decisive' before result :=
  h.imp_left fun ⟨hsame, hfails⟩ => ⟨hsame, fun hd => hfails (hdecisive hd)⟩

/-- A change below a place is one among the leaves around it. -/
theorem between (h : GainsLeaves v decisive before result)
    (hleaves : result'.1.leaves = front ++ result.1.leaves ++ behind) (hfailure : result'.2 = result.2) :
    GainsLeaves v decisive (front ++ before ++ behind) result' := by
  unfold GainsLeaves
  rw [hleaves, hfailure]
  rcases h with ⟨hsame, hfails⟩ | ⟨hok, hsplit⟩
  · left
    rw [hsame]
    exact ⟨rfl, hfails⟩
  · right
    exact ⟨hok, hsplit.between front behind⟩

/-- What is made from nothing comes behind the other leaves. -/
theorem made (h : GainsLeaves v decisive [] result) (hleaves : result'.1.leaves = before ++ result.1.leaves)
    (hfailure : result'.2 = result.2) : GainsLeaves v decisive before result' := by
  have haround : result'.1.leaves = before ++ result.1.leaves ++ [] := by
    rw [List.append_nil]
    exact hleaves
  have hbehind := h.between haround hfailure
  rw [List.append_nil, List.append_nil] at hbehind
  exact hbehind

/-- The leaves of the value come behind the other leaves. -/
theorem added (hleaves : result.1.leaves = before ++ v.leaves) (hok : result.2 = none) :
    GainsLeaves v decisive before result := by
  right
  rw [hleaves]
  exact ⟨hok, List.Perm.refl _, List.sublist_append_left _ _⟩

theorem pushMade {make : Value → Value × Option ValueError} (h : ∀ p, GainsLeaves v decisive [] (make (hash [] p))) :
    GainsLeaves v decisive (leavesItems items) (pushMade items o make) := by
  refine (h (some (itemOrigin o (items.length + 1)))).made ?_ rfl
  show leavesItems (items ++ [_]) = _
  rw [leavesItems_append, leavesItems_singleton]

end GainsLeaves

/-- A value that is added to a field has its leaves among those that were there. -/
theorem splits_add (k : String) :
    Splits (leavesFields (Hash.add ⟨fields, o⟩ k v).fields) (leavesFields fields) v.leaves := by
  have hbehind : ∀ before : List String, Splits (before ++ v.leaves) before v.leaves :=
    fun before => ⟨List.Perm.refl _, List.sublist_append_left _ _⟩
  rw [Hash.add, Hash.get?]
  cases hl : fields.lookup k with
  | some old =>
    obtain ⟨front, behind, hbefore, hafter⟩ := exists_leavesFields_putEntry hl
    have haround := (hbehind old.leaves).between front behind
    rw [← leaves_append, ← hafter, ← hbefore] at haround
    exact haround
  | none =>
    show Splits (leavesFields (Hash.putEntry k _ fields)) _ _
    rw [leavesFields_putEntry_new hl, leaves_rebase]
    exact hbehind _

section

variable (ih : rest ≠ [] → ∀ t, GainsLeaves v (Decisive (segment :: rest)) t.leaves (insertIn .append v rest t))

include ih

/-- One segment in a hash. -/
private theorem gainsLeaves_hash : GainsLeaves v (Decisive (segment :: rest)) (leavesFields fields)
    (insertIn .append v (segment :: rest) (hash fields o)) := by
  by_cases hw : segment = wildcard
  · left
    rw [hw, insertIn_hash_wildcard]
    exact ⟨rfl, fun hd => absurd rfl (hd.2 wildcard List.mem_cons_self).1⟩
  · by_cases hrest : rest = []
    · subst hrest
      rw [insertIn_hash_last hw]
      exact Or.inr ⟨rfl, splits_add segment⟩
    · by_cases hm : Marker.ofSegment? segment = some .append
      · rw [insertIn_hash_append hrest hm]
        exact ih hrest (hash fields o)
      · cases hl : fields.lookup (referredKey fields.length segment) with
        | some child =>
          obtain ⟨front, behind, hbefore, hafter⟩ := exists_leavesFields_putEntry hl
          rw [insertIn_of_lookup hw hrest hm hl, hbefore]
          exact (ih hrest child).between (hafter _) rfl
        | none =>
          by_cases href : Marker.ofSegment? segment ≠ none ∨ parseIndex? segment ≠ none
          · left
            rw [insertIn_of_lookup_none hw hrest hm href hl]
            exact ⟨rfl, fun _ => Option.some_ne_none _⟩
          · have hmarker : Marker.ofSegment? segment = none := Decidable.of_not_not (not_or.1 href).1
            have hindex : parseIndex? segment = none := Decidable.of_not_not (not_or.1 href).2
            rw [referredKey_of_marker_none hmarker] at hl
            rw [insertIn_new hw hrest hmarker hindex hl]
            exact (ih hrest (hash [] _)).made (leavesFields_putEntry_new hl _) rfl

/-- One segment in an array. -/
private theorem gainsLeaves_array
    (hlast : rest = [] → Marker.ofSegment? segment ≠ some .first ∧ Marker.ofSegment? segment ≠ some .last) :
    GainsLeaves v (Decisive (segment :: rest)) (leavesItems items)
      (insertIn .append v (segment :: rest) (array items o)) := by
  have hpush : GainsLeaves v (Decisive [segment]) (leavesItems items) (array (pushItem o items v) o, none) :=
    .added (leavesItems_pushItem o items v) rfl
  have hinto {i : Nat} {fs : List (String × Value)} {p : Option String} (hrest : rest ≠ [])
      (hi : items[i]? = some (hash fs p)) : GainsLeaves v (Decisive (segment :: rest)) (leavesItems items)
        (array (items.set i (insertIn .append v rest (hash fs p)).1) o, (insertIn .append v rest (hash fs p)).2) := by
    obtain ⟨front, behind, hbefore, hafter⟩ := exists_leavesItems_set hi
    rw [hbefore]
    exact (ih hrest (hash fs p)).between (hafter _) rfl
  by_cases hw : segment = wildcard
  · left
    rw [hw, insertIn_array_wildcard]
    exact ⟨rfl, fun hd => absurd rfl (hd.2 wildcard List.mem_cons_self).1⟩
  · cases hm : Marker.ofSegment? segment with
    | some m =>
      by_cases happend : m = .append
      · subst happend
        by_cases hrest : rest = []
        · subst hrest
          rw [insertIn_array_append_nil hm]
          exact hpush
        · rw [insertIn_array_append hrest hm]
          exact .pushMade fun p => ih hrest (hash [] p)
      · have hrest : rest ≠ [] := by
          intro hnil
          cases m with
          | append => exact happend rfl
          | first => exact (hlast hnil).1 hm
          | last => exact (hlast hnil).2 hm
        by_cases hitem : ∃ fs p, items[m.itemPosition items.length]? = some (hash fs p)
        · obtain ⟨fs, p, hi⟩ := hitem
          rw [insertIn_array_position_hash hrest hm happend hi]
          exact hinto hrest hi
        · left
          rw [insertIn_array_position_other hrest hm happend fun fs p hi => hitem ⟨fs, p, hi⟩]
          exact ⟨rfl, fun hd => absurd ((hd.2 segment List.mem_cons_self).2 m hm) happend⟩
    | none =>
      cases hn : parseIndex? segment with
      | some n =>
        by_cases hrest : rest = []
        · subst hrest
          rw [insertIn_array_index_nil hn]
          exact hpush
        · by_cases hitem : ∃ fs p, 0 < n ∧ items[n - 1]? = some (hash fs p)
          · obtain ⟨fs, p, hpos, hi⟩ := hitem
            rw [insertIn_array_index_hash hrest hn hpos hi]
            exact hinto hrest hi
          · rw [insertIn_array_index_other hrest hn fun fs p hpos hi => hitem ⟨fs, p, hpos, hi⟩]
            exact .pushMade fun p => ih hrest (hash [] p)
      | none =>
        -- the same path goes on in the new item
        rw [insertIn_array_name hw hm hn]
        exact .pushMade fun p => gainsLeaves_hash ih

end

/-- Appending at a path that ends in neither `$first` nor `$last`. -/
theorem gainsLeaves_insertIn (v : Value) (hfirst : path.lastMarker? ≠ some .first)
    (hlast : path.lastMarker? ≠ some .last) (t : Value) :
    GainsLeaves v (Decisive path) t.leaves (insertIn .append v path t) := by
  induction path generalizing t with
  | nil => cases t <;> exact Or.inl ⟨rfl, fun hd => absurd rfl hd.1⟩
  | cons segment rest ih =>
    have hrest : rest ≠ [] → ∀ t, GainsLeaves v (Decisive (segment :: rest)) t.leaves (insertIn .append v rest t) := by
      intro hne t
      have hsame : Path.lastMarker? rest = Path.lastMarker? (segment :: rest) := by
        rw [Path.lastMarker?, Path.lastMarker?, List.getLast?_cons_of_ne_nil hne]
      exact (ih (hsame ▸ hfirst) (hsame ▸ hlast) t).weaken (Decisive.tail hne)
    cases t with
    | string t o => exact Or.inl ⟨rfl, fun _ => Option.some_ne_none _⟩
    | hash fields o => exact gainsLeaves_hash hrest
    | array items o =>
      refine gainsLeaves_array hrest ?_
      rintro rfl
      exact ⟨hfirst, hlast⟩

end Value

/-- Appending a value at a path keeps the leaves of the hash in their order, and the new leaves are those of the value,
or there are none. There are none if the insertion fails, and if the path has no wildcard, `$first` or `$last`, then
only if it fails. -/
theorem Hash.leaves_insert_append (h : Hash) (path : Path) (v : Value) (hfirst : path.lastMarker? ≠ some .first)
    (hlast : path.lastMarker? ≠ some .last) :
    let after := h.insert .append path v
    h.leaves.Sublist after.1.leaves ∧
      (after.1.leaves = h.leaves ∧ (Value.Decisive path → after.2 ≠ none) ∨
        after.2 = none ∧ after.1.leaves.Perm (h.leaves ++ v.leaves)) := by
  intro after
  have hgains := Value.gainsLeaves_insertIn v hfirst hlast h.toValue
  rw [← h.insert_toValue .append path v] at hgains
  rcases hgains with ⟨hsame, hfails⟩ | ⟨hok, hsplit⟩
  · have hleaves : after.1.leaves = h.leaves := hsame
    exact ⟨hleaves ▸ List.Sublist.refl _, Or.inl ⟨hleaves, hfails⟩⟩
  · exact ⟨hsplit.sublist, Or.inr ⟨hok, hsplit.perm⟩⟩

/-- A field name that meets an array makes an item of its own, and a text below which nothing can be is an error. -/
theorem Hash.leaves_insert_append_item :
    let h : Hash := ⟨[("a", .array [.hash [("b", .ofString "x")] none, .ofString "y"] none)], none⟩
    let v : Value := .ofList [.ofString "u", .ofString "w"]
    (h.leaves.Sublist (h.insert .append ["a", "b"] v).1.leaves ∧
      (h.insert .append ["a", "b"] v).1.leaves.Perm (h.leaves ++ v.leaves)) ∧
      (h.insert .append ["a", "1", "b", "c"] v).1.leaves = h.leaves := by
  intro h v
  have hinto := leaves_insert_append h ["a", "b"] v (by decide) (by decide)
  have hfails := leaves_insert_append h ["a", "1", "b", "c"] v (by decide) (by decide)
  refine ⟨⟨hinto.1, ?_⟩, ?_⟩
  · refine (hinto.2.resolve_left fun hnone => hnone.2 ?_ (by decide)).2
    exact ⟨List.cons_ne_nil _ _, by decide⟩
  · refine (hfails.2.resolve_right fun hok => ?_).1
    exact absurd hok.1 (by decide)

end RecordFix
