import RecordFix.Proofs.Reached

/-!
# Removing what is found

A removal takes away the leaves that a lookup of the same path finds, and no other (`Hash.splits_remove`). If the path
has no positions, it finds nothing afterwards (`Value.findIn_removeIn`).
-/

namespace RecordFix

/-- Whether a list consists of what is kept, in its order, and of what is left out. -/
structure Splits {α : Type} (all kept out : List α) : Prop where
  perm : all.Perm (kept ++ out)
  sublist : kept.Sublist all

namespace Splits

variable {α : Type} {all kept out all' kept' out' : List α}

theorem keep (all : List α) : Splits all all [] := ⟨by rw [List.append_nil], List.Sublist.refl all⟩

theorem leaveOut (all : List α) : Splits all [] all := ⟨List.Perm.refl all, List.nil_sublist all⟩

theorem append (h : Splits all kept out) (h' : Splits all' kept' out') :
    Splits (all ++ all') (kept ++ kept') (out ++ out') := by
  refine ⟨?_, h.sublist.append h'.sublist⟩
  calc
    (all ++ all').Perm ((kept ++ out) ++ (kept' ++ out')) := h.perm.append h'.perm
    _ = kept ++ ((out ++ kept') ++ out') := by simp only [List.append_assoc]
    List.Perm _ (kept ++ ((kept' ++ out) ++ out')) := (List.perm_append_comm.append_right out').append_left kept
    _ = (kept ++ kept') ++ (out ++ out') := by simp only [List.append_assoc]

end Splits

namespace Value

variable {v : Value} {vs items : List Value} {fs fields : List (String × Value)} {path : Path} {i : Nat}

/-! ### Leaves -/

theorem map_snd_reached_nil (v : Value) : (reached [] v).map (·.2) = v.leaves := by
  rw [← leaves_findIn (findIn_nil v), Option.toList_some, leavesItems_singleton]

/-- An array without the item at a position, if there is one. -/
private theorem splits_eraseIdx (n : Nat) :
    Splits (leavesItems vs) (leavesItems (vs.eraseIdx n)) ((reachedItems (· == i + n) [] i vs).map (·.2)) := by
  induction vs generalizing n i with
  | nil => exact Splits.keep []
  | cons v vs ih =>
    cases n with
    | zero =>
      have hrest : reachedItems (· == i + 0) [] (i + 1) vs = [] := reachedItems_eq_nil fun j hj => by simp; omega
      have hsplit := (Splits.leaveOut v.leaves).append (Splits.keep (leavesItems vs))
      rw [List.append_nil, List.nil_append] at hsplit
      rw [reachedItems, hrest, List.append_nil, Nat.add_zero, if_pos (beq_self_eq_true i), map_snd_underChild,
        map_snd_reached_nil]
      exact hsplit
    | succ n =>
      have hskip : (i == i + (n + 1)) = false := by simp
      rw [reachedItems, hskip, if_neg Bool.false_ne_true, List.map_nil, List.nil_append,
        show i + (n + 1) = i + 1 + n by omega]
      exact (Splits.keep v.leaves).append (ih n)

private theorem leavesItems_eraseItem (o : Option String) (items : List Value) (n : Nat) :
    leavesItems (eraseItem o items n) = leavesItems (items.eraseIdx n) := by
  unfold eraseItem
  split
  · exact leavesItems_rebaseItems o 1 _
  · rw [List.eraseIdx_of_length_le (by omega)]

mutual

/-- A removal takes away the leaves that its path reaches. -/
theorem splits_removeIn : ∀ (v : Value) {path : Path}, path ≠ [] →
    Splits v.leaves (removeIn path v).leaves ((reached path v).map (·.2))
  | string t o, path, hpath => by
    unfold removeIn reached
    rw [if_neg (by simpa using hpath)]
    exact Splits.keep _
  | array items o, segment :: rest, _ => by
    unfold removeIn reached itemTest itemPath
    dsimp only
    cases ItemChoice.ofSegment items.length segment with
    | nothing =>
      dsimp only
      rw [reachedItems_eq_nil fun _ _ => rfl]
      exact Splits.keep _
    | through => exact splits_removeItems _ items (List.cons_ne_nil _ _) 0
    | all =>
      cases rest with
      | nil =>
        have hitems : leavesItems items = (reachedItems (fun _ => true) [] 0 items).map (·.2) :=
          leaves_findItems (findItems_nil items) 0
        dsimp only
        rw [← hitems]
        exact Splits.leaveOut _
      | cons next rest => exact splits_removeItems _ items (List.cons_ne_nil _ _) 0
    | position n =>
      cases rest with
      | nil =>
        have hitems : Splits (leavesItems items) (leavesItems (items.eraseIdx n))
            ((reachedItems (· == 0 + n) [] 0 items).map (·.2)) := splits_eraseIdx n
        rw [Nat.zero_add, ← leavesItems_eraseItem o] at hitems
        exact hitems
      | cons next rest => exact splits_removeItems _ items (List.cons_ne_nil _ _) 0
  | hash fields o, segment :: rest, _ => by
    unfold removeIn reached nameTest
    exact splits_removeFields _ fields rest 0

theorem splits_removeItems (test : Nat → Bool) : ∀ (vs : List Value) {path : Path}, path ≠ [] → ∀ i,
    Splits (leavesItems vs) (leavesItems (removeItems test path i vs)) ((reachedItems test path i vs).map (·.2))
  | [], _, _, _ => Splits.keep []
  | v :: vs, path, hpath, i => by
    have hrest := splits_removeItems test vs hpath (i + 1)
    rw [removeItems, reachedItems, List.map_append, map_snd_underChild]
    refine Splits.append ?_ hrest
    split
    · exact splits_removeIn v hpath
    · exact Splits.keep _

theorem splits_removeFields (test : String → Bool) : ∀ (fs : List (String × Value)) (path : Path) (i : Nat),
    Splits (leavesFields fs) (leavesFields (removeFields test path fs)) ((reachedFields test path i fs).map (·.2))
  | [], _, _ => Splits.keep []
  | (k, v) :: fs, path, i => by
    have hrest := splits_removeFields test fs path (i + 1)
    rw [removeFields, reachedFields, List.map_append, map_snd_underChild]
    split
    · cases path with
      | nil =>
        -- the field goes as a whole
        rw [map_snd_reached_nil]
        exact (Splits.leaveOut v.leaves).append hrest
      | cons segment rest => exact (splits_removeIn v (List.cons_ne_nil _ _)).append hrest
    · exact (Splits.keep v.leaves).append hrest

end

/-! ### Looking up what was removed -/

/-- Whether no segment of a path is an index or a marker. -/
def NoPositions (path : Path) : Prop := ∀ segment ∈ path, parseIndex? segment = none ∧ Marker.ofSegment? segment = none

theorem NoPositions.tail {segment : String} {rest : Path} (h : NoPositions (segment :: rest)) : NoPositions rest :=
  fun s hs => h s (List.mem_cons_of_mem _ hs)

private theorem ofSegment_of_no_position {segment : String}
    (h : parseIndex? segment = none ∧ Marker.ofSegment? segment = none) (size : Nat) :
    ItemChoice.ofSegment size segment = if segment == wildcard then .all else .through := by
  unfold ItemChoice.ofSegment
  rw [h.1, h.2]

private theorem fieldTest_of_no_position {segment : String}
    (h : parseIndex? segment = none ∧ Marker.ofSegment? segment = none) (size size' : Nat) :
    fieldTest size segment = fieldTest size' segment := by
  funext name
  unfold fieldTest
  rw [h.2]

private theorem isString_removeIn (path : Path) (v : Value) : (removeIn path v).isString = v.isString := by
  cases v with
  | string t o => rfl
  | array items o =>
    unfold removeIn
    split
    · rfl
    · split <;> rfl
  | hash fields o => cases path <;> rfl

mutual

/-- What was removed at a path without positions is not found afterwards. -/
theorem findIn_removeIn : ∀ (v : Value) {path : Path} {found : Option Value}, path ≠ [] → NoPositions path →
    v.findIn path = .ok found → (removeIn path v).findIn path = .ok none
  | string t o, path, found, hpath, _, _ => by
    unfold removeIn findIn
    rw [if_neg (by simpa using hpath)]
  | array items o, segment :: rest, found, hpath, hno, hf => by
    have hchoice := ofSegment_of_no_position (hno segment List.mem_cons_self)
    unfold findIn at hf
    unfold removeIn
    -- a segment that is no position goes to all items, or leads through the array
    by_cases hw : (segment == wildcard) = true
    · simp only [hchoice, hw, ↓reduceIte] at hf ⊢
      obtain ⟨vs, hvs, -⟩ := exists_of_map_eq_ok hf
      have hnone : findItems rest (if rest.isEmpty then [] else removeItems (fun _ => true) rest 0 items) = .ok [] := by
        cases rest with
        | nil => rfl
        | cons next rest => exact findItems_removeItems items (List.cons_ne_nil _ _) hno.tail hvs 0
      unfold findIn
      simp only [hchoice, hw, ↓reduceIte, hnone]
      rfl
    · simp only [hchoice, hw, Bool.false_eq_true, ↓reduceIte] at hf ⊢
      obtain ⟨vs, hvs, -⟩ := exists_of_map_eq_ok hf
      have hnone := findItems_removeItems items hpath hno hvs 0
      unfold findIn
      simp only [hchoice, hw, Bool.false_eq_true, ↓reduceIte, hnone]
      rfl
  | hash fields o, segment :: rest, found, _, hno, hf => by
    have htest := fieldTest_of_no_position (hno segment List.mem_cons_self)
    unfold findIn at hf
    unfold removeIn findIn
    dsimp only at hf ⊢
    -- the hash may be smaller now, which matters to markers only
    by_cases hw : (segment == wildcard) = true
    · rw [if_pos hw] at hf ⊢
      have hall : fieldTest fields.length segment = fun _ => true := by rw [eq_of_beq hw, fieldTest_wildcard]
      obtain ⟨vs, hvs, -⟩ := exists_of_map_eq_ok hf
      rw [hall, findFields_removeFields false _ fields hno.tail hvs]
      rfl
    · rw [if_neg hw] at hf ⊢
      obtain ⟨vs, hvs, -⟩ := exists_of_map_eq_ok hf
      rw [htest _ fields.length, findFields_removeFields true _ fields hno.tail hvs]
      rfl

theorem findItems_removeItems : ∀ (vs : List Value) {path : Path} {found : List Value}, path ≠ [] → NoPositions path →
    findItems path vs = .ok found → ∀ i, findItems path (removeItems (fun _ => true) path i vs) = .ok []
  | [], _, _, _, _, _, _ => rfl
  | v :: vs, path, found, hpath, hno, hf, i => by
    obtain ⟨first, hfirst, hf⟩ := exists_of_bind_eq_ok hf
    obtain ⟨more, hmore, hf⟩ := exists_of_bind_eq_ok hf
    rw [removeItems, if_pos rfl, findItems, findIn_removeIn v hpath hno hfirst,
      findItems_removeItems vs hpath hno hmore (i + 1)]
    rfl

theorem findFields_removeFields (strict : Bool) (test : String → Bool) : ∀ (fs : List (String × Value)) {path : Path}
    {found : List Value}, NoPositions path → findFields strict test path fs = .ok found →
    findFields strict test path (removeFields test path fs) = .ok []
  | [], _, _, _, _ => rfl
  | (k, v) :: fs, path, found, hno, hf => by
    unfold findFields at hf
    unfold removeFields
    split at hf
    · rename_i hk
      rw [if_pos hk]
      split at hf
      · cases hf
      · rename_i hstring
        obtain ⟨first, hfirst, hf⟩ := exists_of_bind_eq_ok hf
        obtain ⟨more, hmore, hf⟩ := exists_of_bind_eq_ok hf
        have hrest := findFields_removeFields strict test fs hno hmore
        cases path with
        | nil => exact hrest
        | cons segment rest =>
          have hfound := findIn_removeIn v (List.cons_ne_nil _ _) hno hfirst
          rw [← isString_removeIn (segment :: rest)] at hstring
          show findFields strict test (segment :: rest)
            ((k, removeIn (segment :: rest) v) :: removeFields test (segment :: rest) fs) = _
          rw [findFields, if_pos hk, if_neg hstring, hfound, hrest]
          rfl
    · rename_i hk
      rw [if_neg hk, findFields, if_neg hk]
      exact findFields_removeFields strict test fs hno hf

end

end Value

/-- What is found at a path is what a removal takes away. The leaves of a hash are those that are left and those of
what is found, and the leaves that are left keep their order. If no segment of the path is an index or a marker, the
path finds nothing afterwards. -/
theorem Hash.splits_remove {h : Hash} {path : Path} (hpath : path ≠ []) {found : Option Value}
    (hf : h.find path = .ok found) :
    h.leaves.Perm ((h.remove path).leaves ++ Value.leavesItems found.toList) ∧
      (h.remove path).leaves.Sublist h.leaves ∧
      (Value.NoPositions path → (h.remove path).find path = .ok none) := by
  have hvalue : (h.remove path).toValue = Value.removeIn path h.toValue := by
    cases path with
    | nil => exact absurd rfl hpath
    | cons segment rest => rfl
  have hsplit := Value.splits_removeIn h.toValue hpath
  rw [← hvalue, ← Value.leaves_findIn hf] at hsplit
  refine ⟨hsplit.perm, hsplit.sublist, fun hno => ?_⟩
  have hnone := Value.findIn_removeIn h.toValue hpath hno hf
  rw [← hvalue] at hnone
  exact hnone

/-- A field name goes through an array and an array in it. -/
theorem Hash.splits_remove_through :
    let h : Hash := ⟨[("a", .array [.hash [("b", .ofString "x"), ("c", .ofString "y")] none,
      .array [.hash [("b", .ofString "z")] none] none] none)], none⟩
    let found : Option Value := some (.ofList [.ofString "x", .ofList [.ofString "z"]])
    h.leaves.Perm ((h.remove ["a", "b"]).leaves ++ Value.leavesItems found.toList) ∧
      (h.remove ["a", "b"]).leaves.Sublist h.leaves ∧
      (h.remove ["a", "b"]).find ["a", "b"] = .ok none := by
  intro h found
  have hf : h.find ["a", "b"] = .ok found := by rfl
  have hno : Value.NoPositions ["a", "b"] := by
    unfold Value.NoPositions
    decide
  obtain ⟨hperm, hsublist, hnone⟩ := Hash.splits_remove (List.cons_ne_nil _ _) hf
  exact ⟨hperm, hsublist, hnone hno⟩

end RecordFix
