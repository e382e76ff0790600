import RecordFix.Proofs.Editing

/-!
# What an edit refuses

An edit with an operator that always answers fails for what the path leads to, and not for what the operator does: the
path ends at a hash, or it goes on beyond a text in a field (`Value.isSome_failure_editIn`). A lookup of the same path
that succeeds tells which of these it is. It has found a hash, or it has passed by a text that a wildcard led to, which
an edit does not (`Hash.failure_edit_iff`). An edit that reaches no text changes nothing.
-/

namespace RecordFix

variable {σ ε : Type}

/-- Whether an operator never fails. -/
def TextEdit.Answers (edit : TextEdit σ ε) : Prop := ∀ t s, ∃ answer, (edit t s).1 = .ok answer

namespace Value

variable {fail : ValueError → ε} {edit : TextEdit σ ε} {v : Value} {vs items : List Value}
  {fs fields : List (String × Value)} {path : Path} {strict : Bool} {s : σ} {i : Nat}

/-! ### The nodes at which an edit fails -/

mutual

/-- Whether a path leads to a hash at its end or, in strict mode and below a field, on beyond a text. -/
def refuses (strict : Bool) (path : Path) : Value → Bool
  | string _ _ => strict && !path.isEmpty
  | array items _ => refusesItems (itemTest items.length path) (itemPath items.length path) 0 items
  | hash fields _ => path.isEmpty || refusesFields (nameTest fields.length path) path.tail fields

def refusesItems (test : Nat → Bool) (path : Path) (i : Nat) : List Value → Bool
  | [] => false
  | v :: vs => test i && refuses false path v || refusesItems test path (i + 1) vs

def refusesFields (test : String → Bool) (path : Path) : List (String × Value) → Bool
  | [] => false
  | (k, v) :: fs => test k && refuses true path v || refusesFields test path fs

end

private theorem isSome_failure_consEdited {α : Type} (first : Edited σ ε α) (others : List α)
    (more : σ → Edited σ ε (List α)) : (consEdited first others more).failure.isSome =
      (first.failure.isSome || (more first.state).failure.isSome) := by
  unfold consEdited
  cases hfirst : first.failure <;> rfl

private theorem failure_closeItems (o : Option String) (edited : Edited σ ε (List EditedChild)) :
    (closeItems o edited).failure = edited.failure := by
  unfold closeItems
  cases hfailure : edited.failure <;> rfl

private theorem failure_closeFields (o : Option String) (edited : Edited σ ε (List (String × EditedChild))) :
    (closeFields o edited).failure = edited.failure := by
  unfold closeFields
  cases hfailure : edited.failure <;> rfl

mutual

/-- An edit with an operator that always answers fails exactly at the nodes that it refuses. -/
theorem isSome_failure_editIn (hedit : edit.Answers) : ∀ (v : Value) (strict : Bool) (path : Path) (s : σ),
    (editIn fail edit strict path s v).failure.isSome = refuses strict path v
  | string t o, strict, path, s => by
    unfold editIn refuses
    cases path with
    | nil =>
      obtain ⟨answer, hanswer⟩ := hedit t s
      cases hresult : edit t s with
      | mk result s' =>
        rw [hresult] at hanswer
        obtain rfl : result = .ok answer := hanswer
        cases answer <;> simp
    | cons segment rest => cases strict <;> rfl
  | array items o, strict, path, s => by
    rw [editIn_array, failure_closeItems, isSome_failure_editItems hedit items, refuses]
  | hash fields o, strict, [], s => by
    unfold editIn refuses
    rfl
  | hash fields o, strict, segment :: rest, s => by
    rw [editIn_hash, failure_closeFields, isSome_failure_editFields hedit fields]
    rfl

theorem isSome_failure_editItems (hedit : edit.Answers) : ∀ (vs : List Value) (test : Nat → Bool) (path : Path)
    (i : Nat) (s : σ), (editItems fail edit test path i s vs).failure.isSome = refusesItems test path i vs
  | [], _, _, _, _ => rfl
  | v :: vs, test, path, i, s => by
    rw [editItems_cons, isSome_failure_consEdited, isSome_failure_editItems hedit vs, refusesItems]
    congr 1
    cases test i with
    | false => rfl
    | true => exact isSome_failure_editIn hedit v false path s

theorem isSome_failure_editFields (hedit : edit.Answers) : ∀ (fs : List (String × Value)) (test : String → Bool)
    (path : Path) (s : σ), (editFields fail edit test path s fs).failure.isSome = refusesFields test path fs
  | [], _, _, _ => rfl
  | (k, v) :: fs, test, path, s => by
    rw [editFields_cons, isSome_failure_consEdited, isSome_failure_editFields hedit fs, refusesFields]
    congr 1
    cases test k with
    | false => rfl
    | true => exact isSome_failure_editIn hedit v true path s

end

/-! ### No text to edit -/

private theorem consEdited_unchanged {α : Type} {first : Edited σ ε α} {c : α} {others : List α}
    {more : σ → Edited σ ε (List α)} (hfirst : first.node = c ∧ first.state = s)
    (hmore : (more s).node = others ∧ (more s).state = s) :
    (consEdited first others more).node = c :: others ∧ (consEdited first others more).state = s := by
  obtain ⟨node, state, failure⟩ := first
  obtain ⟨rfl, rfl⟩ := hfirst
  unfold consEdited
  cases failure with
  | some e => exact ⟨rfl, rfl⟩
  | none => exact ⟨congrArg _ hmore.1, hmore.2⟩

private theorem closeItems_unchanged {o : Option String} {edited : Edited σ ε (List EditedChild)}
    (h : edited.node = items.map ({ value := · }) ∧ edited.state = s) :
    (closeItems o edited).node = { value := array items o } ∧ (closeItems o edited).state = s := by
  have hvalues : (items.map fun v => ({ value := v } : EditedChild)).map (·.value) = items := by
    rw [List.map_map]
    exact List.map_id items
  have hsettled : settleItems o (items.map ({ value := · })) = items := by
    have hkept : (items.map fun v => ({ value := v } : EditedChild)).any (·.removed) = false := by simp
    rw [settleItems, hkept, if_neg Bool.false_ne_true, hvalues]
  unfold closeItems
  rw [h.1]
  split
  · rw [hvalues]
    exact ⟨rfl, h.2⟩
  · rw [hsettled]
    exact ⟨rfl, h.2⟩

private theorem closeFields_unchanged {o : Option String} {edited : Edited σ ε (List (String × EditedChild))}
    (h : edited.node = fields.map (fun f => (f.1, { value := f.2 })) ∧ edited.state = s) :
    (closeFields o edited).node = { value := hash fields o } ∧ (closeFields o edited).state = s := by
  have hvalues : (fields.map fun f => (f.1, ({ value := f.2 } : EditedChild))).map (fun f => (f.1, f.2.value)) =
      fields := by
    rw [List.map_map]
    exact List.map_id fields
  have hsettled : settleFields (fields.map fun f => (f.1, { value := f.2 })) = fields := by
    have hkept : (fields.map fun f => (f.1, ({ value := f.2 } : EditedChild))).filter (!·.2.removed) =
        fields.map fun f => (f.1, { value := f.2 }) := by
      rw [List.filter_eq_self]
      intro f hf
      obtain ⟨g, -, rfl⟩ := List.mem_map.1 hf
      rfl
    rw [settleFields, hkept]
    exact hvalues
  unfold closeFields
  rw [h.1]
  split
  · rw [hvalues]
    exact ⟨rfl, h.2⟩
  · rw [hsettled]
    exact ⟨rfl, h.2⟩

private theorem editChild_unchanged {b : Bool} (hnone : (if b then reached path v else []).map (underChild i) = [])
    (hv : reached path v = [] →
      (editIn fail edit strict path s v).node = { value := v } ∧ (editIn fail edit strict path s v).state = s) :
    (editChild fail edit b strict path s v).node = { value := v } ∧
      (editChild fail edit b strict path s v).state = s := by
  cases b with
  | false => exact ⟨rfl, rfl⟩
  | true => exact hv (List.map_eq_nil_iff.1 hnone)

mutual

/-- An edit that reaches no text leaves the value as it is, also when it fails. -/
theorem editIn_of_reached_nil : ∀ (v : Value) {strict : Bool} {path : Path} {s : σ}, reached path v = [] →
    (editIn fail edit strict path s v).node = { value := v } ∧ (editIn fail edit strict path s v).state = s
  | string t o, strict, path, s, hnone => by
    unfold reached at hnone
    unfold editIn
    split at hnone
    · cases hnone
    · rename_i hpath
      rw [if_neg hpath]
      exact ⟨rfl, rfl⟩
  | array items o, strict, path, s, hnone => by
    rw [editIn_array]
    exact closeItems_unchanged (editItems_of_reached_nil items hnone)
  | hash fields o, strict, [], s, _ => ⟨rfl, rfl⟩
  | hash fields o, strict, segment :: rest, s, hnone => by
    rw [editIn_hash]
    exact closeFields_unchanged (editFields_of_reached_nil fields hnone)

theorem editItems_of_reached_nil : ∀ (vs : List Value) {test : Nat → Bool} {path : Path} {i : Nat} {s : σ},
    reachedItems test path i vs = [] →
    (editItems fail edit test path i s vs).node = vs.map ({ value := · }) ∧
      (editItems fail edit test path i s vs).state = s
  | [], _, _, _, _, _ => ⟨rfl, rfl⟩
  | v :: vs, test, path, i, s, hnone => by
    obtain ⟨hfirst, hmore⟩ := List.append_eq_nil_iff.1 hnone
    rw [editItems_cons]
    exact consEdited_unchanged (editChild_unchanged hfirst fun h => editIn_of_reached_nil v h)
      (editItems_of_reached_nil vs hmore)

theorem editFields_of_reached_nil : ∀ (fs : List (String × Value)) {test : String → Bool} {path : Path} {i : Nat}
    {s : σ}, reachedFields test path i fs = [] →
    (editFields fail edit test path s fs).node = fs.map (fun f => (f.1, { value := f.2 })) ∧
      (editFields fail edit test path s fs).state = s
  | [], _, _, _, _, _ => ⟨rfl, rfl⟩
  | (k, v) :: fs, test, path, i, s, hnone => by
    obtain ⟨hfirst, hmore⟩ := List.append_eq_nil_iff.1 hnone
    have hchild : (editChild fail edit (test k) true path s v).node = { value := v } ∧
        (editChild fail edit (test k) true path s v).state = s :=
      editChild_unchanged hfirst fun h => editIn_of_reached_nil v h
    rw [editFields_cons]
    exact consEdited_unchanged ⟨congrArg (Prod.mk k) hchild.1, hchild.2⟩ (editFields_of_reached_nil fs hmore)

end

/-! ### Hashes in what is found -/

mutual

/-- Whether a value is a hash or an array that holds one, in itself or in the arrays in it. -/
def holdsHash : Value → Bool
  | string _ _ => false
  | array items _ => holdsHashItems items
  | hash _ _ => true

def holdsHashItems : List Value → Bool
  | [] => false
  | v :: vs => holdsHash v || holdsHashItems vs

end

private theorem holdsHashItems_append (vs ws : List Value) :
    holdsHashItems (vs ++ ws) = (holdsHashItems vs || holdsHashItems ws) := by
  induction vs with
  | nil => rfl
  | cons v vs ih => rw [List.cons_append, holdsHashItems, holdsHashItems, ih, Bool.or_assoc]

private theorem holdsHashItems_singleton (v : Value) : holdsHashItems [v] = v.holdsHash := Bool.or_false _

mutual

private theorem holdsHash_rebase (o : Option String) : ∀ v : Value, (v.rebase o).holdsHash = v.holdsHash
  | string _ _ => rfl
  | array items _ => holdsHashItems_rebaseItems o 1 items
  | hash _ _ => rfl

private theorem holdsHashItems_rebaseItems (o : Option String) (i : Nat) :
    ∀ vs : List Value, holdsHashItems (rebaseItems o i vs) = holdsHashItems vs
  | [] => rfl
  | v :: vs => by
    rw [rebaseItems, holdsHashItems, holdsHashItems, holdsHash_rebase _ v, holdsHashItems_rebaseItems o (i + 1) vs]

end

private theorem holdsHash_ofList (vs : List Value) : (ofList vs).holdsHash = holdsHashItems vs :=
  holdsHashItems_rebaseItems none 1 vs

private theorem holdsHashItems_flatMap_toList (vs : List Value) :
    holdsHashItems (vs.flatMap toList) = holdsHashItems vs := by
  induction vs with
  | nil => rfl
  | cons v vs ih =>
    have hv : holdsHashItems v.toList = v.holdsHash := by
      cases v with
      | array items o => rfl
      | string t o => exact holdsHashItems_singleton _
      | hash fields o => exact holdsHashItems_singleton _
    rw [List.flatMap_cons, holdsHashItems_append, hv, ih, holdsHashItems]

private theorem holdsHashItems_collect (vs : List Value) : holdsHashItems (collect vs).toList = holdsHashItems vs := by
  cases vs with
  | nil => rfl
  | cons v vs => exact (holdsHashItems_singleton _).trans (holdsHash_ofList _)

private theorem holdsHashItems_merge (vs : List Value) : holdsHashItems (merge vs).toList = holdsHashItems vs := by
  match vs with
  | [] => rfl
  | [v] => rfl
  | v :: w :: vs =>
    have hlist : holdsHashItems [ofList ((v :: w :: vs).flatMap toList)] = holdsHashItems (v :: w :: vs) := by
      rw [holdsHashItems_singleton, holdsHash_ofList, holdsHashItems_flatMap_toList]
    exact hlist

/-! ### Texts that a lookup passes by and an edit does not -/

mutual

/-- Whether a wildcard of the path, which is not its end, leads to a text in a field of a hash. -/
def overruns (path : Path) : Value → Bool
  | string _ _ => false
  | array items _ => overrunsItems (itemTest items.length path) (itemPath items.length path) 0 items
  | hash fields _ =>
    path.head? == some wildcard && !path.tail.isEmpty && fields.any (·.2.isString) ||
      overrunsFields (nameTest fields.length path) path.tail fields

def overrunsItems (test : Nat → Bool) (path : Path) (i : Nat) : List Value → Bool
  | [] => false
  | v :: vs => test i && overruns path v || overrunsItems test path (i + 1) vs

def overrunsFields (test : String → Bool) (path : Path) : List (String × Value) → Bool
  | [] => false
  | (k, v) :: fs => test k && overruns path v || overrunsFields test path fs

end

/-- A field is refused also if it is a text with more of the path to come. -/
private theorem refuses_true (path : Path) (v : Value) :
    refuses true path v = (!path.isEmpty && v.isString || refuses false path v) := by
  cases v with
  | string t o => simp [refuses, isString]
  | array items o => simp [refuses, isString]
  | hash fields o => simp [refuses, isString]

/-- No item is refused where the path goes on to none. -/
private theorem refusesItems_of_false {test : Nat → Bool} (path : Path) (vs : List Value)
    (h : ∀ j, i ≤ j → test j = false) :
    refusesItems test path i vs = false ∧ overrunsItems test path i vs = false := by
  induction vs generalizing i with
  | nil => exact ⟨rfl, rfl⟩
  | cons v vs ih =>
    obtain ⟨hrefuses, hoverruns⟩ := ih (i := i + 1) fun j hj => h j (by omega)
    rw [refusesItems, overrunsItems, h i (Nat.le_refl i), hrefuses, hoverruns]
    exact ⟨rfl, rfl⟩

mutual

/-- If a lookup succeeds, an edit refuses the hashes in what is found and the texts that a wildcard leads beyond. -/
theorem refuses_eq_of_findIn : ∀ {path : Path} {v : Value} {found : Option Value}, v.findIn path = .ok found →
    refuses false path v = (holdsHashItems found.toList || overruns path v)
  | path, string t o, found, hf => by
    unfold findIn at hf
    cases hf
    cases path <;> rfl
  | [], array items o, found, hf => by
    cases hf
    rw [Option.toList_some, holdsHashItems_singleton]
    exact refusesItems_eq_of_findItems (findItems_nil items) 0
  | segment :: rest, array items o, found, hf => by
    unfold findIn at hf
    unfold refuses overruns itemTest itemPath
    dsimp only at hf ⊢
    cases hc : ItemChoice.ofSegment items.length segment with
    | all =>
      rw [hc] at hf
      obtain ⟨vs, hvs, rfl⟩ := exists_of_map_eq_ok hf
      rw [holdsHashItems_collect]
      exact refusesItems_eq_of_findItems hvs 0
    | position n =>
      rw [hc] at hf
      have hitem := refusesItems_eq_of_findItem n hf 0
      rw [Nat.zero_add] at hitem
      exact hitem
    | nothing =>
      rw [hc] at hf
      cases hf
      have hno : ∀ j, 0 ≤ j → (fun _ : Nat => false) j = false := fun _ _ => rfl
      obtain ⟨hrefuses, hoverruns⟩ := refusesItems_of_false rest items hno
      dsimp only
      rw [hrefuses, hoverruns]
      rfl
    | through =>
      rw [hc] at hf
      obtain ⟨vs, hvs, rfl⟩ := exists_of_map_eq_ok hf
      rw [holdsHashItems_collect]
      exact refusesItems_eq_of_findItems hvs 0
  | [], hash fields o, found, hf => by
    cases hf
    rfl
  | segment :: rest, hash fields o, found, hf => by
    unfold findIn at hf
    unfold refuses overruns nameTest
    dsimp only at hf ⊢
    split at hf
    · rename_i hw
      obtain ⟨vs, hvs, rfl⟩ := exists_of_map_eq_ok hf
      rw [eq_of_beq hw, fieldTest_wildcard, holdsHashItems_collect, List.tail_cons, refusesFields_eq_of_findFields hvs]
      simp
    · rename_i hw
      obtain ⟨vs, hvs, rfl⟩ := exists_of_map_eq_ok hf
      have hno : (some segment == some wildcard) = false := by simpa using hw
      rw [holdsHashItems_merge, List.tail_cons, refusesFields_eq_of_findFields hvs, List.head?_cons, hno]
      simp

theorem refusesItems_eq_of_findItems : ∀ {path : Path} {items found : List Value}, findItems path items = .ok found →
    ∀ i, refusesItems (fun _ => true) path i items =
      (holdsHashItems found || overrunsItems (fun _ => true) path i items)
  | _, [], _, hf, _ => by
    cases hf
    rfl
  | path, v :: vs, found, hf, i => by
    obtain ⟨first, hfirst, hf⟩ := exists_of_bind_eq_ok hf
    obtain ⟨more, hmore, hf⟩ := exists_of_bind_eq_ok hf
    cases hf
    rw [refusesItems, overrunsItems, refuses_eq_of_findIn hfirst, refusesItems_eq_of_findItems hmore (i + 1),
      holdsHashItems_append]
    simp only [Bool.true_and]
    ac_rfl

theorem refusesItems_eq_of_findItem : ∀ {path : Path} {items : List Value} (n : Nat) {found : Option Value},
    findItem path n items = .ok found → ∀ i, refusesItems (· == i + n) path i items =
      (holdsHashItems found.toList || overrunsItems (· == i + n) path i items)
  | _, [], n, _, hf, _ => by
    cases n <;> cases hf <;> rfl
  | path, v :: vs, 0, found, hf, i => by
    have hno : ∀ j, i + 1 ≤ j → (j == i + 0) = false := by
      intro j hj
      simp
      omega
    obtain ⟨hrefuses, hoverruns⟩ := refusesItems_of_false path vs hno
    rw [refusesItems, overrunsItems, hrefuses, hoverruns, Nat.add_zero, refuses_eq_of_findIn hf]
    simp
  | path, v :: vs, n + 1, found, hf, i => by
    have hskip : (i == i + (n + 1)) = false := by simp
    rw [refusesItems, overrunsItems, hskip, Bool.false_and, Bool.false_or, Bool.false_and, Bool.false_or,
      show i + (n + 1) = i + 1 + n by omega]
    exact refusesItems_eq_of_findItem n hf (i + 1)

theorem refusesFields_eq_of_findFields : ∀ {strict : Bool} {test : String → Bool} {path : Path}
    {fields : List (String × Value)} {found : List Value}, findFields strict test path fields = .ok found →
    refusesFields test path fields = (holdsHashItems found ||
      (!strict && !path.isEmpty && (fields.any fun f => test f.1 && f.2.isString) || overrunsFields test path fields))
  | _, _, _, [], _, hf => by
    cases hf
    simp [refusesFields, holdsHashItems, overrunsFields]
  | strict, test, path, (k, v) :: fs, found, hf => by
    unfold findFields at hf
    rw [refusesFields, overrunsFields, List.any_cons, refuses_true]
    dsimp only
    split at hf
    · rename_i hk
      split at hf
      · cases hf
      · rename_i hstring
        obtain ⟨first, hfirst, hf⟩ := exists_of_bind_eq_ok hf
        obtain ⟨more, hmore, hf⟩ := exists_of_bind_eq_ok hf
        cases hf
        -- a strict lookup has failed at a text with more of the path to come
        have hbeyond : (!path.isEmpty && v.isString) = (!strict && !path.isEmpty && v.isString) := by
          cases strict with
          | false => rfl
          | true => simpa using hstring
        rw [refuses_eq_of_findIn hfirst, refusesFields_eq_of_findFields hmore, holdsHashItems_append, hk, hbeyond]
        simp only [Bool.true_and, Bool.and_or_distrib_left]
        ac_rfl
    · rename_i hk
      rw [refusesFields_eq_of_findFields hf, Bool.eq_false_iff.2 hk]
      simp

end

end Value

namespace Hash

variable {edit : TextEdit σ ε} {path : Path}

/-- An edit of a hash is one of the hash as a value. -/
private theorem edit_eq (fail : ValueError → ε) (edit : TextEdit σ ε) (h : Hash) (hpath : path ≠ []) (s : σ) :
    (h.edit fail edit path s).failure = (Value.editIn fail edit true path s h.toValue).failure ∧
      (h.edit fail edit path s).state = (Value.editIn fail edit true path s h.toValue).state ∧
      ((Value.editIn fail edit true path s h.toValue).node = { value := h.toValue } →
        (h.edit fail edit path s).node = h) := by
  unfold Hash.edit
  rw [if_neg (by simpa using hpath)]
  cases hedited : Value.editIn fail edit true path s h.toValue with
  | mk c s' failure =>
    dsimp only
    refine ⟨?_, ?_, ?_⟩
    · split <;> rfl
    · split <;> rfl
    · rintro rfl
      rfl

/-- Where a lookup succeeds, an edit with an operator that always answers fails in two cases only: there is a hash in
what was found, in itself or in arrays, or the lookup has passed by a text in a field that a wildcard led to. Where the
lookup finds nothing, the edit changes nothing. -/
theorem failure_edit_iff (fail : ValueError → ε) (hedit : edit.Answers) (h : Hash) (hpath : path ≠ []) (s : σ)
    {found : Option Value} (hf : h.find path = .ok found) :
    ((h.edit fail edit path s).failure = none ↔
      (∀ w, found = some w → w.holdsHash = false) ∧ h.toValue.overruns path = false) ∧
      (found = none → (h.edit fail edit path s).node = h ∧ (h.edit fail edit path s).state = s) := by
  obtain ⟨hfailure, hstate, hnode⟩ := edit_eq fail edit h hpath s
  constructor
  · have hrefuses : Value.refuses true path h.toValue =
        (Value.holdsHashItems found.toList || h.toValue.overruns path) := by
      rw [Value.refuses_true, Value.refuses_eq_of_findIn hf]
      simp [toValue, Value.isString]
    rw [hfailure, ← Option.isNone_iff_eq_none, ← Option.not_isSome, Value.isSome_failure_editIn hedit, hrefuses]
    cases found with
    | none => simp [Value.holdsHashItems]
    | some w => simp [Value.holdsHashItems]
  · rintro rfl
    have hnone : Value.reached path h.toValue = [] := List.map_eq_nil_iff.1 (Value.leaves_findIn hf).symm
    have hsame : (Value.editIn fail edit true path s h.toValue).node = { value := h.toValue } ∧
        (Value.editIn fail edit true path s h.toValue).state = s := Value.editIn_of_reached_nil h.toValue hnone
    exact ⟨hnode hsame.1, hstate.trans hsame.2⟩

/-- A text in a field that a wildcard leads beyond is passed by in a lookup, and is a mismatch in an edit. -/
theorem not_failure_edit :
    let h : Hash := ⟨[("a", .ofString "x")], none⟩
    h.find ["*", "b"] = .ok none ∧
      (h.edit id (.total some fun _ s => s) ["*", "b"] ()).failure = some (descentMismatch .string) := by
  intro h
  exact ⟨rfl, by decide⟩

/-- Texts in an array are passed by, and a hash at the end of a path is a mismatch. -/
theorem failure_edit_iff_authors :
    let h : Hash := ⟨[("a", .array [.ofString "x", .hash [("b", .ofString "y")] none] none)], none⟩
    let edit : TextEdit Unit ValueError := .total some fun _ s => s
    (h.edit id edit ["a", "c"] ()).failure = none ∧ (h.edit id edit ["a", "c"] ()).node = h ∧
      (h.edit id edit ["a", "*"] ()).failure ≠ none := by
  intro h edit
  have hedit : edit.Answers := fun t _ => ⟨some t, rfl⟩
  have hnone : h.find ["a", "c"] = .ok none := rfl
  have hfound : h.find ["a", "*"] = .ok (some (.ofList [.ofString "x", .hash [("b", .ofString "y")] none])) := rfl
  have hnothing := failure_edit_iff id hedit h (List.cons_ne_nil _ _) () hnone
  have hhash := failure_edit_iff id hedit h (List.cons_ne_nil _ _) () hfound
  refine ⟨hnothing.1.2 ⟨nofun, by decide⟩, (hnothing.2 rfl).1, ?_⟩
  intro hok
  exact absurd ((hhash.1.1 hok).1 _ rfl) (by decide)

end Hash

end RecordFix
