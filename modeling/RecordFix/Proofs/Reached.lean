import RecordFix.Proofs.Leaves
import RecordFix.Proofs.PlacedPaths

/-!
# The leaves that a path reaches

`Value.reached` lists the leaves below what a path leads to, each with its place, from left to right
(`pairwise_reached`). It is read off the segments and the containers, with no regard to how values that are found are
put together, and a lookup that succeeds finds just these leaves (`leaves_findIn`). The lookup depends on the shape of
a value only: it commutes with a map of all texts (`findIn_mapTexts`), and the same places are read whatever the texts
are (`Hash.readsAt_reached`).
-/

namespace RecordFix

/-! ### Where a path goes on -/

/-- Whether a path goes on to the item at a position of an array. -/
def itemTest (size : Nat) : Path → Nat → Bool
  | [], _ => true
  | segment :: _, i =>
    match ItemChoice.ofSegment size segment with
    | .all => true
    | .position j => i == j
    | .nothing => false
    | .through => true

/-- What is left of a path at the items of an array. -/
def itemPath (size : Nat) : Path → Path
  | [] => []
  | segment :: rest =>
    match ItemChoice.ofSegment size segment with
    | .through => segment :: rest
    | _ => rest

/-- Whether a path goes on to the field of a name in a hash. -/
def nameTest (size : Nat) : Path → String → Bool
  | [], _ => true
  | segment :: _, name => fieldTest size segment name

theorem fieldTest_wildcard (size : Nat) : fieldTest size wildcard = fun _ => true := by
  funext name
  simp [fieldTest]

namespace Value

/-- The leaf of a child as a leaf of its parent. -/
def underChild (i : Nat) (l : Place × String) : Place × String := (i :: l.1, l.2)

mutual

/-- The leaves that a path reaches, each with its place. -/
def reached (path : Path) : Value → List (Place × String)
  | string t _ => if path.isEmpty then [([], t)] else []
  | array items _ => reachedItems (itemTest items.length path) (itemPath items.length path) 0 items
  | hash fields _ => reachedFields (nameTest fields.length path) path.tail 0 fields

/-- The leaves that are reached below the items whose positions pass the test. -/
def reachedItems (test : Nat → Bool) (path : Path) (i : Nat) : List Value → List (Place × String)
  | [] => []
  | v :: vs => (if test i then reached path v else []).map (underChild i) ++ reachedItems test path (i + 1) vs

/-- The leaves that are reached below the fields whose names pass the test. -/
def reachedFields (test : String → Bool) (path : Path) (i : Nat) : List (String × Value) → List (Place × String)
  | [] => []
  | (k, v) :: fs => (if test k then reached path v else []).map (underChild i) ++ reachedFields test path (i + 1) fs

end

variable {v : Value} {vs items : List Value} {fs fields : List (String × Value)} {path : Path} {i : Nat}

theorem map_snd_underChild (i : Nat) (ls : List (Place × String)) :
    (ls.map (underChild i)).map (·.2) = ls.map (·.2) := by
  simp [underChild, Function.comp_def]

/-! ### Places -/

/-- The leaves of a child, and those of children behind it, have places that start from its position on. -/
private theorem exists_cons_of_mem_underChild_append {ls more : List (Place × String)} {l : Place × String}
    (h : l ∈ ls.map (underChild i) ++ more) (hmore : l ∈ more → ∃ j p, l.1 = j :: p ∧ i + 1 ≤ j) :
    ∃ j p, l.1 = j :: p ∧ i ≤ j := by
  rcases List.mem_append.1 h with h | h
  · obtain ⟨l, -, rfl⟩ := List.mem_map.1 h
    exact ⟨i, l.1, rfl, Nat.le_refl i⟩
  · obtain ⟨j, p, hl, hj⟩ := hmore h
    exact ⟨j, p, hl, by omega⟩

theorem exists_cons_of_mem_reachedItems {test : Nat → Bool} {l : Place × String}
    (h : l ∈ reachedItems test path i vs) : ∃ j p, l.1 = j :: p ∧ i ≤ j := by
  induction vs generalizing i with
  | nil => cases h
  | cons v vs ih =>
    rw [reachedItems] at h
    exact exists_cons_of_mem_underChild_append h ih

theorem exists_cons_of_mem_reachedFields {test : String → Bool} {l : Place × String}
    (h : l ∈ reachedFields test path i fs) : ∃ j p, l.1 = j :: p ∧ i ≤ j := by
  induction fs generalizing i with
  | nil => cases h
  | cons f fs ih =>
    rw [reachedFields] at h
    exact exists_cons_of_mem_underChild_append h ih

/-- The leaves of a child come before those of the children behind it. -/
private theorem pairwise_underChild_append {ls more : List (Place × String)}
    (hls : ls.Pairwise fun l m => l.1 < m.1) (hmore : more.Pairwise fun l m => l.1 < m.1)
    (hbehind : ∀ l ∈ more, ∃ j p, l.1 = j :: p ∧ i + 1 ≤ j) :
    (ls.map (underChild i) ++ more).Pairwise fun l m => l.1 < m.1 := by
  rw [List.pairwise_append]
  refine ⟨?_, hmore, ?_⟩
  · rw [List.pairwise_map]
    exact hls.imp fun h => List.cons_lt_cons_self.2 h
  · intro l hl m hm
    obtain ⟨l, -, rfl⟩ := List.mem_map.1 hl
    obtain ⟨j, p, hp, hj⟩ := hbehind m hm
    rw [hp]
    exact List.Lex.rel (by omega)

mutual

/-- The leaves that are reached are listed from left to right. -/
theorem pairwise_reached : ∀ (path : Path) (v : Value), (reached path v).Pairwise fun l m => l.1 < m.1
  | path, string t o => by
    unfold reached
    split
    · exact List.pairwise_singleton _ _
    · exact List.Pairwise.nil
  | path, array items o => pairwise_reachedItems _ _ 0 items
  | path, hash fields o => pairwise_reachedFields _ _ 0 fields

theorem pairwise_reachedItems (test : Nat → Bool) (path : Path) (i : Nat) :
    ∀ vs : List Value, (reachedItems test path i vs).Pairwise fun l m => l.1 < m.1
  | [] => List.Pairwise.nil
  | v :: vs => by
    have hbehind : ∀ l ∈ reachedItems test path (i + 1) vs, _ := fun _ => exists_cons_of_mem_reachedItems
    refine pairwise_underChild_append ?_ (pairwise_reachedItems test path (i + 1) vs) hbehind
    split
    · exact pairwise_reached path v
    · exact List.Pairwise.nil

theorem pairwise_reachedFields (test : String → Bool) (path : Path) (i : Nat) :
    ∀ fs : List (String × Value), (reachedFields test path i fs).Pairwise fun l m => l.1 < m.1
  | [] => List.Pairwise.nil
  | (_, v) :: fs => by
    have hbehind : ∀ l ∈ reachedFields test path (i + 1) fs, _ := fun _ => exists_cons_of_mem_reachedFields
    refine pairwise_underChild_append ?_ (pairwise_reachedFields test path (i + 1) fs) hbehind
    split
    · exact pairwise_reached path v
    · exact List.Pairwise.nil

end

/-! ### New texts -/

private theorem map_underChild_retext (f : Place → String → String) (i : Nat) (b : Bool)
    {ls ls' : List (Place × String)} (h : ls' = ls.map fun l => (l.1, f (i :: l.1) l.2)) :
    (if b then ls' else []).map (underChild i) =
      ((if b then ls else []).map (underChild i)).map fun l => (l.1, f l.1 l.2) := by
  cases b with
  | false => rfl
  | true =>
    rw [if_pos rfl, if_pos rfl, h, List.map_map, List.map_map]
    rfl

mutual

/-- The same leaves are reached whatever their texts are. -/
theorem reached_retext (f : Place → String → String) :
    ∀ (path : Path) (v : Value), reached path (v.retext f) = (reached path v).map fun l => (l.1, f l.1 l.2)
  | path, string t o => by
    unfold retext reached
    split <;> rfl
  | path, array items o => by
    rw [retext, reached, length_retextItems, reachedItems_retextItems f _ _ 0 items, reached]
  | path, hash fields o => by
    rw [retext, reached, length_retextFields, reachedFields_retextFields f _ _ 0 fields, reached]

theorem reachedItems_retextItems (f : Place → String → String) (test : Nat → Bool) (path : Path) (i : Nat) :
    ∀ vs : List Value, reachedItems test path i (retextItems f i vs) =
      (reachedItems test path i vs).map fun l => (l.1, f l.1 l.2)
  | [] => rfl
  | v :: vs => by
    rw [retextItems, reachedItems, reachedItems, List.map_append, reachedItems_retextItems f test path (i + 1) vs,
      map_underChild_retext f i _ (reached_retext _ path v)]

theorem reachedFields_retextFields (f : Place → String → String) (test : String → Bool) (path : Path) (i : Nat) :
    ∀ fs : List (String × Value), reachedFields test path i (retextFields f i fs) =
      (reachedFields test path i fs).map fun l => (l.1, f l.1 l.2)
  | [] => rfl
  | (k, v) :: fs => by
    rw [retextFields, reachedFields, reachedFields, List.map_append,
      reachedFields_retextFields f test path (i + 1) fs, map_underChild_retext f i _ (reached_retext _ path v)]

end

/-! ### Finding -/

theorem findIn_nil (v : Value) : v.findIn [] = .ok (some v) := by
  cases v <;> rfl

theorem findItems_nil (items : List Value) : findItems [] items = .ok items := by
  induction items with
  | nil => rfl
  | cons v vs ih =>
    rw [findItems, findIn_nil, ih]
    rfl

private theorem findFields_nil (fields : List (String × Value)) :
    findFields false (fun _ => true) [] fields = .ok (fields.map (·.2)) := by
  induction fields with
  | nil => rfl
  | cons f fs ih =>
    rw [findFields, findIn_nil, ih]
    rfl

private theorem leavesItems_map_snd (fields : List (String × Value)) :
    leavesItems (fields.map (·.2)) = leavesFields fields := by
  induction fields with
  | nil => rfl
  | cons f fs ih => rw [List.map_cons, leavesItems, ih, leavesFields]

/-- No leaf is reached below items that fail the test. -/
theorem reachedItems_eq_nil {test : Nat → Bool} (h : ∀ j, i ≤ j → test j = false) :
    reachedItems test path i vs = [] := by
  induction vs generalizing i with
  | nil => rfl
  | cons v vs ih =>
    rw [reachedItems, h i (Nat.le_refl i), ih fun j hj => h j (by omega)]
    rfl

mutual

/-- The leaves of what is found are those that the path reaches. -/
theorem leaves_findIn : ∀ {path : Path} {v : Value} {found : Option Value}, v.findIn path = .ok found →
    leavesItems found.toList = (reached path v).map (·.2)
  | path, string t o, found, hf => by
    unfold findIn at hf
    unfold reached
    cases hf
    split <;> rfl
  | [], array items o, found, hf => by
    cases hf
    rw [Option.toList_some, leavesItems_singleton]
    exact leaves_findItems (findItems_nil items) 0
  | segment :: rest, array items o, found, hf => by
    unfold findIn at hf
    unfold reached itemTest itemPath
    dsimp only at hf ⊢
    cases hc : ItemChoice.ofSegment items.length segment with
    | all =>
      rw [hc] at hf
      obtain ⟨vs, hvs, rfl⟩ := exists_of_map_eq_ok hf
      rw [leavesItems_toList_collect]
      exact leaves_findItems hvs 0
    | position n =>
      rw [hc] at hf
      have hitem := leaves_findItem n hf 0
      rw [Nat.zero_add] at hitem
      exact hitem
    | nothing =>
      rw [hc] at hf
      cases hf
      rw [reachedItems_eq_nil fun _ _ => rfl]
      rfl
    | through =>
      rw [hc] at hf
      obtain ⟨vs, hvs, rfl⟩ := exists_of_map_eq_ok hf
      rw [leavesItems_toList_collect]
      exact leaves_findItems hvs 0
  | [], hash fields o, found, hf => by
    cases hf
    rw [Option.toList_some, leavesItems_singleton]
    have hfields := leaves_findFields (findFields_nil fields) 0
    rw [leavesItems_map_snd] at hfields
    exact hfields
  | segment :: rest, hash fields o, found, hf => by
    unfold findIn at hf
    unfold reached nameTest
    dsimp only at hf ⊢
    split at hf
    · rename_i hw
      obtain ⟨vs, hvs, rfl⟩ := exists_of_map_eq_ok hf
      rw [leavesItems_toList_collect, eq_of_beq hw, fieldTest_wildcard]
      exact leaves_findFields hvs 0
    · obtain ⟨vs, hvs, rfl⟩ := exists_of_map_eq_ok hf
      rw [leavesItems_toList_merge]
      exact leaves_findFields hvs 0

theorem leaves_findItems : ∀ {path : Path} {items found : List Value}, findItems path items = .ok found →
    ∀ i, leavesItems found = (reachedItems (fun _ => true) path i items).map (·.2)
  | _, [], _, hf, _ => by
    cases hf
    rfl
  | path, v :: vs, found, hf, i => by
    obtain ⟨first, hfirst, hf⟩ := exists_of_bind_eq_ok hf
    obtain ⟨more, hmore, hf⟩ := exists_of_bind_eq_ok hf
    cases hf
    rw [leavesItems_append, leaves_findIn hfirst, leaves_findItems hmore (i + 1), reachedItems, if_pos rfl,
      List.map_append, map_snd_underChild]

theorem leaves_findItem : ∀ {path : Path} {items : List Value} (n : Nat) {found : Option Value},
    findItem path n items = .ok found →
    ∀ i, leavesItems found.toList = (reachedItems (· == i + n) path i items).map (·.2)
  | _, [], n, _, hf, _ => by
    cases n <;> cases hf <;> rfl
  | path, v :: vs, 0, found, hf, i => by
    have hrest : reachedItems (· == i + 0) path (i + 1) vs = [] :=
      reachedItems_eq_nil fun j hj => by simp; omega
    rw [leaves_findIn hf, reachedItems, hrest, List.append_nil, Nat.add_zero, if_pos (beq_self_eq_true i),
      map_snd_underChild]
  | path, v :: vs, n + 1, found, hf, i => by
    have hskip : (i == i + (n + 1)) = false := by simp
    rw [leaves_findItem n hf (i + 1), reachedItems, hskip, if_neg Bool.false_ne_true, List.map_nil, List.nil_append,
      show i + (n + 1) = i + 1 + n by omega]

theorem leaves_findFields : ∀ {strict : Bool} {test : String → Bool} {path : Path} {fields : List (String × Value)}
    {found : List Value}, findFields strict test path fields = .ok found →
    ∀ i, leavesItems found = (reachedFields test path i fields).map (·.2)
  | _, _, _, [], _, hf, _ => by
    cases hf
    rfl
  | strict, test, path, (k, v) :: fs, found, hf, i => by
    unfold findFields at hf
    split at hf
    · rename_i hk
      split at hf
      · cases hf
      · obtain ⟨first, hfirst, hf⟩ := exists_of_bind_eq_ok hf
        obtain ⟨more, hmore, hf⟩ := exists_of_bind_eq_ok hf
        cases hf
        rw [leavesItems_append, leaves_findIn hfirst, leaves_findFields hmore (i + 1), reachedFields, if_pos hk,
          List.map_append, map_snd_underChild]
    · rename_i hk
      rw [leaves_findFields hf (i + 1), reachedFields, if_neg hk, List.map_nil, List.nil_append]

end

/-! ### Finding after a map of texts -/

section

variable (g : String → String)

private theorem isString_mapTexts (v : Value) : (v.mapTexts g).isString = v.isString := by
  cases v <;> rfl

private theorem toList_map_append (found : Option Value) (more : List Value) :
    (found.map (mapTexts g)).toList ++ more.map (mapTexts g) = (found.toList ++ more).map (mapTexts g) := by
  cases found <;> rfl

/-- Finding first and more, with all texts mapped. -/
private theorem bind_mapTexts (x : Except ValueError (Option Value)) (y : Except ValueError (List Value)) :
    (do
      let found ← x.map (Option.map (mapTexts g))
      let more ← y.map (List.map (mapTexts g))
      return found.toList ++ more) =
      (do
        let found ← x
        let more ← y
        return found.toList ++ more : Except ValueError (List Value)).map (List.map (mapTexts g)) := by
  cases x with
  | error e => rfl
  | ok found =>
    cases y with
    | error e => rfl
    | ok more => exact congrArg Except.ok (toList_map_append g found more)

private theorem map_collect_mapTexts (x : Except ValueError (List Value)) :
    (x.map (List.map (mapTexts g))).map collect = (x.map collect).map (Option.map (mapTexts g)) := by
  cases x with
  | error e => rfl
  | ok vs => exact congrArg Except.ok (collect_map_mapTexts g vs)

private theorem map_merge_mapTexts (x : Except ValueError (List Value)) :
    (x.map (List.map (mapTexts g))).map merge = (x.map merge).map (Option.map (mapTexts g)) := by
  cases x with
  | error e => rfl
  | ok vs => exact congrArg Except.ok (merge_map_mapTexts g vs)

mutual

/-- A lookup takes no notice of texts. -/
theorem findIn_mapTexts : ∀ (path : Path) (v : Value),
    (v.mapTexts g).findIn path = (v.findIn path).map (Option.map (mapTexts g))
  | path, string t o => by
    unfold findIn
    rw [mapTexts_string]
    dsimp only
    split <;> rfl
  | [], array items o => by rw [findIn_nil, findIn_nil]; rfl
  | segment :: rest, array items o => by
    have hitems := fun path => findItems_mapTexts path items
    rw [mapTexts_array, findIn, findIn]
    rw [List.length_map]
    cases ItemChoice.ofSegment items.length segment with
    | all => exact (congrArg (Except.map collect) (hitems rest)).trans (map_collect_mapTexts g _)
    | position n => exact findItem_mapTexts rest n items
    | nothing => rfl
    | through => exact (congrArg (Except.map collect) (hitems (segment :: rest))).trans (map_collect_mapTexts g _)
  | [], hash fields o => by rw [findIn_nil, findIn_nil]; rfl
  | segment :: rest, hash fields o => by
    have hfields := fun strict test => findFields_mapTexts strict test rest fields
    rw [mapTexts_hash, findIn, findIn]
    rw [List.length_map]
    split
    · exact (congrArg (Except.map collect) (hfields _ _)).trans (map_collect_mapTexts g _)
    · exact (congrArg (Except.map merge) (hfields _ _)).trans (map_merge_mapTexts g _)

theorem findItems_mapTexts : ∀ (path : Path) (items : List Value),
    findItems path (items.map (mapTexts g)) = (findItems path items).map (List.map (mapTexts g))
  | _, [] => rfl
  | path, v :: vs => by
    rw [List.map_cons, findItems, findItems, findIn_mapTexts path v, findItems_mapTexts path vs]
    exact bind_mapTexts g _ _

theorem findItem_mapTexts : ∀ (path : Path) (n : Nat) (items : List Value),
    findItem path n (items.map (mapTexts g)) = (findItem path n items).map (Option.map (mapTexts g))
  | _, n, [] => by cases n <;> rfl
  | path, 0, v :: _ => findIn_mapTexts path v
  | path, n + 1, _ :: vs => findItem_mapTexts path n vs

theorem findFields_mapTexts (strict : Bool) (test : String → Bool) : ∀ (path : Path) (fields : List (String × Value)),
    findFields strict test path (fields.map fun f => (f.1, f.2.mapTexts g)) =
      (findFields strict test path fields).map (List.map (mapTexts g))
  | _, [] => rfl
  | path, (k, v) :: fs => by
    rw [List.map_cons, findFields, findFields, isString_mapTexts, findIn_mapTexts path v,
      findFields_mapTexts strict test path fs]
    split
    · split
      · rfl
      · exact bind_mapTexts g _ _
    · rfl

end

end

/-- With new texts a lookup succeeds as before, and finds a value of the same shape with the new texts of the leaves
that are reached. -/
theorem exists_findIn_retext (f : Place → String → String) {found : Option Value} (hf : v.findIn path = .ok found) :
    ∃ found' : Option Value, (v.retext f).findIn path = .ok found' ∧ found'.map shape = found.map shape ∧
      leavesItems found'.toList = (reached path v).map fun l => f l.1 l.2 := by
  have hshape : ((v.retext f).findIn path).map (Option.map shape) = .ok (found.map shape) := by
    have h := findIn_mapTexts (fun _ => "") path (v.retext f)
    have h' := findIn_mapTexts (fun _ => "") path v
    rw [show mapTexts (fun _ => "") (v.retext f) = v.shape from shape_retext f v] at h
    rw [hf] at h'
    exact h.symm.trans h'
  obtain ⟨found', hfound', hs⟩ := exists_of_map_eq_ok hshape
  refine ⟨found', hfound', hs, ?_⟩
  rw [leaves_findIn hfound', reached_retext, List.map_map]
  rfl

/-- Where the leaves that are reached are mapped, those of what is found are. -/
theorem findIn_retext_of_reached {f : Place → String → String} {g : String → String} {found : Option Value}
    (hf : v.findIn path = .ok found) (hfg : ∀ l ∈ reached path v, f l.1 l.2 = g l.2) :
    (v.retext f).findIn path = .ok (found.map (mapTexts g)) := by
  obtain ⟨found', hfound', hs, hl⟩ := exists_findIn_retext f hf
  have htexts : leavesItems found'.toList = (leavesItems found.toList).map g := by
    rw [hl, leaves_findIn hf, List.map_map]
    exact List.map_congr_left hfg
  rw [hfound']
  congr 1
  cases found with
  | none => exact Option.map_eq_none_iff.1 hs
  | some w =>
    obtain ⟨w', rfl, hw'⟩ := Option.map_eq_some_iff.1 hs
    rw [Option.toList_some, Option.toList_some, leavesItems_singleton, leavesItems_singleton] at htexts
    rw [Option.map_some, eq_of_shape_eq (hw'.trans (shape_mapTexts g w).symm) (htexts.trans (leaves_mapTexts g w).symm)]

end Value

namespace Hash

/-- Whether a lookup in a hash reads the leaves at these places, from left to right: this is so if it does it whatever
texts the leaves have. -/
def ReadsAt (h : Hash) (path : Path) (places : List Place) : Prop :=
  places.Pairwise (· < ·) ∧ ∀ texts : Place → String, ∃ found : Option Value,
    (h.retext fun p _ => texts p).find path = .ok found ∧ Value.leavesItems found.toList = places.map texts

/-- A lookup that succeeds reads the leaves that the path reaches. -/
theorem readsAt_reached {h : Hash} {path : Path} {found : Option Value} (hf : h.find path = .ok found) :
    h.ReadsAt path ((h.toValue.reached path).map (·.1)) := by
  refine ⟨List.pairwise_map.2 (Value.pairwise_reached path h.toValue), fun texts => ?_⟩
  obtain ⟨found', hfound', -, hl⟩ := Value.exists_findIn_retext (fun p _ => texts p) hf
  refine ⟨found', hfound', ?_⟩
  rw [hl, List.map_map]
  rfl

end Hash

end RecordFix
