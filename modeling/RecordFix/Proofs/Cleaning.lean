import RecordFix.Proofs.Canonical
import RecordFix.Proofs.Leaves
import RecordFix.Record

/-!
# Cleaning

Whether a value survives a cleaning depends on its texts and on the containers that were empty from the start
(`Value.survives`), and what is left of a value are its children that survive, cleaned and in their order
(`Value.cleaned`). The removal of empty values leaves just that (`Value.map_bare_vacuum`), keeps the texts that are not
empty (`Value.leaves_vacuum`), and has nothing to do on what it left (`Value.vacuum_of_vacuum`).
-/

namespace RecordFix

namespace Value

variable {v w : Value} {vs ws : List Value} {fs gs : List (String × Value)} {o : Option String}

/-! ### What is left of a value -/

mutual

/-- Whether something is left of a value: a text that is not empty, or a container that was empty to begin with or has
a child of which something is left. -/
def survives : Value → Bool
  | string t _ => !t.isEmpty
  | array items _ => items.isEmpty || someSurvives items
  | hash fields _ => fields.isEmpty || someFieldSurvives fields

def someSurvives : List Value → Bool
  | [] => false
  | v :: vs => survives v || someSurvives vs

def someFieldSurvives : List (String × Value) → Bool
  | [] => false
  | (_, v) :: fs => survives v || someFieldSurvives fs

end

mutual

/-- What is left of a value that survives, with no origins: the children that survive, under their keys and in their
order. -/
def cleaned : Value → Value
  | string t _ => string t none
  | array items _ => array (cleanedItems items) none
  | hash fields _ => hash (cleanedFields fields) none

def cleanedItems : List Value → List Value
  | [] => []
  | v :: vs => if survives v then cleaned v :: cleanedItems vs else cleanedItems vs

def cleanedFields : List (String × Value) → List (String × Value)
  | [] => []
  | (k, v) :: fs => if survives v then (k, cleaned v) :: cleanedFields fs else cleanedFields fs

end

theorem survives_array : (array vs o).survives = true ↔ vs = [] ∨ ∃ v ∈ vs, v.survives = true := by
  have hsome : someSurvives vs = vs.any survives := by
    induction vs with
    | nil => rfl
    | cons v vs ih => rw [someSurvives, ih, List.any_cons]
  rw [survives, hsome, Bool.or_eq_true, List.isEmpty_iff, List.any_eq_true]

theorem survives_hash : (hash fs o).survives = true ↔ fs = [] ∨ ∃ f ∈ fs, f.2.survives = true := by
  have hsome : someFieldSurvives fs = fs.any (·.2.survives) := by
    induction fs with
    | nil => rfl
    | cons f fs ih => rw [someFieldSurvives, ih, List.any_cons]
  rw [survives, hsome, Bool.or_eq_true, List.isEmpty_iff, List.any_eq_true]

theorem cleanedItems_eq_map (vs : List Value) : cleanedItems vs = (vs.filter survives).map cleaned := by
  induction vs with
  | nil => rfl
  | cons v vs ih =>
    rw [cleanedItems, ih, List.filter_cons]
    split <;> rfl

theorem cleanedFields_eq_map (fs : List (String × Value)) :
    cleanedFields fs = (fs.filter (·.2.survives)).map fun f => (f.1, f.2.cleaned) := by
  induction fs with
  | nil => rfl
  | cons f fs ih =>
    rw [cleanedFields, ih, List.filter_cons]
    split <;> rfl

theorem cleanedItems_eq_nil : cleanedItems vs = [] ↔ ∀ v ∈ vs, ¬ v.survives = true := by
  rw [cleanedItems_eq_map, List.map_eq_nil_iff, List.filter_eq_nil_iff]

theorem cleanedFields_eq_nil : cleanedFields fs = [] ↔ ∀ f ∈ fs, ¬ f.2.survives = true := by
  rw [cleanedFields_eq_map, List.map_eq_nil_iff, List.filter_eq_nil_iff]

/-! ### What the removal leaves -/

private theorem vacuum_cases (h : v.vacuum.map bare = if v.survives then some v.cleaned else none) :
    v.vacuum = none ∧ ¬ v.survives = true ∨ ∃ w, v.vacuum = some w ∧ v.survives = true ∧ w.bare = v.cleaned := by
  by_cases hs : v.survives = true
  · rw [if_pos hs, Option.map_eq_some_iff] at h
    obtain ⟨w, hw, hbare⟩ := h
    exact Or.inr ⟨w, hw, hs, hbare⟩
  · rw [if_neg hs, Option.map_eq_none_iff] at h
    exact Or.inl ⟨h, hs⟩

mutual

/-- The removal leaves what survives. -/
theorem map_bare_vacuum : ∀ v : Value, v.vacuum.map bare = if v.survives then some v.cleaned else none
  | string t o => by
    rw [vacuum_string, survives]
    by_cases ht : t.isEmpty = true
    · simp [ht]
    · simp [ht, bare, cleaned]
  | array items o => by
    have hitems := bareItems_vacuumItems items
    -- the removal empties the array just if no item survives
    have hempty : (items ≠ [] ∧ vacuumItems items = []) ↔ ¬ (array items o).survives = true := by
      rw [survives_array, not_or, ← List.map_eq_nil_iff (f := bare), ← bareItems_eq_map, hitems, cleanedItems_eq_nil]
      simp
    rw [vacuum_array]
    by_cases hs : (array items o).survives = true
    · rw [if_neg (fun h => hempty.1 h hs), if_pos hs, Option.map_some, bare, bareItems_rebaseItems, hitems, cleaned]
    · rw [if_pos (hempty.2 hs), if_neg hs, Option.map_none]
  | hash fields o => by
    have hfields := bareFields_vacuumFields fields
    have hempty : (fields ≠ [] ∧ vacuumFields fields = []) ↔ ¬ (hash fields o).survives = true := by
      rw [survives_hash, not_or, ← List.map_eq_nil_iff (f := fun f : String × Value => (f.1, f.2.bare)),
        ← bareFields_eq_map, hfields, cleanedFields_eq_nil]
      simp
    rw [vacuum_hash]
    by_cases hs : (hash fields o).survives = true
    · rw [if_neg (fun h => hempty.1 h hs), if_pos hs, Option.map_some, bare, hfields, cleaned]
    · rw [if_pos (hempty.2 hs), if_neg hs, Option.map_none]

theorem bareItems_vacuumItems : ∀ vs : List Value, bareItems (vacuumItems vs) = cleanedItems vs
  | [] => rfl
  | v :: vs => by
    rw [vacuumItems, cleanedItems, ← bareItems_vacuumItems vs]
    rcases vacuum_cases (map_bare_vacuum v) with ⟨hw, hs⟩ | ⟨w, hw, hs, hbare⟩
    · rw [hw, if_neg hs]
      rfl
    · rw [hw, if_pos hs, ← hbare]
      rfl

theorem bareFields_vacuumFields : ∀ fs : List (String × Value), bareFields (vacuumFields fs) = cleanedFields fs
  | [] => rfl
  | (k, v) :: fs => by
    rw [vacuumFields, cleanedFields, ← bareFields_vacuumFields fs]
    rcases vacuum_cases (map_bare_vacuum v) with ⟨hw, hs⟩ | ⟨w, hw, hs, hbare⟩
    · rw [hw, if_neg hs]
      rfl
    · rw [hw, if_pos hs, ← hbare]
      rfl

end

/-! ### Texts -/

mutual

/-- The texts that are not empty stay, and no others. -/
theorem leaves_vacuum : ∀ v : Value, leavesItems v.vacuum.toList = v.leaves.filter (· ≠ "")
  | string t o => by
    rw [vacuum_string]
    by_cases ht : t.isEmpty = true
    · have hempty : t = "" := by simpa using ht
      rw [if_pos ht, leaves, hempty]
      rfl
    · have hne : t ≠ "" := by simpa using ht
      rw [if_neg ht, leaves, List.filter_cons_of_pos (by simpa using hne)]
      rfl
  | array items o => by
    have hitems := leavesItems_vacuumItems items
    rw [vacuum_array, leaves, ← hitems]
    split
    · rename_i h
      rw [h.2]
      rfl
    · rw [Option.toList_some, leavesItems_singleton, leaves, leavesItems_rebaseItems]
  | hash fields o => by
    have hfields := leavesFields_vacuumFields fields
    rw [vacuum_hash, leaves, ← hfields]
    split
    · rename_i h
      rw [h.2]
      rfl
    · rw [Option.toList_some, leavesItems_singleton, leaves]

theorem leavesItems_vacuumItems : ∀ vs : List Value,
    leavesItems (vacuumItems vs) = (leavesItems vs).filter (· ≠ "")
  | [] => rfl
  | v :: vs => by
    rw [vacuumItems, leavesItems, leavesItems_append, List.filter_append, leaves_vacuum v, leavesItems_vacuumItems vs]

theorem leavesFields_vacuumFields : ∀ fs : List (String × Value),
    leavesFields (vacuumFields fs) = (leavesFields fs).filter (· ≠ "")
  | [] => rfl
  | (k, v) :: fs => by
    rw [vacuumFields, leavesFields, List.filter_append, ← leaves_vacuum v, ← leavesFields_vacuumFields fs]
    cases v.vacuum with
    | none => rfl
    | some w =>
      rw [Option.toList_some, leavesItems_singleton]
      rfl

end

/-! ### A second removal -/

mutual

/-- What is left of a value that was moved is what is left of it, moved. -/
theorem vacuum_rebase (p : Option String) : ∀ v : Value, (v.rebase p).vacuum = v.vacuum.map (rebase p)
  | string t o => by
    rw [rebase, vacuum_string, vacuum_string]
    split <;> rfl
  | array items o => by
    have hitems := rebaseItems_vacuumItems p p 1 1 items
    have hnil : vacuumItems (rebaseItems p 1 items) = [] ↔ vacuumItems items = [] := by
      rw [← rebaseItems_eq_nil p 1, hitems, rebaseItems_eq_nil]
    have hempty : (rebaseItems p 1 items ≠ [] ∧ vacuumItems (rebaseItems p 1 items) = []) ↔
        (items ≠ [] ∧ vacuumItems items = []) :=
      and_congr (not_congr (rebaseItems_eq_nil p 1 items)) hnil
    rw [rebase, vacuum_array, vacuum_array, hitems]
    by_cases h : items ≠ [] ∧ vacuumItems items = []
    · rw [if_pos h, if_pos (hempty.2 h), Option.map_none]
    · rw [if_neg h, if_neg (fun h' => h (hempty.1 h')), Option.map_some, rebase, rebaseItems_rebaseItems]
  | hash fields o => by
    have hfields := vacuumFields_rebaseFields p fields
    have hempty : (rebaseFields p fields ≠ [] ∧ rebaseFields p (vacuumFields fields) = []) ↔
        (fields ≠ [] ∧ vacuumFields fields = []) :=
      and_congr (not_congr (rebaseFields_eq_nil p fields)) (rebaseFields_eq_nil p _)
    rw [rebase, vacuum_hash, vacuum_hash, hfields]
    by_cases h : fields ≠ [] ∧ vacuumFields fields = []
    · rw [if_pos h, if_pos (hempty.2 h), Option.map_none]
    · rw [if_neg h, if_neg (fun h' => h (hempty.1 h')), Option.map_some, rebase]

/-- The items behind one that is dropped move up, so old places agree with new ones only once all are moved again. -/
theorem rebaseItems_vacuumItems (o p : Option String) : ∀ (i j : Nat) (vs : List Value),
    rebaseItems o i (vacuumItems (rebaseItems p j vs)) = rebaseItems o i (vacuumItems vs)
  | _, _, [] => rfl
  | i, j, v :: vs => by
    rw [rebaseItems, vacuumItems, vacuumItems, vacuum_rebase _ v]
    cases v.vacuum with
    | none => exact rebaseItems_vacuumItems o p i (j + 1) vs
    | some w =>
      show rebaseItems o i (rebase _ w :: vacuumItems (rebaseItems p (j + 1) vs)) = rebaseItems o i (w :: vacuumItems vs)
      rw [rebaseItems, rebaseItems, rebase_rebase, rebaseItems_vacuumItems o p (i + 1) (j + 1) vs]

theorem vacuumFields_rebaseFields (p : Option String) : ∀ fs : List (String × Value),
    vacuumFields (rebaseFields p fs) = rebaseFields p (vacuumFields fs)
  | [] => rfl
  | (k, v) :: fs => by
    rw [rebaseFields, vacuumFields, vacuumFields, vacuum_rebase _ v, vacuumFields_rebaseFields p fs]
    cases v.vacuum <;> rfl

end

theorem vacuumItems_of_forall (h : ∀ v ∈ vs, v.vacuum = some v) : vacuumItems vs = vs := by
  induction vs with
  | nil => rfl
  | cons v vs ih =>
    rw [List.forall_mem_cons] at h
    rw [vacuumItems, h.1, ih h.2]
    rfl

theorem vacuumFields_of_forall (h : ∀ f ∈ fs, f.2.vacuum = some f.2) : vacuumFields fs = fs := by
  induction fs with
  | nil => rfl
  | cons f fs ih =>
    rw [List.forall_mem_cons] at h
    rw [vacuumFields, h.1, ih h.2]
    rfl

/-- Items that are left as they are stay so when they are moved. -/
theorem vacuum_of_mem_rebaseItems (h : ∀ v ∈ vs, v.vacuum = some v) {i : Nat} :
    ∀ w ∈ rebaseItems o i vs, w.vacuum = some w := by
  induction vs generalizing i with
  | nil => nofun
  | cons v vs ih =>
    rw [List.forall_mem_cons] at h
    rw [rebaseItems, List.forall_mem_cons]
    refine ⟨?_, ih h.2⟩
    rw [vacuum_rebase, h.1, Option.map_some]

mutual

/-- What the removal leaves, it leaves as it is a second time. -/
theorem vacuum_of_vacuum : ∀ v w : Value, v.vacuum = some w → w.vacuum = some w
  | string t o, w, h => by
    have hw : string t o = w := by
      rw [vacuum_string] at h
      split at h
      · cases h
      · exact Option.some.inj h
    rw [← hw] at h ⊢
    exact h
  | array items o, w, h => by
    rw [vacuum_array] at h
    split at h
    · cases h
    · rename_i hkept
      have hitems := vacuumItems_of_forall (vacuum_of_mem_rebaseItems (o := o) (i := 1) (vacuum_of_mem_vacuumItems items))
      rw [← Option.some.inj h, vacuum_array, hitems, rebaseItems_rebaseItems, if_neg fun h => h.1 h.2]
  | hash fields o, w, h => by
    rw [vacuum_hash] at h
    split at h
    · cases h
    · have hfields := vacuumFields_of_forall (vacuum_of_mem_vacuumFields fields)
      rw [← Option.some.inj h, vacuum_hash, hfields, if_neg fun h => h.1 h.2]

theorem vacuum_of_mem_vacuumItems : ∀ vs : List Value, ∀ w ∈ vacuumItems vs, w.vacuum = some w
  | [], w, h => nomatch h
  | v :: vs, w, h => by
    rw [vacuumItems, List.mem_append, Option.mem_toList] at h
    rcases h with h | h
    · exact vacuum_of_vacuum v w h
    · exact vacuum_of_mem_vacuumItems vs w h

theorem vacuum_of_mem_vacuumFields : ∀ fs : List (String × Value), ∀ g ∈ vacuumFields fs, g.2.vacuum = some g.2
  | [], g, h => nomatch h
  | (k, v) :: fs, g, h => by
    rw [vacuumFields, List.mem_append, Option.mem_toList, Option.map_eq_some_iff] at h
    rcases h with ⟨w, hw, rfl⟩ | h
    · exact vacuum_of_vacuum v w hw
    · exact vacuum_of_mem_vacuumFields fs g h

end

end Value

/-- The removal of empty values changes nothing but the fields. It leaves what survives, with all texts that are not
empty, and nothing to do for a second removal. -/
theorem Record.vacuum_cleaned (r : Record) :
    r.vacuum = { r with fields := ⟨r.vacuum.fields.fields, r.fields.origin⟩ } ∧
      r.vacuum.fields.toValue.bare = r.fields.toValue.cleaned ∧
      (∀ t ∈ r.vacuum.fields.leaves, t ≠ "") ∧ r.vacuum.fields.leaves = r.fields.leaves.filter (· ≠ "") ∧
      r.vacuum.vacuum = r.vacuum := by
  have hleaves : r.vacuum.fields.leaves = r.fields.leaves.filter (· ≠ "") :=
    Value.leavesFields_vacuumFields r.fields.fields
  have hfields : Value.vacuumFields r.vacuum.fields.fields = r.vacuum.fields.fields :=
    Value.vacuumFields_of_forall (Value.vacuum_of_mem_vacuumFields r.fields.fields)
  refine ⟨rfl, ?_, ?_, hleaves, ?_⟩
  · exact congrArg (Value.hash · none) (Value.bareFields_vacuumFields r.fields.fields)
  · intro t ht
    rw [hleaves, List.mem_filter] at ht
    simpa using ht.2
  · rw [vacuum, Hash.vacuum, hfields]

end RecordFix
