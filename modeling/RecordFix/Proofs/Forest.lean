import RecordFix.Event
import RecordFix.Proofs.Group
import RecordFix.Proofs.Rebase

/-!
# Forests of entries

The balanced sequences of events between the start and the end of a record are the events of a forest, a list of
entries, each a literal or an entity with a forest in it (`balanced_iff_exists_forest`). A forest stands for fields. A
literal is a text, an entity with the array marker the array of what its entries stand for, any other entity the hash
of its entries grouped by name, and the forest itself is grouped in the same way (`Forest.build`). Adding values to the
fields of a hash one after the other groups them too (`Hash.addAll_nil`).
-/

namespace RecordFix

/-- A literal, or an entity with the entries between its start and its end. -/
inductive Entry where
  | literal (name value : String)
  | entity (name : String) (entries : List Entry)

/-- Entries one after the other. -/
abbrev Forest := List Entry

def Entry.name : Entry → String
  | .literal name _ => name
  | .entity name _ => name

mutual

/-- The events of an entry. -/
def Entry.events : Entry → List Event
  | .literal name value => [.literal name value]
  | .entity name entries => .startEntity name :: (Forest.events entries ++ [.endEntity])

def Forest.events : Forest → List Event
  | [] => []
  | e :: es => e.events ++ Forest.events es

end

/-- What a name holds that comes with these values: the value if it is a single one, and otherwise an array. The items
of the first stand in it on their own if it is an array, the others are one item each. -/
def Value.gather : List Value → Value
  | [] => .array [] none
  | [v] => v
  | v :: vs => .array (v.toList ++ vs) none

mutual

/-- What an entry stands for. -/
def Entry.value : Entry → Value
  | .literal _ text => .ofString text
  | .entity name entries =>
    if isMarked name then .array ((Forest.fields entries).map (·.2)) none
    else .hash (group Value.gather (Forest.fields entries)) none

/-- The entries of a forest as fields, one for each. -/
def Forest.fields : Forest → List (String × Value)
  | [] => []
  | e :: es => (e.name, e.value) :: Forest.fields es

end

theorem Forest.events_append (es fs : Forest) : Forest.events (es ++ fs) = es.events ++ fs.events := by
  induction es with
  | nil => rfl
  | cons e es ih => simp only [List.cons_append, Forest.events, ih, List.append_assoc]

theorem Forest.fields_append (es fs : Forest) : Forest.fields (es ++ fs) = es.fields ++ fs.fields := by
  induction es with
  | nil => rfl
  | cons e es ih => simp only [List.cons_append, Forest.fields, ih]

/-- The fields that a forest stands for. -/
def Forest.build (forest : Forest) : Hash :=
  Hash.rebase ⟨group Value.gather forest.fields, none⟩ none

/-! ### Balanced sequences of events -/

/-- Whether literals, starts and ends of entities close all entities that they open and some more that are open
before. -/
def balanced (openBefore : Nat) : List Event → Bool
  | [] => openBefore == 0
  | .literal .. :: es => balanced openBefore es
  | .startEntity _ :: es => balanced (openBefore + 1) es
  | .endEntity :: es =>
    match openBefore with
    | 0 => false
    | n + 1 => balanced n es
  | _ => false

mutual

theorem balanced_entry (n : Nat) (rest : List Event) :
    ∀ e : Entry, balanced n (e.events ++ rest) = balanced n rest
  | .literal _ _ => rfl
  | .entity name entries => by
    rw [Entry.events, List.cons_append, List.append_assoc, balanced, balanced_forest (n + 1) _ entries]
    rfl

theorem balanced_forest (n : Nat) (rest : List Event) :
    ∀ es : Forest, balanced n (Forest.events es ++ rest) = balanced n rest
  | [] => rfl
  | e :: es => by
    rw [Forest.events, List.append_assoc, balanced_entry n _ e, balanced_forest n rest es]

end

/-- A sequence that closes some more entities is a forest for each of them, with the ends between them. -/
private theorem exists_forests {n : Nat} {es : List Event} (h : balanced n es = true) :
    ∃ (first : Forest) (others : List Forest), others.length = n ∧
      es = first.events ++ others.flatMap fun f => .endEntity :: f.events := by
  induction es generalizing n with
  | nil =>
    exact ⟨[], [], (eq_of_beq h).symm, rfl⟩
  | cons e es ih =>
    cases e with
    | literal name value =>
      obtain ⟨first, others, hlen, rfl⟩ := ih h
      exact ⟨.literal name value :: first, others, hlen, rfl⟩
    | startEntity name =>
      obtain ⟨first, others, hlen, rfl⟩ := ih h
      cases others with
      | nil => cases hlen
      | cons f others =>
        refine ⟨.entity name first :: f, others, Nat.succ.inj hlen, ?_⟩
        simp only [Forest.events, Entry.events, List.flatMap_cons, List.cons_append, List.append_assoc, List.nil_append]
    | endEntity =>
      cases n with
      | zero => cases h
      | succ n =>
        obtain ⟨first, others, hlen, rfl⟩ := ih h
        refine ⟨[], first :: others, by rw [List.length_cons, hlen], ?_⟩
        simp only [Forest.events, List.flatMap_cons, List.cons_append, List.nil_append]
    | _ => cases h

/-- The balanced sequences are the events of forests. -/
theorem balanced_iff_exists_forest (es : List Event) :
    balanced 0 es = true ↔ ∃ forest : Forest, forest.events = es := by
  constructor
  · intro h
    obtain ⟨first, others, hlen, rfl⟩ := exists_forests h
    rw [List.length_eq_zero_iff] at hlen
    exact ⟨first, by rw [hlen, List.flatMap_nil, List.append_nil]⟩
  · rintro ⟨forest, rfl⟩
    rw [← List.append_nil forest.events, balanced_forest]
    rfl

/-! ### Grouping values -/

/-- Appends to a value, wherever the two are. -/
private def Value.join (w v : Value) : Value := .array (w.toList ++ [v]) none

private theorem Value.rebase_join (o : Option String) (w v : Value) :
    (w.join v).rebase o = (w.rebase o).append v := by
  rw [← Value.rebase_append]
  cases w with
  | array xs p =>
    simp only [Value.join, Value.toList, Value.append, Value.rebase, Value.pushItem, Value.rebase_rebase,
      Value.rebaseItems_append, Value.rebaseItems]
  | string t p =>
    simp [Value.join, Value.toList, Value.append, Value.rebase, Value.origin, Value.pushItem, Value.rebaseItems]
  | hash fs p =>
    simp [Value.join, Value.toList, Value.append, Value.rebase, Value.origin, Value.pushItem, Value.rebaseItems,
      Value.rebaseFields_rebaseFields]

theorem Value.gather_singleton (v : Value) : Value.gather [v] = v := rfl

private theorem Value.gather_concat (vs : List Value) (v : Value) (h : vs ≠ []) :
    Value.gather (vs ++ [v]) = (Value.gather vs).join v := by
  cases vs with
  | nil => exact absurd rfl h
  | cons w vs =>
    cases vs with
    | nil => rfl
    | cons u vs => simp [Value.gather, Value.join, Value.toList]

/-- Adding to a hash at its place is filing under the name. -/
private theorem Hash.add_rebase (o : Option String) (k : String) (v : Value) (fs : List (String × Value)) :
    (Hash.rebase ⟨fs, none⟩ o).add k v = Hash.rebase ⟨fileUnder Value.join k v fs, none⟩ o := by
  have key : Value.rebaseFields o (fileUnder Value.join k v fs) =
      Hash.putEntry k (((Value.rebaseFields o fs).lookup k).elim (v.rebase (some (childOrigin o k))) (·.append v))
        (Value.rebaseFields o fs) := by
    induction fs with
    | nil => rfl
    | cons f fs ih =>
      obtain ⟨k', w⟩ := f
      by_cases hk : k' = k
      · subst hk
        simp only [fileUnder, Value.rebaseFields, List.lookup_cons, Hash.putEntry, beq_self_eq_true, ↓reduceIte,
          Value.rebase_join, Option.elim]
      · have h1 : (k' == k) = false := by simpa using hk
        have h2 : (k == k') = false := by simpa using Ne.symm hk
        simp only [fileUnder, Value.rebaseFields, List.lookup_cons, Hash.putEntry, h1, h2, Bool.false_eq_true,
          ↓reduceIte, ih]
  unfold Hash.add Hash.get? Hash.rebase Hash.put Hash.putRaw
  rw [key]
  cases h : (Value.rebaseFields o fs).lookup k with
  | none => rfl
  | some old => rfl

/-- Adding values to fields one after the other groups them. -/
theorem Hash.addAll_nil (o : Option String) (fs : List (String × Value)) :
    (⟨[], o⟩ : Hash).addAll fs = Hash.rebase ⟨group Value.gather fs, none⟩ o := by
  induction fs using List.reverseRecOn with
  | nil => rfl
  | append_singleton fs f ih =>
    obtain ⟨k, v⟩ := f
    have happ : (⟨[], o⟩ : Hash).addAll (fs ++ [(k, v)]) = ((⟨[], o⟩ : Hash).addAll fs).add k v := by
      simp only [Hash.addAll, List.foldl_append, List.foldl_cons, List.foldl_nil]
    rw [happ, ih, Hash.add_rebase, group_concat Value.gather_singleton Value.gather_concat]

end RecordFix
