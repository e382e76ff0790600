import RecordFix.Event
import RecordFix.Proofs.Fields

/-!
# Nodes by their steps

The nodes of a value under the steps that lead to them: `nodeAt?` goes there and `replaceAt` puts another node in the
place. Both split along a concatenation of steps (`nodeAt?_append`, `replaceAt_append`), and the node that was put is
the one that is found (`nodeAt?_replaceAt`).
-/

namespace RecordFix.Value

/-- The node that some steps lead to. -/
def nodeAt? : List Step → Value → Option Value
  | [], v => some v
  | .field k :: steps, hash fields _ => (fields.lookup k).bind (nodeAt? steps)
  | .item i :: steps, array items _ => items[i]?.bind (nodeAt? steps)
  | _, _ => none

/-- Puts a node in the place of the one that some steps lead to. -/
def replaceAt (w : Value) : List Step → Value → Value
  | [], _ => w
  | .field k :: steps, hash fields o =>
    match fields.lookup k with
    | some child => hash (Hash.putEntry k (replaceAt w steps child) fields) o
    | none => hash fields o
  | .item i :: steps, array items o =>
    match items[i]? with
    | some child => array (items.set i (replaceAt w steps child)) o
    | none => array items o
  | _, v => v

variable {v c d w u : Value} {p q : List Step}

theorem nodeAt?_append (p q : List Step) (v : Value) : nodeAt? (p ++ q) v = (nodeAt? p v).bind (nodeAt? q) := by
  induction p generalizing v with
  | nil => rfl
  | cons s p ih =>
    cases s <;> cases v <;> try rfl
    · rename_i k fields o
      show (fields.lookup k).bind (nodeAt? (p ++ q)) = ((fields.lookup k).bind (nodeAt? p)).bind (nodeAt? q)
      rw [Option.bind_assoc, funext ih]
    · rename_i i items o
      show items[i]?.bind (nodeAt? (p ++ q)) = (items[i]?.bind (nodeAt? p)).bind (nodeAt? q)
      rw [Option.bind_assoc, funext ih]

/-- A field step goes from a hash to the child of the name. -/
theorem nodeAt?_field_eq_some {k : String} (h : nodeAt? (.field k :: p) v = some c) :
    ∃ fields o child, v = hash fields o ∧ fields.lookup k = some child ∧ nodeAt? p child = some c := by
  cases v with
  | hash fields o =>
    obtain ⟨child, hl, hc⟩ := Option.bind_eq_some_iff.1 h
    exact ⟨fields, o, child, rfl, hl, hc⟩
  | _ => cases h

/-- An item step goes from an array to the child at the position. -/
theorem nodeAt?_item_eq_some {i : Nat} (h : nodeAt? (.item i :: p) v = some c) :
    ∃ items o child, v = array items o ∧ items[i]? = some child ∧ nodeAt? p child = some c := by
  cases v with
  | array items o =>
    obtain ⟨child, hl, hc⟩ := Option.bind_eq_some_iff.1 h
    exact ⟨items, o, child, rfl, hl, hc⟩
  | _ => cases h

private theorem getElem?_set_same {items : List Value} {i : Nat} (h : items[i]? = some c) :
    (items.set i d)[i]? = some d := by
  obtain ⟨hi, -⟩ := List.getElem?_eq_some_iff.1 h
  rw [List.getElem?_set_self hi]

theorem nodeAt?_replaceAt (h : nodeAt? p v = some c) : nodeAt? p (replaceAt w p v) = some w := by
  induction p generalizing v with
  | nil => rfl
  | cons s p ih =>
    cases s with
    | field k =>
      obtain ⟨fields, o, child, rfl, hl, hc⟩ := nodeAt?_field_eq_some h
      simp only [replaceAt, hl, nodeAt?, Hash.lookup_putEntry_self, Option.bind_some]
      exact ih hc
    | item i =>
      obtain ⟨items, o, child, rfl, hl, hc⟩ := nodeAt?_item_eq_some h
      simp only [replaceAt, hl, nodeAt?, getElem?_set_same hl, Option.bind_some]
      exact ih hc

/-- Replacing below a node is replacing the node. -/
theorem replaceAt_append (h : nodeAt? p v = some c) : replaceAt w (p ++ q) v = replaceAt (replaceAt w q c) p v := by
  induction p generalizing v with
  | nil =>
    cases h
    rfl
  | cons s p ih =>
    cases s with
    | field k =>
      obtain ⟨fields, o, child, rfl, hl, hc⟩ := nodeAt?_field_eq_some h
      simp only [List.cons_append, replaceAt, hl, ih hc]
    | item i =>
      obtain ⟨items, o, child, rfl, hl, hc⟩ := nodeAt?_item_eq_some h
      simp only [List.cons_append, replaceAt, hl, ih hc]

/-- Only the last replacement of a node counts. -/
theorem replaceAt_replaceAt (h : nodeAt? p v = some c) : replaceAt w p (replaceAt u p v) = replaceAt w p v := by
  induction p generalizing v with
  | nil => rfl
  | cons s p ih =>
    cases s with
    | field k =>
      obtain ⟨fields, o, child, rfl, hl, hc⟩ := nodeAt?_field_eq_some h
      simp only [replaceAt, hl, Hash.lookup_putEntry_self, Hash.putEntry_putEntry, ih hc]
    | item i =>
      obtain ⟨items, o, child, rfl, hl, hc⟩ := nodeAt?_item_eq_some h
      simp only [replaceAt, hl, getElem?_set_same hl, List.set_set, ih hc]

/-- Putting a node in its own place changes nothing. -/
theorem replaceAt_self (h : nodeAt? p v = some c) : replaceAt c p v = v := by
  induction p generalizing v with
  | nil =>
    cases h
    rfl
  | cons s p ih =>
    cases s with
    | field k =>
      obtain ⟨fields, o, child, rfl, hl, hc⟩ := nodeAt?_field_eq_some h
      simp only [replaceAt, hl, ih hc, Hash.putEntry_of_lookup hl]
    | item i =>
      obtain ⟨items, o, child, rfl, hl, hc⟩ := nodeAt?_item_eq_some h
      obtain ⟨hi, rfl⟩ := List.getElem?_eq_some_iff.1 hl
      simp only [replaceAt, hl, ih hc, List.set_getElem_self]

/-- A hash stays a hash when a container is put in the place of one of its nodes. -/
theorem exists_replaceAt_hash {fields : List (String × Value)} {o : Option String}
    (hp : p = [] → ∃ fs o', w = hash fs o') : ∃ fs o', replaceAt w p (hash fields o) = hash fs o' := by
  cases p with
  | nil => exact hp rfl
  | cons s p =>
    cases s with
    | field k =>
      simp only [replaceAt]
      split <;> exact ⟨_, _, rfl⟩
    | item i => exact ⟨fields, o, rfl⟩

end RecordFix.Value
