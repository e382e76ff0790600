import RecordFix.Value.Hash

/-!
# Rebasing and attaching

A value that is attached to a container is rebased on its new place, so what it was attached to before does not count
(`rebase_rebase`), and a container that is moved is the one that was filled at its new place (`rebase_append`).
-/

namespace RecordFix

namespace Value

/-! ### Rebasing twice -/

mutual

@[simp] theorem rebase_rebase (o p : Option String) : ∀ v : Value, (v.rebase p).rebase o = v.rebase o
  | string _ _ => rfl
  | array xs _ => by simp only [rebase, rebaseItems_rebaseItems o p 1 1 xs]
  | hash fs _ => by simp only [rebase, rebaseFields_rebaseFields o p fs]

theorem rebaseItems_rebaseItems (o p : Option String) (i j : Nat) :
    ∀ vs : List Value, rebaseItems o i (rebaseItems p j vs) = rebaseItems o i vs
  | [] => rfl
  | v :: vs => by
    simp only [rebaseItems, rebase_rebase _ _ v, rebaseItems_rebaseItems o p (i + 1) (j + 1) vs]

theorem rebaseFields_rebaseFields (o p : Option String) :
    ∀ fs : List (String × Value), rebaseFields o (rebaseFields p fs) = rebaseFields o fs
  | [] => rfl
  | (k, v) :: fs => by
    simp only [rebaseFields, rebase_rebase _ _ v, rebaseFields_rebaseFields o p fs]

end

@[simp] theorem origin_rebase (o : Option String) (v : Value) : (v.rebase o).origin = o := by
  cases v <;> rfl

@[simp] theorem kind_rebase (o : Option String) (v : Value) : (v.rebase o).kind = v.kind := by
  cases v <;> rfl

@[simp] theorem text?_rebase (o : Option String) (v : Value) : (v.rebase o).text? = v.text? := by
  cases v <;> rfl

/-! ### Items -/

@[simp] theorem length_rebaseItems (o : Option String) (i : Nat) (vs : List Value) :
    (rebaseItems o i vs).length = vs.length := by
  induction vs generalizing i with
  | nil => rfl
  | cons v vs ih => simp only [rebaseItems, List.length_cons, ih]

@[simp] theorem texts_rebaseItems (o : Option String) (i : Nat) (xs : List Value) :
    (rebaseItems o i xs).map text? = xs.map text? := by
  induction xs generalizing i with
  | nil => rfl
  | cons x xs ih => simp only [rebaseItems, List.map_cons, text?_rebase, ih]

theorem rebaseItems_eq_nil (o : Option String) (i : Nat) (vs : List Value) : rebaseItems o i vs = [] ↔ vs = [] := by
  cases vs with
  | nil => exact Iff.rfl
  | cons v vs => exact iff_of_false (List.cons_ne_nil _ _) (List.cons_ne_nil _ _)

theorem rebaseItems_append (o : Option String) (i : Nat) (vs ws : List Value) :
    rebaseItems o i (vs ++ ws) = rebaseItems o i vs ++ rebaseItems o (i + vs.length) ws := by
  induction vs generalizing i with
  | nil => rfl
  | cons v vs ih => simp only [List.cons_append, rebaseItems, ih, List.length_cons, Nat.add_assoc, Nat.add_comm 1]

/-- Adding an item at its place. -/
theorem rebaseItems_concat (o : Option String) (vs : List Value) (v : Value) :
    rebaseItems o 1 (vs ++ [v]) = pushItem o (rebaseItems o 1 vs) v := by
  simp only [rebaseItems_append, pushItem, length_rebaseItems, rebaseItems, Nat.add_comm 1]

/-- Appending to a value that is moved is moving what it is appended to. -/
theorem rebase_append (o : Option String) (w v : Value) : (w.append v).rebase o = (w.rebase o).append v := by
  cases w with
  | string t p => simp [append, rebase, origin, pushItem, rebaseItems]
  | array xs p =>
    have h : rebaseItems o 1 (xs ++ [rebase (some (itemOrigin p (xs.length + 1))) v]) =
        pushItem o (rebaseItems o 1 xs) v := by
      rw [rebaseItems_concat, pushItem, pushItem, rebase_rebase]
    simp only [append, rebase, pushItem] at h ⊢
    rw [h]
  | hash fs p => simp [append, rebase, origin, pushItem, rebaseItems, rebaseFields_rebaseFields]

/-! ### Fields -/

@[simp] theorem keys_rebaseFields (o : Option String) (fs : List (String × Value)) :
    (rebaseFields o fs).map (·.1) = fs.map (·.1) := by
  induction fs with
  | nil => rfl
  | cons f fs ih => simp only [rebaseFields, List.map_cons, ih]

theorem rebaseFields_eq_nil (o : Option String) (fs : List (String × Value)) : rebaseFields o fs = [] ↔ fs = [] := by
  cases fs with
  | nil => exact Iff.rfl
  | cons f fs => exact iff_of_false (List.cons_ne_nil _ _) (List.cons_ne_nil _ _)

end Value

namespace Hash

theorem toValue_injective {h g : Hash} (heq : h.toValue = g.toValue) : h = g := by
  obtain ⟨fields, o⟩ := h
  injection heq with h1 h2
  subst h1 h2
  rfl

/-- Adds values to fields, one after the other. -/
def addAll (h : Hash) (fs : List (String × Value)) : Hash := fs.foldl (fun h f => h.add f.1 f.2) h

end Hash

end RecordFix
