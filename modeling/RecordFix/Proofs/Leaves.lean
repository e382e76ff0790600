import RecordFix.Path.Find
import RecordFix.Proofs.Rebase

/-!
# The leaves of a value

The leaves of a value are its texts from left to right (`Value.leaves`). They do not depend on origins, and to merge or
to collect values neither loses nor moves a leaf (`leavesItems_toList_merge`, `leavesItems_toList_collect`). Each leaf
has a place, the positions of the children that lead to it. `Value.retext` and `Value.rewrite?` change the leaves by
their places and leave the rest alone, and a value is determined by its shape and its leaves (`eq_of_shape_eq`).
-/

namespace RecordFix

/-- The positions, from 0, of the children that lead from a value to a leaf of it. -/
abbrev Place := List Nat

namespace Value

variable {v w : Value} {vs ws : List Value} {fs gs : List (String × Value)}

/-! ### Texts from left to right -/

mutual

/-- The texts of a value from left to right. -/
def leaves : Value → List String
  | string t _ => [t]
  | array items _ => leavesItems items
  | hash fields _ => leavesFields fields

def leavesItems : List Value → List String
  | [] => []
  | v :: vs => leaves v ++ leavesItems vs

def leavesFields : List (String × Value) → List String
  | [] => []
  | (_, v) :: fs => leaves v ++ leavesFields fs

end

theorem leavesItems_append (vs ws : List Value) : leavesItems (vs ++ ws) = leavesItems vs ++ leavesItems ws := by
  induction vs with
  | nil => rfl
  | cons v vs ih => simp only [List.cons_append, leavesItems, ih, List.append_assoc]

theorem leavesItems_singleton (v : Value) : leavesItems [v] = v.leaves := List.append_nil _

mutual

@[simp] theorem leaves_rebase (o : Option String) : ∀ v : Value, (v.rebase o).leaves = v.leaves
  | string _ _ => rfl
  | array items _ => leavesItems_rebaseItems o 1 items
  | hash fields _ => leavesFields_rebaseFields o fields

@[simp] theorem leavesItems_rebaseItems (o : Option String) (i : Nat) :
    ∀ vs : List Value, leavesItems (rebaseItems o i vs) = leavesItems vs
  | [] => rfl
  | v :: vs => by simp only [rebaseItems, leavesItems, leaves_rebase _ v, leavesItems_rebaseItems o (i + 1) vs]

@[simp] theorem leavesFields_rebaseFields (o : Option String) :
    ∀ fs : List (String × Value), leavesFields (rebaseFields o fs) = leavesFields fs
  | [] => rfl
  | (k, v) :: fs => by simp only [rebaseFields, leavesFields, leaves_rebase _ v, leavesFields_rebaseFields o fs]

end

theorem leavesItems_toList (v : Value) : leavesItems v.toList = v.leaves := by
  cases v with
  | array items o => rfl
  | string t o => exact leavesItems_singleton _
  | hash fields o => exact leavesItems_singleton _

private theorem leavesItems_flatMap_toList (vs : List Value) : leavesItems (vs.flatMap toList) = leavesItems vs := by
  induction vs with
  | nil => rfl
  | cons v vs ih => simp only [List.flatMap_cons, leavesItems_append, leavesItems_toList, ih, leavesItems]

theorem leavesItems_toList_merge (vs : List Value) : leavesItems (merge vs).toList = leavesItems vs := by
  rcases vs with - | ⟨v, - | ⟨w, vs⟩⟩
  · rfl
  · rfl
  · have h := leavesItems_flatMap_toList (v :: w :: vs)
    simp only [merge, Option.toList_some, leavesItems_singleton, ofList, leaves, leavesItems_rebaseItems, h]

theorem leavesItems_toList_collect (vs : List Value) : leavesItems (collect vs).toList = leavesItems vs := by
  cases vs with
  | nil => rfl
  | cons v vs => simp only [collect, Option.toList_some, leavesItems_singleton, ofList, leaves, leavesItems_rebaseItems]

/-! ### Changing texts -/

mutual

/-- Gives each leaf a text, which depends on its place and its old text. -/
def retext (f : Place → String → String) : Value → Value
  | string t o => string (f [] t) o
  | array items o => array (retextItems f 0 items) o
  | hash fields o => hash (retextFields f 0 fields) o

def retextItems (f : Place → String → String) (i : Nat) : List Value → List Value
  | [] => []
  | v :: vs => retext (fun p => f (i :: p)) v :: retextItems f (i + 1) vs

def retextFields (f : Place → String → String) (i : Nat) : List (String × Value) → List (String × Value)
  | [] => []
  | (k, v) :: fs => (k, retext (fun p => f (i :: p)) v) :: retextFields f (i + 1) fs

end

/-- Maps the text of each leaf. -/
def mapTexts (g : String → String) (v : Value) : Value := v.retext fun _ => g

/-- The value with all texts empty. -/
def shape (v : Value) : Value := v.mapTexts fun _ => ""

section

variable (f : Place → String → String) (g : String → String)

@[simp] theorem length_retextItems (i : Nat) (vs : List Value) : (retextItems f i vs).length = vs.length := by
  induction vs generalizing i with
  | nil => rfl
  | cons v vs ih => simp only [retextItems, List.length_cons, ih]

@[simp] theorem length_retextFields (i : Nat) (fs : List (String × Value)) :
    (retextFields f i fs).length = fs.length := by
  induction fs generalizing i with
  | nil => rfl
  | cons f fs ih => simp only [retextFields, List.length_cons, ih]

theorem retextItems_const (i : Nat) (vs : List Value) : retextItems (fun _ => g) i vs = vs.map (mapTexts g) := by
  induction vs generalizing i with
  | nil => rfl
  | cons v vs ih => simp only [retextItems, ih, List.map_cons, mapTexts]

theorem retextFields_const (i : Nat) (fs : List (String × Value)) :
    retextFields (fun _ => g) i fs = fs.map fun f => (f.1, f.2.mapTexts g) := by
  induction fs generalizing i with
  | nil => rfl
  | cons f fs ih => simp only [retextFields, ih, List.map_cons, mapTexts]

@[simp] theorem mapTexts_string (t : String) (o : Option String) : (string t o).mapTexts g = string (g t) o := rfl

@[simp] theorem mapTexts_array (items : List Value) (o : Option String) :
    (array items o).mapTexts g = array (items.map (mapTexts g)) o := by
  rw [mapTexts, retext, retextItems_const]

@[simp] theorem mapTexts_hash (fields : List (String × Value)) (o : Option String) :
    (hash fields o).mapTexts g = hash (fields.map fun f => (f.1, f.2.mapTexts g)) o := by
  rw [mapTexts, retext, retextFields_const]

mutual

/-- Texts and origins are changed apart from each other. -/
theorem mapTexts_rebase (o : Option String) : ∀ v : Value, (v.rebase o).mapTexts g = (v.mapTexts g).rebase o
  | string _ _ => rfl
  | array items _ => by simp only [rebase, mapTexts_array, map_mapTexts_rebaseItems o 1 items]
  | hash fields _ => by simp only [rebase, mapTexts_hash, map_mapTexts_rebaseFields o fields]

theorem map_mapTexts_rebaseItems (o : Option String) (i : Nat) :
    ∀ vs : List Value, (rebaseItems o i vs).map (mapTexts g) = rebaseItems o i (vs.map (mapTexts g))
  | [] => rfl
  | v :: vs => by
    simp only [rebaseItems, List.map_cons, mapTexts_rebase _ v, map_mapTexts_rebaseItems o (i + 1) vs]

theorem map_mapTexts_rebaseFields (o : Option String) : ∀ fs : List (String × Value),
    (rebaseFields o fs).map (fun f => (f.1, f.2.mapTexts g)) = rebaseFields o (fs.map fun f => (f.1, f.2.mapTexts g))
  | [] => rfl
  | (k, v) :: fs => by
    simp only [rebaseFields, List.map_cons, mapTexts_rebase _ v, map_mapTexts_rebaseFields o fs]

end

theorem toList_mapTexts (v : Value) : (v.mapTexts g).toList = v.toList.map (mapTexts g) := by
  cases v with
  | array items o => rw [mapTexts_array]; rfl
  | string t o => rfl
  | hash fields o => rfl

theorem mapTexts_ofList (vs : List Value) : (ofList vs).mapTexts g = ofList (vs.map (mapTexts g)) := by
  rw [ofList, mapTexts_array, map_mapTexts_rebaseItems, ofList]

theorem merge_map_mapTexts (vs : List Value) : merge (vs.map (mapTexts g)) = (merge vs).map (mapTexts g) := by
  rcases vs with - | ⟨v, - | ⟨w, vs⟩⟩
  · rfl
  · rfl
  · simp only [List.map_cons, merge, Option.map_some, mapTexts_ofList, List.flatMap_cons, List.map_append,
      toList_mapTexts, List.flatMap_map, List.map_flatMap]

theorem collect_map_mapTexts (vs : List Value) : collect (vs.map (mapTexts g)) = (collect vs).map (mapTexts g) := by
  cases vs with
  | nil => rfl
  | cons v vs =>
    show some (ofList ((v :: vs).map (mapTexts g))) = some ((ofList (v :: vs)).mapTexts g)
    rw [mapTexts_ofList]

mutual

theorem retext_retext (f f' : Place → String → String) :
    ∀ v : Value, (v.retext f).retext f' = v.retext fun p t => f' p (f p t)
  | string _ _ => rfl
  | array items _ => by simp only [retext, retextItems_retextItems f f' 0 items]
  | hash fields _ => by simp only [retext, retextFields_retextFields f f' 0 fields]

theorem retextItems_retextItems (f f' : Place → String → String) (i : Nat) :
    ∀ vs : List Value, retextItems f' i (retextItems f i vs) = retextItems (fun p t => f' p (f p t)) i vs
  | [] => rfl
  | v :: vs => by simp only [retextItems, retext_retext _ _ v, retextItems_retextItems f f' (i + 1) vs]

theorem retextFields_retextFields (f f' : Place → String → String) (i : Nat) :
    ∀ fs : List (String × Value), retextFields f' i (retextFields f i fs) = retextFields (fun p t => f' p (f p t)) i fs
  | [] => rfl
  | (k, v) :: fs => by simp only [retextFields, retext_retext _ _ v, retextFields_retextFields f f' (i + 1) fs]

end

/-- New texts do not change the shape. -/
theorem shape_retext (v : Value) : (v.retext f).shape = v.shape := retext_retext f _ v

theorem shape_mapTexts (v : Value) : (v.mapTexts g).shape = v.shape := shape_retext _ v

mutual

theorem leaves_mapTexts : ∀ v : Value, (v.mapTexts g).leaves = v.leaves.map g
  | string _ _ => rfl
  | array items _ => by rw [mapTexts_array, leaves, leaves, leavesItems_map_mapTexts items]
  | hash fields _ => by rw [mapTexts_hash, leaves, leaves, leavesFields_map_mapTexts fields]

theorem leavesItems_map_mapTexts : ∀ vs : List Value, leavesItems (vs.map (mapTexts g)) = (leavesItems vs).map g
  | [] => rfl
  | v :: vs => by
    simp only [List.map_cons, leavesItems, leaves_mapTexts v, leavesItems_map_mapTexts vs, List.map_append]

theorem leavesFields_map_mapTexts : ∀ fs : List (String × Value),
    leavesFields (fs.map fun f => (f.1, f.2.mapTexts g)) = (leavesFields fs).map g
  | [] => rfl
  | (k, v) :: fs => by
    simp only [List.map_cons, leavesFields, leaves_mapTexts v, leavesFields_map_mapTexts fs, List.map_append]

end

end

/-- Values of one shape have equally many leaves. -/
theorem length_leaves_of_shape (h : v.shape = w.shape) : v.leaves.length = w.leaves.length := by
  have hv : v.shape.leaves.length = v.leaves.length := by rw [shape, leaves_mapTexts, List.length_map]
  have hw : w.shape.leaves.length = w.leaves.length := by rw [shape, leaves_mapTexts, List.length_map]
  rw [← hv, h, hw]

mutual

/-- A value is determined by its shape and its leaves. -/
theorem eq_of_shape_eq : ∀ {v w : Value}, v.shape = w.shape → v.leaves = w.leaves → v = w
  | string t o, w, hs, hl => by
    cases w with
    | string u p =>
      injection hs with _ ho
      injection hl with ht
      rw [ho, ht]
    | _ => cases hs
  | array items o, w, hs, hl => by
    cases w with
    | array items' p =>
      rw [shape, shape, mapTexts_array, mapTexts_array] at hs
      injection hs with hitems ho
      rw [ho, eqItems_of_shape_eq hitems hl]
    | string u p => simp [shape] at hs
    | hash fields p => simp [shape] at hs
  | hash fields o, w, hs, hl => by
    cases w with
    | hash fields' p =>
      rw [shape, shape, mapTexts_hash, mapTexts_hash] at hs
      injection hs with hfields ho
      rw [ho, eqFields_of_shape_eq hfields hl]
    | string u p => simp [shape] at hs
    | array items p => simp [shape] at hs

theorem eqItems_of_shape_eq : ∀ {vs ws : List Value}, vs.map shape = ws.map shape →
    leavesItems vs = leavesItems ws → vs = ws
  | [], ws, hs, _ => by
    rw [List.map_nil] at hs
    exact (List.map_eq_nil_iff.1 hs.symm).symm
  | v :: vs, ws, hs, hl => by
    cases ws with
    | nil => cases hs
    | cons w ws =>
      obtain ⟨hv, hvs⟩ := List.cons.inj hs
      obtain ⟨hlv, hlvs⟩ := List.append_inj hl (length_leaves_of_shape hv)
      rw [eq_of_shape_eq hv hlv, eqItems_of_shape_eq hvs hlvs]

theorem eqFields_of_shape_eq : ∀ {fs gs : List (String × Value)},
    fs.map (fun f => (f.1, f.2.shape)) = gs.map (fun f => (f.1, f.2.shape)) →
    leavesFields fs = leavesFields gs → fs = gs
  | [], gs, hs, _ => by
    rw [List.map_nil] at hs
    exact (List.map_eq_nil_iff.1 hs.symm).symm
  | (k, v) :: fs, gs, hs, hl => by
    cases gs with
    | nil => cases hs
    | cons g gs =>
      obtain ⟨l, w⟩ := g
      obtain ⟨hkv, hfs⟩ := List.cons.inj hs
      have hk : k = l := congrArg (·.1) hkv
      have hv : v.shape = w.shape := congrArg (·.2) hkv
      obtain ⟨hlv, hlfs⟩ := List.append_inj hl (length_leaves_of_shape hv)
      rw [hk, eq_of_shape_eq hv hlv, eqFields_of_shape_eq hfs hlfs]

end

theorem retext_self (v : Value) : v.retext (fun _ t => t) = v := by
  have hleaves : (v.mapTexts id).leaves = v.leaves := by rw [leaves_mapTexts, List.map_id]
  exact eq_of_shape_eq (shape_retext _ v) hleaves

/-! ### Changing and leaving out texts -/

/-- The items that are left of an array of some size: if some are gone, the others are numbered anew. -/
def renumber (o : Option String) (size : Nat) (vs : List Value) : List Value :=
  if vs.length < size then rebaseItems o 1 vs else vs

mutual

/-- Gives each leaf a text, or leaves it out of its array or hash; this depends on its place and its old text. Nothing
is left of a text alone that is left out. -/
def rewrite? (f : Place → String → Option String) : Value → Option Value
  | string t o => (f [] t).map fun u => string u o
  | array items o => some (array (renumber o items.length (rewriteItems f 0 items)) o)
  | hash fields o => some (hash (rewriteFields f 0 fields) o)

def rewriteItems (f : Place → String → Option String) (i : Nat) : List Value → List Value
  | [] => []
  | v :: vs => (rewrite? (fun p => f (i :: p)) v).toList ++ rewriteItems f (i + 1) vs

def rewriteFields (f : Place → String → Option String) (i : Nat) : List (String × Value) → List (String × Value)
  | [] => []
  | (k, v) :: fs => ((rewrite? (fun p => f (i :: p)) v).map fun w => (k, w)).toList ++ rewriteFields f (i + 1) fs

end

theorem renumber_of_length (o : Option String) {size : Nat} (h : vs.length = size) : renumber o size vs = vs :=
  if_neg (by omega)

mutual

/-- Where no leaf is left out, the texts are changed in their places. -/
theorem rewrite?_some (f : Place → String → String) :
    ∀ v : Value, v.rewrite? (fun p t => some (f p t)) = some (v.retext f)
  | string _ _ => rfl
  | array items o => by
    rw [rewrite?, rewriteItems_some f 0 items, renumber_of_length o (length_retextItems f 0 items), retext]
  | hash fields _ => by rw [rewrite?, rewriteFields_some f 0 fields, retext]

theorem rewriteItems_some (f : Place → String → String) (i : Nat) :
    ∀ vs : List Value, rewriteItems (fun p t => some (f p t)) i vs = retextItems f i vs
  | [] => rfl
  | v :: vs => by
    rw [rewriteItems, rewrite?_some (fun p => f (i :: p)) v, rewriteItems_some f (i + 1) vs]
    rfl

theorem rewriteFields_some (f : Place → String → String) (i : Nat) :
    ∀ fs : List (String × Value), rewriteFields (fun p t => some (f p t)) i fs = retextFields f i fs
  | [] => rfl
  | (k, v) :: fs => by
    rw [rewriteFields, rewrite?_some (fun p => f (i :: p)) v, rewriteFields_some f (i + 1) fs]
    rfl

end

/-! ### Places behind a position -/

theorem rewriteItems_congr {f g : Place → String → Option String} {i : Nat}
    (h : ∀ j p, i ≤ j → f (j :: p) = g (j :: p)) : rewriteItems f i vs = rewriteItems g i vs := by
  induction vs generalizing i with
  | nil => rfl
  | cons v vs ih =>
    have hv : (fun p => f (i :: p)) = fun p => g (i :: p) := funext fun p => h i p (Nat.le_refl i)
    rw [rewriteItems, rewriteItems, hv, ih fun j p hj => h j p (by omega)]

theorem rewriteFields_congr {f g : Place → String → Option String} {i : Nat}
    (h : ∀ j p, i ≤ j → f (j :: p) = g (j :: p)) : rewriteFields f i fs = rewriteFields g i fs := by
  induction fs generalizing i with
  | nil => rfl
  | cons field fs ih =>
    obtain ⟨k, v⟩ := field
    have hv : (fun p => f (i :: p)) = fun p => g (i :: p) := funext fun p => h i p (Nat.le_refl i)
    rw [rewriteFields, rewriteFields, hv, ih fun j p hj => h j p (by omega)]

end Value

namespace Hash

def leaves (h : Hash) : List String := Value.leavesFields h.fields

def retext (f : Place → String → String) (h : Hash) : Hash := { h with fields := Value.retextFields f 0 h.fields }

def rewrite (f : Place → String → Option String) (h : Hash) : Hash :=
  { h with fields := Value.rewriteFields f 0 h.fields }

end Hash

end RecordFix
