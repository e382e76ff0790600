import RecordFix.Proofs.Reached

/-!
# Editing and finding

An edit with an operator that always answers goes to the leaves that a lookup of the same path finds. If it ends well,
the lookup succeeds too (`Value.exists_findIn_of_editIn`). The operator got the texts of the leaves that the path
reaches, and what is left is the value in which these leaves are rewritten (`Value.rewritten_editIn`).
-/

namespace RecordFix

variable {σ ε : Type}

/-- An operator that answers each text, and whose state only takes note of the texts. -/
def TextEdit.total (op : String → Option String) (note : String → σ → σ) : TextEdit σ ε :=
  fun t s => (.ok (op t), note t s)

/-- What is left of a child that was edited. -/
def EditedChild.kept (c : EditedChild) : Option Value := if c.removed then none else some c.value

namespace Value

variable {fail : ValueError → ε} {edit : TextEdit σ ε} {op : String → Option String} {note : String → σ → σ}
variable {v : Value} {vs items : List Value} {fs fields : List (String × Value)} {path : Path} {i : Nat} {s s' : σ}
variable {strict : Bool} {o : Option String} {c : EditedChild}

/-! ### One step of an edit -/

/-- An edit of a child that passes a test; one that fails it is left alone. -/
def editChild (fail : ValueError → ε) (edit : TextEdit σ ε) (b strict : Bool) (path : Path) (s : σ) (v : Value) :
    Edited σ ε EditedChild :=
  if b then editIn fail edit strict path s v else ⟨{ value := v }, s, none⟩

/-- An edit of a child, and of the other children with the state that it leaves, unless it fails. -/
def consEdited {α : Type} (first : Edited σ ε α) (others : List α) (more : σ → Edited σ ε (List α)) :
    Edited σ ε (List α) :=
  match first.failure with
  | some e => ⟨first.node :: others, first.state, some e⟩
  | none => ⟨first.node :: (more first.state).node, (more first.state).state, (more first.state).failure⟩

private theorem consEdited_of_ok {α : Type} {first : Edited σ ε α} {others cs : List α}
    {more : σ → Edited σ ε (List α)} (h : consEdited first others more = ⟨cs, s', none⟩) :
    ∃ c s₁ cs₁, first = ⟨c, s₁, none⟩ ∧ more s₁ = ⟨cs₁, s', none⟩ ∧ cs = c :: cs₁ := by
  obtain ⟨c, s₁, failure⟩ := first
  cases failure with
  | some e => cases h
  | none =>
    unfold consEdited at h
    cases hmore : more s₁ with
    | mk cs₁ s₂ failure =>
      simp only [hmore] at h
      cases h
      exact ⟨c, s₁, cs₁, rfl, hmore, rfl⟩

theorem editItems_cons (test : Nat → Bool) :
    editItems fail edit test path i s (v :: vs) =
      consEdited (editChild fail edit (test i) false path s v) (vs.map ({ value := · }))
        fun s₁ => editItems fail edit test path (i + 1) s₁ vs := by
  rw [editItems]
  cases test i <;> rfl

theorem editFields_cons (test : String → Bool) (k : String) :
    editFields fail edit test path s ((k, v) :: fs) =
      consEdited
        ⟨(k, (editChild fail edit (test k) true path s v).node), (editChild fail edit (test k) true path s v).state,
          (editChild fail edit (test k) true path s v).failure⟩
        (fs.map fun f => (f.1, { value := f.2 })) fun s₁ => editFields fail edit test path s₁ fs := by
  rw [editFields]
  cases test k <;> rfl

/-- The items of an array are edited one after the other. -/
theorem editItems_cons_of_ok {test : Nat → Bool} {cs : List EditedChild}
    (h : editItems fail edit test path i s (v :: vs) = ⟨cs, s', none⟩) :
    ∃ c s₁ cs₁, editChild fail edit (test i) false path s v = ⟨c, s₁, none⟩ ∧
      editItems fail edit test path (i + 1) s₁ vs = ⟨cs₁, s', none⟩ ∧ cs = c :: cs₁ := by
  rw [editItems_cons] at h
  exact consEdited_of_ok h

/-- The fields of a hash are edited one after the other. -/
theorem editFields_cons_of_ok {test : String → Bool} {k : String} {cs : List (String × EditedChild)}
    (h : editFields fail edit test path s ((k, v) :: fs) = ⟨cs, s', none⟩) :
    ∃ c s₁ cs₁, editChild fail edit (test k) true path s v = ⟨c, s₁, none⟩ ∧
      editFields fail edit test path s₁ fs = ⟨cs₁, s', none⟩ ∧ cs = (k, c) :: cs₁ := by
  rw [editFields_cons] at h
  obtain ⟨first, s₁, cs₁, hfirst, hmore, rfl⟩ := consEdited_of_ok h
  cases hchild : editChild fail edit (test k) true path s v with
  | mk c s₂ failure =>
    rw [hchild] at hfirst
    cases hfirst
    exact ⟨c, s₂, cs₁, rfl, hmore, rfl⟩

/-- An array whose items were edited. -/
def closeItems (o : Option String) (edited : Edited σ ε (List EditedChild)) : Edited σ ε EditedChild :=
  match edited.failure with
  | some e => ⟨{ value := array (edited.node.map (·.value)) o }, edited.state, some e⟩
  | none => ⟨{ value := array (settleItems o edited.node) o }, edited.state, none⟩

theorem editIn_array : editIn fail edit strict path s (array items o) =
    closeItems o (editItems fail edit (itemTest items.length path) (itemPath items.length path) 0 s items) := by
  cases path with
  | nil => rfl
  | cons segment rest =>
    unfold editIn itemTest itemPath
    dsimp only
    cases ItemChoice.ofSegment items.length segment <;> rfl

/-- The array is edited by its items. -/
theorem editIn_array_of_ok (h : editIn fail edit strict path s (array items o) = ⟨c, s', none⟩) :
    ∃ cs, editItems fail edit (itemTest items.length path) (itemPath items.length path) 0 s items = ⟨cs, s', none⟩ ∧
      c = { value := array (settleItems o cs) o } := by
  rw [editIn_array] at h
  cases hitems : editItems fail edit (itemTest items.length path) (itemPath items.length path) 0 s items with
  | mk cs s₁ failure =>
    rw [hitems] at h
    cases failure with
    | some e => cases h
    | none =>
      cases h
      exact ⟨cs, rfl, rfl⟩

/-- A hash whose fields were edited. -/
def closeFields (o : Option String) (edited : Edited σ ε (List (String × EditedChild))) : Edited σ ε EditedChild :=
  match edited.failure with
  | some e => ⟨{ value := hash (edited.node.map fun f => (f.1, f.2.value)) o }, edited.state, some e⟩
  | none => ⟨{ value := hash (settleFields edited.node) o }, edited.state, none⟩

theorem editIn_hash (segment : String) (rest : Path) : editIn fail edit strict (segment :: rest) s (hash fields o) =
    closeFields o (editFields fail edit (fieldTest fields.length segment) rest s fields) := rfl

/-- The hash is edited by its fields, and not at all without a segment. -/
theorem editIn_hash_of_ok (h : editIn fail edit strict path s (hash fields o) = ⟨c, s', none⟩) :
    path ≠ [] ∧ ∃ cs, editFields fail edit (nameTest fields.length path) path.tail s fields = ⟨cs, s', none⟩ ∧
      c = { value := hash (settleFields cs) o } := by
  cases path with
  | nil =>
    unfold editIn at h
    cases h
  | cons segment rest =>
    refine ⟨List.cons_ne_nil _ _, ?_⟩
    show ∃ cs, editFields fail edit (fieldTest fields.length segment) rest s fields = _ ∧ _
    rw [editIn_hash] at h
    cases hfields : editFields fail edit (fieldTest fields.length segment) rest s fields with
    | mk cs s₁ failure =>
      rw [hfields] at h
      cases failure with
      | some e => cases h
      | none =>
        cases h
        exact ⟨cs, rfl, rfl⟩

/-! ### The lookup succeeds -/

private theorem exists_findItems
    (h : ∀ (n : Nat) (v : Value), items[n]? = some v → ∃ found, v.findIn path = .ok found) :
    ∃ found, findItems path items = .ok found := by
  induction items with
  | nil => exact ⟨[], rfl⟩
  | cons v vs ih =>
    obtain ⟨first, hfirst⟩ := h 0 v rfl
    obtain ⟨more, hmore⟩ := ih fun n => h (n + 1)
    refine ⟨first.toList ++ more, ?_⟩
    rw [findItems, hfirst, hmore]
    rfl

private theorem exists_findItem {n : Nat} (h : ∀ v, items[n]? = some v → ∃ found, v.findIn path = .ok found) :
    ∃ found, findItem path n items = .ok found := by
  induction items generalizing n with
  | nil => cases n <;> exact ⟨none, rfl⟩
  | cons v vs ih =>
    cases n with
    | zero => exact h v rfl
    | succ n => exact ih h

/-- A strict edit does not pass by a text. -/
private theorem not_isString_of_strict (h : editIn fail edit true path s v = ⟨c, s', none⟩) (hpath : path ≠ []) :
    v.isString = false := by
  cases v with
  | string t o =>
    unfold editIn at h
    simp [hpath] at h
  | array items o => rfl
  | hash fields o => rfl

mutual

/-- If an edit ends well, the lookup does too. -/
theorem exists_findIn_of_editIn : ∀ (v : Value) {strict : Bool} {path : Path} {s s' : σ} {c : EditedChild},
    editIn fail edit strict path s v = ⟨c, s', none⟩ → ∃ found, v.findIn path = .ok found
  | string t o, _, path, _, _, _, _ => ⟨if path.isEmpty then some (string t o) else none, by unfold findIn; rfl⟩
  | array items o, _, [], _, _, _, _ => ⟨_, findIn_nil _⟩
  | array items o, _, segment :: rest, s, s', c, h => by
    obtain ⟨cs, hcs, -⟩ := editIn_array_of_ok h
    have hitems := exists_findIn_of_editItems items hcs
    unfold itemTest itemPath at hitems
    unfold findIn
    dsimp only at hitems ⊢
    cases hc : ItemChoice.ofSegment items.length segment with
    | position n =>
      simp only [hc, Nat.zero_add, beq_iff_eq] at hitems
      exact exists_findItem fun v hv => hitems n v hv rfl
    | nothing => exact ⟨none, rfl⟩
    | all =>
      simp only [hc] at hitems
      obtain ⟨found, hfound⟩ := exists_findItems fun n v hn => hitems n v hn trivial
      exact ⟨collect found, by rw [hfound]; rfl⟩
    | through =>
      simp only [hc] at hitems
      obtain ⟨found, hfound⟩ := exists_findItems fun n v hn => hitems n v hn trivial
      exact ⟨collect found, by rw [hfound]; rfl⟩
  | hash fields o, _, [], _, _, _, _ => ⟨_, findIn_nil _⟩
  | hash fields o, _, segment :: rest, s, s', c, h => by
    obtain ⟨-, cs, hcs, -⟩ := editIn_hash_of_ok h
    have hfields : ∀ strict, ∃ found, findFields strict (fieldTest fields.length segment) rest fields = .ok found :=
      exists_findFields_of_editFields fields hcs
    unfold findIn
    dsimp only
    split
    · rename_i hw
      obtain ⟨found, hfound⟩ := hfields false
      rw [eq_of_beq hw, fieldTest_wildcard] at hfound
      exact ⟨collect found, by rw [hfound]; rfl⟩
    · obtain ⟨found, hfound⟩ := hfields true
      exact ⟨merge found, by rw [hfound]; rfl⟩

theorem exists_findIn_of_editItems : ∀ (vs : List Value) {test : Nat → Bool} {path : Path} {i : Nat} {s s' : σ}
    {cs : List EditedChild}, editItems fail edit test path i s vs = ⟨cs, s', none⟩ →
    ∀ n v, vs[n]? = some v → test (i + n) = true → ∃ found, v.findIn path = .ok found
  | [], _, _, _, _, _, _, _, n, _, hn, _ => by cases hn
  | v :: vs, test, path, i, s, s', cs, h, n, w, hn, ht => by
    obtain ⟨c, s₁, cs₁, hchild, hrest, -⟩ := editItems_cons_of_ok h
    cases n with
    | zero =>
      cases hn
      rw [Nat.add_zero] at ht
      rw [editChild, if_pos ht] at hchild
      exact exists_findIn_of_editIn v hchild
    | succ n =>
      rw [show i + (n + 1) = i + 1 + n by omega] at ht
      exact exists_findIn_of_editItems vs hrest n w hn ht

theorem exists_findFields_of_editFields : ∀ (fs : List (String × Value)) {test : String → Bool} {path : Path}
    {s s' : σ} {cs : List (String × EditedChild)}, editFields fail edit test path s fs = ⟨cs, s', none⟩ →
    ∀ strict, ∃ found, findFields strict test path fs = .ok found
  | [], _, _, _, _, _, _, _ => ⟨[], rfl⟩
  | (k, v) :: fs, test, path, s, s', cs, h, strict => by
    obtain ⟨c, s₁, cs₁, hchild, hrest, -⟩ := editFields_cons_of_ok h
    obtain ⟨more, hmore⟩ := exists_findFields_of_editFields fs hrest strict
    unfold findFields
    split
    · rename_i hk
      rw [editChild, if_pos hk] at hchild
      obtain ⟨first, hfirst⟩ := exists_findIn_of_editIn v hchild
      split
      · -- the edit would have failed at this text, even where the lookup is lenient
        rename_i hstring
        simp only [Bool.and_eq_true, Bool.not_eq_true', List.isEmpty_eq_false_iff] at hstring
        rw [not_isString_of_strict hchild hstring.1.2] at hstring
        cases hstring.2
      · refine ⟨first.toList ++ more, ?_⟩
        rw [hfirst, hmore]
        rfl
    · exact ⟨more, hmore⟩

end

/-! ### Leaves that are rewritten -/

/-- The operator at the places of some leaves, and all other leaves as they are. -/
def rewriting (op : String → Option String) (ls : List (Place × String)) (p : Place) (t : String) : Option String :=
  if p ∈ ls.map (·.1) then op t else some t

/-- Whether an edit has handed the texts of some leaves to the operator, in order, and has left the value in which
these leaves are rewritten. -/
def Rewritten (op : String → Option String) (note : String → σ → σ) (ls : List (Place × String)) (v : Value)
    (s s' : σ) (c : EditedChild) : Prop :=
  s' = ls.foldl (fun s l => note l.2 s) s ∧ c.kept = v.rewrite? (rewriting op ls)

private theorem mem_underChild_append {ls more : List (Place × String)} {p : Place}
    (hbehind : ∀ l ∈ more, ∃ j p, l.1 = j :: p ∧ i + 1 ≤ j) :
    i :: p ∈ (ls.map (underChild i) ++ more).map (·.1) ↔ p ∈ ls.map (·.1) := by
  rw [List.map_append, List.mem_append]
  constructor
  · rintro (h | h)
    · obtain ⟨m, hm, hp⟩ := List.mem_map.1 h
      obtain ⟨l, hl, rfl⟩ := List.mem_map.1 hm
      rw [← (List.cons.inj hp).2]
      exact List.mem_map_of_mem hl
    · obtain ⟨m, hm, hp⟩ := List.mem_map.1 h
      obtain ⟨j, q, hq, hj⟩ := hbehind m hm
      rw [hp] at hq
      have hij := (List.cons.inj hq).1
      omega
  · intro h
    obtain ⟨l, hl, rfl⟩ := List.mem_map.1 h
    exact Or.inl (List.mem_map.2 ⟨_, List.mem_map_of_mem hl, rfl⟩)

/-- At a child only its own leaves are rewritten. -/
private theorem rewriting_underChild {ls more : List (Place × String)}
    (hbehind : ∀ l ∈ more, ∃ j p, l.1 = j :: p ∧ i + 1 ≤ j) :
    (fun p => rewriting op (ls.map (underChild i) ++ more) (i :: p)) = rewriting op ls := by
  funext p t
  unfold rewriting
  simp only [mem_underChild_append hbehind]

/-- Behind a child its leaves do not count. -/
private theorem rewriting_behind {ls more : List (Place × String)} {j : Nat} {p : Place} (hj : i + 1 ≤ j) :
    rewriting op (ls.map (underChild i) ++ more) (j :: p) = rewriting op more (j :: p) := by
  have hls : j :: p ∉ (ls.map (underChild i)).map (·.1) := by
    intro h
    obtain ⟨m, hm, hp⟩ := List.mem_map.1 h
    obtain ⟨l, -, rfl⟩ := List.mem_map.1 hm
    have hij := (List.cons.inj hp).1
    omega
  funext t
  unfold rewriting
  simp only [List.map_append, List.mem_append, or_iff_right hls]

private theorem rewritten_editChild {b : Bool} (h : editChild fail (.total op note) b strict path s v = ⟨c, s', none⟩)
    (hv : editIn fail (.total op note) strict path s v = ⟨c, s', none⟩ →
      Rewritten op note (reached path v) v s s' c) :
    Rewritten op note (if b then reached path v else []) v s s' c := by
  cases b with
  | true => exact hv h
  | false =>
    cases h
    refine ⟨rfl, ?_⟩
    have hnone : rewriting op [] = fun _ t => some t := rfl
    rw [if_neg Bool.false_ne_true, hnone, rewrite?_some (fun _ t => t), retext_self]
    rfl

theorem settleItems_eq_renumber (o : Option String) (cs : List EditedChild) :
    settleItems o cs = renumber o cs.length (cs.filterMap EditedChild.kept) := by
  have hkept : cs.filterMap EditedChild.kept = (cs.filter (!·.removed)).map (·.value) := by
    induction cs with
    | nil => rfl
    | cons c cs ih =>
      obtain ⟨v, removed⟩ := c
      cases removed <;> simp [EditedChild.kept, ih]
  unfold settleItems renumber
  rw [hkept, List.length_map]
  cases hany : cs.any (·.removed) with
  | true =>
    have hlt : (cs.filter (!·.removed)).length < cs.length := by
      rw [List.length_filter_lt_length_iff_exists]
      obtain ⟨c, hc, hremoved⟩ := List.any_eq_true.1 hany
      exact ⟨c, hc, by simp [hremoved]⟩
    rw [if_pos rfl, if_pos hlt]
  | false =>
    have hall : cs.filter (!·.removed) = cs := by
      rw [List.filter_eq_self]
      intro c hc
      have := List.any_eq_false.1 hany c hc
      simpa using this
    rw [hall, if_neg Bool.false_ne_true, if_neg (Nat.lt_irrefl _)]

theorem settleFields_eq_filterMap (cs : List (String × EditedChild)) :
    settleFields cs = cs.filterMap fun f => f.2.kept.map fun v => (f.1, v) := by
  induction cs with
  | nil => rfl
  | cons f cs ih =>
    obtain ⟨k, v, removed⟩ := f
    unfold settleFields at ih ⊢
    cases removed <;> simp [EditedChild.kept, ih]

mutual

/-- An edit that ends well rewrites the leaves that its path reaches. -/
theorem rewritten_editIn : ∀ (v : Value) {strict : Bool} {path : Path} {s s' : σ} {c : EditedChild},
    editIn fail (.total op note) strict path s v = ⟨c, s', none⟩ → Rewritten op note (reached path v) v s s' c
  | string t o, strict, path, s, s', c, h => by
    unfold editIn at h
    unfold reached
    split at h
    · rename_i hpath
      rw [if_pos hpath]
      cases hop : op t with
      | some u =>
        simp only [TextEdit.total, hop] at h
        cases h
        exact ⟨rfl, by simp [EditedChild.kept, rewrite?, rewriting, hop]⟩
      | none =>
        simp only [TextEdit.total, hop] at h
        cases h
        exact ⟨rfl, by simp [EditedChild.kept, rewrite?, rewriting, hop]⟩
    · rename_i hpath
      rw [if_neg hpath]
      cases strict with
      | true => cases h
      | false =>
        cases h
        exact ⟨rfl, by simp [EditedChild.kept, rewrite?, rewriting]⟩
  | array items o, strict, path, s, s', c, h => by
    obtain ⟨cs, hcs, rfl⟩ := editIn_array_of_ok h
    obtain ⟨hstate, hlen, hitems⟩ := rewritten_editItems items hcs
    refine ⟨hstate, ?_⟩
    rw [rewrite?, reached, ← hitems, ← hlen, ← settleItems_eq_renumber]
    rfl
  | hash fields o, strict, path, s, s', c, h => by
    obtain ⟨-, cs, hcs, rfl⟩ := editIn_hash_of_ok h
    obtain ⟨hstate, hfields⟩ := rewritten_editFields fields 0 hcs
    refine ⟨hstate, ?_⟩
    rw [rewrite?, reached, ← hfields, ← settleFields_eq_filterMap]
    rfl

theorem rewritten_editItems : ∀ (vs : List Value) {test : Nat → Bool} {path : Path} {i : Nat} {s s' : σ}
    {cs : List EditedChild}, editItems fail (.total op note) test path i s vs = ⟨cs, s', none⟩ →
    s' = (reachedItems test path i vs).foldl (fun s l => note l.2 s) s ∧ cs.length = vs.length ∧
      cs.filterMap EditedChild.kept = rewriteItems (rewriting op (reachedItems test path i vs)) i vs
  | [], _, _, _, _, _, _, h => by
    cases h
    exact ⟨rfl, rfl, rfl⟩
  | v :: vs, test, path, i, s, s', cs, h => by
    obtain ⟨c, s₁, cs₁, hchild, hrest, rfl⟩ := editItems_cons_of_ok h
    obtain ⟨hstate₁, hkept⟩ := rewritten_editChild hchild (rewritten_editIn v)
    obtain ⟨hstate, hlen, hitems⟩ := rewritten_editItems vs hrest
    refine ⟨?_, by simp [hlen], ?_⟩
    · rw [hstate, hstate₁, reachedItems, List.foldl_append, List.foldl_map]
      rfl
    · -- the places of the item and of those behind it do not meet, so each part is rewritten at its own leaves
      rw [reachedItems, rewriteItems, rewriting_underChild fun _ => exists_cons_of_mem_reachedItems, ← hkept,
        rewriteItems_congr fun j p => rewriting_behind, ← hitems]
      cases hc : c.kept <;> simp [hc]

theorem rewritten_editFields : ∀ (fs : List (String × Value)) (i : Nat) {test : String → Bool} {path : Path} {s s' : σ}
    {cs : List (String × EditedChild)}, editFields fail (.total op note) test path s fs = ⟨cs, s', none⟩ →
    s' = (reachedFields test path i fs).foldl (fun s l => note l.2 s) s ∧
      (cs.filterMap fun f => f.2.kept.map fun v => (f.1, v)) =
        rewriteFields (rewriting op (reachedFields test path i fs)) i fs
  | [], _, _, _, _, _, _, h => by
    cases h
    exact ⟨rfl, rfl⟩
  | (k, v) :: fs, i, test, path, s, s', cs, h => by
    obtain ⟨c, s₁, cs₁, hchild, hrest, rfl⟩ := editFields_cons_of_ok h
    obtain ⟨hstate₁, hkept⟩ := rewritten_editChild hchild (rewritten_editIn v)
    obtain ⟨hstate, hfields⟩ := rewritten_editFields fs (i + 1) hrest
    refine ⟨?_, ?_⟩
    · rw [hstate, hstate₁, reachedFields, List.foldl_append, List.foldl_map]
      rfl
    · rw [reachedFields, rewriteFields, rewriting_underChild fun _ => exists_cons_of_mem_reachedFields, ← hkept,
        rewriteFields_congr fun j p => rewriting_behind, ← hfields]
      cases hc : c.kept <;> simp [hc]

end

end Value

namespace Hash

variable {fail : ValueError → ε} {op : String → Option String} {note : String → σ → σ}

/-- An edit of a hash is one of its fields. -/
private theorem edit_of_ok {h : Hash} {path : Path} (hpath : path ≠ []) {s : σ}
    (hok : (h.edit fail (.total op note) path s).failure = none) :
    ∃ c s', Value.editIn fail (.total op note) true path s h.toValue = ⟨c, s', none⟩ ∧
      ∀ fields, c.kept = some (.hash fields h.origin) →
        h.edit fail (.total op note) path s = ⟨⟨fields, h.origin⟩, s', none⟩ := by
  unfold edit at hok ⊢
  rw [if_neg (by simpa using hpath)] at hok ⊢
  cases hedited : Value.editIn fail (.total op note) true path s h.toValue with
  | mk c s' failure =>
    rw [hedited] at hok
    have hfailure : failure = none := by
      dsimp only at hok
      split at hok <;> exact hok
    subst hfailure
    refine ⟨c, s', rfl, fun fields hkept => ?_⟩
    unfold EditedChild.kept at hkept
    split at hkept
    · cases hkept
    · have hvalue : c.value = .hash fields h.origin := Option.some.inj hkept
      simp only [hvalue]

/-- The hash in which the texts of the leaves that a path reaches are replaced by the answers to them; where there is no
answer, the leaf is left out. -/
def rewriteAt (op : String → Option String) (h : Hash) (path : Path) : Hash :=
  h.rewrite (Value.rewriting op (h.toValue.reached path))

/-- An edit that ends well rewrites the leaves that its path reaches, and no others. -/
theorem edit_eq_rewriteAt {h : Hash} {path : Path} (hpath : path ≠ []) (s : σ)
    (hok : (h.edit fail (.total op note) path s).failure = none) :
    ∃ s', h.edit fail (.total op note) path s = ⟨h.rewriteAt op path, s', none⟩ := by
  obtain ⟨c, s', hedited, hleft⟩ := edit_of_ok hpath hok
  obtain ⟨-, hkept⟩ := Value.rewritten_editIn h.toValue hedited
  exact ⟨s', hleft _ hkept⟩

/-- If an edit with an operator that always answers ends well, a lookup of the same path succeeds. The operator was
given the texts of the leaves that are found, one after the other, and the hash that is left is the one before with
just these leaves replaced by the answers, or left out of their arrays and hashes where there was none. If there is
always an answer, a lookup afterwards finds what it found before with the leaves replaced by the answers. -/
theorem edit_eq_rewrite {h : Hash} {path : Path} (hpath : path ≠ []) (s : σ)
    (hok : (h.edit fail (.total op note) path s).failure = none) :
    ∃ (found : Option Value) (places : List Place), h.find path = .ok found ∧ h.ReadsAt path places ∧
      h.edit fail (.total op note) path s =
        ⟨h.rewrite fun p t => if p ∈ places then op t else some t,
          (Value.leavesItems found.toList).foldl (fun s t => note t s) s, none⟩ ∧
      ∀ g : String → String, (∀ t, op t = some (g t)) →
        (h.edit fail (.total op note) path s).node.find path = .ok (found.map (Value.mapTexts g)) := by
  obtain ⟨c, s', hedited, hleft⟩ := edit_of_ok hpath hok
  obtain ⟨found, hfound⟩ := Value.exists_findIn_of_editIn h.toValue hedited
  obtain ⟨rfl, hkept⟩ := Value.rewritten_editIn h.toValue hedited
  have hresult := hleft _ hkept
  have hstate : (h.toValue.reached path).foldl (fun s l => note l.2 s) s =
      (Value.leavesItems found.toList).foldl (fun s t => note t s) s := by
    rw [Value.leaves_findIn hfound, List.foldl_map]
  rw [hstate] at hresult
  refine ⟨found, _, hfound, readsAt_reached hfound, hresult, ?_⟩
  intro g hg
  -- no leaf is left out, so the texts are changed in their places
  let f : Place → String → String := fun p t => if p ∈ (h.toValue.reached path).map (·.1) then g t else t
  have hrewriting : Value.rewriting op (h.toValue.reached path) = fun p t => some (f p t) := by
    funext p t
    simp only [Value.rewriting, hg, f]
    split <;> rfl
  have hnode : (⟨Value.rewriteFields (Value.rewriting op (h.toValue.reached path)) 0 h.fields, h.origin⟩ : Hash) =
      h.retext f := by
    rw [hrewriting, Value.rewriteFields_some]
    rfl
  rw [hresult, hnode]
  refine Value.findIn_retext_of_reached hfound ?_
  intro l hl
  exact if_pos (List.mem_map_of_mem hl)

/-- A field name goes through an array and an array in it: one text is left out and one replaced, or both replaced. -/
theorem edit_eq_rewrite_through :
    let h : Hash := ⟨[("a", .array [.hash [("b", .ofString "x"), ("c", .ofString "x")] none,
      .array [.hash [("b", .ofString "y")] none] none] none)], none⟩
    let op : String → Option String := fun t => if t = "x" then none else some "z"
    (∃ (found : Option Value) (places : List Place), h.find ["a", "b"] = .ok found ∧ h.ReadsAt ["a", "b"] places ∧
      h.edit id (.total op fun t seen => seen ++ [t]) ["a", "b"] [] =
        ⟨h.rewrite fun p t => if p ∈ places then op t else some t,
          (Value.leavesItems found.toList).foldl (fun seen t => seen ++ [t]) [], none⟩) ∧
      ∃ found, h.find ["a", "b"] = .ok found ∧
        (h.edit id (.total (fun t => some (t ++ t)) fun _ seen => seen) ["a", "b"] ()).node.find ["a", "b"] =
          .ok (found.map (Value.mapTexts fun t => t ++ t)) := by
  intro h op
  constructor
  · have hok : (h.edit id (.total op fun t seen => seen ++ [t]) ["a", "b"] []).failure = none := by decide
    obtain ⟨found, places, hfound, hreads, hedit, -⟩ := edit_eq_rewrite (List.cons_ne_nil _ _) [] hok
    exact ⟨found, places, hfound, hreads, hedit⟩
  · have hok : (h.edit id (.total (fun t => some (t ++ t)) fun _ seen => seen) ["a", "b"] ()).failure = none := by
      decide
    obtain ⟨found, -, hfound, -, -, hafter⟩ := edit_eq_rewrite (List.cons_ne_nil _ _) () hok
    exact ⟨found, hfound, hafter _ fun _ => rfl⟩

end Hash

end RecordFix
