import RecordFix.Path.Edit
import RecordFix.Path.Find
import RecordFix.Path.Insert
import RecordFix.Path.Remove
import RecordFix.Path.Slot
import RecordFix.Proofs.Placed

/-!
# Paths in placed values

What is found at a path is placed for its own origin (`Placed.findIn`), and a placed value stays so when a value is
inserted at a path (`Placed.insertIn`), when the texts at a path are edited (`Placed.editIn`), when what is there is
removed (`Placed.removeIn`) and when a slot is filled with a value that is placed like the one before
(`Placed.fillSlot`). Errors on the way make no difference.
-/

namespace RecordFix

section

variable {ε α β : Type} {x : Except ε α}

theorem exists_of_map_eq_ok {f : α → β} {b : β} (h : x.map f = .ok b) : ∃ a, x = .ok a ∧ f a = b := by
  cases x with
  | error e => cases h
  | ok a => exact ⟨a, rfl, Except.ok.inj h⟩

theorem exists_of_bind_eq_ok {f : α → Except ε β} {b : β} (h : x >>= f = .ok b) : ∃ a, x = .ok a ∧ f a = .ok b := by
  cases x with
  | error e => cases h
  | ok a => exact ⟨a, rfl, h⟩

end

namespace Value

variable {o : Option String} {v w : Value} {vs items : List Value} {fs fields : List (String × Value)} {path : Path}

/-! ### Finding -/

private theorem placed_collect (h : ∀ v ∈ vs, v.Placed v.origin) : ∀ w ∈ collect vs, w.Placed w.origin := by
  intro w hw
  unfold collect at hw
  split at hw
  · cases hw
  · cases hw
    exact placed_ofList fun v hv => (h v hv).distinct

/-- Values that are found together. -/
private theorem forall_mem_append_toList {P : Value → Prop} {found : Option Value} {more : List Value}
    (hfound : ∀ w ∈ found, P w) (hmore : ∀ w ∈ more, P w) : ∀ w ∈ found.toList ++ more, P w := by
  intro w hw
  rcases List.mem_append.1 hw with hw | hw
  · exact hfound w (Option.mem_toList.1 hw)
  · exact hmore w hw

mutual

/-- What is found below a placed value is placed for its own origin. -/
theorem Placed.findIn : ∀ {path : Path} {o : Option String} {v : Value}, v.Placed o →
    ∀ ⦃found : Option Value⦄, v.findIn path = .ok found → ∀ w ∈ found, w.Placed w.origin
  | path, o, string t p, h => by
    intro found hf w hw
    unfold Value.findIn at hf
    rw [← Except.ok.inj hf] at hw
    split at hw
    · cases hw
      rfl
    · cases hw
  | path, o, array items p, h => by
    intro found hf w hw
    have hself : (array items p).Placed p := h.1 ▸ h
    unfold Value.findIn at hf
    split at hf
    · cases hf
      cases hw
      exact hself
    · split at hf
      · obtain ⟨vs, hvs, rfl⟩ := exists_of_map_eq_ok hf
        exact placed_collect (PlacedItems.findItems h.2 hvs) w hw
      · exact PlacedItems.findItem h.2 _ hf w hw
      · cases hf
        cases hw
      · obtain ⟨vs, hvs, rfl⟩ := exists_of_map_eq_ok hf
        exact placed_collect (PlacedItems.findItems h.2 hvs) w hw
  | path, o, hash fields p, h => by
    intro found hf w hw
    have hself : (hash fields p).Placed p := h.1 ▸ h
    unfold Value.findIn at hf
    split at hf
    · cases hf
      cases hw
      exact hself
    · split at hf
      · obtain ⟨vs, hvs, rfl⟩ := exists_of_map_eq_ok hf
        exact placed_collect (PlacedFields.findFields h.2.2 hvs) w hw
      · obtain ⟨vs, hvs, rfl⟩ := exists_of_map_eq_ok hf
        exact placed_merge (PlacedFields.findFields h.2.2 hvs) w hw

theorem PlacedItems.findItems : ∀ {path : Path} {o : Option String} {i : Nat} {items : List Value},
    PlacedItems o i items → ∀ ⦃found : List Value⦄, Value.findItems path items = .ok found →
    ∀ w ∈ found, w.Placed w.origin
  | _, _, _, [], _ => by
    intro found hf w hw
    cases hf
    cases hw
  | path, o, i, v :: vs, h => by
    intro found hf
    obtain ⟨first, hfirst, hf⟩ := exists_of_bind_eq_ok hf
    obtain ⟨more, hmore, hf⟩ := exists_of_bind_eq_ok hf
    cases hf
    exact forall_mem_append_toList (Placed.findIn h.1 hfirst) (PlacedItems.findItems h.2 hmore)

theorem PlacedItems.findItem : ∀ {path : Path} {o : Option String} {i : Nat} {items : List Value},
    PlacedItems o i items → ∀ (n : Nat) ⦃found : Option Value⦄, Value.findItem path n items = .ok found →
    ∀ w ∈ found, w.Placed w.origin
  | _, _, _, [], _ => by
    intro n found hf w hw
    cases n <;> cases hf <;> cases hw
  | _, _, _, v :: vs, h => by
    intro n found hf
    cases n with
    | zero => exact Placed.findIn h.1 hf
    | succ n => exact PlacedItems.findItem h.2 n hf

theorem PlacedFields.findFields : ∀ {strict : Bool} {test : String → Bool} {path : Path} {o : Option String}
    {fields : List (String × Value)}, PlacedFields o fields →
    ∀ ⦃found : List Value⦄, Value.findFields strict test path fields = .ok found → ∀ w ∈ found, w.Placed w.origin
  | _, _, _, _, [], _ => by
    intro found hf w hw
    cases hf
    cases hw
  | strict, test, path, o, (k, v) :: fs, h => by
    intro found hf
    unfold Value.findFields at hf
    split at hf
    · split at hf
      · cases hf
      · obtain ⟨first, hfirst, hf⟩ := exists_of_bind_eq_ok hf
        obtain ⟨more, hmore, hf⟩ := exists_of_bind_eq_ok hf
        cases hf
        exact forall_mem_append_toList (Placed.findIn h.1 hfirst) (PlacedFields.findFields h.2 hmore)
    · exact PlacedFields.findFields h.2 hf

end

/-! ### Inserting -/

variable {make : Value → Value × Option ValueError}

private theorem placed_pushMade {p : Option String} (h : (array items p).Placed o)
    (hmake : ∀ p target, target.Placed p → (make target).1.Placed p) : (pushMade items p make).1.Placed o := by
  obtain ⟨rfl, hxs⟩ := h
  exact ⟨rfl, placedItems_concat hxs (hmake _ _ (Hash.placed_nil _))⟩

/-- A field is changed in its place, if it is there. -/
private theorem placed_changeField {h : Hash} {k : String} (e : ValueError) (hp : h.Placed o)
    (hmake : ∀ p target, target.Placed p → (make target).1.Placed p) :
    (match h.get? k with
      | none => (h.toValue, some e)
      | some child => ((h.putRaw k (make child).1).toValue, (make child).2)).1.Placed o := by
  split
  · exact hp
  · rename_i child hchild
    exact hp.putRaw (hmake _ _ (hp.get? hchild))

private theorem placed_changeItem {p q : Option String} {i : Nat} {gs : List (String × Value)}
    (h : (array items p).Placed o) (hi : items[i]? = some (hash gs q))
    (hmake : ∀ p target, target.Placed p → (make target).1.Placed p) :
    (array (items.set i (make (hash gs q)).1) p).Placed o := by
  obtain ⟨rfl, hxs⟩ := h
  have hitem := placedItems_iff.1 hxs i _ hi
  rw [Nat.add_comm] at hitem
  exact ⟨rfl, placedItems_set hxs (hmake _ _ hitem)⟩

theorem Placed.insertIn (mode : InsertMode) (hv : v.Distinct) (path : Path) :
    ∀ {o : Option String} {target : Value}, target.Placed o → (Value.insertIn mode v path target).1.Placed o := by
  induction path with
  | nil =>
    intro o target h
    cases target <;> exact h
  | cons segment rest ih =>
    intro o target h
    have hrest : ∀ p target, target.Placed p → (Value.insertIn mode v rest target).1.Placed p := fun _ _ => ih
    cases target with
    | string t p => exact h
    | hash fields p =>
      have hh : (⟨fields, p⟩ : Hash).Placed o := h
      unfold Value.insertIn
      dsimp only
      split
      · exact h
      split
      · cases mode with
        | replace => exact hh.put hv
        | append => exact hh.add hv
      split
      · exact hrest _ _ h
      · exact placed_changeField _ hh hrest
      · split
        · exact placed_changeField _ hh hrest
        · exact placed_changeField _ (hh.put (Hash.placed_nil none).distinct) hrest
    | array items p =>
      have horigin : p = o := h.1
      subst horigin
      have hmade : ((({} : Hash).put segment v).toValue).Distinct := ((Hash.placed_nil none).put hv).distinct
      unfold Value.insertIn
      dsimp only
      split
      · exact h
      split
      -- `$append`
      · split
        · exact ⟨rfl, placedItems_pushItem h.2 hv⟩
        · exact placed_pushMade h hrest
      -- another marker
      · split
        · exact ⟨rfl, placedItems_setItem h.2 hv⟩
        · split
          · rename_i hitem
            exact placed_changeItem h hitem hrest
          · exact h
      · split
        -- an index
        · split
          · exact ⟨rfl, placedItems_pushItem h.2 hv⟩
          · split
            · rename_i hitem
              refine placed_changeItem h (?_ : items[_ - 1]? = some _) hrest
              split at hitem
              · cases hitem
              · exact hitem
            · exact placed_pushMade h hrest
        -- a field name
        · split
          · exact ⟨rfl, placedItems_pushItem h.2 hmade⟩
          · refine placed_pushMade h fun q target htarget => ?_
            rw [htarget.origin]
            exact (Hash.placed_nil q).putRaw (hrest _ _ (Hash.placed_nil _))

/-! ### Editing -/

section

variable {σ ε : Type} {fail : ValueError → ε} {edit : TextEdit σ ε}

private theorem placed_settleItems {children : List EditedChild} (h : PlacedItems o 1 (children.map (·.value))) :
    PlacedItems o 1 (settleItems o children) := by
  unfold settleItems
  split
  -- some items go, and those behind them move up
  · refine DistinctItems.placed_rebaseItems (distinctItems_iff.2 fun v hv => ?_) o 1
    obtain ⟨c, hc, rfl⟩ := List.mem_map.1 hv
    exact distinctItems_iff.1 h.distinct _ (List.mem_map_of_mem (List.mem_filter.1 hc).1)
  · exact h

private theorem placed_settleFields {children : List (String × EditedChild)}
    (hkeys : (children.map (·.1)).Nodup) (h : PlacedFields o (children.map fun (k, c) => (k, c.value))) :
    ((settleFields children).map (·.1)).Nodup ∧ PlacedFields o (settleFields children) := by
  have hsub : (settleFields children).Sublist (children.map fun (k, c) => (k, c.value)) :=
    List.filter_sublist.map _
  refine ⟨(hsub.map (·.1)).nodup ?_, ?_⟩
  · rw [List.map_map]
    exact hkeys
  · rw [placedFields_iff] at h ⊢
    exact fun f hf => h f (hsub.subset hf)

private theorem placedItems_untouched {i : Nat} (h : PlacedItems o i vs) :
    PlacedItems o i ((vs.map fun v => ({ value := v } : EditedChild)).map (·.value)) := by
  rw [List.map_map, show (EditedChild.value ∘ fun v => ({ value := v } : EditedChild)) = id from rfl, List.map_id]
  exact h

private theorem placedFields_untouched (h : PlacedFields o fs) :
    PlacedFields o ((fs.map fun (k, v) => (k, ({ value := v } : EditedChild))).map fun (k, c) => (k, c.value)) := by
  rw [List.map_map, show ((fun f : String × EditedChild => (f.1, f.2.value)) ∘ fun f : String × Value =>
    (f.1, ({ value := f.2 } : EditedChild))) = id from rfl, List.map_id]
  exact h

private theorem keys_editFields (test : String → Bool) (path : Path) (s : σ) (fs : List (String × Value)) :
    (Value.editFields fail edit test path s fs).node.map (·.1) = fs.map (·.1) := by
  induction fs generalizing s with
  | nil => rfl
  | cons f fs ih =>
    obtain ⟨k, v⟩ := f
    unfold Value.editFields
    split
    · dsimp only
      split
      · simp only [List.map_cons, List.map_map]
        rfl
      · rw [List.map_cons, ih, List.map_cons]
    · rw [List.map_cons, ih, List.map_cons]

/-- The array is closed when its items are edited. -/
private theorem placed_closeArray (edited : Edited σ ε (List EditedChild))
    (h : PlacedItems o 1 (edited.node.map (·.value))) :
    (match edited.failure with
      | some e => ⟨{ value := array (edited.node.map (·.value)) o }, edited.state, some e⟩
      | none => ⟨{ value := array (settleItems o edited.node) o }, edited.state, none⟩ :
      Edited σ ε EditedChild).node.value.Placed o := by
  split
  · exact ⟨rfl, h⟩
  · exact ⟨rfl, placed_settleItems h⟩

/-- The hash is closed when its fields are edited. -/
private theorem placed_closeHash (edited : Edited σ ε (List (String × EditedChild)))
    (hkeys : (edited.node.map (·.1)).Nodup) (h : PlacedFields o (edited.node.map fun (k, c) => (k, c.value))) :
    (match edited.failure with
      | some e => ⟨{ value := hash (edited.node.map fun (k, c) => (k, c.value)) o }, edited.state, some e⟩
      | none => ⟨{ value := hash (settleFields edited.node) o }, edited.state, none⟩ :
      Edited σ ε EditedChild).node.value.Placed o := by
  split
  · refine ⟨rfl, ?_, h⟩
    rw [List.map_map]
    exact hkeys
  · exact ⟨rfl, placed_settleFields hkeys h⟩

mutual

/-- The node that is left by an edit is placed like the one before, also if the edit fails. -/
theorem Placed.editIn : ∀ {o : Option String} {v : Value}, v.Placed o → ∀ (strict : Bool) (path : Path) (s : σ),
    (Value.editIn fail edit strict path s v).node.value.Placed o
  | o, string t p, h => by
    intro strict path s
    unfold Value.editIn
    split
    · split <;> exact h
    · exact h
  | o, array items p, h => by
    intro strict path s
    have hitems : ∀ (test : Nat → Bool) (path : Path) (i : Nat) (s : σ),
        PlacedItems o 1 ((Value.editItems fail edit test path i s items).node.map (·.value)) :=
      PlacedItems.editItems h.2
    obtain ⟨rfl, -⟩ := h
    unfold Value.editIn
    refine placed_closeArray _ ?_
    split
    · exact hitems _ _ _ _
    · split <;> exact hitems _ _ _ _
  | o, hash fields p, h => by
    intro strict path s
    have hfields : ∀ (test : String → Bool) (path : Path) (s : σ),
        PlacedFields o ((Value.editFields fail edit test path s fields).node.map fun (k, c) => (k, c.value)) :=
      PlacedFields.editFields h.2.2
    have hself := h
    obtain ⟨rfl, hnodup, -⟩ := h
    unfold Value.editIn
    split
    · exact hself
    · refine placed_closeHash _ ?_ (hfields _ _ _)
      rw [keys_editFields]
      exact hnodup

theorem PlacedItems.editItems : ∀ {o : Option String} {j : Nat} {vs : List Value}, PlacedItems o j vs →
    ∀ (test : Nat → Bool) (path : Path) (i : Nat) (s : σ),
    PlacedItems o j ((Value.editItems fail edit test path i s vs).node.map (·.value))
  | _, _, [], _ => fun _ _ _ _ => trivial
  | o, j, v :: vs, h => by
    intro test path i s
    unfold Value.editItems
    split
    · dsimp only
      have hchild := Placed.editIn h.1 false path s
      split
      · exact ⟨hchild, placedItems_untouched h.2⟩
      · exact ⟨hchild, PlacedItems.editItems h.2 test path (i + 1) _⟩
    · exact ⟨h.1, PlacedItems.editItems h.2 test path (i + 1) s⟩

theorem PlacedFields.editFields : ∀ {o : Option String} {fs : List (String × Value)}, PlacedFields o fs →
    ∀ (test : String → Bool) (path : Path) (s : σ),
    PlacedFields o ((Value.editFields fail edit test path s fs).node.map fun (k, c) => (k, c.value))
  | _, [], _ => fun _ _ _ => trivial
  | o, (k, v) :: fs, h => by
    intro test path s
    unfold Value.editFields
    split
    · dsimp only
      have hchild := Placed.editIn h.1 true path s
      split
      · exact ⟨hchild, placedFields_untouched h.2⟩
      · exact ⟨hchild, PlacedFields.editFields h.2 test path _⟩
    · exact ⟨h.1, PlacedFields.editFields h.2 test path s⟩

end

end

/-! ### Removing -/

private theorem keys_removeFields (test : String → Bool) (path : Path) (fs : List (String × Value)) :
    ((removeFields test path fs).map (·.1)).Sublist (fs.map (·.1)) := by
  induction fs with
  | nil => exact List.Sublist.refl _
  | cons f fs ih =>
    obtain ⟨k, v⟩ := f
    unfold removeFields
    split
    · split
      · exact ih.cons _
      · exact ih.cons_cons _
    · exact ih.cons_cons _

mutual

theorem Placed.removeIn :
    ∀ {o : Option String} {v : Value}, v.Placed o → ∀ path : Path, (Value.removeIn path v).Placed o
  | o, string t p, h => by
    intro path
    unfold Value.removeIn
    exact h
  | o, array items p, h => by
    intro path
    have hitems : ∀ (test : Nat → Bool) (path : Path) (i : Nat), PlacedItems o 1 (removeItems test path i items) :=
      PlacedItems.removeItems h.2
    have hself := h
    obtain ⟨rfl, hxs⟩ := h
    unfold Value.removeIn
    split
    · exact hself
    · split
      · refine ⟨rfl, ?_⟩
        split
        · trivial
        · exact hitems _ _ _
      · refine ⟨rfl, ?_⟩
        split
        · exact placedItems_eraseItem hxs
        · exact hitems _ _ _
      · exact hself
      · exact ⟨rfl, hitems _ _ _⟩
  | o, hash fields p, h => by
    intro path
    have hfields : ∀ (test : String → Bool) (path : Path), PlacedFields o (removeFields test path fields) :=
      PlacedFields.removeFields h.2.2
    unfold Value.removeIn
    split
    · exact h
    · exact ⟨h.1, (keys_removeFields _ _ _).nodup h.2.1, hfields _ _⟩

theorem PlacedItems.removeItems : ∀ {o : Option String} {j : Nat} {vs : List Value}, PlacedItems o j vs →
    ∀ (test : Nat → Bool) (path : Path) (i : Nat), PlacedItems o j (Value.removeItems test path i vs)
  | _, _, [], _ => fun _ _ _ => trivial
  | _, _, v :: vs, h => by
    intro test path i
    refine ⟨?_, PlacedItems.removeItems h.2 test path (i + 1)⟩
    split
    · exact Placed.removeIn h.1 path
    · exact h.1

theorem PlacedFields.removeFields : ∀ {o : Option String} {fs : List (String × Value)}, PlacedFields o fs →
    ∀ (test : String → Bool) (path : Path), PlacedFields o (Value.removeFields test path fs)
  | _, [], _ => fun _ _ => trivial
  | _, (k, v) :: fs, h => by
    intro test path
    unfold Value.removeFields
    split
    · split
      · exact PlacedFields.removeFields h.2 test path
      · exact ⟨Placed.removeIn h.1 path, PlacedFields.removeFields h.2 test path⟩
    · exact ⟨h.1, PlacedFields.removeFields h.2 test path⟩

end

/-! ### Slots -/

theorem Placed.slot? {path : Path} (h : v.Placed o) (hw : Value.slot? path v = some w) : w.Placed w.origin := by
  induction path generalizing o v with
  | nil =>
    cases hw
    rw [h.origin]
    exact h
  | cons segment rest ih =>
    cases v with
    | string t p => cases hw
    | hash fields p =>
      obtain ⟨child, hchild, hw⟩ := Option.bind_eq_some_iff.1 hw
      exact ih (h.2.2.lookup hchild) hw
    | array items p =>
      obtain ⟨i, -, hw⟩ := Option.bind_eq_some_iff.1 hw
      obtain ⟨child, hchild, hw⟩ := Option.bind_eq_some_iff.1 hw
      exact ih (placedItems_iff.1 h.2 i child hchild) hw

/-- A slot is filled with a value that is placed where the one before was. -/
theorem Placed.fillSlot {path : Path} (h : v.Placed o) (hw : ∀ u, Value.slot? path v = some u → w.Placed u.origin) :
    (Value.fillSlot w path v).Placed o := by
  induction path generalizing o v with
  | nil =>
    have hself := hw v rfl
    rw [h.origin] at hself
    exact hself
  | cons segment rest ih =>
    cases v with
    | string t p => exact h
    | hash fields p =>
      unfold Value.fillSlot
      dsimp only
      split
      · rename_i child hchild
        refine ⟨h.1, Hash.nodup_keys_putEntry h.2.1, placedFields_putEntry h.2.2 ?_⟩
        refine ih (h.2.2.lookup hchild) fun u hu => hw u ?_
        exact Option.bind_eq_some_iff.2 ⟨child, hchild, hu⟩
      · exact h
    | array items p =>
      unfold Value.fillSlot
      dsimp only
      split
      · rename_i i hi
        refine ⟨h.1, placedItems_iff.2 fun n u hn => ?_⟩
        rw [List.getElem?_modify] at hn
        obtain ⟨child, hchild, hu⟩ := Option.map_eq_some_iff.1 hn
        have hplaced := placedItems_iff.1 h.2 n child hchild
        split at hu
        -- the item on the way to the slot
        · rename_i hin
          subst hin
          rw [← hu]
          refine ih hplaced fun u hu => hw u ?_
          exact Option.bind_eq_some_iff.2 ⟨i, hi, Option.bind_eq_some_iff.2 ⟨child, hchild, hu⟩⟩
        · rw [← hu]
          exact hplaced
      · exact h

end Value

namespace Hash

variable {o : Option String} {h : Hash}

/-- An insertion keeps a hash placed, also if it fails. -/
theorem Placed.insert (hp : h.Placed o) (mode : InsertMode) (path : Path) {v : Value} (hv : v.Distinct) :
    (h.insert mode path v).1.Placed o := by
  have hroot := Value.Placed.insertIn mode hv path hp
  unfold Hash.insert
  split
  · rename_i heq
    rw [heq] at hroot
    exact hroot
  · exact hp

theorem Placed.edit {σ ε : Type} (hp : h.Placed o) (fail : ValueError → ε) (edit : TextEdit σ ε) (path : Path) (s : σ) :
    (h.edit fail edit path s).node.Placed o := by
  have hroot : (Value.editIn fail edit true path s h.toValue).node.value.Placed o := Value.Placed.editIn hp true path s
  unfold Hash.edit
  dsimp only
  split
  · exact hp
  · split
    · rename_i heq
      rw [heq] at hroot
      exact hroot
    · exact hp

theorem Placed.remove (hp : h.Placed o) (path : Path) : (h.remove path).Placed o := by
  have hroot := Value.Placed.removeIn hp path
  unfold Hash.remove
  split
  · rename_i heq
    rw [heq] at hroot
    exact hroot
  · exact hp

theorem Placed.fillSlot (hp : h.Placed o) {path : Path} {w : Value}
    (hw : ∀ u, h.slot? path = some u → w.Placed u.origin) : (h.fillSlot path w).Placed o := by
  unfold Hash.fillSlot
  unfold Hash.slot? at hw
  split
  · exact hp
  · rename_i hempty
    rw [if_neg hempty] at hw
    have hroot := Value.Placed.fillSlot hp hw
    split
    · rename_i heq
      rw [heq] at hroot
      exact hroot
    · exact hp

theorem Placed.slot? (hp : h.Placed o) {path : Path} {w : Value} (hw : h.slot? path = some w) : w.Placed w.origin := by
  unfold Hash.slot? at hw
  split at hw
  · cases hw
  · exact Value.Placed.slot? hp hw

end Hash

end RecordFix
