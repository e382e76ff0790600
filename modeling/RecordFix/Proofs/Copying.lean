import RecordFix.Fix.Method.Structure
import RecordFix.Proofs.Appending
import RecordFix.Proofs.Canonical
import RecordFix.Proofs.PathText
import RecordFix.Proofs.Running

/-!
# Copying and moving fields

A field is copied item by item: each item of the source is added to what the target holds. The first value of a field
stands there bare, so if it is an array, it is taken for the list of the values that came before when the next one is
added. That is the only case in which the target, read as a list, does not get the items of the source
(`Record.listAt_copyField`). A field is moved by copying it and removing the source, which keeps all leaves unless
source and target are one field (`leaves_moveField`).
-/

namespace RecordFix

open RecordFix.Action

/-- What a field holds, as a list: the items of an array, any other value alone, and nothing without the field. -/
def Hash.listAt (h : Hash) (name : String) : List Value := (h.get? name).elim [] Value.toList

/-- What a name holds, as a list, to which values are added one by one: the items of the first stand in it on their own
if it is an array. -/
def Value.spread : List Value → List Value
  | [] => []
  | v :: vs => v.toList ++ vs

/-! ### Lists up to origins -/

namespace Value

variable {vs : List Value}

theorem map_bare_toList_rebase (o : Option String) (v : Value) : (v.rebase o).toList.map bare = v.toList.map bare := by
  cases v with
  | array items p =>
    show (rebaseItems o 1 items).map bare = items.map bare
    rw [← bareItems_eq_map, ← bareItems_eq_map, bareItems_rebaseItems]
  | string t p => rfl
  | hash fields p => exact congrArg ([·]) (bare_rebase o (hash fields p))

/-- A value that is appended is the last item. -/
theorem map_bare_toList_append (w v : Value) : (w.append v).toList.map bare = (w.toList ++ [v]).map bare := by
  cases w <;> simp [append, toList, pushItem]

/-- An array is not its own item. -/
private theorem bare_ne_array_singleton (v : Value) (o : Option String) : v.bare ≠ array [v.bare] o := by
  intro h
  have hsize := congrArg sizeOf h
  simp at hsize
  omega

/-- The items of the first value stand for it only if it is no array. -/
theorem map_bare_spread_iff : (spread vs).map bare = vs.map bare ↔ ∀ items o, vs.head? ≠ some (array items o) := by
  rcases vs with - | ⟨v, vs⟩
  · exact iff_of_true rfl nofun
  · cases v with
    | string t p => exact iff_of_true rfl nofun
    | hash fields p => exact iff_of_true rfl nofun
    | array items p =>
      refine iff_of_false (fun h => ?_) fun h => h items p rfl
      -- by its length the array would have one item, which would be the array itself
      have hlength := congrArg List.length h
      simp only [spread, toList, List.length_map, List.length_append, List.length_cons] at hlength
      have hone : items.length = 1 := by omega
      obtain ⟨item, rfl⟩ := List.length_eq_one_iff.1 hone
      exact bare_ne_array_singleton item none (List.cons.inj h).1

end Value

/-! ### Adding to a field -/

namespace Hash

variable {h : Hash} {k l : String} {v w : Value} {vs : List Value}

theorem get?_add_of_none (hk : h.get? k = none) (v : Value) :
    (h.add k v).get? k = some (v.rebase (some (childOrigin h.origin k))) := by
  rw [add, hk]
  exact lookup_putEntry_self

theorem get?_add_of_some (hk : h.get? k = some w) (v : Value) : (h.add k v).get? k = some (w.append v) := by
  rw [add, hk]
  exact lookup_putEntry_self

theorem get?_add_of_ne (hne : l ≠ k) (v : Value) : (h.add k v).get? l = h.get? l := by
  unfold add
  split <;> exact lookup_putEntry_of_ne hne

theorem prefix_keys_add (h : Hash) (k : String) (v : Value) : h.keys <+: (h.add k v).keys := by
  unfold add
  split <;> exact keys_putEntry_prefix

theorem nodup_keys_add (hnd : h.keys.Nodup) (k : String) (v : Value) : (h.add k v).keys.Nodup := by
  unfold add
  split <;> exact nodup_keys_putEntry hnd

theorem erase_add (h : Hash) (k : String) (v : Value) : (h.add k v).erase k = h.erase k := by
  unfold add erase
  split <;> simp only [put, putRaw, eraseEntry_putEntry]

/-- Adds values to a field, one after the other. -/
def addTo (h : Hash) (k : String) (vs : List Value) : Hash := vs.foldl (fun h v => h.add k v) h

theorem get?_addTo_of_ne (hne : l ≠ k) : (h.addTo k vs).get? l = h.get? l := by
  induction vs generalizing h with
  | nil => rfl
  | cons v vs ih => exact ih.trans (get?_add_of_ne hne v)

theorem prefix_keys_addTo (h : Hash) (k : String) (vs : List Value) : h.keys <+: (h.addTo k vs).keys := by
  induction vs generalizing h with
  | nil => exact List.prefix_refl _
  | cons v vs ih => exact (prefix_keys_add h k v).trans (ih (h.add k v))

theorem nodup_keys_addTo (hnd : h.keys.Nodup) : (h.addTo k vs).keys.Nodup := by
  induction vs generalizing h with
  | nil => exact hnd
  | cons v vs ih => exact ih (nodup_keys_add hnd k v)

/-- What is added to a field goes with the field. -/
theorem erase_addTo (h : Hash) (k : String) (vs : List Value) : (h.addTo k vs).erase k = h.erase k := by
  induction vs generalizing h with
  | nil => rfl
  | cons v vs ih => exact (ih (h.add k v)).trans (erase_add h k v)

theorem map_bare_listAt_addTo (h : Hash) (k : String) (vs : List Value) :
    ((h.addTo k vs).listAt k).map Value.bare = (Value.spread ((h.get? k).toList ++ vs)).map Value.bare := by
  induction vs generalizing h with
  | nil =>
    show (h.listAt k).map Value.bare = _
    unfold listAt
    cases h.get? k <;> simp [Value.spread]
  | cons v vs ih =>
    show (((h.add k v).addTo k vs).listAt k).map Value.bare = _
    rw [ih]
    cases hk : h.get? k with
    | none =>
      rw [get?_add_of_none hk]
      simp only [Option.toList, List.nil_append, List.singleton_append, Value.spread, List.map_append,
        Value.map_bare_toList_rebase]
    | some w =>
      rw [get?_add_of_some hk]
      simp only [Option.toList, List.singleton_append, Value.spread, List.map_append, Value.map_bare_toList_append,
        List.append_assoc, List.map_cons, List.map_nil]

theorem perm_leaves_addTo (h : Hash) (k : String) (vs : List Value) :
    (h.addTo k vs).leaves.Perm (h.leaves ++ Value.leavesItems vs) := by
  induction vs generalizing h with
  | nil => exact List.Perm.of_eq (List.append_nil _).symm
  | cons v vs ih =>
    calc
      ((h.add k v).addTo k vs).leaves.Perm ((h.add k v).leaves ++ Value.leavesItems vs) := ih (h.add k v)
      List.Perm _ ((h.leaves ++ v.leaves) ++ Value.leavesItems vs) := (Value.splits_add k).perm.append_right _
      _ = h.leaves ++ Value.leavesItems (v :: vs) := List.append_assoc _ _ _

/-! ### Taking a field away -/

/-- A removal at a path of one plain segment takes the field of its name away. -/
theorem removeFields_eq_eraseEntry (fs : List (String × Value)) : Value.removeFields (k == ·) [] fs = eraseEntry k fs := by
  induction fs with
  | nil => rfl
  | cons f fs ih =>
    obtain ⟨k', v⟩ := f
    unfold eraseEntry at ih ⊢
    by_cases hk : k = k'
    · subst hk
      simp [Value.removeFields, ih]
    · simp [Value.removeFields, hk, Ne.symm hk, ih]

/-- The leaves of a field go with it, and no others. -/
theorem splits_eraseEntry {fs : List (String × Value)} (hnd : (fs.map (·.1)).Nodup) (hl : fs.lookup k = some v) :
    Splits (Value.leavesFields fs) (Value.leavesFields (eraseEntry k fs)) v.leaves := by
  induction fs with
  | nil => cases hl
  | cons f fs ih =>
    obtain ⟨k', u⟩ := f
    rw [List.map_cons, List.nodup_cons] at hnd
    rw [List.lookup_cons, BEq.comm] at hl
    by_cases hk : k' = k
    · subst hk
      rw [beq_self_eq_true] at hl
      cases hl
      have herase : eraseEntry k' ((k', v) :: fs) = fs := by
        rw [eraseEntry, List.filter_cons_of_neg (by simp)]
        refine eraseEntry_of_lookup_none (List.lookup_eq_none_iff.2 fun f hf => ?_)
        have hne : k' ≠ f.1 := fun hk => hnd.1 (List.mem_map.2 ⟨f, hf, hk.symm⟩)
        simpa using hne
      have hsplit := (Splits.leaveOut v.leaves).append (Splits.keep (Value.leavesFields fs))
      rw [List.append_nil, List.nil_append] at hsplit
      rw [herase]
      exact hsplit
    · rw [beq_eq_false_iff_ne.2 hk] at hl
      rw [eraseEntry, List.filter_cons_of_pos (by simpa using hk)]
      exact (Splits.keep u.leaves).append (ih hnd.2 hl)

/-- A field whose items were added to another one can go without a loss. -/
theorem perm_leaves_erase_addTo (hnd : h.keys.Nodup) (hne : l ≠ k) (hl : h.get? l = some v) :
    ((h.addTo k v.toList).erase l).leaves.Perm h.leaves := by
  have hmoved : (h.addTo k v.toList).get? l = some v := (get?_addTo_of_ne hne).trans hl
  have hout : (h.addTo k v.toList).leaves.Perm (((h.addTo k v.toList).erase l).leaves ++ v.leaves) :=
    (splits_eraseEntry (nodup_keys_addTo hnd) hmoved).perm
  have hin : (h.addTo k v.toList).leaves.Perm (h.leaves ++ v.leaves) := by
    rw [← Value.leavesItems_toList v]
    exact perm_leaves_addTo h k v.toList
  exact (List.perm_append_right_iff v.leaves).1 (hout.symm.trans hin)

end Hash

/-! ### Copying -/

namespace Record

variable {r : Record} {name source target : String} {v : Value}

/-- Appending to a field of a plain name adds to it. -/
theorem append_name (hplain : IsPlain name) (hdot : '.' ∉ name.toList) (v : Value) :
    r.append name v = ({ r with fields := r.fields.add name v }, none) := by
  rw [append, insert, Path.ofText_of_not_mem_dot hdot, Hash.insert, Hash.toValue,
    Value.insertIn_hash_last hplain.wildcard]
  rfl

theorem appendAll_name (hplain : IsPlain name) (hdot : '.' ∉ name.toList) (vs : List Value) :
    r.appendAll name vs = ({ r with fields := r.fields.addTo name vs }, none) := by
  induction vs generalizing r with
  | nil => rfl
  | cons v vs ih =>
    rw [appendAll, append_name hplain hdot]
    exact ih

theorem copyField_of_get? (hsource : r.fields.get? source = some v) (hplain : IsPlain target)
    (hdot : '.' ∉ target.toList) :
    r.copyField source target = ({ r with fields := r.fields.addTo target v.toList }, none) := by
  rw [copyField, get_of_get? hsource]
  exact appendAll_name hplain hdot v.toList

/-- A copy to a field of a plain name leaves the other fields alone. The target, read as a list, gets the items of the
source, unless it was not there and the first item is an array; then the items of that array come in its place. -/
theorem listAt_copyField (hsource : r.fields.get? source = some v) (hplain : IsPlain target)
    (hdot : '.' ∉ target.toList) :
    ∃ fields, r.copyField source target = ({ r with fields := fields }, none) ∧
      (∀ name ≠ target, fields.get? name = r.fields.get? name) ∧ r.fields.keys <+: fields.keys ∧
      ((fields.listAt target).map Value.bare = (r.fields.listAt target ++ v.toList).map Value.bare ↔
        r.fields.get? target ≠ none ∨ ∀ items o, v.toList.head? ≠ some (.array items o)) ∧
      ∀ items o rest, r.fields.get? target = none → v.toList = .array items o :: rest →
        (fields.listAt target).map Value.bare = (items ++ rest).map Value.bare := by
  refine ⟨_, copyField_of_get? hsource hplain hdot, fun name hne => Hash.get?_addTo_of_ne hne,
    Hash.prefix_keys_addTo _ _ _, ?_, ?_⟩
  · rw [Hash.map_bare_listAt_addTo, Hash.listAt]
    cases r.fields.get? target with
    | none =>
      rw [Option.elim_none, Option.toList_none, List.nil_append, Value.map_bare_spread_iff]
      exact (or_iff_right (not_not_intro rfl)).symm
    | some w => exact iff_of_true rfl (Or.inl (Option.some_ne_none w))
  · intro items o rest htarget hv
    rw [Hash.map_bare_listAt_addTo, htarget, hv]
    rfl

/-- Nested arrays are copied as they are to a field that holds a text, and to a field that is not there with the items
of the first in its place. -/
theorem listAt_copyField_nested :
    let v : Value := .array [.array [.ofString "x"] (some "a.1"), .array [.ofString "y"] (some "a.2")] (some "a")
    let r : Record := Record.ofFields ⟨[("a", v), ("b", .ofString "z")], none⟩
    (∃ fields, r.copyField "a" "b" = ({ r with fields := fields }, none) ∧ fields.get? "a" = some v ∧
      (fields.listAt "b").map Value.bare =
        [.ofString "z", .array [.ofString "x"] none, .array [.ofString "y"] none]) ∧
    ∃ fields, r.copyField "a" "c" = ({ r with fields := fields }, none) ∧ fields.get? "a" = some v ∧
      fields.get? "b" = some (.ofString "z") ∧
      (fields.listAt "c").map Value.bare = [.ofString "x", .array [.ofString "y"] none] := by
  intro v r
  have hsource : r.fields.get? "a" = some v := by rfl
  constructor
  · obtain ⟨fields, hrun, hothers, -, hlist, -⟩ := @listAt_copyField r "a" "b" v hsource (by decide) (by decide)
    have hthere : r.fields.get? "b" ≠ none := Option.some_ne_none _
    refine ⟨fields, hrun, (hothers "a" (by decide)).trans hsource, ?_⟩
    rw [hlist.2 (Or.inl hthere)]
    rfl
  · obtain ⟨fields, hrun, hothers, -, -, hspread⟩ := @listAt_copyField r "a" "c" v hsource (by decide) (by decide)
    refine ⟨fields, hrun, (hothers "a" (by decide)).trans hsource, hothers "b" (by decide), ?_⟩
    rw [hspread _ _ _ rfl rfl]
    rfl

/-- The first of two inner arrays does not arrive as one at a field that was not there. -/
theorem not_listAt_copyField :
    ¬ ∀ (r : Record) (source target : String) (v : Value), r.fields.toValue.Distinct → source ≠ target →
      r.fields.get? source = some v → IsPlain target → '.' ∉ target.toList →
      r.virtualFields.get? target = none →
      ((r.copyField source target).1.fields.listAt target).map Value.bare =
        (r.fields.listAt target ++ v.toList).map Value.bare := by
  intro h
  let v : Value := .array [.array [.ofString "x"] (some "a.1"), .array [.ofString "y"] (some "a.2")] (some "a")
  let r : Record := Record.ofFields ⟨[("a", v)], none⟩
  have hd : r.fields.toValue.Distinct := by
    simp [r, v, Record.ofFields, Hash.toValue, Value.Distinct, Value.DistinctFields, Value.DistinctItems, Value.ofString]
  have hcopied := h r "a" "b" v hd (by decide) rfl (by decide) (by decide) rfl
  have hkinds := congrArg (List.map Value.kind) hcopied
  exact absurd hkinds (by decide)

/-! ### Moving -/

/-- What is not there is not found under a plain name. -/
theorem get_of_none (hnd : r.fields.keys.Nodup) (hplain : IsPlain name) (hdot : '.' ∉ name.toList)
    (hname : r.fields.get? name = none) (hvirtual : r.virtualFields.get? name = none) : r.get name = .ok none := by
  have hfind : r.fields.find [name] = .ok none := Value.findIn_plain_of_none hplain hnd hname
  have hmatching : r.virtualFields.getMatching name = none := by
    have hnone : r.virtualFields.fields.filter (fun f => Glob.matchesName name f.1) = [] := by
      refine List.filter_eq_nil_iff.2 fun f hf => ?_
      rw [Glob.matchesName, hplain.glob, if_neg Bool.false_ne_true]
      have hne := List.lookup_eq_none_iff.1 hvirtual f hf
      simpa using hne
    rw [Hash.getMatching, hnone]
    rfl
  unfold get
  rw [hname]
  dsimp only
  rw [Path.alternatives_of_name hplain hdot]
  simp only [findAll, hfind]
  show (.ok (if name.toList.contains '.' then none else r.virtualFields.getMatching name) : Except ValueError _) = _
  rw [hmatching, ite_self]

/-- A field of a plain name is removed by its name, whether it is there or not. -/
theorem remove_name (hplain : IsPlain name) (hdot : '.' ∉ name.toList) :
    r.remove name = { r with fields := r.fields.erase name } := by
  have hremove : r.fields.remove [name] = r.fields.erase name := by
    rw [Hash.remove, Hash.toValue, Value.removeIn, Value.fieldTest_plain hplain, Hash.removeFields_eq_eraseEntry,
      Hash.erase]
  rw [remove]
  split
  · rfl
  · rw [Path.alternatives_of_name hplain hdot, List.foldl_cons, List.foldl_nil, hremove]

end Record

/-- A move is a copy, and a removal if the copy ends well. -/
theorem Method.run_moveField (included : List Expression → Action Unit) (source target : String) (options : Options)
    (s : Session) :
    (moveField included [source, target] options).run s =
      match s.record.copyField source target with
      | (r, none) => (.ok (), { s with record := r.remove source })
      | (r, some e) => (.error (.value e), { s with record := r }) := by
  have hrun : (moveField included [source, target] options).run s =
      ((getRecord >>= fun r => settleValue (r.copyField source target)) >>= fun _ =>
        getRecord >>= fun r => setRecord (r.remove source)).run s := rfl
  rw [hrun, run_bind]
  have hcopy := run_settle (fun r => ((r.copyField source target).1, (r.copyField source target).2.map .value)) s
  unfold settleValue
  rw [hcopy]
  obtain ⟨r, failure⟩ := s.record.copyField source target
  cases failure <;> rfl

/-- A move between plain names keeps all leaves, unless it moves a field with leaves to itself: that removes the
field. -/
theorem leaves_moveField (included : List Expression → Action Unit) (options : Options) {source target : String}
    {s : Session} (hnd : s.record.fields.keys.Nodup) (hsource : IsPlain source) (hsourceDot : '.' ∉ source.toList)
    (htarget : IsPlain target) (htargetDot : '.' ∉ target.toList)
    (hvirtual : s.record.virtualFields.get? source = none) :
    ∃ fields, (Method.moveField included [source, target] options).run s =
        (.ok (), { s with record := { s.record with fields := fields } }) ∧
      (fields.leaves.Perm s.record.fields.leaves ↔
        source ≠ target ∨ ∀ v, s.record.fields.get? source = some v → v.leaves = []) ∧
      (source = target → fields = s.record.fields.erase source) := by
  rw [Method.run_moveField]
  cases hv : s.record.fields.get? source with
  | none =>
    have hcopy : s.record.copyField source target = (s.record, none) := by
      rw [Record.copyField, Record.get_of_none hnd hsource hsourceDot hv hvirtual]
    have herase : s.record.fields.erase source = s.record.fields := by
      rw [Hash.erase, Hash.eraseEntry_of_lookup_none hv]
    have hnothing : ∀ v : Value, none = some v → v.leaves = [] := fun v h => absurd h.symm (Option.some_ne_none v)
    refine ⟨s.record.fields, ?_, iff_of_true (List.Perm.refl _) (Or.inr hnothing), fun _ => herase.symm⟩
    rw [hcopy]
    dsimp only
    rw [Record.remove_name hsource hsourceDot, herase]
  | some v =>
    refine ⟨(s.record.fields.addTo target v.toList).erase source, ?_, ?_, ?_⟩
    · rw [Record.copyField_of_get? hv htarget htargetDot]
      dsimp only
      rw [Record.remove_name hsource hsourceDot]
    · by_cases hne : source = target
      · subst hne
        have hout : s.record.fields.leaves.Perm ((s.record.fields.erase source).leaves ++ v.leaves) :=
          (Hash.splits_eraseEntry hnd hv).perm
        rw [Hash.erase_addTo]
        constructor
        · intro hperm
          refine Or.inr fun w hw => ?_
          rw [← Option.some.inj hw]
          have hlength := (hperm.trans hout).length_eq
          rw [List.length_append] at hlength
          exact List.eq_nil_of_length_eq_zero (by omega)
        · rintro (hne | hnil)
          · exact absurd rfl hne
          · rw [hnil v rfl, List.append_nil] at hout
            exact hout.symm
      · exact iff_of_true (Hash.perm_leaves_erase_addTo hnd hne hv) (Or.inl hne)
    · rintro rfl
      exact Hash.erase_addTo _ _ _

/-- A list is moved to a field that holds a text, and is lost when it is moved to its own field. -/
theorem leaves_moveField_merged :
    let v : Value := .array [.ofString "x", .ofString "y"] (some "a")
    let s : Session := { record := Record.ofFields ⟨[("a", v), ("b", .ofString "z")], none⟩ }
    (∃ fields, (Method.moveField (fun _ => pure ()) ["a", "b"] []).run s =
      (.ok (), { s with record := { s.record with fields := fields } }) ∧ fields.leaves.Perm ["x", "y", "z"]) ∧
    (Method.moveField (fun _ => pure ()) ["a", "a"] []).run s =
      (.ok (), { s with record := Record.ofFields ⟨[("b", .ofString "z")], none⟩ }) := by
  intro v s
  have hnd : s.record.fields.keys.Nodup := by decide
  have ha : IsPlain "a" := by decide
  have hdot : '.' ∉ "a".toList := by decide
  constructor
  · obtain ⟨fields, hrun, hperm, -⟩ :=
      @leaves_moveField (fun _ => pure ()) [] "a" "b" s hnd ha hdot (by decide) (by decide) rfl
    exact ⟨fields, hrun, hperm.2 (Or.inl (by decide))⟩
  · obtain ⟨fields, hrun, -, herase⟩ := leaves_moveField (fun _ => pure ()) [] hnd ha hdot ha hdot rfl
    rw [hrun, herase rfl]
    rfl

/-- A text that is moved to its own field is lost. -/
theorem not_leaves_moveField :
    ¬ ∀ (included : List Expression → Action Unit) (options : Options) (source target : String) (s s' : Session),
      s.record.fields.toValue.Distinct → IsPlain source → '.' ∉ source.toList → IsPlain target →
      '.' ∉ target.toList → s.record.virtualFields.get? source = none →
      (Method.moveField included [source, target] options).run s = (.ok (), s') →
      s'.record.fields.leaves.Perm s.record.fields.leaves := by
  intro h
  let s : Session := { record := Record.ofFields ⟨[("a", .ofString "x")], none⟩ }
  let s' : Session := { record := Record.ofFields ⟨[], none⟩ }
  have hd : s.record.fields.toValue.Distinct := by
    simp [s, Record.ofFields, Hash.toValue, Value.Distinct, Value.DistinctFields, Value.ofString]
  have hperm := h (fun _ => pure ()) [] "a" "a" s s' hd (by decide) (by decide) (by decide) (by decide) rfl rfl
  exact absurd hperm.length_eq (by decide)

end RecordFix
