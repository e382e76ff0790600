import RecordFix.Proofs.Slots

/-!
# Inserting into a list

An insertion whose path comes through hashes to an array changes that array only, and in it one item: it adds an item at
the end, or it changes the item that an index or a marker addresses, or it does nothing. Which of these it is depends on
the segment and on what the array holds at the position (`Hash.insert_list`), and the value is found at the path, with
`$last` in the place of the segment where an item was added.
-/

namespace RecordFix

namespace Value

variable {mode : InsertMode} {v w t : Value} {segment : String} {pre rest below q : Path}
  {fields fs : List (String × Value)} {items : List Value} {o p : Option String} {i : Nat}

/-! ### On the way to the array -/

/-- What a path leads to has no name twice. -/
theorem Leads.distinct {path : Path} {steps : List Step} (h : Leads path steps t w) (hd : t.Distinct) : w.Distinct := by
  induction h with
  | here v => exact hd
  | field _ hfound _ ih => exact ih (distinctFields_iff.1 hd.2 _ (Hash.mem_of_lookup hfound))
  | item _ hfound _ ih => exact ih (distinctItems_iff.1 hd _ (List.mem_of_getElem? hfound))

/-- An insertion goes through the fields that its path leads through. -/
theorem Leads.insertIn_append (h : Leads pre (pre.map .field) t w) (hq : q ≠ []) :
    insertIn mode v (pre ++ q) t =
      (replaceAt (insertIn mode v q w).1 (pre.map .field) t, (insertIn mode v q w).2) := by
  induction pre generalizing t with
  | nil =>
    cases h
    rfl
  | cons segment pre ih =>
    cases h with
    | @field _ _ _ fields o child _ hplain hfound hbelow =>
      have hkey : referredKey fields.length segment = segment := referredKey_of_marker_none hplain.marker _
      have hne : pre ++ q ≠ [] := fun hnil => hq (List.append_eq_nil_iff.1 hnil).2
      have hmarker : Marker.ofSegment? segment ≠ some .append := by
        rw [hplain.marker]
        exact nofun
      rw [List.cons_append, insertIn_of_lookup hplain.wildcard hne hmarker (by rw [hkey]; exact hfound), hkey,
        ih hbelow, List.map_cons, replaceAt, hfound]

/-! ### In an item -/

/-- Whether an array holds a hash at a position. -/
def HashAt (items : List Value) (i : Nat) : Prop := ∃ fs p, items[i]? = some (hash fs p)

/-- What is written below a hash, with no array on the way, is found there. -/
private theorem findIn_insertIn (hd : (hash fields o).Distinct) (hrest : rest ≠ []) (hplain : ∀ s ∈ rest, IsPlain s)
    (hno : NoArrayOn rest (hash fields o)) (hok : (insertIn .replace v rest (hash fields o)).2 = none) :
    ∃ p, (insertIn .replace v rest (hash fields o)).1.findIn rest = .ok (some (v.rebase (some p))) :=
  (writes_of_insertIn hrest hplain hd hno (Prod.ext rfl hok)).findIn_self hd hplain

/-- There is nothing on the way below an empty hash. -/
private theorem noArrayOn_empty (hplain : ∀ s ∈ rest, IsPlain s) : NoArrayOn rest (hash [] o) := by
  intro q hq hne items p hfound
  cases q with
  | nil => cases hfound
  | cons s q =>
    have hempty : (([] : List (String × Value)).map (·.1)).Nodup := List.nodup_nil
    rw [findIn_plain_of_none (hplain s (hq.subset List.mem_cons_self)) hempty rfl] at hfound
    cases hfound

/-- A new item is a hash, in which the value is found. -/
private theorem exists_pushMade (hbelow : below ≠ []) (hplain : ∀ s ∈ below, IsPlain s)
    (hok : (pushMade items o (insertIn .replace v below)).2 = none) :
    ∃ fs p, (pushMade items o (insertIn .replace v below)).1 = array (items ++ [hash fs p]) o ∧
      ∃ q, (hash fs p).findIn below = .ok (some (v.rebase (some q))) := by
  have hd : (hash [] (some (itemOrigin o (items.length + 1)))).Distinct := ⟨List.nodup_nil, trivial⟩
  obtain ⟨fs, p, hitem⟩ := exists_hash_insertIn .replace v below [] (some (itemOrigin o (items.length + 1)))
  have hfound := findIn_insertIn hd hbelow hplain (noArrayOn_empty hplain) hok
  rw [hitem] at hfound
  refine ⟨fs, p, ?_, hfound⟩
  rw [← hitem]
  rfl

end Value

namespace Hash

variable {h h' : Hash} {pre rest below : Path} {segment : String} {items : List Value} {o : Option String}
  {v item : Value} {i : Nat}

/-- Whether a path leads in a hash to a value, which has the origin of its place there. -/
def Finds (h : Hash) (path : Path) (v : Value) : Prop := ∃ p, h.find path = .ok (some (v.rebase (some p)))

/-- The hash with an array in the place that some fields lead to. -/
def withItems (h : Hash) (pre : Path) (items : List Value) (o : Option String) : Hash :=
  h.replaceAt (.array items o) (pre.map .field)

/-- An insertion that ends well goes through the fields to the array. -/
private theorem insert_through (hpre : pre ≠ []) (hlead : Value.Leads pre (pre.map .field) h.toValue (.array items o))
    {q : Path} (hq : q ≠ []) (hins : h.insert .replace (pre ++ q) v = (h', none)) :
    (Value.insertIn .replace v q (.array items o)).2 = none ∧
      h' = h.replaceAt (Value.insertIn .replace v q (.array items o)).1 (pre.map .field) := by
  have hvalue := insert_toValue h .replace (pre ++ q) v
  rw [hins, hlead.insertIn_append hq] at hvalue
  obtain ⟨hnode, hfailure⟩ := Prod.mk.inj hvalue
  refine ⟨hfailure.symm, toValue_injective ?_⟩
  rw [hnode, toValue_replaceAt (hlead.steps_ne_nil hpre)]

private theorem find_withItems (hd : h.toValue.Distinct) (hpre : pre ≠ [])
    (hlead : Value.Leads pre (pre.map .field) h.toValue (.array items o)) (items' : List Value) (q : Path) :
    (h.withItems pre items' o).find (pre ++ q) = (Value.array items' o).findIn q := by
  unfold find withItems
  rw [toValue_replaceAt (hlead.steps_ne_nil hpre)]
  exact hlead.findIn_replaceAt_append hd _ (Or.inr rfl)

/-- What is found in a new item is found behind `$last`. -/
private theorem finds_added (hd : h.toValue.Distinct) (hpre : pre ≠ [])
    (hlead : Value.Leads pre (pre.map .field) h.toValue (.array items o))
    (hfound : ∃ p, item.findIn below = .ok (some (v.rebase (some p)))) :
    (h.withItems pre (items ++ [item]) o).Finds (pre ++ "$last" :: below) v := by
  obtain ⟨p, hfound⟩ := hfound
  have hchoice : ItemChoice.ofSegment (items ++ [item]).length "$last" = .position items.length := by
    rw [ItemChoice.ofSegment_of_marker (m := .last) rfl (by decide) (by simp)]
    simp [Marker.itemPosition]
  refine ⟨p, ?_⟩
  rw [find_withItems hd hpre hlead, Value.findIn_position hchoice List.getElem?_concat_length]
  exact hfound

/-- What is found in an item that was changed is found behind the segment that addresses it. -/
private theorem finds_changed (hd : h.toValue.Distinct) (hpre : pre ≠ [])
    (hlead : Value.Leads pre (pre.map .field) h.toValue (.array items o)) (hi : i < items.length)
    (hchoice : ItemChoice.ofSegment items.length segment = .position i)
    (hfound : ∃ p, item.findIn rest = .ok (some (v.rebase (some p)))) :
    (h.withItems pre (items.set i item) o).Finds (pre ++ segment :: rest) v := by
  obtain ⟨p, hfound⟩ := hfound
  refine ⟨p, ?_⟩
  rw [find_withItems hd hpre hlead, Value.findIn_position (by rw [List.length_set]; exact hchoice)
    (List.getElem?_set_self hi)]
  exact hfound

/-! ### The item that is added or changed -/

/-- Whether a hash is another one with an item added to the array that some fields lead to. A path leads from there to
the value, and unless it ends at the item this is a hash. -/
def AddsItem (h h' : Hash) (pre : Path) (items : List Value) (o : Option String) (below : Path) (v : Value) : Prop :=
  ∃ item, h' = h.withItems pre (items ++ [item]) o ∧ (below = [] ∨ item.kind = .hash) ∧
    h'.Finds (pre ++ "$last" :: below) v

/-- Whether a hash is another one with an item changed at a position of the array that some fields lead to. The segment
leads there, and the rest of the path to the value if there is no array on the way. -/
def ChangesItem (h h' : Hash) (pre : Path) (items : List Value) (o : Option String) (i : Nat) (segment : String)
    (rest : Path) (v : Value) : Prop :=
  ∃ item, i < items.length ∧ h' = h.withItems pre (items.set i item) o ∧
    ((∀ fs p, items[i]? = some (.hash fs p) → Value.NoArrayOn rest (.hash fs p)) →
      h'.Finds (pre ++ segment :: rest) v)

section

variable (hd : h.toValue.Distinct) (hpre : pre ≠ [])
  (hlead : Value.Leads pre (pre.map .field) h.toValue (.array items o))
  (hins : h.insert .replace (pre ++ segment :: rest) v = (h', none))

include hd hpre hlead hins

/-- The value is the new item. -/
private theorem addsItem_of_pushItem
    (hrun : Value.insertIn .replace v (segment :: rest) (.array items o) =
      (.array (Value.pushItem o items v) o, none)) :
    AddsItem h h' pre items o [] v := by
  obtain ⟨-, hafter⟩ := insert_through hpre hlead (List.cons_ne_nil _ _) hins
  rw [hrun] at hafter
  have hfound : ∃ p, (v.rebase (some (itemOrigin o (items.length + 1)))).findIn [] = .ok (some (v.rebase (some p))) :=
    ⟨_, Value.findIn_nil _⟩
  refine ⟨_, hafter, Or.inl rfl, ?_⟩
  rw [hafter]
  exact finds_added hd hpre hlead hfound

/-- The value is written below a new item. -/
private theorem addsItem_of_pushMade (hbelow : below ≠ []) (hplain : ∀ s ∈ below, IsPlain s)
    (hrun : Value.insertIn .replace v (segment :: rest) (.array items o) =
      Value.pushMade items o (Value.insertIn .replace v below)) : AddsItem h h' pre items o below v := by
  obtain ⟨hok, hafter⟩ := insert_through hpre hlead (List.cons_ne_nil _ _) hins
  rw [hrun] at hok hafter
  obtain ⟨fs, p, hmade, hfound⟩ := Value.exists_pushMade hbelow hplain hok
  rw [hmade] at hafter
  refine ⟨_, hafter, Or.inr rfl, ?_⟩
  rw [hafter]
  exact finds_added hd hpre hlead hfound

/-- The value is the item at a position. -/
private theorem changesItem_of_setItem (hi : i < items.length)
    (hchoice : ItemChoice.ofSegment items.length segment = .position i) (hrest : rest = [])
    (hrun : Value.insertIn .replace v (segment :: rest) (.array items o) =
      (.array (Value.setItem o items i v) o, none)) :
    ChangesItem h h' pre items o i segment rest v := by
  obtain ⟨-, hafter⟩ := insert_through hpre hlead (List.cons_ne_nil _ _) hins
  rw [hrun, Value.setItem, if_pos hi] at hafter
  refine ⟨_, hi, hafter, fun _ => ?_⟩
  rw [hafter, hrest]
  exact finds_changed hd hpre hlead hi hchoice ⟨_, Value.findIn_nil _⟩

/-- The value is written below the hash at a position. -/
private theorem changesItem_of_hash (hrest : rest ≠ []) (hplain : ∀ s ∈ rest, IsPlain s)
    (hchoice : ItemChoice.ofSegment items.length segment = .position i) {fs : List (String × Value)} {p : Option String}
    (hi : items[i]? = some (.hash fs p))
    (hrun : Value.insertIn .replace v (segment :: rest) (.array items o) =
      (.array (items.set i (Value.insertIn .replace v rest (.hash fs p)).1) o,
        (Value.insertIn .replace v rest (.hash fs p)).2)) :
    ChangesItem h h' pre items o i segment rest v := by
  obtain ⟨hok, hafter⟩ := insert_through hpre hlead (List.cons_ne_nil _ _) hins
  rw [hrun] at hok hafter
  have hlt : i < items.length := (List.getElem?_eq_some_iff.1 hi).1
  have hitem : (Value.hash fs p).Distinct :=
    Value.distinctItems_iff.1 (hlead.distinct hd) _ (List.mem_of_getElem? hi)
  refine ⟨_, hlt, hafter, fun hno => ?_⟩
  rw [hafter]
  exact finds_changed hd hpre hlead hlt hchoice (Value.findIn_insertIn hitem hrest hplain (hno fs p hi) hok)

/-- An index goes on below the hash at its position, or else adds an item. -/
private theorem insert_index (hrest : ∀ s ∈ rest, IsPlain s) {n : Nat} (hn : parseIndex? segment = some n) :
    (¬ (rest ≠ [] ∧ 0 < n ∧ Value.HashAt items (n - 1)) → AddsItem h h' pre items o rest v) ∧
      (rest ≠ [] → 0 < n → Value.HashAt items (n - 1) → ChangesItem h h' pre items o (n - 1) segment rest v) := by
  constructor
  · intro hother
    by_cases hnil : rest = []
    · subst hnil
      exact addsItem_of_pushItem hd hpre hlead hins (Value.insertIn_array_index_nil hn)
    · have hno : ∀ fs p, 0 < n → items[n - 1]? ≠ some (.hash fs p) :=
        fun fs p hpos hitem => hother ⟨hnil, hpos, fs, p, hitem⟩
      exact addsItem_of_pushMade hd hpre hlead hins hnil hrest (Value.insertIn_array_index_other hnil hn hno)
  · rintro hnil hpos ⟨fs, p, hitem⟩
    obtain ⟨i, rfl⟩ : ∃ i, n = i + 1 := ⟨n - 1, by omega⟩
    exact changesItem_of_hash hd hpre hlead hins hnil hrest (ItemChoice.ofSegment_of_index hn) hitem
      (Value.insertIn_array_index_hash hnil hn hpos hitem)

/-- `$first` and `$last` change the item that they address, if there is one that the rest of the path can go into. -/
private theorem insert_position (hrest : ∀ s ∈ rest, IsPlain s) {m : Marker} (hm : Marker.ofSegment? segment = some m)
    (happend : m ≠ .append) :
    (items = [] ∨ rest ≠ [] ∧ ¬ Value.HashAt items (m.itemPosition items.length) → h' = h) ∧
      (items ≠ [] → rest = [] ∨ Value.HashAt items (m.itemPosition items.length) →
        ChangesItem h h' pre items o (m.itemPosition items.length) segment rest v) := by
  have hlt : items ≠ [] → m.itemPosition items.length < items.length := by
    intro hitems
    have hpos := List.length_pos_iff.2 hitems
    unfold Marker.itemPosition
    split <;> omega
  have hsame : h.replaceAt (.array items o) (pre.map .field) = h :=
    replaceAt_self (hlead.steps_ne_nil hpre) hlead.nodeAt?
  obtain ⟨-, hafter⟩ := insert_through hpre hlead (List.cons_ne_nil _ _) hins
  constructor
  · intro hnowhere
    have hstays : (Value.insertIn .replace v (segment :: rest) (.array items o)).1 = .array items o := by
      by_cases hnil : rest = []
      · have hitems : items = [] := hnowhere.resolve_right fun h => h.1 hnil
        rw [hnil, Value.insertIn_array_position_nil hm happend, hitems]
        rfl
      · have hno : ∀ fs p, items[m.itemPosition items.length]? ≠ some (.hash fs p) := by
          intro fs p hitem
          rcases hnowhere with hitems | ⟨-, hno⟩
          · rw [hitems] at hitem
            cases hitem
          · exact hno ⟨fs, p, hitem⟩
        rw [Value.insertIn_array_position_other hnil hm happend hno]
    rw [hafter, hstays, hsame]
  · intro hitems hinto
    have hchoice := ItemChoice.ofSegment_of_marker hm happend (Nat.ne_of_gt (List.length_pos_iff.2 hitems))
    by_cases hnil : rest = []
    · refine changesItem_of_setItem hd hpre hlead hins (hlt hitems) hchoice hnil ?_
      rw [hnil]
      exact Value.insertIn_array_position_nil hm happend
    · obtain ⟨fs, p, hitem⟩ := hinto.resolve_left hnil
      exact changesItem_of_hash hd hpre hlead hins hnil hrest hchoice hitem
        (Value.insertIn_array_position_hash hnil hm happend hitem)

end

/-- A value that is inserted at a path that comes through hashes to an array touches one item of it, and nothing else.
`$append`, a field name, and an index that ends the path or that leads to no hash add an item, an index that leads to a
hash changes it, and `$first` and `$last` change the item that they address or nothing. The value is found at the path,
with `$last` in front of what is below a new item. -/
theorem insert_list (hd : h.toValue.Distinct) (hpre : pre ≠ [])
    (hlead : Value.Leads pre (pre.map .field) h.toValue (.array items o)) (hrest : ∀ s ∈ rest, IsPlain s)
    (hins : h.insert .replace (pre ++ segment :: rest) v = (h', none)) :
    (Marker.ofSegment? segment = some .append → AddsItem h h' pre items o rest v) ∧
      (∀ n, parseIndex? segment = some n →
        (¬ (rest ≠ [] ∧ 0 < n ∧ Value.HashAt items (n - 1)) → AddsItem h h' pre items o rest v) ∧
          (rest ≠ [] → 0 < n → Value.HashAt items (n - 1) → ChangesItem h h' pre items o (n - 1) segment rest v)) ∧
      (IsPlain segment → parseIndex? segment = none → AddsItem h h' pre items o (segment :: rest) v) ∧
      ∀ m, Marker.ofSegment? segment = some m → m ≠ .append →
        (items = [] ∨ rest ≠ [] ∧ ¬ Value.HashAt items (m.itemPosition items.length) → h' = h) ∧
          (items ≠ [] → rest = [] ∨ Value.HashAt items (m.itemPosition items.length) →
            ChangesItem h h' pre items o (m.itemPosition items.length) segment rest v) := by
  refine ⟨fun hm => ?_, fun n hn => insert_index hd hpre hlead hins hrest hn, fun hplain hindex => ?_,
    fun m hm happend => insert_position hd hpre hlead hins hrest hm happend⟩
  · by_cases hnil : rest = []
    · subst hnil
      exact addsItem_of_pushItem hd hpre hlead hins (Value.insertIn_array_append_nil hm)
    · exact addsItem_of_pushMade hd hpre hlead hins hnil hrest (Value.insertIn_array_append hnil hm)
  · exact addsItem_of_pushMade hd hpre hlead hins (List.cons_ne_nil _ _) (List.forall_mem_cons.2 ⟨hplain, hrest⟩)
      (Value.insertIn_array_name hplain.wildcard hplain.marker hindex)

/-- An index that leads to a hash changes it, a field name beside it adds one, and `$first` does not go into a text. -/
theorem insert_list_titles :
    let items : List Value := [.ofString "x", .hash [("b", .ofString "y")] none]
    let h : Hash := ⟨[("a", .hash [("list", .array items none)] none)], none⟩
    let v : Value := .ofString "z"
    let after (path : Path) : Hash := (h.insert .replace (["a", "list"] ++ path) v).1
    ChangesItem h (after ["2", "c"]) ["a", "list"] items none 1 "2" ["c"] v ∧
      AddsItem h (after ["b", "c"]) ["a", "list"] items none ["b", "c"] v ∧ after ["$first", "c"] = h := by
  intro items h v after
  have hd : h.toValue.Distinct := by
    simp [h, items, toValue, Value.Distinct, Value.DistinctFields, Value.DistinctItems, Value.ofString]
  have hlead : Value.Leads ["a", "list"] (["a", "list"].map .field) h.toValue (.array items none) :=
    .field (by decide) rfl (.field (by decide) rfl (.here _))
  have hrest : ∀ s ∈ ["c"], IsPlain s := by decide
  have hins : ∀ segment ∈ ["2", "b", "$first"],
      h.insert .replace (["a", "list"] ++ [segment, "c"]) v = (after [segment, "c"], none) := by
    intro segment hsegment
    refine Prod.ext rfl ?_
    revert segment
    decide
  have hitem : Value.HashAt items (2 - 1) := ⟨_, _, rfl⟩
  have hfirst : ¬ Value.HashAt items (Marker.first.itemPosition items.length) := by
    rintro ⟨fs, p, hitem⟩
    cases hitem
  refine ⟨?_, ?_, ?_⟩
  · exact ((insert_list hd (List.cons_ne_nil _ _) hlead hrest (hins "2" (by decide))).2.1 2 (by decide)).2
      (List.cons_ne_nil _ _) (by decide) hitem
  · exact (insert_list hd (List.cons_ne_nil _ _) hlead hrest (hins "b" (by decide))).2.2.1 (by decide)
      (by decide)
  · exact ((insert_list hd (List.cons_ne_nil _ _) hlead hrest (hins "$first" (by decide))).2.2.2 .first rfl
      (by decide)).1 (Or.inr ⟨List.cons_ne_nil _ _, hfirst⟩)

end Hash

end RecordFix
