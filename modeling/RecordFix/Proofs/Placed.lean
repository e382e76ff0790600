import RecordFix.Proofs.Fields
import RecordFix.Proofs.Rebase

/-!
# Values at their places

A value is placed if the origin of every node is the path that leads to it from the origin of the root, and no hash in
it has a name twice. What is rebased is placed if no name comes twice in it (`Distinct.placed_rebase`), and each change
of a container keeps it placed when the children that it puts in are placed or are rebased there.
-/

namespace RecordFix

namespace Value

mutual

/-- Whether all origins are those of the places, for a root of this origin, and names are distinct. -/
def Placed (o : Option String) : Value → Prop
  | string _ p => p = o
  | array items p => p = o ∧ PlacedItems o 1 items
  | hash fields p => p = o ∧ (fields.map (·.1)).Nodup ∧ PlacedFields o fields

def PlacedItems (o : Option String) (i : Nat) : List Value → Prop
  | [] => True
  | v :: vs => Placed (some (itemOrigin o i)) v ∧ PlacedItems o (i + 1) vs

def PlacedFields (o : Option String) : List (String × Value) → Prop
  | [] => True
  | (k, v) :: fs => Placed (some (childOrigin o k)) v ∧ PlacedFields o fs

end

mutual

/-- Whether the names in each hash, at any depth, are distinct. -/
def Distinct : Value → Prop
  | string _ _ => True
  | array items _ => DistinctItems items
  | hash fields _ => (fields.map (·.1)).Nodup ∧ DistinctFields fields

def DistinctItems : List Value → Prop
  | [] => True
  | v :: vs => Distinct v ∧ DistinctItems vs

def DistinctFields : List (String × Value) → Prop
  | [] => True
  | (_, v) :: fs => Distinct v ∧ DistinctFields fs

end

variable {o : Option String} {v w : Value} {vs items : List Value} {fs fields : List (String × Value)} {k : String}

/-! ### Children -/

theorem placedItems_iff {i : Nat} :
    PlacedItems o i vs ↔ ∀ (n : Nat) (v : Value), vs[n]? = some v → v.Placed (some (itemOrigin o (i + n))) := by
  induction vs generalizing i with
  | nil => simp [PlacedItems]
  | cons w vs ih =>
    rw [PlacedItems, ih]
    constructor
    · rintro ⟨hw, hvs⟩ n v hn
      cases n with
      | zero =>
        rw [List.getElem?_cons_zero, Option.some.injEq] at hn
        exact hn ▸ hw
      | succ n =>
        rw [List.getElem?_cons_succ] at hn
        rw [show i + (n + 1) = i + 1 + n by omega]
        exact hvs n v hn
    · intro h
      refine ⟨h 0 w rfl, fun n v hn => ?_⟩
      rw [show i + 1 + n = i + (n + 1) by omega]
      exact h (n + 1) v hn

theorem placedFields_iff : PlacedFields o fs ↔ ∀ f ∈ fs, f.2.Placed (some (childOrigin o f.1)) := by
  induction fs with
  | nil => simp [PlacedFields]
  | cons f fs ih =>
    obtain ⟨k, v⟩ := f
    rw [PlacedFields, ih, List.forall_mem_cons]

theorem distinctItems_iff : DistinctItems vs ↔ ∀ v ∈ vs, v.Distinct := by
  induction vs with
  | nil => simp [DistinctItems]
  | cons v vs ih => rw [DistinctItems, ih, List.forall_mem_cons]

theorem distinctFields_iff : DistinctFields fs ↔ ∀ f ∈ fs, f.2.Distinct := by
  induction fs with
  | nil => simp [DistinctFields]
  | cons f fs ih =>
    obtain ⟨k, v⟩ := f
    rw [DistinctFields, ih, List.forall_mem_cons]

theorem Placed.origin (h : v.Placed o) : v.origin = o := by
  cases v with
  | string t p => exact h
  | array xs p => exact h.1
  | hash fs p => exact h.1

mutual

/-- What is placed has no name twice. -/
theorem Placed.distinct : ∀ {o : Option String} {v : Value}, v.Placed o → v.Distinct
  | _, string _ _, _ => trivial
  | _, array _ _, h => PlacedItems.distinct h.2
  | _, hash _ _, h => ⟨h.2.1, PlacedFields.distinct h.2.2⟩

theorem PlacedItems.distinct : ∀ {o : Option String} {i : Nat} {vs : List Value}, PlacedItems o i vs → DistinctItems vs
  | _, _, [], _ => trivial
  | _, _, _ :: _, h => ⟨Placed.distinct h.1, PlacedItems.distinct h.2⟩

theorem PlacedFields.distinct :
    ∀ {o : Option String} {fs : List (String × Value)}, PlacedFields o fs → DistinctFields fs
  | _, [], _ => trivial
  | _, _ :: _, h => ⟨Placed.distinct h.1, PlacedFields.distinct h.2⟩

end

mutual

/-- A value without repeated names is placed where it is rebased. -/
theorem Distinct.placed_rebase : ∀ {v : Value}, v.Distinct → ∀ o, (v.rebase o).Placed o
  | string _ _, _, _ => rfl
  | array _ _, h, o => ⟨rfl, DistinctItems.placed_rebaseItems h o 1⟩
  | hash fs _, h, o => ⟨rfl, by rw [keys_rebaseFields]; exact h.1, DistinctFields.placed_rebaseFields h.2 o⟩

theorem DistinctItems.placed_rebaseItems :
    ∀ {vs : List Value}, DistinctItems vs → ∀ o i, PlacedItems o i (rebaseItems o i vs)
  | [], _, _, _ => trivial
  | _ :: _, h, o, i => ⟨h.1.placed_rebase _, DistinctItems.placed_rebaseItems h.2 o (i + 1)⟩

theorem DistinctFields.placed_rebaseFields :
    ∀ {fs : List (String × Value)}, DistinctFields fs → ∀ o, PlacedFields o (rebaseFields o fs)
  | [], _, _ => trivial
  | _ :: _, h, o => ⟨h.1.placed_rebase _, DistinctFields.placed_rebaseFields h.2 o⟩

end

/-! ### Arrays -/

theorem placed_ofList (h : ∀ v ∈ vs, v.Distinct) : (ofList vs).Placed none :=
  ⟨rfl, (distinctItems_iff.2 h).placed_rebaseItems none 1⟩

theorem Distinct.toList (h : v.Distinct) : ∀ w ∈ v.toList, w.Distinct := by
  cases v with
  | array xs p => exact distinctItems_iff.1 h
  | string t p =>
    intro w hw
    rw [List.mem_singleton.1 hw]
    trivial
  | hash fs p =>
    intro w hw
    rw [List.mem_singleton.1 hw]
    exact h

theorem placedItems_concat {item : Value} (hxs : PlacedItems o 1 items)
    (hitem : item.Placed (some (itemOrigin o (items.length + 1)))) : PlacedItems o 1 (items ++ [item]) := by
  rw [placedItems_iff] at hxs ⊢
  intro n w hn
  rw [List.getElem?_append] at hn
  split at hn
  · exact hxs n w hn
  · have hlen : n = items.length := by
      have := (List.getElem?_eq_some_iff.1 hn).1
      rw [List.length_singleton] at this
      omega
    subst hlen
    rw [Nat.sub_self, List.getElem?_cons_zero, Option.some.injEq] at hn
    rw [← hn, Nat.add_comm]
    exact hitem

theorem placedItems_of_mem {i : Nat} (h : PlacedItems o i vs) : ∀ v ∈ vs, v.Placed v.origin := by
  intro v hv
  obtain ⟨n, hn⟩ := List.getElem?_of_mem hv
  have hplaced := placedItems_iff.1 h n v hn
  rw [hplaced.origin]
  exact hplaced

theorem Placed.toList (h : v.Placed o) : ∀ w ∈ v.toList, w.Placed w.origin := by
  have hself : v.Placed v.origin := by
    rw [h.origin]
    exact h
  cases v with
  | array xs p => exact placedItems_of_mem h.2
  | string t p => exact List.forall_mem_singleton.2 hself
  | hash fs p => exact List.forall_mem_singleton.2 hself

/-- Whatever is no array is rebased to its place in the new one. -/
theorem Placed.asArray (h : v.Placed o) : v.asArray.Placed v.asArray.origin := by
  have hsingle : (ofList [v]).Placed none := placed_ofList (List.forall_mem_singleton.2 h.distinct)
  cases v with
  | array xs p =>
    obtain ⟨rfl, hitems⟩ := h
    exact ⟨rfl, hitems⟩
  | string t p => exact hsingle
  | hash fs p => exact hsingle

/-- A new last item is rebased to its place. -/
theorem placedItems_pushItem (hxs : PlacedItems o 1 items) (hv : v.Distinct) :
    PlacedItems o 1 (pushItem o items v) :=
  placedItems_concat hxs (hv.placed_rebase _)

theorem Placed.append (hw : w.Placed o) (hv : v.Distinct) : (w.append v).Placed o := by
  have hsingle : PlacedItems o 1 (pushItem o [] w) := placedItems_pushItem trivial hw.distinct
  cases w with
  | array xs p =>
    obtain ⟨rfl, hxs⟩ := hw
    exact ⟨rfl, placedItems_pushItem hxs hv⟩
  | string t p =>
    cases hw
    exact ⟨rfl, placedItems_pushItem hsingle hv⟩
  | hash fs p =>
    cases hw.1
    exact ⟨rfl, placedItems_pushItem hsingle hv⟩

/-- An item is replaced by one at the same place. -/
theorem placedItems_set {i : Nat} (hxs : PlacedItems o 1 items) (hv : v.Placed (some (itemOrigin o (i + 1)))) :
    PlacedItems o 1 (items.set i v) := by
  rw [placedItems_iff] at hxs ⊢
  intro n w hn
  rw [List.getElem?_set] at hn
  split at hn
  · rename_i hin
    subst hin
    split at hn
    · rw [← Option.some.inj hn, Nat.add_comm]
      exact hv
    · cases hn
  · exact hxs n w hn

theorem placedItems_setItem {i : Nat} (hxs : PlacedItems o 1 items) (hv : v.Distinct) :
    PlacedItems o 1 (setItem o items i v) := by
  unfold setItem
  split
  · exact placedItems_set hxs (hv.placed_rebase _)
  · exact hxs

theorem placedItems_eraseItem {i : Nat} (hxs : PlacedItems o 1 items) : PlacedItems o 1 (eraseItem o items i) := by
  unfold eraseItem
  split
  · refine DistinctItems.placed_rebaseItems (distinctItems_iff.2 fun v hv => ?_) o 1
    exact distinctItems_iff.1 hxs.distinct v (List.mem_of_mem_eraseIdx hv)
  · exact hxs

theorem distinct_merge (h : ∀ v ∈ vs, v.Distinct) : ∀ w ∈ merge vs, w.Distinct := by
  intro w hw
  rcases vs with - | ⟨u, - | ⟨v, vs⟩⟩
  · cases hw
  · rw [← Option.some.inj hw]
    exact h u (List.mem_singleton_self u)
  · cases hw
    refine (placed_ofList fun x hx => ?_).distinct
    obtain ⟨y, hy, hx⟩ := List.mem_flatMap.1 hx
    exact (h y hy).toList x hx

/-- A merged value is one of the values or a new array. -/
theorem placed_merge (h : ∀ v ∈ vs, v.Placed v.origin) : ∀ w ∈ merge vs, w.Placed w.origin := by
  intro w hw
  rcases vs with - | ⟨u, - | ⟨v, vs⟩⟩
  · cases hw
  · rw [← Option.some.inj hw]
    exact h u (List.mem_singleton_self u)
  · cases hw
    refine placed_ofList fun x hx => ?_
    obtain ⟨y, hy, hx⟩ := List.mem_flatMap.1 hx
    exact (h y hy).distinct.toList x hx

/-! ### Hashes -/

theorem placedFields_putEntry (h : PlacedFields o fs) (hv : v.Placed (some (childOrigin o k))) :
    PlacedFields o (Hash.putEntry k v fs) := by
  rw [placedFields_iff] at h ⊢
  intro f hf
  rcases Hash.mem_putEntry hf with rfl | hf
  · exact hv
  · exact h f hf

theorem PlacedFields.filter (h : PlacedFields o fs) (p : String × Value → Bool) : PlacedFields o (fs.filter p) := by
  rw [placedFields_iff] at h ⊢
  exact fun f hf => h f (List.mem_filter.1 hf).1

theorem PlacedFields.lookup (h : PlacedFields o fs) (hl : fs.lookup k = some v) :
    v.Placed (some (childOrigin o k)) :=
  placedFields_iff.1 h (k, v) (Hash.mem_of_lookup hl)

theorem keys_vacuumFields (fs : List (String × Value)) :
    ((vacuumFields fs).map (·.1)).Sublist (fs.map (·.1)) := by
  induction fs with
  | nil => exact List.Sublist.refl _
  | cons f fs ih =>
    obtain ⟨k, v⟩ := f
    rw [vacuumFields, List.map_append, List.map_cons]
    cases v.vacuum with
    | none => exact ih.cons _
    | some w => exact ih.cons_cons _

mutual

/-- What is left of a placed value is placed. -/
theorem Placed.vacuum : ∀ {o : Option String} {v : Value}, v.Placed o → ∀ w ∈ v.vacuum, w.Placed o
  | o, string t p, h, w, hw => by
    rw [vacuum_string, Option.mem_def] at hw
    split at hw
    · cases hw
    · cases hw
      exact h
  | o, array items p, h, w, hw => by
    have hitems := PlacedItems.vacuum h.2
    rw [vacuum_array, Option.mem_def] at hw
    split at hw
    · cases hw
    · cases hw
      obtain ⟨rfl, -⟩ := h
      exact ⟨rfl, (distinctItems_iff.2 hitems).placed_rebaseItems p 1⟩
  | o, hash fields p, h, w, hw => by
    have hfields := PlacedFields.vacuum h.2.2
    have hkeys := (keys_vacuumFields fields).nodup h.2.1
    rw [vacuum_hash, Option.mem_def] at hw
    split at hw
    · cases hw
    · cases hw
      obtain ⟨rfl, -⟩ := h
      exact ⟨rfl, hkeys, hfields⟩

theorem PlacedItems.vacuum :
    ∀ {o : Option String} {i : Nat} {vs : List Value}, PlacedItems o i vs → ∀ w ∈ vacuumItems vs, w.Distinct
  | _, _, [], _, w, hw => nomatch hw
  | _, _, v :: vs, h, w, hw => by
    rw [vacuumItems, List.mem_append, Option.mem_toList] at hw
    rcases hw with hw | hw
    · exact (Placed.vacuum h.1 w hw).distinct
    · exact PlacedItems.vacuum h.2 w hw

theorem PlacedFields.vacuum :
    ∀ {o : Option String} {fs : List (String × Value)}, PlacedFields o fs → PlacedFields o (vacuumFields fs)
  | _, [], _ => trivial
  | o, (k, v) :: fs, h => by
    have hfs := PlacedFields.vacuum h.2
    rw [placedFields_iff] at hfs ⊢
    intro f hf
    rw [vacuumFields, List.mem_append, Option.mem_toList, Option.map_eq_some_iff] at hf
    rcases hf with ⟨w, hw, rfl⟩ | hf
    · exact Placed.vacuum h.1 w hw
    · exact hfs f hf

end

end Value

/-- A hash whose fields are placed for an origin, which is its own. -/
def Hash.Placed (o : Option String) (h : Hash) : Prop := h.toValue.Placed o

namespace Hash

variable {o : Option String} {h : Hash} {k : String} {v w : Value}

theorem Placed.get? (hp : h.Placed o) (hk : h.get? k = some v) : v.Placed (some (childOrigin o k)) :=
  hp.2.2.lookup hk

theorem Placed.putRaw (hp : h.Placed o) (hv : v.Placed (some (childOrigin o k))) : (h.putRaw k v).Placed o :=
  ⟨hp.1, nodup_keys_putEntry hp.2.1, Value.placedFields_putEntry hp.2.2 hv⟩

theorem Placed.put (hp : h.Placed o) (hv : v.Distinct) : (h.put k v).Placed o := by
  have horigin : h.origin = o := hp.1
  exact ⟨hp.1, nodup_keys_putEntry hp.2.1,
    Value.placedFields_putEntry hp.2.2 (horigin ▸ hv.placed_rebase _)⟩

theorem Placed.add (hp : h.Placed o) (hv : v.Distinct) : (h.add k v).Placed o := by
  unfold Hash.add
  split
  · rename_i old hold
    exact hp.putRaw ((hp.get? hold).append hv)
  · exact hp.put hv

/-- Leaving out fields moves none. -/
theorem Placed.filter (hp : h.Placed o) (p : String × Value → Bool) :
    Hash.Placed o { h with fields := h.fields.filter p } :=
  ⟨hp.1, (List.filter_sublist.map _).nodup hp.2.1, hp.2.2.filter p⟩

theorem Placed.erase (hp : h.Placed o) : (h.erase k).Placed o := hp.filter _

theorem Placed.vacuum (hp : h.Placed o) : h.vacuum.Placed o :=
  ⟨hp.1, (Value.keys_vacuumFields h.fields).nodup hp.2.1, hp.2.2.vacuum⟩

theorem placed_nil (o : Option String) : (⟨[], o⟩ : Hash).Placed o := ⟨rfl, List.nodup_nil, trivial⟩

theorem Placed.putAll {fs : List (String × Value)} (hp : h.Placed o) (hfs : ∀ f ∈ fs, f.2.Distinct) :
    (fs.foldl (fun h f => h.put f.1 f.2) h).Placed o := by
  induction fs generalizing h with
  | nil => exact hp
  | cons f fs ih =>
    rw [List.forall_mem_cons] at hfs
    exact ih (hp.put hfs.1) hfs.2

theorem placed_ofList {fs : List (String × Value)} (hfs : ∀ f ∈ fs, f.2.Distinct) : (Hash.ofList fs).Placed none :=
  (placed_nil none).putAll hfs

end Hash

end RecordFix
