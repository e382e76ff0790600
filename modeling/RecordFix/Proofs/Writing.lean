import RecordFix.Proofs.Inserting
import RecordFix.Proofs.Reached

/-!
# Writing and looking up

On a path of plain segments a lookup goes from a hash to the one field of each name (`Value.findIn_plain`). An insertion
that ends well on such a path, with no array on the way, is a chain of writes of fields, from the outer hash to the
inner one (`Value.Writes`). So the value that is written is found (`Value.Writes.findIn_self`), a path that branches off
finds what it found before (`Value.Writes.findIn_of_not_prefix`), and the fields that a hash has stay where they are
(`Value.Writes.keys_prefix`).
-/

namespace RecordFix

/-- Whether a segment stands for the field of its own name: it is no wildcard, no marker and no glob. -/
structure IsPlain (segment : String) : Prop where
  wildcard : segment ≠ wildcard
  marker : Marker.ofSegment? segment = none
  glob : Glob.isPattern segment = false

instance (segment : String) : Decidable (IsPlain segment) :=
  decidable_of_iff (segment ≠ wildcard ∧ Marker.ofSegment? segment = none ∧ Glob.isPattern segment = false)
    ⟨fun ⟨hw, hm, hg⟩ => ⟨hw, hm, hg⟩, fun h => ⟨h.wildcard, h.marker, h.glob⟩⟩

namespace Value

variable {v w t : Value} {fields fs : List (String × Value)} {o : Option String} {segment : String} {path rest : Path}

/-! ### Looking up plain segments -/

theorem fieldTest_plain (h : IsPlain segment) (size : Nat) : fieldTest size segment = (segment == ·) := by
  have hw : (segment == wildcard) = false := by simpa using h.wildcard
  funext name
  simp only [fieldTest, hw, Bool.false_eq_true, ↓reduceIte, h.marker, Glob.matchesName, h.glob]

private theorem findFields_of_not_mem {strict : Bool} (h : segment ∉ fields.map (·.1)) :
    findFields strict (segment == ·) path fields = .ok [] := by
  induction fields with
  | nil => rfl
  | cons f fs ih =>
    obtain ⟨k, v⟩ := f
    rw [List.map_cons, List.mem_cons, not_or] at h
    have hk : (segment == k) = false := by simpa using h.1
    rw [findFields, hk, if_neg Bool.false_ne_true]
    exact ih h.2

/-- A plain segment leads to the field of its name, and beyond a text it leads to a mismatch. -/
theorem findIn_plain (h : IsPlain segment) (hnd : (fields.map (·.1)).Nodup) :
    (hash fields o).findIn (segment :: path) =
      match fields.lookup segment with
      | none => .ok none
      | some child =>
        if !path.isEmpty && child.isString then .error (descentMismatch .string) else child.findIn path := by
  have hw : (segment == wildcard) = false := by simpa using h.wildcard
  have hfields : (findFields true (segment == ·) path fields).map merge =
      match fields.lookup segment with
      | none => .ok none
      | some child =>
        if !path.isEmpty && child.isString then .error (descentMismatch .string) else child.findIn path := by
    induction fields with
    | nil => rfl
    | cons f fs ih =>
      obtain ⟨k, v⟩ := f
      rw [List.map_cons, List.nodup_cons] at hnd
      rw [List.lookup_cons]
      cases hk : segment == k with
      | true =>
        -- the name does not come again
        have hrest : findFields true (segment == ·) path fs = .ok [] :=
          findFields_of_not_mem (eq_of_beq hk ▸ hnd.1)
        rw [findFields, hk, if_pos rfl, hrest, Bool.true_and]
        dsimp only
        split
        · rfl
        · cases v.findIn path with
          | error e => rfl
          | ok found => cases found <;> rfl
      | false =>
        rw [findFields, hk, if_neg Bool.false_ne_true]
        exact ih hnd.2
  rw [← hfields, ← fieldTest_plain h fields.length]
  unfold findIn
  simp only [hw, Bool.false_eq_true, ↓reduceIte]

theorem findIn_plain_of_none (h : IsPlain segment) (hnd : (fields.map (·.1)).Nodup)
    (hl : fields.lookup segment = none) : (hash fields o).findIn (segment :: path) = .ok none := by
  rw [findIn_plain h hnd, hl]

theorem findIn_plain_of_some (h : IsPlain segment) (hnd : (fields.map (·.1)).Nodup) {child : Value}
    (hl : fields.lookup segment = some child) (hchild : path = [] ∨ child.isString = false) :
    (hash fields o).findIn (segment :: path) = child.findIn path := by
  have hcond : (!path.isEmpty && child.isString) = false := by
    rcases hchild with rfl | hchild
    · rfl
    · rw [hchild, Bool.and_false]
  rw [findIn_plain h hnd, hl]
  dsimp only
  rw [hcond, if_neg Bool.false_ne_true]

/-! ### Chains of writes -/

/-- The child that a write goes on to: the field of the name, or a new hash. -/
def childOrNew (fields : List (String × Value)) (o : Option String) (segment : String) : Value :=
  (fields.lookup segment).getD (hash [] (some (childOrigin o segment)))

/-- A hash before and after a value is written at a path. -/
inductive Writes (v : Value) : Path → Value → Value → Prop
  | last (segment : String) (fields : List (String × Value)) (o : Option String) :
      Writes v [segment] (hash fields o)
        (hash (Hash.putEntry segment (v.rebase (some (childOrigin o segment))) fields) o)
  | field {segment : String} {rest : Path} {fields : List (String × Value)} {o : Option String} {w : Value} :
      Writes v rest (childOrNew fields o segment) w →
        Writes v (segment :: rest) (hash fields o) (hash (Hash.putEntry segment w fields) o)

/-- Whether a path comes by no array. -/
def NoArrayOn (path : Path) (t : Value) : Prop :=
  ∀ q, q <+: path → q ≠ path → ∀ items o, t.findIn q ≠ .ok (some (array items o))

theorem Writes.isString (h : Writes v path t w) : t.isString = false ∧ w.isString = false := by
  cases h <;> exact ⟨rfl, rfl⟩

/-- A write leaves a hash. -/
theorem Writes.exists_hash (h : Writes v path t w) : ∃ fields o, w = hash fields o := by
  cases h <;> exact ⟨_, _, rfl⟩

theorem Distinct.childOrNew (h : (hash fields o).Distinct) (segment : String) :
    (childOrNew fields o segment).Distinct := by
  unfold Value.childOrNew
  cases hl : fields.lookup segment with
  | none => exact ⟨List.nodup_nil, trivial⟩
  | some child => exact distinctFields_iff.1 h.2 _ (Hash.mem_of_lookup hl)

/-- What is found below the child that a write goes on to is found through the field. -/
theorem findIn_childOrNew (h : IsPlain segment) (hnd : (fields.map (·.1)).Nodup) (hpath : ∀ s ∈ path, IsPlain s)
    (hne : path ≠ []) (hchild : (childOrNew fields o segment).isString = false) :
    (hash fields o).findIn (segment :: path) = (childOrNew fields o segment).findIn path := by
  have hempty : (([] : List (String × Value)).map (·.1)).Nodup := List.nodup_nil
  cases hl : fields.lookup segment with
  | none =>
    rw [findIn_plain_of_none h hnd hl, childOrNew, hl]
    cases path with
    | nil => exact absurd rfl hne
    | cons s path => exact (findIn_plain_of_none (hpath s List.mem_cons_self) hempty rfl).symm
  | some child =>
    rw [childOrNew, hl] at hchild ⊢
    exact findIn_plain_of_some h hnd hl (Or.inr hchild)

/-- One step of an insertion that ends well. -/
private theorem insertIn_cons_of_ok (h : IsPlain segment) (hne : rest ≠ [])
    (hins : insertIn .replace v (segment :: rest) (hash fields o) = (w, none)) :
    ∃ w', insertIn .replace v rest (childOrNew fields o segment) = (w', none) ∧
      w = hash (Hash.putEntry segment w' fields) o := by
  have hkey := referredKey_of_marker_none h.marker fields.length
  have happend : Marker.ofSegment? segment ≠ some .append := by
    rw [h.marker]
    exact (Option.some_ne_none _).symm
  have hrun : insertIn .replace v (segment :: rest) (hash fields o) =
      (hash (Hash.putEntry segment (insertIn .replace v rest (childOrNew fields o segment)).1 fields) o,
        (insertIn .replace v rest (childOrNew fields o segment)).2) := by
    unfold childOrNew
    cases hl : fields.lookup segment with
    | some child =>
      rw [← hkey] at hl
      rw [insertIn_of_lookup h.wildcard hne happend hl, hkey]
      rfl
    | none =>
      by_cases hindex : parseIndex? segment = none
      · exact insertIn_new h.wildcard hne h.marker hindex hl
      -- an index that refers to no field does not end well
      · rw [← hkey] at hl
        rw [insertIn_of_lookup_none h.wildcard hne happend (Or.inr hindex) hl] at hins
        cases hins
  rw [hrun, Prod.mk.injEq] at hins
  obtain ⟨rfl, hfailure⟩ := hins
  exact ⟨_, Prod.ext rfl hfailure, rfl⟩

/-- An insertion that ends well on a plain path, with no array on the way, is a chain of writes. -/
theorem writes_of_insertIn (hne : path ≠ []) (hplain : ∀ s ∈ path, IsPlain s) (hd : (hash fields o).Distinct)
    (hno : NoArrayOn path (hash fields o)) (hins : insertIn .replace v path (hash fields o) = (w, none)) :
    Writes v path (hash fields o) w := by
  induction path generalizing fields o w with
  | nil => exact absurd rfl hne
  | cons segment rest ih =>
    have hsegment := hplain segment List.mem_cons_self
    have hrest : ∀ s ∈ rest, IsPlain s := fun s hs => hplain s (List.mem_cons_of_mem _ hs)
    by_cases hnil : rest = []
    · subst hnil
      rw [insertIn_hash_last hsegment.wildcard] at hins
      cases hins
      exact .last segment fields o
    · obtain ⟨w', hchild, rfl⟩ := insertIn_cons_of_ok hsegment hnil hins
      refine .field ?_
      have hdchild := hd.childOrNew segment
      cases hc : childOrNew fields o segment with
      | string t p =>
        rw [hc] at hchild
        cases rest <;> cases hchild
      | array items p =>
        -- an array is no new child, so it would be found on the way
        have hl : fields.lookup segment = some (array items p) := by
          cases hl : fields.lookup segment with
          | none => simp [childOrNew, hl] at hc
          | some child => simpa [childOrNew, hl] using hc
        have hfound := findIn_plain_of_some hsegment hd.1 hl (o := o) (Or.inl rfl)
        rw [findIn_nil] at hfound
        have hprefix : [segment] <+: segment :: rest := ⟨rest, rfl⟩
        exact absurd hfound (hno [segment] hprefix (fun h => hnil (List.cons.inj h).2.symm) items p)
      | hash fields' p =>
        have hnochild : NoArrayOn rest (hash fields' p) := by
          intro q hq hqne items p' hfound
          cases q with
          | nil => cases hfound
          | cons s q =>
            have hq' : ∀ s' ∈ s :: q, IsPlain s' := fun s' hs' => hrest s' (hq.subset hs')
            have hprefix : segment :: s :: q <+: segment :: rest := List.cons_prefix_cons.2 ⟨rfl, hq⟩
            refine hno _ hprefix (fun h => hqne (List.cons.inj h).2) items p' ?_
            rw [findIn_childOrNew hsegment hd.1 hq' (List.cons_ne_nil _ _) (by rw [hc]; rfl), hc]
            exact hfound
        rw [hc] at hchild hdchild
        exact ih hnil hrest hdchild hnochild hchild

namespace Writes

/-! ### After the write -/

/-- The value that was written is found, at its new place. -/
theorem findIn_self (h : Writes v path t w) (hd : t.Distinct) (hplain : ∀ s ∈ path, IsPlain s) :
    ∃ p, w.findIn path = .ok (some (v.rebase (some p))) := by
  induction h with
  | last segment fields o =>
    refine ⟨childOrigin o segment, ?_⟩
    rw [findIn_plain_of_some (hplain segment List.mem_cons_self) (Hash.nodup_keys_putEntry hd.1)
      Hash.lookup_putEntry_self (Or.inl rfl), findIn_nil]
  | @field segment rest fields o w hw ih =>
    rw [List.forall_mem_cons] at hplain
    rw [findIn_plain_of_some hplain.1 (Hash.nodup_keys_putEntry hd.1) Hash.lookup_putEntry_self (Or.inr hw.isString.2)]
    exact ih (hd.childOrNew segment) hplain.2

/-- A path that branches off finds what it found before, be it an error. -/
theorem findIn_of_not_prefix (h : Writes v path t w) (hd : t.Distinct) {q : Path} (hplain : ∀ s ∈ q, IsPlain s)
    (hpq : ¬ path <+: q) (hqp : ¬ q <+: path) : w.findIn q = t.findIn q := by
  induction h generalizing q with
  | last segment fields o =>
    cases q with
    | nil => exact absurd List.nil_prefix hqp
    | cons s q =>
      rw [List.forall_mem_cons] at hplain
      have hne : s ≠ segment := fun hs => hpq (List.cons_prefix_cons.2 ⟨hs.symm, List.nil_prefix⟩)
      rw [findIn_plain hplain.1 (Hash.nodup_keys_putEntry hd.1), findIn_plain hplain.1 hd.1,
        Hash.lookup_putEntry_of_ne hne]
  | @field segment rest fields o w hw ih =>
    cases q with
    | nil => exact absurd List.nil_prefix hqp
    | cons s q =>
      rw [List.forall_mem_cons] at hplain
      by_cases hs : s = segment
      · subst hs
        have hpq' : ¬ rest <+: q := fun h => hpq (List.cons_prefix_cons.2 ⟨rfl, h⟩)
        have hqp' : ¬ q <+: rest := fun h => hqp (List.cons_prefix_cons.2 ⟨rfl, h⟩)
        have hq : q ≠ [] := fun h => hqp' (h ▸ List.nil_prefix)
        calc
          (hash (Hash.putEntry s w fields) o).findIn (s :: q) = w.findIn q :=
            findIn_plain_of_some hplain.1 (Hash.nodup_keys_putEntry hd.1) Hash.lookup_putEntry_self
              (Or.inr hw.isString.2)
          _ = (childOrNew fields o s).findIn q := ih (hd.childOrNew s) hplain.2 hpq' hqp'
          _ = (hash fields o).findIn (s :: q) := (findIn_childOrNew hplain.1 hd.1 hplain.2 hq hw.isString.1).symm
      · rw [findIn_plain hplain.1 (Hash.nodup_keys_putEntry hd.1), findIn_plain hplain.1 hd.1,
          Hash.lookup_putEntry_of_ne hs]

/-- The fields of each hash on the way stay where they are, before a new one. -/
theorem keys_prefix (h : Writes v path t w) (hd : t.Distinct) (hplain : ∀ s ∈ path, IsPlain s) {q : Path}
    (hq : q <+: path) (hne : q ≠ path) {fs : List (String × Value)} {p : Option String}
    (hfound : t.findIn q = .ok (some (hash fs p))) :
    ∃ fs', w.findIn q = .ok (some (hash fs' p)) ∧ fs.map (·.1) <+: fs'.map (·.1) := by
  induction h generalizing q with
  | last segment fields o =>
    cases q with
    | nil =>
      cases hfound
      exact ⟨_, findIn_nil _, Hash.keys_putEntry_prefix⟩
    | cons s q =>
      obtain ⟨rfl, hnil⟩ := List.cons_prefix_cons.1 hq
      exact absurd (congrArg (s :: ·) (List.prefix_nil.1 hnil)) hne
  | @field segment rest fields o w hw ih =>
    cases q with
    | nil =>
      cases hfound
      exact ⟨_, findIn_nil _, Hash.keys_putEntry_prefix⟩
    | cons s q =>
      obtain ⟨rfl, hrest⟩ := List.cons_prefix_cons.1 hq
      rw [List.forall_mem_cons] at hplain
      have hqne : q ≠ rest := fun h => hne (h ▸ rfl)
      have hqplain : ∀ s' ∈ q, IsPlain s' := fun s' hs' => hplain.2 s' (hrest.subset hs')
      have hchild : (childOrNew fields o s).findIn q = .ok (some (hash fs p)) := by
        by_cases hnil : q = []
        · subst hnil
          cases hl : fields.lookup s with
          | none =>
            rw [findIn_plain_of_none hplain.1 hd.1 hl] at hfound
            cases hfound
          | some child =>
            rw [findIn_plain_of_some hplain.1 hd.1 hl (Or.inl rfl)] at hfound
            rw [childOrNew, hl]
            exact hfound
        · rw [← findIn_childOrNew hplain.1 hd.1 hqplain hnil hw.isString.1]
          exact hfound
      obtain ⟨fs', hfound', hkeys⟩ := ih (hd.childOrNew s) hplain.2 hrest hqne hchild
      refine ⟨fs', ?_, hkeys⟩
      rw [findIn_plain_of_some hplain.1 (Hash.nodup_keys_putEntry hd.1) Hash.lookup_putEntry_self
        (Or.inr hw.isString.2)]
      exact hfound'

end Writes

end Value

/-- A value that is inserted at a plain path, with no array on the way, is written there. -/
theorem Hash.writes_of_insert {h h' : Hash} (hd : h.toValue.Distinct) {path : Path} (hne : path ≠ [])
    (hplain : ∀ s ∈ path, IsPlain s)
    (hno : ∀ q, q <+: path → q ≠ path → ∀ items o, h.find q ≠ .ok (some (.array items o)))
    {v : Value} (hins : h.insert .replace path v = (h', none)) : Value.Writes v path h.toValue h'.toValue := by
  unfold Hash.insert at hins
  cases hw : Value.insertIn .replace v path h.toValue with
  | mk w failure =>
    rw [hw] at hins
    have hfailure : failure = none := by cases w <;> exact (Prod.mk.inj hins).2
    subst hfailure
    have hwrites := Value.writes_of_insertIn hne hplain hd hno hw
    obtain ⟨fields, o, rfl⟩ := hwrites.exists_hash
    cases hins
    exact hwrites

/-- A value that is inserted at a plain path, with no array on the way, is found there afterwards, with the origin of
its new place. A plain path that branches off finds what it found before, be it an error, and the fields that the hashes
on the way have stay where they are, with a new field behind them if there is one. -/
theorem Hash.find_insert {h h' : Hash} (hd : h.toValue.Distinct) {path : Path} (hne : path ≠ [])
    (hplain : ∀ s ∈ path, IsPlain s)
    (hno : ∀ q, q <+: path → q ≠ path → ∀ items o, h.find q ≠ .ok (some (.array items o)))
    {v : Value} (hins : h.insert .replace path v = (h', none)) :
    (∃ p, h'.find path = .ok (some (v.rebase (some p)))) ∧
      (∀ q : Path, (∀ s ∈ q, IsPlain s) → ¬ path <+: q → ¬ q <+: path → h'.find q = h.find q) ∧
      ∀ q : Path, q <+: path → q ≠ path → ∀ fields o, h.find q = .ok (some (.hash fields o)) →
        ∃ fields', h'.find q = .ok (some (.hash fields' o)) ∧ fields.map (·.1) <+: fields'.map (·.1) := by
  have hwrites := Hash.writes_of_insert hd hne hplain hno hins
  exact ⟨hwrites.findIn_self hd hplain, fun q hq => hwrites.findIn_of_not_prefix hd hq,
    fun q hq hqne fields o => hwrites.keys_prefix hd hplain hq hqne⟩

/-- A text is written into an inner hash, beside the one that is there. -/
theorem Hash.find_insert_beside :
    let h : Hash := ⟨[("a", .hash [("b", .ofString "x")] (some "a")), ("c", .ofString "y")], none⟩
    let h' : Hash := (h.insert .replace ["a", "d"] (.ofString "z")).1
    (∃ p, h'.find ["a", "d"] = .ok (some ((Value.ofString "z").rebase (some p)))) ∧
      (∀ q : Path, (∀ s ∈ q, IsPlain s) → ¬ ["a", "d"] <+: q → ¬ q <+: ["a", "d"] → h'.find q = h.find q) ∧
      ∀ q : Path, q <+: ["a", "d"] → q ≠ ["a", "d"] → ∀ fields o, h.find q = .ok (some (.hash fields o)) →
        ∃ fields', h'.find q = .ok (some (.hash fields' o)) ∧ fields.map (·.1) <+: fields'.map (·.1) := by
  intro h h'
  have hd : h.toValue.Distinct := by simp [h, Hash.toValue, Value.Distinct, Value.DistinctFields, Value.ofString]
  have hplain : ∀ s ∈ ["a", "d"], IsPlain s := by decide
  have hno : ∀ q, q <+: ["a", "d"] → q ≠ ["a", "d"] → ∀ items o, h.find q ≠ .ok (some (.array items o)) := by
    intro q hq hqne items o hfound
    obtain rfl | ⟨rest, rfl, hrest⟩ := List.prefix_cons_iff.1 hq
    · cases hfound
    · obtain rfl | ⟨rest, rfl, hnil⟩ := List.prefix_cons_iff.1 hrest
      · have hfind : h.find ["a"] = .ok (some (.hash [("b", .ofString "x")] (some "a"))) := by rfl
        rw [hfind] at hfound
        cases hfound
      · rw [List.prefix_nil.1 hnil] at hqne
        exact hqne rfl
  have hins : h.insert .replace ["a", "d"] (.ofString "z") = (h', none) :=
    Prod.ext rfl (by decide)
  exact Hash.find_insert hd (List.cons_ne_nil _ _) hplain hno hins

end RecordFix
