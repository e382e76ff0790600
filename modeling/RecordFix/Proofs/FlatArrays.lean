import RecordFix.Proofs.Canonical
import RecordFix.Proofs.WholeValues

/-!
# Hashes as flat arrays

The flat array of a hash has the names and the values of the fields in turns, and pairing its items up gives the fields
back (`Method.bareFields_pairUp_flatten`). An array comes back from the hash of its pairs only if it is such an array:
its items come in pairs, and what comes first in a pair is a text that comes first in no other (`InPairs`). Otherwise
an item is lost, stands for itself as a text only, or is overwritten, so that the array that comes out is another one
(`Method.run_array_hash`).
-/

namespace RecordFix

open RecordFix.Action

/-! ### Values that are equal -/

namespace Value

variable {v w : Value} {xs ys : List Value} {fs gs : List (String × Value)}

private theorem sameFields_of_forall (h : ∀ f ∈ fs, ∃ v, gs.lookup f.1 = some v ∧ f.2.same v = true) :
    sameFields fs gs = true := by
  induction fs with
  | nil => rfl
  | cons f fs ih =>
    rw [List.forall_mem_cons] at h
    obtain ⟨⟨v, hlookup, hsame⟩, hrest⟩ := h
    simp only [sameFields, hlookup, hsame, ih hrest, Bool.and_self]

mutual

/-- Values that differ in their origins only are equal. -/
theorem same_of_bare_eq : ∀ (v w : Value), w.Distinct → v.bare = w.bare → v.same w = true
  | string t _, string u _, _, h => by
    injection h with ht
    exact beq_iff_eq.2 ht
  | array xs _, array ys _, hd, h => by
    injection h with hitems
    exact sameItems_of_bareItems_eq xs ys hd hitems
  | hash fs _, hash gs _, hd, h => by
    injection h with hfields
    have hlength : fs.length = gs.length := by
      simpa only [bareFields_eq_map, List.length_map] using congrArg List.length hfields
    have hfound := sameFields_of_bareFields_eq fs gs hd.2 hfields
    rw [same, hlength, beq_self_eq_true, Bool.true_and]
    refine sameFields_of_forall fun f hf => ?_
    obtain ⟨v, hv, hsame⟩ := hfound f hf
    exact ⟨v, Hash.lookup_of_mem hd.1 hv, hsame⟩
  | string _ _, array _ _, _, h => by cases h
  | string _ _, hash _ _, _, h => by cases h
  | array _ _, string _ _, _, h => by cases h
  | array _ _, hash _ _, _, h => by cases h
  | hash _ _, string _ _, _, h => by cases h
  | hash _ _, array _ _, _, h => by cases h

theorem sameItems_of_bareItems_eq :
    ∀ xs ys : List Value, DistinctItems ys → bareItems xs = bareItems ys → sameItems xs ys = true
  | [], [], _, _ => rfl
  | x :: xs, y :: ys, hd, h => by
    injection h with hx hxs
    rw [sameItems, same_of_bare_eq x y hd.1 hx, sameItems_of_bareItems_eq xs ys hd.2 hxs, Bool.and_self]
  | [], _ :: _, _, h => by cases h
  | _ :: _, [], _, h => by cases h

theorem sameFields_of_bareFields_eq : ∀ fs gs : List (String × Value), DistinctFields gs →
    bareFields fs = bareFields gs → ∀ f ∈ fs, ∃ v, (f.1, v) ∈ gs ∧ f.2.same v = true
  | [], _, _, _ => List.forall_mem_nil _
  | (k, v) :: fs, (l, w) :: gs, hd, h => by
    injection h with hfirst hrest
    injection hfirst with hname hvalue
    subst hname
    refine List.forall_mem_cons.2 ⟨⟨w, List.mem_cons_self, same_of_bare_eq v w hd.1 hvalue⟩, fun f hf => ?_⟩
    obtain ⟨u, hu, hsame⟩ := sameFields_of_bareFields_eq fs gs hd.2 hrest f hf
    exact ⟨u, List.mem_cons_of_mem _ hu, hsame⟩
  | _ :: _, [], _, h => by cases h

end

theorem text?_of_same (h : v.same w = true) : v.text? = w.text? := by
  cases v with
  | string t o =>
    cases w with
    | string u p => exact congrArg some (eq_of_beq h)
    | array ys p => cases h
    | hash gs p => cases h
  | array xs o =>
    cases w with
    | string u p => cases h
    | array ys p => rfl
    | hash gs p => rfl
  | hash fs o =>
    cases w with
    | string u p => cases h
    | array ys p => rfl
    | hash gs p => rfl

/-- Equal arrays have the same texts at the same places. -/
theorem texts_of_sameItems (h : sameItems xs ys = true) : xs.map text? = ys.map text? := by
  induction xs generalizing ys with
  | nil =>
    cases ys with
    | nil => rfl
    | cons y ys => cases h
  | cons x xs ih =>
    cases ys with
    | nil => cases h
    | cons y ys =>
      rw [sameItems, Bool.and_eq_true] at h
      rw [List.map_cons, List.map_cons, text?_of_same h.1, ih h.2]

end Value

/-! ### Items in pairs -/

/-- The first of a list, the third, the fifth and so on. -/
def everyOther {α : Type} : List α → List α
  | x :: _ :: rest => x :: everyOther rest
  | rest => rest

theorem getElem?_everyOther {α : Type} (xs : List α) (i : Nat) : (everyOther xs)[i]? = xs[2 * i]? := by
  induction xs using everyOther.induct generalizing i with
  | case1 x y rest ih =>
    cases i with
    | zero => rfl
    | succ i => simpa [everyOther, Nat.mul_succ] using ih i
  | case2 rest hshort =>
    rcases rest with - | ⟨x, - | ⟨y, rest⟩⟩
    · simp [everyOther]
    · cases i with
      | zero => rfl
      | succ i => simp [everyOther, Nat.mul_succ]
    · exact absurd rfl (hshort x y rest)

/-- Whether items come in pairs, and the first ones are texts without repetitions. -/
def InPairs (items : List Value) : Prop :=
  items.length % 2 = 0 ∧ ∃ names : List String, everyOther (items.map Value.text?) = names.map some ∧ names.Nodup

theorem InPairs.of_texts {xs ys : List Value} (h : InPairs xs) (htexts : xs.map Value.text? = ys.map Value.text?) :
    InPairs ys := by
  have hlength : xs.length = ys.length := by simpa only [List.length_map] using congrArg List.length htexts
  rw [InPairs, htexts, hlength] at h
  exact h

namespace Method

variable {items : List Value} {fs : List (String × Value)} {names : List String}

theorem bareItems_flatten (fs : List (String × Value)) :
    Value.bareItems (flatten fs) = flatten (Value.bareFields fs) := by
  induction fs with
  | nil => rfl
  | cons f fs ih =>
    have hcons : Value.bareItems (flatten (f :: fs)) =
        Value.ofString f.1 :: f.2.bare :: Value.bareItems (flatten fs) := rfl
    rw [hcons, ih]
    rfl

/-- The names and values of a flat array are the fields that it is of, wherever it stands. -/
theorem bareFields_pairUp_flatten (o : Option String) (i : Nat) (fs : List (String × Value)) :
    Value.bareFields (pairUp (Value.rebaseItems o i (flatten fs))) = Value.bareFields fs := by
  induction fs generalizing i with
  | nil => rfl
  | cons f fs ih =>
    have hcons : pairUp (Value.rebaseItems o i (flatten (f :: fs))) =
        (f.1, f.2.rebase (some (itemOrigin o (i + 1)))) :: pairUp (Value.rebaseItems o (i + 2) (flatten fs)) := rfl
    rw [hcons, Value.bareFields, Value.bare_rebase, ih]
    rfl

/-- A flat array comes in pairs. -/
theorem inPairs_flatten (hnd : (fs.map (·.1)).Nodup) : InPairs (flatten fs) := by
  refine ⟨?_, fs.map (·.1), ?_, hnd⟩
  · induction fs with
    | nil => rfl
    | cons f fs ih =>
      have hcons : (flatten (f :: fs)).length = (flatten fs).length + 2 := rfl
      rw [hcons, Nat.add_mod_right, ih hnd.of_cons]
  · clear hnd
    induction fs with
    | nil => rfl
    | cons f fs ih =>
      have hcons : everyOther ((flatten (f :: fs)).map Value.text?) =
          some f.1 :: everyOther ((flatten fs).map Value.text?) := rfl
      rw [hcons, ih]
      rfl

/-- What comes in pairs is the flat array of these pairs. -/
theorem pairUp_of_inPairs (heven : items.length % 2 = 0)
    (hnames : everyOther (items.map Value.text?) = names.map some) :
    (pairUp items).map (·.1) = names ∧ Value.bareItems (flatten (pairUp items)) = Value.bareItems items := by
  induction items using pairUp.induct generalizing names with
  | case1 k v rest ih =>
    cases names with
    | nil => cases hnames
    | cons name names =>
      injection hnames with hname hrest
      cases k with
      | string t o =>
        have heven' : rest.length % 2 = 0 := by
          simp only [List.length_cons] at heven
          omega
        obtain ⟨hkeys, hitems⟩ := ih heven' hrest
        have ht : t = name := Option.some.inj hname
        subst ht
        refine ⟨congrArg (t :: ·) hkeys, ?_⟩
        exact congrArg (Value.string t none :: v.bare :: ·) hitems
      | array xs o => cases hname
      | hash fs o => cases hname
  | case2 rest hshort =>
    rcases rest with - | ⟨k, - | ⟨v, rest⟩⟩
    · cases names with
      | nil => exact ⟨rfl, rfl⟩
      | cons name names => cases hnames
    · cases heven
    · exact absurd rfl (hshort k v rest)

/-- Fields of distinct names are those of the hash that they are put in. -/
theorem bareFields_ofList (hnd : (fs.map (·.1)).Nodup) :
    Value.bareFields (Hash.ofList fs).fields = Value.bareFields fs := by
  have hput : (Hash.ofList fs).fields = fs.map fun f => (f.1, f.2.rebase (some (childOrigin none f.1))) := by
    rw [Hash.ofList, Hash.foldl_put_of_new hnd fun f _ => List.not_mem_nil]
    rfl
  simp only [hput, Value.bareFields_eq_map, List.map_map, Function.comp_def, Value.bare_rebase]

/-! ### The commands -/

variable {included : List Expression → Action Unit} {params : List String} {options options' : Options} {s : Session}
  {field : String} {o : Option String}

private theorem run_array_then_hash (hd : s.record.fields.toValue.Distinct) (hplain : Glob.isPattern field = false)
    (hfield : s.record.fields.get? field = some (.hash fs o)) :
    ∃ w, (array included (field :: params) options >>= fun _ => hash included (field :: params) options').run s =
      (.ok (), { s with record := s.record.put field w }) ∧ w.bare = (Value.hash fs o).bare := by
  have hfs : (fs.map (·.1)).Nodup := (Value.distinctFields_iff.1 hd.2 _ (Hash.mem_of_lookup hfield)).1
  let place := some (childOrigin s.record.fields.origin field)
  let pairs := pairUp (Value.rebaseItems place 1 (Value.rebaseItems none 1 (flatten fs)))
  have hpairs : Value.bareFields pairs = Value.bareFields fs := by
    rw [← bareFields_pairUp_flatten place 1 fs, ← Value.rebaseItems_rebaseItems place none 1 1 (flatten fs)]
  have hnames : pairs.map (·.1) = fs.map (·.1) := by
    simpa [Value.bareFields_eq_map, Function.comp_def] using congrArg (List.map (·.1)) hpairs
  have harray : array included (field :: params) options = changeValue field _ := need_param_bind _
  have hhash : hash included (field :: params) options' = changeValue field _ := need_param_bind _
  refine ⟨(Hash.ofList pairs).toValue, ?_, ?_⟩
  · rw [harray, hhash]
    exact run_changeValue_twice hd.1 hplain hfield rfl rfl
  have hfields : Value.bareFields (Hash.ofList pairs).fields = Value.bareFields fs := by
    rw [bareFields_ofList (hnames ▸ hfs), hpairs]
  exact congrArg (Value.hash · none) hfields

private theorem run_hash_then_array (hd : s.record.fields.toValue.Distinct) (hplain : Glob.isPattern field = false)
    (hfield : s.record.fields.get? field = some (.array items o)) :
    ∃ w, (hash included (field :: params) options >>= fun _ => array included (field :: params) options').run s =
      (.ok (), { s with record := s.record.put field w }) ∧ (InPairs items → w.bare = (Value.array items o).bare) ∧
        (w.same (.array items o) = true → InPairs items) := by
  let place := some (childOrigin s.record.fields.origin field)
  let fields := (Hash.ofList (pairUp items)).fields
  have hfields : (fields.map (·.1)).Nodup := Hash.nodup_keys_ofList _
  have hhash : hash included (field :: params) options = changeValue field _ := need_param_bind _
  have harray : array included (field :: params) options' = changeValue field _ := need_param_bind _
  refine ⟨Value.ofList (flatten (Value.rebaseFields place fields)), ?_, ?_, ?_⟩
  · rw [hhash, harray]
    exact run_changeValue_twice hd.1 hplain hfield rfl rfl
  · rintro ⟨heven, names, hnames, hnd⟩
    obtain ⟨hkeys, hpairs⟩ := pairUp_of_inPairs heven hnames
    have hback : Value.bareItems (flatten (Value.rebaseFields place fields)) = Value.bareItems items := by
      rw [bareItems_flatten, Value.bareFields_rebaseFields, bareFields_ofList (hkeys ▸ hnd), ← bareItems_flatten,
        hpairs]
    rw [Value.ofList, Value.bare, Value.bareItems_rebaseItems, hback, Value.bare]
  · intro hsame
    have htexts := Value.texts_of_sameItems hsame
    rw [Value.texts_rebaseItems] at htexts
    refine (inPairs_flatten ?_).of_texts htexts
    rw [Value.keys_rebaseFields]
    exact hfields

/-- A hash is made a flat array and comes back as it was, with its fields in their order. An array is made a hash and
comes back if and only if its items come in pairs and the first ones are texts without repetitions. The other fields
stay as they are. -/
theorem run_array_hash {v : Value} (hd : s.record.fields.toValue.Distinct) (hplain : Glob.isPattern field = false)
    (hfield : s.record.fields.get? field = some v) :
    let toArray := array included (field :: params)
    let toHash := hash included (field :: params)
    let holding (w : Value) : Session := { s with record := s.record.put field w }
    (∀ fields o, v = .hash fields o →
        ∃ w, (toArray options >>= fun _ => toHash options').run s = (.ok (), holding w) ∧
          w.bare = v.bare ∧ w.same v = true) ∧
      (∀ items o, v = .array items o →
        ∃ w, (toHash options >>= fun _ => toArray options').run s = (.ok (), holding w) ∧
          (w.same v = true ↔ InPairs items) ∧ (w.bare = v.bare ↔ InPairs items)) ∧
      ∀ w name, name ≠ field → (holding w).record.fields.get? name = s.record.fields.get? name := by
  intro toArray toHash holding
  have hv : v.Distinct := Value.distinctFields_iff.1 hd.2 _ (Hash.mem_of_lookup hfield)
  refine ⟨?_, ?_, fun w name hname => Hash.lookup_putEntry_of_ne hname⟩
  · rintro fields o rfl
    obtain ⟨w, hrun, hbare⟩ := run_array_then_hash hd hplain hfield
    exact ⟨w, hrun, hbare, Value.same_of_bare_eq w _ hv hbare⟩
  · rintro items o rfl
    obtain ⟨w, hrun, hpairs, hsame⟩ := run_hash_then_array hd hplain hfield
    have hback : w.bare = (Value.array items o).bare → w.same (.array items o) = true := Value.same_of_bare_eq w _ hv
    exact ⟨w, hrun, ⟨hsame, fun h => hback (hpairs h)⟩, ⟨fun h => hsame (hback h), hpairs⟩⟩

/-- Fields with an array in them come back; a name without a value does not, nor does a name that comes again. -/
theorem run_array_hash_odd :
    let fields := [("a", Value.ofString "1"), ("b", .array [.ofString "x"] none)]
    let items := [Value.ofString "a", .ofString "1", .ofString "a", .ofString "2", .ofString "b"]
    let s : Session := { record := .ofFields ⟨[("h", .hash fields none), ("l", .array items none)], none⟩ }
    let toArray := array (fun _ => pure ())
    let toHash := hash (fun _ => pure ())
    s.record.fields.toValue.Distinct ∧ Glob.isPattern "h" = false ∧ Glob.isPattern "l" = false ∧
      (∃ v w, s.record.fields.get? "h" = some v ∧
        (toArray ["h"] [] >>= fun _ => toHash ["h"] []).run s = (.ok (), { s with record := s.record.put "h" w }) ∧
        w.bare = v.bare ∧ w.same v = true) ∧
      ∃ v w, s.record.fields.get? "l" = some v ∧
        (toHash ["l"] [] >>= fun _ => toArray ["l"] []).run s = (.ok (), { s with record := s.record.put "l" w }) ∧
        w.same v = false := by
  intro fields items s toArray toHash
  have hd : s.record.fields.toValue.Distinct :=
    ⟨by decide, ⟨by decide, trivial, ⟨trivial, trivial⟩, trivial⟩, ⟨trivial, trivial, trivial, trivial, trivial, trivial⟩,
      trivial⟩
  have hodd : ¬ InPairs items := fun h => absurd h.1 (by decide)
  have hhash : Glob.isPattern "h" = false := by decide
  have harray : Glob.isPattern "l" = false := by decide
  refine ⟨hd, hhash, harray, ?_, ?_⟩
  · obtain ⟨w, hrun, hback⟩ := (run_array_hash hd hhash rfl).1 _ _ rfl
    exact ⟨_, w, rfl, hrun, hback⟩
  · obtain ⟨w, hrun, hsame, -⟩ := (run_array_hash hd harray rfl).2.1 _ _ rfl
    exact ⟨_, w, rfl, hrun, Bool.eq_false_iff.2 fun h => hodd (hsame.1 h)⟩

end Method

end RecordFix
