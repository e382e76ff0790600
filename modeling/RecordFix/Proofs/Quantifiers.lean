import RecordFix.Proofs.Pieces
import RecordFix.Proofs.Running

/-!
# Quantifiers over several fields

A conditional of a list of fields looks at the items of all that are there, as one list (`fieldValues_eq`,
`any_items_merge`): scalars stand in it once, lists with their items, and nothing stands for a field that is absent. So
*any* and *none* of several fields come down to the single fields, and so does *all*, which in addition asks that one of
the fields is there (`holds_joined`).
-/

namespace RecordFix

open RecordFix.Text

namespace Record

/-- The value of a field; none also where the lookup fails. -/
def found (r : Record) (field : String) : Option Value := (r.get field).toOption.join

theorem get_eq_found {r : Record} {field : String} (h : ∃ v, r.get field = .ok v) :
    r.get field = .ok (r.found field) := by
  obtain ⟨v, hv⟩ := h
  rw [found, hv]
  rfl

theorem contains_eq_found {r : Record} {field : String} (h : ∃ v, r.get field = .ok v) :
    r.contains field = .ok (r.found field).isSome := by
  rw [contains, get_eq_found h]
  rfl

end Record

namespace Conditional

/-! ### Values as one list -/

/-- The items of a value that may be absent. -/
def items (found : Option Value) : List Value := (found.map Value.toList).getD []

/-- Only texts pass a test. -/
def passes (test : String → Bool) (v : Value) : Bool := v.text?.any test

variable {test : String → Bool}

theorem passes_rebase (o : Option String) (v : Value) : passes test (v.rebase o) = passes test v := by
  cases v <;> rfl

theorem map_passes_rebaseItems (o : Option String) (i : Nat) (vs : List Value) :
    (Value.rebaseItems o i vs).map (passes test) = vs.map (passes test) := by
  induction vs generalizing i with
  | nil => rfl
  | cons v vs ih => rw [Value.rebaseItems, List.map_cons, List.map_cons, passes_rebase, ih]

/-- What the items of a merged value are to a test are the items of the single values. -/
theorem map_passes_items_merge (test : String → Bool) (vs : List Value) :
    (items (Value.merge vs)).map (passes test) = (vs.flatMap Value.toList).map (passes test) := by
  match vs with
  | [] => rfl
  | [v] => rw [List.flatMap_singleton]; rfl
  | v :: w :: vs => exact map_passes_rebaseItems none 1 _

theorem any_items_merge (vs : List Value) :
    (items (Value.merge vs)).any (passes test) = vs.any fun v => v.toList.any (passes test) := by
  have h := congrArg (List.any · id) (map_passes_items_merge test vs)
  simpa only [List.any_map, Function.id_comp, List.any_flatMap] using h

theorem all_items_merge (vs : List Value) :
    (items (Value.merge vs)).all (passes test) = vs.all fun v => v.toList.all (passes test) := by
  have h := congrArg (List.all · id) (map_passes_items_merge test vs)
  simpa only [List.all_map, Function.id_comp, List.all_flatMap] using h

theorem isSome_merge (vs : List Value) : (Value.merge vs).isSome = !vs.isEmpty := by
  match vs with
  | [] | [_] | _ :: _ :: _ => rfl

/-! ### Fields -/

/-- A name as it stands in a list of fields: without blanks around it and without a comma. -/
def IsFieldName (f : String) : Prop := trim f = f ∧ f ≠ "" ∧ ',' ∉ f.toList

instance : DecidablePred IsFieldName := fun _ => inferInstanceAs (Decidable (_ ∧ _))

/-- Fields joined by commas. -/
def joined (fs : List String) : String := ",".intercalate fs

theorem fieldNames_joined {fs : List String} (h : ∀ f ∈ fs, IsFieldName f) : fieldNames (joined fs) = fs := by
  by_cases hne : fs = []
  · subst hne
    decide
  · have hsplit : Path.splitText ',' (joined fs) = fs := Path.splitText_intercalate hne fun f hf => (h f hf).2.2
    have htrim : fs.map trim = fs := by
      rw [List.map_congr_left fun f hf => (h f hf).1, List.map_id']
    rw [fieldNames, hsplit, htrim, List.filter_eq_self]
    intro f hf
    simpa using (h f hf).2.1

variable {r : Record} {fields : String} {fs : List String}

/-- The fields that are there are merged, in order. -/
theorem fieldValues_eq (hfields : fieldNames fields = fs) (hget : ∀ f ∈ fs, ∃ v, r.get f = .ok v) :
    fieldValues r fields = .ok (Value.merge (fs.filterMap r.found)) := by
  rw [fieldValues, hfields, mapM_eq_ok (g := r.found)]
  · show Except.ok (Value.merge ((fs.map r.found).filterMap id)) = _
    rw [List.filterMap_map, Function.id_comp]
  · intro f hf
    rw [Record.get_eq_found (hget f hf)]

/-- Whether a value of one of the fields has an item that passes. -/
def anyPasses (test : String → Bool) (r : Record) (fs : List String) : Bool :=
  (fs.filterMap r.found).any fun v => v.toList.any (passes test)

/-- Whether one of the fields is there, and all items of those that are pass. -/
def allPass (test : String → Bool) (r : Record) (fs : List String) : Bool :=
  !(fs.filterMap r.found).isEmpty && (fs.filterMap r.found).all fun v => v.toList.all (passes test)

theorem quantify_any (hfields : fieldNames fields = fs) (hget : ∀ f ∈ fs, ∃ v, r.get f = .ok v) :
    quantify .any r fields test = .ok (anyPasses test r fs) := by
  rw [anyPasses, ← any_items_merge, quantify, fieldValues_eq hfields hget]
  cases Value.merge (fs.filterMap r.found) <;> rfl

theorem quantify_all (hfields : fieldNames fields = fs) (hget : ∀ f ∈ fs, ∃ v, r.get f = .ok v) :
    quantify .all r fields test = .ok (allPass test r fs) := by
  rw [allPass, ← all_items_merge, ← isSome_merge, quantify, fieldValues_eq hfields hget]
  cases Value.merge (fs.filterMap r.found) <;> rfl

/-- An item of one of the fields passes. -/
theorem anyPasses_iff : anyPasses test r fs = true ↔ ∃ f ∈ fs, anyPasses test r [f] = true := by
  simp only [anyPasses, List.any_eq_true, List.mem_filterMap, List.mem_singleton, exists_eq_left]
  constructor
  · rintro ⟨v, ⟨f, hf, hv⟩, hpass⟩
    exact ⟨f, hf, v, hv, hpass⟩
  · rintro ⟨f, hf, v, hv, hpass⟩
    exact ⟨v, ⟨f, hf, hv⟩, hpass⟩

/-- One of the fields is there, and the items of each that is there pass. -/
theorem allPass_iff : allPass test r fs = true ↔
    (∃ f ∈ fs, (r.found f).isSome) ∧ ∀ f ∈ fs, (r.found f).isSome → allPass test r [f] = true := by
  have hnonempty : ∀ gs : List String, (!(gs.filterMap r.found).isEmpty) = true ↔ ∃ f ∈ gs, (r.found f).isSome := by
    intro gs
    simp [Option.isSome_iff_ne_none]
  simp only [allPass, Bool.and_eq_true, hnonempty, List.mem_singleton, exists_eq_left, List.all_eq_true,
    List.mem_filterMap]
  constructor
  · rintro ⟨hthere, hpass⟩
    exact ⟨hthere, fun f hf hsome => ⟨hsome, fun v hv => hpass v ⟨f, hf, hv⟩⟩⟩
  · rintro ⟨hthere, hpass⟩
    refine ⟨hthere, ?_⟩
    rintro v ⟨f, hf, hv⟩
    exact (hpass f hf (by rw [hv]; rfl)).2 v hv

/-! ### Conditionals by name -/

/-- What texts are tested for. -/
inductive Probe where
  | contain
  | equal
  | wholeMatch

namespace Probe

def label : Probe → String
  | contain => "contain"
  | equal => "equal"
  | wholeMatch => "match"

/-- The test against a target, which for a match has to be a pattern. -/
def test? (target : String) : Probe → Except FixError (String → Bool)
  | contain => .ok (containsText target)
  | equal => .ok fun text => target == text
  | wholeMatch => (compileWhole target).map Pattern.isMatch

theorem exists_test {p : Probe} {t : String}
    (h : p = .wholeMatch → (Pattern.parseWhole? t).isSome) : ∃ test, p.test? t = .ok test := by
  cases p with
  | contain | equal => exact ⟨_, rfl⟩
  | wholeMatch =>
    obtain ⟨pattern, hpattern⟩ := Option.isSome_iff_exists.1 (h rfl)
    refine ⟨pattern.isMatch, ?_⟩
    rw [test?, compileWhole, hpattern]
    rfl

end Probe

/-- What the built-in conditional of a name says about fields and a target. -/
def outcome (name : String) (r : Record) (fields t : String) : Except FixError Bool := do
  (← findCommand .conditional Registry.builtin.conditionals name) r [fields, t] []

def Holds (name : String) (r : Record) (fields t : String) : Prop := outcome name r fields t = .ok true

variable {p : Probe} {t : String}

theorem outcome_of_lookup {name : String} {c : Conditional} (h : Conditional.all.lookup name = some c) :
    outcome name r fields t = c r [fields, t] [] := by
  have hfind : findCommand .conditional Registry.builtin.conditionals name = .ok c := by
    show findCommand .conditional Conditional.all name = .ok c
    rw [findCommand, h]
  rw [outcome, hfind]
  rfl

namespace Probe

/-- The conditional that puts a test under a quantifier. -/
def conditional (command : String) (q : Quantifier) : Probe → Conditional
  | contain => compareTexts command q containsText
  | equal => compareTexts command q (· == ·)
  | wholeMatch => matchTexts command q

theorem conditional_eq (h : p.test? t = .ok test) (command : String) (q : Quantifier) :
    p.conditional command q r [fields, t] [] = quantify q r fields test := by
  cases p with
  | contain | equal =>
    cases h
    rfl
  | wholeMatch =>
    rw [test?] at h
    cases hc : compileWhole t with
    | error e =>
      rw [hc] at h
      cases h
    | ok pattern =>
      rw [hc] at h
      cases h
      show (compileWhole t >>= fun pattern => quantify q r fields pattern.isMatch) = _
      rw [hc]
      rfl

end Probe

/-- The conditionals of a test run it under their quantifier. -/
theorem outcome_eq (h : p.test? t = .ok test) :
    outcome ("any_" ++ p.label) r fields t = quantify .any r fields test ∧
      outcome ("all_" ++ p.label) r fields t = quantify .all r fields test ∧
      outcome ("none_" ++ p.label) r fields t = (quantify .any r fields test).map (!·) := by
  have hlookup :
      Conditional.all.lookup ("any_" ++ p.label) = some (p.conditional ("any_" ++ p.label) .any) ∧
      Conditional.all.lookup ("all_" ++ p.label) = some (p.conditional ("all_" ++ p.label) .all) ∧
      Conditional.all.lookup ("none_" ++ p.label) =
        some (negate (p.conditional ("none_" ++ p.label) .any)) := by
    cases p <;> exact ⟨rfl, rfl, rfl⟩
  obtain ⟨hany, hall, hnone⟩ := hlookup
  rw [outcome_of_lookup hany, outcome_of_lookup hall, outcome_of_lookup hnone]
  refine ⟨Probe.conditional_eq h _ _, Probe.conditional_eq h _ _, ?_⟩
  rw [negate, Probe.conditional_eq h]
  rfl

/-- The conditionals of a test do not fail where the lookups of the fields do not. -/
theorem outcome_eq_ok (htest : p.test? t = .ok test) (hfields : fieldNames fields = fs)
    (hget : ∀ f ∈ fs, ∃ v, r.get f = .ok v) :
    outcome ("any_" ++ p.label) r fields t = .ok (anyPasses test r fs) ∧
      outcome ("all_" ++ p.label) r fields t = .ok (allPass test r fs) ∧
      outcome ("none_" ++ p.label) r fields t = .ok (!anyPasses test r fs) := by
  refine ⟨?_, ?_, ?_⟩
  · rw [(outcome_eq htest).1, quantify_any hfields hget]
  · rw [(outcome_eq htest).2.1, quantify_all hfields hget]
  · rw [(outcome_eq htest).2.2, quantify_any hfields hget]
    rfl

/-- The quantifiers distribute over fields that are joined by commas, where the lookups of the fields do not fail and
the pattern of a match is one. -/
theorem holds_joined (hvalid : p = .wholeMatch → (Pattern.parseWhole? t).isSome)
    (hnames : ∀ f ∈ fs, IsFieldName f) (hget : ∀ f ∈ fs, ∃ v, r.get f = .ok v) :
    (Holds ("any_" ++ p.label) r (joined fs) t ↔
        ∃ f ∈ fs, Holds ("any_" ++ p.label) r f t) ∧
      (Holds ("all_" ++ p.label) r (joined fs) t ↔
        (∃ f ∈ fs, r.contains f = .ok true) ∧
          ∀ f ∈ fs, r.contains f = .ok true → Holds ("all_" ++ p.label) r f t) ∧
      (Holds ("none_" ++ p.label) r (joined fs) t ↔
        ∀ f ∈ fs, Holds ("none_" ++ p.label) r f t) ∧
      ∀ quantifier ∈ ["any_", "all_", "none_"],
        ∃ b, outcome (quantifier ++ p.label) r (joined fs) t = .ok b := by
  obtain ⟨test, htest⟩ := Probe.exists_test hvalid
  have hfields : fieldNames (joined fs) = fs := fieldNames_joined hnames
  obtain ⟨hany, hall, hnone⟩ := outcome_eq_ok htest hfields hget
  -- a single field is a list of one
  have hsingle : ∀ f ∈ fs, fieldNames f = [f] := by
    intro f hf
    have h : fieldNames (joined [f]) = [f] := fieldNames_joined (by simpa using hnames f hf)
    rwa [joined, String.intercalate_singleton] at h
  have hone := fun f (hf : f ∈ fs) => outcome_eq_ok htest (hsingle f hf) (by simpa using hget f hf)
  have hthere : ∀ f ∈ fs, (r.contains f = .ok true ↔ (r.found f).isSome) := by
    intro f hf
    rw [Record.contains_eq_found (hget f hf), Except.ok.injEq]
  refine ⟨?_, ?_, ?_, ?_⟩
  · rw [Holds, hany, Except.ok.injEq, anyPasses_iff]
    refine exists_congr fun f => and_congr_right fun hf => ?_
    rw [Holds, (hone f hf).1, Except.ok.injEq]
  · rw [Holds, hall, Except.ok.injEq, allPass_iff]
    refine and_congr (exists_congr fun f => and_congr_right fun hf => (hthere f hf).symm) ?_
    refine forall₂_congr fun f hf => ?_
    rw [hthere f hf, Holds, (hone f hf).2.1, Except.ok.injEq]
  · rw [Holds, hnone, Except.ok.injEq, Bool.not_eq_true', ← Bool.not_eq_true, anyPasses_iff]
    simp only [not_exists, not_and]
    refine forall₂_congr fun f hf => ?_
    rw [Holds, (hone f hf).2.2, Except.ok.injEq, Bool.not_eq_true', Bool.not_eq_true]
  · intro quantifier hq
    simp only [List.mem_cons, List.not_mem_nil, or_false] at hq
    rcases hq with rfl | rfl | rfl
    · exact ⟨_, hany⟩
    · exact ⟨_, hall⟩
    · exact ⟨_, hnone⟩

/-- A record with a text and with a list that holds a list. -/
def tagged : Record :=
  Record.ofFields (Hash.ofList [("title", .ofString "x"), ("tags", .ofList [.ofString "x", .ofList [.ofString "x"]])])

/-- Three fields are looked at as one after the other. The first field matches and is equal to the target, but the
nested list of the second is no text. -/
theorem holds_joined_tagged :
    (Pattern.parseWhole? "x+").isSome ∧
      (∀ f ∈ ["title", "tags", "place"], IsFieldName f) ∧
      (∀ f ∈ ["title", "tags", "place"], ∃ v, tagged.get f = .ok v) ∧
      Holds "any_match" tagged "title,tags,place" "x+" ∧
      Holds "any_equal" tagged "title,tags,place" "x" ∧ ¬ Holds "all_equal" tagged "title,tags,place" "x" := by
  have hpattern : (Pattern.parseWhole? "x+").isSome := by decide +kernel
  have hnames : ∀ f ∈ ["title", "tags", "place"], IsFieldName f := by
    decide +kernel
  have hget : ∀ f ∈ ["title", "tags", "place"], ∃ v, tagged.get f = .ok v := by
    simp only [List.forall_mem_cons]
    exact ⟨⟨_, rfl⟩, ⟨_, rfl⟩, ⟨_, rfl⟩, nofun⟩
  have hmatch := holds_joined (p := .wholeMatch) (t := "x+") (fun _ => hpattern) hnames hget
  have hequal := holds_joined (p := .equal) (t := "x") nofun hnames hget
  have htitle : outcome "any_match" tagged "title" "x+" = .ok true := by rfl
  refine ⟨hpattern, hnames, hget, hmatch.1.2 ⟨"title", List.mem_cons_self, htitle⟩,
    hequal.1.2 ⟨"title", List.mem_cons_self, rfl⟩, ?_⟩
  intro hall
  have htags : outcome "all_equal" tagged "tags" "x" = .ok true :=
    (hequal.2.1.1 hall).2 "tags" (List.mem_cons_of_mem _ List.mem_cons_self) rfl
  exact absurd (Except.ok.inj htags) Bool.false_ne_true

end Conditional

end RecordFix
