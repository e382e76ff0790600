import RecordFix.Fix.Variables

/-!
# Placeholders in a text

A text is made of literal parts and of placeholders between them. Literal parts go through the scan as they are, also if
they end in a dollar sign or hold brackets (`Variables.pieces_literal`), and a placeholder is found whole
(`Variables.pieces_placeholder`). So all placeholders are replaced at once, by values that are not looked at again, and
the first one without a value is the error (`Variables.resolve_template`).
-/

namespace RecordFix.Variables

/-- Whether no placeholder begins in a text. -/
def IsLiteral (text : String) : Prop := ¬ ['$', '['] <:+: text.toList

instance : DecidablePred IsLiteral := fun _ => inferInstanceAs (Decidable (¬ _))

/-- Whether a text can be the name in a placeholder. -/
def IsName (text : String) : Prop := text ≠ "" ∧ ']' ∉ text.toList

instance : DecidablePred IsName := fun _ => inferInstanceAs (Decidable (_ ∧ _))

/-- A text with placeholders: what stands before the first one, and the name in each and what stands behind it. -/
def template (first : String) (rest : List (String × String)) : String :=
  first ++ String.join (rest.map fun p => "$[" ++ p.1 ++ "]" ++ p.2)

/-- The text with values in the place of the placeholders. -/
def filled (value : String → String) (first : String) (rest : List (String × String)) : String :=
  first ++ String.join (rest.map fun p => value p.1 ++ p.2)

variable {vars : List (String × String)} {c : Char} {cs l tail name : List Char} {ps : List Piece}

/-! ### Scanning -/

theorem pieces_none_cons (h : ¬ (c = '$' ∧ cs.head? = some '[')) :
    pieces none (c :: cs) = consChar c (pieces none cs) := by
  rw [pieces]
  rintro cs rfl rfl
  exact h ⟨rfl, rfl⟩

/-- A literal part goes through the scan, unless a placeholder begins with its last character. -/
theorem pieces_literal (hl : ¬ ['$', '['] <:+: l) (tail : List Char) (htail : tail.head? ≠ some '[') :
    pieces none (l ++ tail) = l.foldr consChar (pieces none tail) := by
  induction l with
  | nil => rfl
  | cons c l ih =>
    rw [List.infix_cons_iff, not_or] at hl
    rw [List.cons_append, List.foldr_cons, ← ih hl.2]
    refine pieces_none_cons fun ⟨hc, hhead⟩ => ?_
    cases l with
    | nil => exact htail hhead
    | cons d l =>
      obtain rfl : d = '[' := Option.some.inj hhead
      exact hl.1 (by simp [hc])

/-- A name is read up to the bracket that closes it. -/
theorem pieces_name (hname : ']' ∉ name) {read : List Char} (hne : read ≠ [] ∨ name ≠ []) (tail : List Char) :
    pieces (some read) (name ++ ']' :: tail) = .placeholder (read.reverse ++ name) :: pieces none tail := by
  induction name generalizing read with
  | nil =>
    cases read with
    | nil => exact absurd rfl (hne.resolve_right (not_not_intro rfl))
    | cons d read => simp [pieces]
  | cons c name ih =>
    rw [List.mem_cons, not_or] at hname
    have hstep : pieces (some read) (c :: (name ++ ']' :: tail)) = pieces (some (c :: read)) (name ++ ']' :: tail) := by
      rw [pieces]
      · exact fun hc _ => hname.1 hc.symm
      · exact fun hc => hname.1 hc.symm
    rw [List.cons_append, hstep, ih hname.2 (Or.inl (List.cons_ne_nil _ _))]
    simp

theorem pieces_placeholder (hne : name ≠ []) (hname : ']' ∉ name) (tail : List Char) :
    pieces none ('$' :: '[' :: (name ++ ']' :: tail)) = .placeholder name :: pieces none tail := by
  have hopen : pieces none ('$' :: '[' :: (name ++ ']' :: tail)) = pieces (some []) (name ++ ']' :: tail) := rfl
  rw [hopen, pieces_name hname (Or.inr hne)]
  rfl

/-! ### Filling -/

theorem fill_consChar (vars : List (String × String)) (c : Char) (ps : List Piece) :
    fill vars (consChar c ps) = (fill vars ps).map (c :: ·) := by
  rcases ps with - | ⟨s | name, ps⟩
  · rfl
  · show (fill vars ps).bind _ = ((fill vars ps).bind _).map _
    cases fill vars ps <;> rfl
  · show (fill vars (.placeholder name :: ps)).bind _ = _
    cases fill vars (.placeholder name :: ps) <;> rfl

theorem fill_foldr_consChar (vars : List (String × String)) (l : List Char) (ps : List Piece) :
    fill vars (l.foldr consChar ps) = (fill vars ps).map (l ++ ·) := by
  induction l with
  | nil => cases h : fill vars ps <;> simp [h, Except.map]
  | cons c l ih =>
    rw [List.foldr_cons, fill_consChar, ih]
    cases fill vars ps <;> rfl

/-- A literal part stays, and the placeholder behind it is replaced by the value of its name or is the error. -/
theorem fill_placeholder (hl : ¬ ['$', '['] <:+: l) (hne : name ≠ []) (hname : ']' ∉ name) (tail : List Char) :
    fill vars (pieces none (l ++ '$' :: '[' :: (name ++ ']' :: tail))) =
      match vars.lookup (String.ofList name) with
      | some value => (fill vars (pieces none tail)).map (l ++ value.toList ++ ·)
      | none => .error (.unresolvedVariable (String.ofList name)) := by
  rw [pieces_literal hl _ (by simp), fill_foldr_consChar, pieces_placeholder hne hname, fill]
  cases vars.lookup (String.ofList name) with
  | none => rfl
  | some value =>
    dsimp only
    cases fill vars (pieces none tail) with
    | error e => rfl
    | ok filled => exact congrArg Except.ok (List.append_assoc l value.toList filled).symm

/-- A text without placeholders stays as it is. -/
theorem fill_literal (hl : ¬ ['$', '['] <:+: l) : fill vars (pieces none l) = .ok l := by
  have hpieces := pieces_literal hl [] (by simp)
  rw [List.append_nil] at hpieces
  rw [hpieces, fill_foldr_consChar]
  simp [pieces, fill, Except.map]

/-! ### Templates -/

section

variable {first : String} {rest : List (String × String)} {value : String → String}

/-- The first placeholder of a template, and the template behind it. -/
theorem toList_template_cons (first : String) (p : String × String) (rest : List (String × String)) :
    (template first (p :: rest)).toList =
      first.toList ++ '$' :: '[' :: (p.1.toList ++ ']' :: (template p.2 rest).toList) := by
  simp [template, String.join_cons]

theorem resolve_literal (vars : List (String × String)) (h : IsLiteral first) : resolve vars first = .ok first := by
  rw [resolve, fill_literal h]
  exact congrArg Except.ok (String.ofList_toList)

theorem resolve_template_cons (hfirst : IsLiteral first) {p : String × String} (hname : IsName p.1)
    (rest : List (String × String)) :
    resolve vars (template first (p :: rest)) =
      match vars.lookup p.1 with
      | some value => (resolve vars (template p.2 rest)).map (first ++ value ++ ·)
      | none => .error (.unresolvedVariable p.1) := by
  have hne : p.1.toList ≠ [] := by simpa using hname.1
  rw [resolve, toList_template_cons, fill_placeholder hfirst hne hname.2, String.ofList_toList, resolve]
  cases vars.lookup p.1 with
  | none => rfl
  | some value =>
    dsimp only
    cases fill vars (pieces none (template p.2 rest).toList) with
    | error e => rfl
    | ok filled =>
      refine congrArg Except.ok ?_
      simp [String.ext_iff]

/-- If all names in the placeholders of a text have values, these are put in their places as they are, whatever they
look like. Otherwise the first name that has none is the error. -/
theorem resolve_template (vars : List (String × String)) (hfirst : IsLiteral first)
    (hrest : ∀ p ∈ rest, IsName p.1 ∧ IsLiteral p.2) :
    (∀ value : String → String, (∀ p ∈ rest, vars.lookup p.1 = some (value p.1)) →
      resolve vars (template first rest) = .ok (filled value first rest)) ∧
    ∀ before name text after, rest = before ++ (name, text) :: after →
      (∀ p ∈ before, (vars.lookup p.1).isSome) → vars.lookup name = none →
      resolve vars (template first rest) = .error (.unresolvedVariable name) := by
  induction rest generalizing first with
  | nil =>
    refine ⟨fun value _ => ?_, fun before name text after h => by simp at h⟩
    simpa [template, filled] using resolve_literal vars hfirst
  | cons p rest ih =>
    rw [List.forall_mem_cons] at hrest
    obtain ⟨hok, herror⟩ := ih hrest.1.2 hrest.2
    rw [resolve_template_cons hfirst hrest.1.1]
    constructor
    · intro value hvalues
      rw [List.forall_mem_cons] at hvalues
      rw [hvalues.1, hok value hvalues.2]
      refine congrArg Except.ok ?_
      simp [filled, String.join_cons, String.append_assoc]
    · rintro (- | ⟨q, before⟩) name text after hsplit hbefore hnone
      · obtain ⟨rfl, -⟩ := List.cons.inj hsplit
        rw [hnone]
      · obtain ⟨rfl, hbehind⟩ := List.cons.inj hsplit
        rw [List.forall_mem_cons] at hbefore
        obtain ⟨v, hv⟩ := Option.isSome_iff_exists.1 hbefore.1
        rw [hv, herror before name text after hbehind hbefore.2 hnone]
        rfl

/-- A dollar sign in front of a placeholder, a name that holds the two characters, placeholders side by side, and a
value that looks like one. -/
theorem resolve_template_nested :
    let vars := [("a", "$[b]"), ("$[b", "é")]
    IsLiteral "x$" ∧ (∀ p ∈ [("a", ""), ("$[b", "]$"), ("c", "[d]")], IsName p.1 ∧ IsLiteral p.2) ∧
      resolve vars "x$$[a]$[$[b]]$" = .ok "x$$[b]é]$" ∧
      resolve vars "x$$[a]$[$[b]]$$[c][d]" = .error (.unresolvedVariable "c") := by
  intro vars
  have hrest : ∀ p ∈ [("a", ""), ("$[b", "]$"), ("c", "[d]")], IsName p.1 ∧ IsLiteral p.2 := by decide
  have hdefined : ∀ p ∈ [("a", ""), ("$[b", "]$")], IsName p.1 ∧ IsLiteral p.2 := by decide
  have hfirst : IsLiteral "x$" := by decide
  refine ⟨hfirst, hrest, ?_, ?_⟩
  · exact (resolve_template vars hfirst hdefined).1 (fun name => (vars.lookup name).getD "") (by decide)
  · exact (resolve_template vars hfirst hrest).2 [("a", ""), ("$[b", "]$")] "c" "[d]" [] rfl (by decide) (by decide)

end

end RecordFix.Variables
