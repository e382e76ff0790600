import RecordFix.Pattern.Match
import RecordFix.Proofs.CharRanges

/-!
# What expressions stand for

`Regex.Spans` says between which places of a text an expression has a match, without regard to which match is
preferred. What is put together of several expressions spans what its parts span one after the other
(`Regex.spans_concat`), or what one of them does (`Regex.spans_choice`).
-/

namespace RecordFix.Pattern.Regex

open RecordFix.Text

variable {text : Array Char} {i j : Nat} {rs : List Regex}

/-- A relation between places, `n` times in a row. -/
def Times (step : Nat → Nat → Prop) : Nat → Nat → Nat → Prop
  | 0, i, j => i = j
  | n + 1, i, j => ∃ k, step i k ∧ Times step n k j

/-- The expression has a match from one place of a text to another. -/
def Spans (text : Array Char) : Regex → Nat → Nat → Prop
  | empty, i, j => i = j
  | one s, i, j => text[i]?.any s.contains = true ∧ i + 1 = j
  | look l, i, j => l.holds (before? text i) text[i]? = true ∧ i = j
  | seq a b, i, j => ∃ k, a.Spans text i k ∧ b.Spans text k j
  | alt a b, i, j => a.Spans text i j ∨ b.Spans text i j
  | iterate min max _ a, i, j => ∃ more, (∀ m, max = some m → more ≤ m - min) ∧ Times (a.Spans text) (min + more) i j
  | capture _ a, i, j => a.Spans text i j

theorem times_add {step : Nat → Nat → Prop} {m n : Nat} :
    Times step (m + n) i j ↔ ∃ k, Times step m i k ∧ Times step n k j := by
  induction m generalizing i with
  | zero => simp [Times]
  | succ m ih =>
    rw [Nat.succ_add]
    simp only [Times, ih]
    constructor
    · rintro ⟨k, hstep, l, hm, hn⟩
      exact ⟨l, ⟨k, hstep, hm⟩, hn⟩
    · rintro ⟨l, ⟨k, hstep, hm⟩, hn⟩
      exact ⟨k, hstep, l, hm, hn⟩

/-- A character, and what follows it, in a list from a place on. -/
theorem drop_eq_cons_iff {chars rest : List Char} {c : Char} :
    chars.drop i = c :: rest ↔ chars[i]? = some c ∧ chars.drop (i + 1) = rest := by
  rw [← List.head?_drop, ← List.tail_drop]
  cases chars.drop i with
  | nil => simp
  | cons d ds => simp

theorem spans_single {chars : List Char} {c : Char} :
    (one (Ranges.single c)).Spans chars.toArray i j ↔ chars[i]? = some c ∧ i + 1 = j := by
  rw [Spans, List.getElem?_toArray]
  refine and_congr_left fun _ => ?_
  cases chars[i]? with
  | none => simp
  | some d => simp only [Option.any_some, Ranges.contains_single, Option.some.injEq]

/-! ### Sequences -/

/-- The expressions have matches that follow each other from one place to another. -/
def SpansAll (text : Array Char) : List Regex → Nat → Nat → Prop
  | [], i, j => i = j
  | r :: rs, i, j => ∃ k, r.Spans text i k ∧ SpansAll text rs k j

private theorem spans_concatAll : (concatAll rs).Spans text i j ↔ SpansAll text rs i j := by
  induction rs generalizing i with
  | nil => rfl
  | cons r rs ih =>
    cases rs with
    | nil => simp [concatAll, SpansAll]
    | cons s rs => simp only [concatAll, Spans, ih, SpansAll]

private theorem eq_empty_of_isEmpty {r : Regex} (h : r.isEmpty = true) : r = empty := by
  cases r with
  | empty => rfl
  | _ => cases h

private theorem spansAll_filter : SpansAll text (rs.filter (!·.isEmpty)) i j ↔ SpansAll text rs i j := by
  induction rs generalizing i with
  | nil => rfl
  | cons r rs ih =>
    rw [List.filter_cons]
    split
    · simp only [SpansAll, ih]
    · rename_i hr
      have hempty : r = empty := eq_empty_of_isEmpty (by simpa using hr)
      simp only [hempty, SpansAll, Spans, exists_eq_left', ih]

theorem spans_concat : (concat rs).Spans text i j ↔ SpansAll text rs i j := by
  rw [concat, spans_concatAll, spansAll_filter]

/-! ### Alternatives -/

/-- An expression for a single character has a set that ascends. -/
def Ascending : Regex → Prop
  | one s => Ranges.Ascends s.bounds
  | _ => True

private theorem ascending_concatAll (h : ∀ r ∈ rs, r.Ascending) : (concatAll rs).Ascending := by
  cases rs with
  | nil => trivial
  | cons r rs =>
    cases rs with
    | nil => exact h r List.mem_cons_self
    | cons s rs => trivial

theorem ascending_concat (h : ∀ r ∈ rs, r.Ascending) : (concat rs).Ascending :=
  ascending_concatAll fun r hr => h r (List.mem_filter.1 hr).1

private theorem spans_choiceAll (hne : rs ≠ []) : (choiceAll rs).Spans text i j ↔ ∃ r ∈ rs, r.Spans text i j := by
  induction rs with
  | nil => exact absurd rfl hne
  | cons r rs ih =>
    cases rs with
    | nil => simp [choiceAll]
    | cons s rs =>
      rw [choiceAll, Spans, ih (List.cons_ne_nil _ _)]
      simp only [List.mem_cons, exists_eq_or_imp]
      exact List.cons_ne_nil _ _

private theorem eq_map_one {sets : List Ranges} (h : rs.mapM set? = some sets) : rs = sets.map one := by
  induction rs generalizing sets with
  | nil =>
    cases h
    rfl
  | cons r rs ih =>
    rw [List.mapM_cons, Option.bind_eq_bind, Option.bind_eq_some_iff] at h
    obtain ⟨s, hs, h⟩ := h
    rw [Option.bind_eq_bind, Option.bind_eq_some_iff] at h
    obtain ⟨ss, hss, h⟩ := h
    cases h
    cases r with
    | one t =>
      cases hs
      rw [ih hss, List.map_cons]
    | _ => cases hs

private theorem spans_one_unionAll {sets : List Ranges} (h : ∀ s ∈ sets, Ranges.Ascends s.bounds) :
    (one (Ranges.unionAll sets)).Spans text i j ↔ ∃ s ∈ sets, (one s).Spans text i j := by
  simp only [Spans]
  cases text[i]? with
  | none => simp
  | some c =>
    simp only [Option.any_some, Ranges.contains_unionAll h]
    constructor
    · rintro ⟨⟨s, hs, hc⟩, hj⟩
      exact ⟨s, hs, hc, hj⟩
    · rintro ⟨s, hs, hc, hj⟩
      exact ⟨⟨s, hs, hc⟩, hj⟩

theorem spans_choice (hne : rs ≠ []) (hsets : ∀ r ∈ rs, r.Ascending) :
    (choice rs).Spans text i j ↔ ∃ r ∈ rs, r.Spans text i j := by
  unfold choice
  split
  · rename_i s sets heq
    have hrs : rs = (s :: sets).map one := eq_map_one heq
    rw [spans_one_unionAll fun t ht => hsets (one t) (by rw [hrs]; exact List.mem_map_of_mem ht), hrs]
    constructor
    · rintro ⟨t, ht, hspans⟩
      exact ⟨one t, List.mem_map_of_mem ht, hspans⟩
    · rintro ⟨r, hr, hspans⟩
      obtain ⟨t, ht, rfl⟩ := List.mem_map.1 hr
      exact ⟨t, ht, hspans⟩
  · exact spans_choiceAll hne

end RecordFix.Pattern.Regex
