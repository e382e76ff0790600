import RecordFix.Proofs.GlobReading
import RecordFix.Proofs.Matchers
import RecordFix.Proofs.PathText
import RecordFix.Proofs.Searching

/-!
# What globs stand for

The pattern that a glob without classes is translated to spans a name from its beginning to its end exactly if one of
the alternatives of the glob stands for the name (`Glob.exists_spans_whole`): `*` for any characters, `?` for one, and
every other character for itself, whatever it means in a pattern (`Glob.StandsFor`). A name without such signs is
compared as it is, which comes to the same, and a matcher gives the same answer in every state
(`Matcher.matchesName_iff`).
-/

namespace RecordFix

open RecordFix.Text RecordFix.Pattern

namespace Glob

variable {c : Char} {cs name : List Char} {text : Array Char} {i j k n : Nat}

/-- What an alternative of a glob stands for: `*` for any characters, `?` for one character, and every other character
for itself. -/
def StandsFor : List Char → List Char → Prop
  | [], name => name = []
  | '*' :: cs, name => ∃ skipped rest, name = skipped ++ rest ∧ StandsFor cs rest
  | '?' :: cs, name => ∃ c rest, name = c :: rest ∧ StandsFor cs rest
  | c :: cs, name => ∃ rest, name = c :: rest ∧ StandsFor cs rest

theorem standsFor_char (hstar : c ≠ '*') (hquestion : c ≠ '?') :
    StandsFor (c :: cs) name ↔ ∃ rest, name = c :: rest ∧ StandsFor cs rest := by
  rw [StandsFor]
  · exact hstar
  · exact hquestion

/-! ### The pattern of an alternative -/

theorem spans_anyCharacter (hline : '\n' ∉ name) :
    anyCharacter.Spans name.toArray i k ↔ i < name.length ∧ i + 1 = k := by
  rw [anyCharacter, Regex.Spans, List.getElem?_toArray]
  refine and_congr_left fun _ => ?_
  cases hi : name[i]? with
  | none => simpa using List.getElem?_eq_none_iff.1 hi
  | some c =>
    obtain ⟨hlt, hc⟩ := List.getElem?_eq_some_iff.1 hi
    have hne : c ≠ '\n' := fun h => hline (by rw [← h, ← hc]; exact List.getElem_mem hlt)
    simp only [Option.any_some, Ranges.contains_compl_single, hne, hlt, ne_eq, not_false_eq_true]

theorem times_anyCharacter (hline : '\n' ∉ name) (hi : i ≤ name.length) :
    Regex.Times (anyCharacter.Spans name.toArray) n i k ↔ i + n = k ∧ k ≤ name.length := by
  induction n generalizing i with
  | zero =>
    rw [Regex.Times]
    omega
  | succ n ih =>
    simp only [Regex.Times, spans_anyCharacter hline]
    constructor
    · rintro ⟨l, ⟨hlt, rfl⟩, htimes⟩
      have := (ih (by omega)).1 htimes
      omega
    · rintro ⟨rfl, hle⟩
      exact ⟨i + 1, ⟨by omega, rfl⟩, (ih (by omega)).2 (by omega)⟩

theorem spans_star (hline : '\n' ∉ name) (hi : i ≤ name.length) :
    (part '*').regex.Spans name.toArray i k ↔ i ≤ k ∧ k ≤ name.length := by
  simp only [part, Regex.Spans, reduceCtorEq, false_implies, implies_true, true_and, Nat.zero_add,
    times_anyCharacter hline hi]
  constructor
  · rintro ⟨n, rfl, hle⟩
    exact ⟨Nat.le_add_right i n, hle⟩
  · rintro ⟨hik, hle⟩
    exact ⟨k - i, by omega, hle⟩

theorem spans_char (hstar : c ≠ '*') (hquestion : c ≠ '?') :
    (part c).regex.Spans name.toArray i k ↔ name[i]? = some c ∧ i + 1 = k := by
  rw [part, Regex.spans_single]
  · exact hstar
  · exact hquestion

private theorem exists_spansAll_cons {r : Regex} {rs : List Regex} :
    (∃ j, n ≤ j ∧ Regex.SpansAll text (r :: rs) i j) ↔
      ∃ k, r.Spans text i k ∧ ∃ j, n ≤ j ∧ Regex.SpansAll text rs k j := by
  constructor
  · rintro ⟨j, hj, k, hk, hrest⟩
    exact ⟨k, hk, j, hj, hrest⟩
  · rintro ⟨k, hk, j, hj, hrest⟩
    exact ⟨j, hj, k, hk, hrest⟩

/-- The pattern of an alternative leads from a place to the end of a name if the alternative stands for what follows
the place. -/
theorem spansAll_part (hline : '\n' ∉ name) (hi : i ≤ name.length) :
    (∃ j, name.length ≤ j ∧ Regex.SpansAll name.toArray (cs.map fun c => (part c).regex) i j) ↔
      StandsFor cs (name.drop i) := by
  induction cs generalizing i with
  | nil => simp [Regex.SpansAll, StandsFor]
  | cons c cs ih =>
    rw [List.map_cons, exists_spansAll_cons]
    by_cases hstar : c = '*'
    · subst hstar
      simp only [spans_star hline hi, StandsFor]
      constructor
      · rintro ⟨k, ⟨hik, hk⟩, hrest⟩
        have hdrop : (name.drop i).drop (k - i) = name.drop k := by rw [List.drop_drop, Nat.add_sub_cancel' hik]
        exact ⟨(name.drop i).take (k - i), name.drop k, by rw [← hdrop, List.take_append_drop], (ih hk).1 hrest⟩
      · rintro ⟨skipped, rest, hname, hrest⟩
        have hlength := congrArg List.length hname
        rw [List.length_drop, List.length_append] at hlength
        have hdrop : name.drop (i + skipped.length) = rest := by rw [← List.drop_drop, hname, List.drop_left]
        exact ⟨i + skipped.length, ⟨by omega, by omega⟩, (ih (by omega)).2 (hdrop ▸ hrest)⟩
    by_cases hquestion : c = '?'
    · subst hquestion
      simp only [part, spans_anyCharacter hline, StandsFor, Regex.drop_eq_cons_iff]
      constructor
      · rintro ⟨k, ⟨hlt, rfl⟩, hrest⟩
        exact ⟨name[i], name.drop (i + 1), ⟨List.getElem?_eq_getElem hlt, rfl⟩, (ih hlt).1 hrest⟩
      · rintro ⟨d, rest, ⟨hd, rfl⟩, hrest⟩
        have hlt := (List.getElem?_eq_some_iff.1 hd).1
        exact ⟨i + 1, ⟨hlt, rfl⟩, (ih hlt).2 hrest⟩
    · simp only [spans_char hstar hquestion, standsFor_char hstar hquestion, Regex.drop_eq_cons_iff]
      constructor
      · rintro ⟨k, ⟨hc, rfl⟩, hrest⟩
        exact ⟨name.drop (i + 1), ⟨hc, rfl⟩, (ih (List.getElem?_eq_some_iff.1 hc).1).1 hrest⟩
      · rintro ⟨rest, ⟨hc, rfl⟩, hrest⟩
        exact ⟨i + 1, ⟨hc, rfl⟩, (ih (List.getElem?_eq_some_iff.1 hc).1).2 hrest⟩

/-! ### The whole pattern -/

theorem spans_alternative : (alternative cs).regex.Spans text i j ↔
    Regex.SpansAll text (cs.map fun c => (part c).regex) i j := by
  rw [alternative, Part.spans_concat, List.reverse_reverse, List.filterMap_map]
  simp [Function.comp_def]

theorem ascending_part (c : Char) : (part c).regex.Ascending := by
  unfold part
  split
  · trivial
  · exact Ranges.ascends_compl_single '\n'
  · exact Ranges.ascends_single _

theorem ascending_alternative (cs : List Char) : (alternative cs).regex.Ascending := by
  refine Part.ascending_concat fun p hp => ?_
  rw [List.mem_reverse] at hp
  obtain ⟨c, -, hc⟩ := List.mem_map.1 hp
  rw [← Option.some.inj hc]
  exact ascending_part c

theorem spans_group : (group cs).regex.Spans text i j ↔
    ∃ piece ∈ Path.splitChars '|' cs, Regex.SpansAll text (piece.map fun c => (part c).regex) i j := by
  obtain ⟨piece, rest, hsplit⟩ := Path.exists_splitChars '|' cs
  have hne : (Path.splitChars '|' cs).map alternative ≠ [] := by simp [hsplit]
  have hsets : ∀ p ∈ (Path.splitChars '|' cs).map alternative, p.regex.Ascending := by
    intro p hp
    obtain ⟨piece, -, rfl⟩ := List.mem_map.1 hp
    exact ascending_alternative piece
  rw [group, Part.spans_choice hne hsets]
  constructor
  · rintro ⟨p, hp, hspans⟩
    obtain ⟨piece, hpiece, rfl⟩ := List.mem_map.1 hp
    exact ⟨piece, hpiece, spans_alternative.1 hspans⟩
  · rintro ⟨piece, hpiece, hspans⟩
    exact ⟨alternative piece, List.mem_map_of_mem hpiece, spans_alternative.2 hspans⟩

private theorem before?_eq_none (hi : i ≤ name.length) : before? name.toArray i = none ↔ i = 0 := by
  unfold before?
  split
  · rename_i hzero
    simp [hzero]
  · rename_i hne
    rw [List.getElem?_toArray, List.getElem?_eq_none_iff]
    omega

theorem spans_whole (hi : i ≤ name.length) :
    (whole cs).Spans name.toArray i j ↔ i = 0 ∧ name.length ≤ j ∧
      ∃ piece ∈ Path.splitChars '|' cs, Regex.SpansAll name.toArray (piece.map fun c => (part c).regex) i j := by
  rw [whole, Regex.spans_concat, ← spans_group]
  simp only [Regex.SpansAll, Regex.Spans, Look.holds, Option.isNone_iff_eq_none, before?_eq_none hi,
    List.getElem?_toArray, List.getElem?_eq_none_iff]
  constructor
  · rintro ⟨k, ⟨hstart, rfl⟩, l, hspans, m, ⟨hend, rfl⟩, rfl⟩
    exact ⟨hstart, hend, hspans⟩
  · rintro ⟨hstart, hend, hspans⟩
    exact ⟨i, ⟨hstart, rfl⟩, j, hspans, j, ⟨hend, rfl⟩, rfl⟩

/-- The pattern of a glob spans something in a name if an alternative stands for the name. -/
theorem exists_spans_whole (hline : '\n' ∉ name) :
    (∃ i j, i ≤ name.length ∧ (whole cs).Spans name.toArray i j) ↔
      ∃ piece ∈ Path.splitChars '|' cs, StandsFor piece name := by
  constructor
  · rintro ⟨i, j, hi, hspans⟩
    obtain ⟨rfl, hj, piece, hpiece, hall⟩ := (spans_whole hi).1 hspans
    exact ⟨piece, hpiece, (spansAll_part hline hi).1 ⟨j, hj, hall⟩⟩
  · rintro ⟨piece, hpiece, hstands⟩
    obtain ⟨j, hj, hall⟩ := (spansAll_part hline (Nat.zero_le _)).2 hstands
    exact ⟨0, j, Nat.zero_le _, (spans_whole (Nat.zero_le _)).2 ⟨rfl, hj, piece, hpiece, hall⟩⟩

/-! ### Names that match -/

/-- A pattern without classes that compiles matches what one of its alternatives stands for. -/
theorem test_compile? {pattern text : String} (hclasses : NoClasses pattern.toList) (hline : '\n' ∉ text.toList)
    (hcompiles : (compile? pattern).isSome = true) :
    test pattern (compile? pattern) text = true ↔
      ∃ piece ∈ Path.splitChars '|' pattern.toList, StandsFor piece text.toList := by
  rw [compile?_of_noClasses hclasses] at hcompiles ⊢
  split at hcompiles
  · rename_i hfits
    rw [if_pos hfits, test, Regex.isMatch_program, exists_spans_whole hline]
  · cases hcompiles

/-- An alternative without signs stands for itself only. -/
theorem standsFor_plain (hstar : '*' ∉ cs) (hquestion : '?' ∉ cs) : StandsFor cs name ↔ cs = name := by
  induction cs generalizing name with
  | nil => rw [StandsFor, eq_comm]
  | cons c cs ih =>
    rw [List.mem_cons, not_or] at hstar hquestion
    rw [standsFor_char (Ne.symm hstar.1) (Ne.symm hquestion.1)]
    constructor
    · rintro ⟨rest, rfl, hrest⟩
      rw [(ih hstar.2 hquestion.2).1 hrest]
    · rintro rfl
      exact ⟨cs, rfl, (ih hstar.2 hquestion.2).2 rfl⟩

end Glob

namespace Matcher

open Glob

/-- The states of a matcher: new, or left by a question. -/
inductive Reached : Matcher → Prop
  | new : Reached {}
  | asked {m : Matcher} (pattern name : String) : Reached m → Reached (m.matchesName pattern name).2

theorem Reached.sound {m : Matcher} (h : m.Reached) : m.Sound := by
  induction h with
  | new => exact sound_empty
  | asked pattern name _ ih =>
    rw [matchesName_consult]
    exact ih.consult pattern

/-- In every state, a name without a line feed matches a pattern without classes exactly if it is what one of the
alternatives between the bars of the pattern stands for. -/
theorem matchesName_iff {m : Matcher} (hm : m.Reached) {pattern name : String}
    (hclasses : NoClasses pattern.toList) (hline : '\n' ∉ name.toList)
    (hcompiles : isPattern pattern = true → (compile? pattern).isSome = true) :
    (m.matchesName pattern name).1 = true ↔
      ∃ alternative ∈ Path.splitText '|' pattern, StandsFor alternative.toList name.toList := by
  have hpieces : (∃ alternative ∈ Path.splitText '|' pattern, StandsFor alternative.toList name.toList) ↔
      ∃ piece ∈ Path.splitChars '|' pattern.toList, StandsFor piece name.toList := by
    rw [Path.splitText]
    constructor
    · rintro ⟨alternative, halternative, hstands⟩
      obtain ⟨piece, hpiece, rfl⟩ := List.mem_map.1 halternative
      rw [String.toList_ofList] at hstands
      exact ⟨piece, hpiece, hstands⟩
    · rintro ⟨piece, hpiece, hstands⟩
      exact ⟨String.ofList piece, List.mem_map_of_mem hpiece, by rw [String.toList_ofList]; exact hstands⟩
  rw [hm.sound.matchesName, hpieces, Glob.matchesName]
  cases hpattern : isPattern pattern with
  | true =>
    rw [if_pos rfl]
    exact test_compile? hclasses hline (hcompiles hpattern)
  | false =>
    -- the pattern has no signs, and the name is compared with its text
    have hnone : ∀ c, c = '*' ∨ c = '?' ∨ c = '|' → c ∉ pattern.toList := by
      intro c hc hmem
      rw [Path.isPattern_of_mem hmem hc] at hpattern
      cases hpattern
    rw [if_neg Bool.false_ne_true, beq_iff_eq, Path.splitChars_of_not_mem (hnone '|' (.inr (.inr rfl)))]
    simp only [List.mem_singleton, exists_eq_left]
    rw [standsFor_plain (hnone '*' (.inl rfl)) (hnone '?' (.inr (.inl rfl))), String.toList_inj]

/-- A pattern with signs of both kinds, asked after another one: the marker, the parentheses, the dot, the plus and the
caret stand for themselves. -/
theorem matchesName_iff_signs :
    let m := (({} : Matcher).matchesName "n?" "n").2
    let pattern := "(a.b)+[]|*^?[]\\d"
    let name := "a.b^c[]\\d"
    m.Reached ∧ NoClasses pattern.toList ∧ '\n' ∉ name.toList ∧
      (isPattern pattern = true → (compile? pattern).isSome = true) ∧ (m.matchesName pattern name).1 = true ∧
      ∃ alternative ∈ Path.splitText '|' pattern, StandsFor alternative.toList name.toList := by
  intro m pattern name
  have hm : m.Reached := .asked "n?" "n" .new
  have hclasses : NoClasses pattern.toList := by decide
  have hline : '\n' ∉ name.toList := by decide
  have hcompiles : isPattern pattern = true → (compile? pattern).isSome = true := fun _ => by decide +kernel
  have hmatch : (m.matchesName pattern name).1 = true := by decide +kernel
  exact ⟨hm, hclasses, hline, hcompiles, hmatch, (matchesName_iff hm hclasses hline hcompiles).1 hmatch⟩

end Matcher

end RecordFix
