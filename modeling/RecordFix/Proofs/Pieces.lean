import RecordFix.Path

/-!
# Pieces between separators

No piece of a text holds the separator, and every other character of the text is in a piece
(`Path.exists_mem_splitChars`). Pieces without the separator that are joined by it are what the text is split into
(`Path.splitText_intercalate`).
-/

namespace RecordFix.Path

variable {separator c : Char} {cs : List Char}

theorem exists_splitChars (separator : Char) (cs : List Char) :
    ∃ piece rest, splitChars separator cs = piece :: rest := by
  induction cs with
  | nil => exact ⟨[], [], rfl⟩
  | cons c cs ih =>
    obtain ⟨piece, rest, h⟩ := ih
    by_cases hc : (c == separator) = true
    · exact ⟨[], piece :: rest, by simp only [splitChars, h, hc, ↓reduceIte]⟩
    · exact ⟨c :: piece, rest, by simp only [splitChars, h, hc, Bool.false_eq_true, ↓reduceIte]⟩

theorem splitChars_cons (separator c : Char) (cs : List Char) :
    ∃ piece rest, splitChars separator cs = piece :: rest ∧
      splitChars separator (c :: cs) = if c = separator then [] :: piece :: rest else (c :: piece) :: rest := by
  obtain ⟨piece, rest, h⟩ := exists_splitChars separator cs
  refine ⟨piece, rest, h, ?_⟩
  simp only [splitChars, h, beq_iff_eq]

theorem splitChars_of_not_mem (h : separator ∉ cs) : splitChars separator cs = [cs] := by
  induction cs with
  | nil => rfl
  | cons c cs ih =>
    rw [List.mem_cons, not_or] at h
    obtain ⟨piece, rest, hsplit, hcons⟩ := splitChars_cons separator c cs
    rw [ih h.2, List.cons.injEq] at hsplit
    rw [hcons, if_neg (Ne.symm h.1), ← hsplit.1, ← hsplit.2]

theorem not_mem_of_mem_splitChars {piece : List Char} (h : piece ∈ splitChars separator cs) :
    separator ∉ piece := by
  induction cs generalizing piece with
  | nil =>
    rw [List.mem_singleton.1 h]
    exact List.not_mem_nil
  | cons c cs ih =>
    obtain ⟨first, rest, hsplit, hcons⟩ := splitChars_cons separator c cs
    rw [hsplit] at ih
    rw [hcons] at h
    split at h
    · rcases List.mem_cons.1 h with rfl | h
      · exact List.not_mem_nil
      · exact ih h
    · rename_i hne
      rcases List.mem_cons.1 h with rfl | h
      · rw [List.mem_cons, not_or]
        exact ⟨Ne.symm hne, ih List.mem_cons_self⟩
      · exact ih (List.mem_cons_of_mem _ h)

theorem exists_mem_splitChars (h : c ∈ cs) (hne : c ≠ separator) :
    ∃ piece ∈ splitChars separator cs, c ∈ piece := by
  induction cs with
  | nil => cases h
  | cons d cs ih =>
    obtain ⟨first, rest, hsplit, hcons⟩ := splitChars_cons separator d cs
    rw [hsplit] at ih
    rw [hcons]
    rcases List.mem_cons.1 h with rfl | h
    · rw [if_neg hne]
      exact ⟨c :: first, List.mem_cons_self, List.mem_cons_self⟩
    · obtain ⟨piece, hpiece, hmem⟩ := ih h
      split
      · exact ⟨piece, List.mem_cons_of_mem _ hpiece, hmem⟩
      · rcases List.mem_cons.1 hpiece with rfl | hpiece
        · exact ⟨d :: piece, List.mem_cons_self, List.mem_cons_of_mem _ hmem⟩
        · exact ⟨piece, List.mem_cons_of_mem _ hpiece, hmem⟩

/-! ### Joining -/

/-- What is in joined pieces: what is in one of them, and the separator if there are several. -/
theorem mem_intercalate_iff {pieces : List (List Char)} :
    c ∈ [separator].intercalate pieces ↔ c = separator ∧ 2 ≤ pieces.length ∨ ∃ p ∈ pieces, c ∈ p := by
  induction pieces with
  | nil => simp
  | cons p pieces ih =>
    cases pieces with
    | nil => simp
    | cons q pieces =>
      rw [List.intercalate_cons_cons, List.mem_append, List.mem_append, List.mem_singleton, ih]
      simp only [List.length_cons, List.mem_cons, exists_eq_or_imp]
      constructor
      · rintro ((h | h) | ⟨h, -⟩ | h)
        · exact .inr (.inl h)
        · exact .inl ⟨h, by omega⟩
        · exact .inl ⟨h, by omega⟩
        · exact .inr (.inr h)
      · rintro (⟨h, -⟩ | h | h)
        · exact .inl (.inr h)
        · exact .inl (.inl h)
        · exact .inr (.inr h)

theorem splitChars_append_cons (h : separator ∉ cs) (rest : List Char) :
    splitChars separator (cs ++ separator :: rest) = cs :: splitChars separator rest := by
  induction cs with
  | nil =>
    obtain ⟨piece, pieces, hsplit, hcons⟩ := splitChars_cons separator separator rest
    rw [List.nil_append, hcons, if_pos rfl, hsplit]
  | cons c cs ih =>
    rw [List.mem_cons, not_or] at h
    obtain ⟨piece, pieces, hsplit, hcons⟩ := splitChars_cons separator c (cs ++ separator :: rest)
    rw [ih h.2, List.cons.injEq] at hsplit
    rw [List.cons_append, hcons, if_neg (Ne.symm h.1), ← hsplit.1, ← hsplit.2]

/-- Joined pieces are split into the same pieces. -/
theorem splitChars_intercalate {pieces : List (List Char)} (hne : pieces ≠ []) (h : ∀ p ∈ pieces, separator ∉ p) :
    splitChars separator ([separator].intercalate pieces) = pieces := by
  induction pieces with
  | nil => exact absurd rfl hne
  | cons p pieces ih =>
    cases pieces with
    | nil => rw [List.intercalate_singleton, splitChars_of_not_mem (h p List.mem_cons_self)]
    | cons q pieces =>
      have hrest : ∀ r ∈ q :: pieces, separator ∉ r := fun r hr => h r (List.mem_cons_of_mem _ hr)
      rw [List.intercalate_cons_cons, List.append_assoc, List.singleton_append,
        splitChars_append_cons (h p List.mem_cons_self), ih (List.cons_ne_nil _ _) hrest]

theorem splitText_intercalate {pieces : List String} (hne : pieces ≠ []) (h : ∀ p ∈ pieces, separator ∉ p.toList) :
    splitText separator ((String.singleton separator).intercalate pieces) = pieces := by
  have hchars : ∀ p ∈ pieces.map String.toList, separator ∉ p := by
    intro p hp
    obtain ⟨q, hq, rfl⟩ := List.mem_map.1 hp
    exact h q hq
  rw [splitText, String.toList_intercalate, String.toList_singleton,
    splitChars_intercalate (by simpa using hne) hchars, List.map_map]
  simp [Function.comp_def]

end RecordFix.Path
