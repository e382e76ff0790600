import RecordFix.Proofs.Pieces
import RecordFix.Proofs.Writing
import RecordFix.Record

/-!
# Fields by name and by path

A field without dots is a path of one segment (`Path.ofText_of_not_mem_dot`), and no segment of a path is a field with
dots (`Path.not_mem_ofText`). Plain segments have no bars, so a field of plain segments is one path
(`Path.alternatives_of_plain`), and where no field has its exact name a lookup gives what the path leads to
(`Record.get_of_find`).
-/

namespace RecordFix

namespace Path

variable {field : String}

/-! ### Segments -/

theorem ofText_ne_nil (field : String) : ofText field ≠ [] := by
  obtain ⟨piece, rest, h⟩ := exists_splitChars '.' field.toList
  simp [ofText, splitText, h]

/-- A field without dots is a path of its name. -/
theorem ofText_of_not_mem_dot (h : '.' ∉ field.toList) : ofText field = [field] := by
  rw [ofText, splitText, splitChars_of_not_mem h, List.map_singleton, String.ofList_toList]

/-- A field with dots is none of its own segments. -/
theorem not_mem_ofText (h : '.' ∈ field.toList) : field ∉ ofText field := by
  intro hmem
  obtain ⟨piece, hpiece, hfield⟩ := List.mem_map.1 hmem
  rw [← hfield, String.toList_ofList] at h
  exact not_mem_of_mem_splitChars hpiece h

/-- A name with a sign of globs is a pattern; the marker at its end does not hide one. -/
theorem isPattern_of_mem {c : Char} (h : c ∈ field.toList) (hc : c = '*' ∨ c = '?' ∨ c = '|') :
    Glob.isPattern field = true := by
  have hmem : c ∈ Glob.withoutMarker field.toList := by
    unfold Glob.withoutMarker
    split
    · rename_i rest hrest
      have hreverse := List.mem_reverse.2 h
      rw [hrest, List.mem_cons, List.mem_cons] at hreverse
      rcases hreverse with rfl | rfl | hreverse
      · simp at hc
      · simp at hc
      · exact List.mem_reverse.2 hreverse
    · exact h
  rw [Glob.isPattern, Bool.or_eq_true, List.any_eq_true]
  exact Or.inl ⟨c, hmem, by simpa [or_assoc] using hc⟩

/-- A field of plain segments stands for one path. -/
theorem alternatives_of_plain (h : ∀ s ∈ ofText field, IsPlain s) : alternatives field = [ofText field] := by
  have hbar : '|' ∉ field.toList := by
    intro hmem
    obtain ⟨piece, hpiece, hbar⟩ := exists_mem_splitChars hmem (show '|' ≠ '.' by decide)
    have hplain := (h (String.ofList piece) (List.mem_map_of_mem hpiece)).glob
    rw [isPattern_of_mem (by rw [String.toList_ofList]; exact hbar) (.inr (.inr rfl))] at hplain
    cases hplain
  have hcontains : field.toList.contains '|' = false := by simpa using hbar
  rw [alternatives, hcontains, Bool.false_and, if_neg Bool.false_ne_true]

/-- A plain name stands for the path of its own. -/
theorem alternatives_of_name (hplain : IsPlain field) (hdot : '.' ∉ field.toList) : alternatives field = [[field]] := by
  have hpath : ofText field = [field] := ofText_of_not_mem_dot hdot
  have hsegments : ∀ s ∈ ofText field, IsPlain s := by
    intro s hs
    rw [hpath, List.mem_singleton] at hs
    rw [hs]
    exact hplain
  rw [alternatives_of_plain hsegments, hpath]

end Path

namespace Record

variable {r : Record} {field : String} {v : Value}

theorem get_of_get? (h : r.fields.get? field = some v) : r.get field = .ok (some v) := by
  unfold get
  rw [h]

/-- Without a field of the exact name, what the path leads to is found. -/
theorem get_of_find (hname : r.fields.get? field = none) (hplain : ∀ s ∈ Path.ofText field, IsPlain s)
    (h : r.fields.find (Path.ofText field) = .ok (some v)) : r.get field = .ok (some v) := by
  unfold get
  rw [hname]
  dsimp only
  rw [Path.alternatives_of_plain hplain]
  simp only [findAll, h]
  rfl

end Record

end RecordFix
