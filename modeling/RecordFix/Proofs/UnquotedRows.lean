import RecordFix.Csv.Reader
import RecordFix.Proofs.Pieces

/-!
# Rows without quotes

Where no character is a quote or a carriage return, the rows of a text are its lines other than empty ones, each split
at the separators (`readFrom_lines`). The reader goes through a line from one separator to the next
(`readFrom_line`).
-/

namespace RecordFix.Csv

open RecordFix.Path (splitChars)

variable {separator : Char}

/-- A character that stands for itself wherever it is in a line. -/
def IsPlainChar (c : Char) : Prop := c ≠ '"' ∧ c ≠ '\r' ∧ c ≠ '\n' ∧ c ≠ '\ufeff'

instance : DecidablePred IsPlainChar := fun _ => inferInstanceAs (Decidable (_ ∧ _))

/-- The fields of a line. -/
def fieldsOf (separator : Char) (line : List Char) : List String := (splitChars separator line).map String.ofList

/-- The rows after the end of a line. -/
def rowsBehind (separator : Char) (rest : List Char) : List (List String) :=
  readFrom separator .row [] [] (rest.drop 1)

private theorem step_plain {c : Char} (hc : IsPlainChar c) {place : Place}
    (hplace : place = .row ∨ place = .field ∨ place = .plain) :
    step separator place c = if c = separator then (.field, .endField) else (.plain, .keep) := by
  obtain ⟨hquote, hreturn, hfeed, -⟩ := hc
  have hplain : step separator .plain c = if c = separator then (.field, .endField) else (.plain, .keep) := by
    show (if c == separator then (Place.field, Act.endField)
      else if c == '\n' || c == '\r' then (.row, .endRow) else (.plain, .keep)) = _
    simp [hreturn, hfeed]
  rcases hplace with rfl | rfl | rfl
  · show (if c == '\n' || c == '\r' then (Place.row, Act.drop) else if c == '"' then (.quoted, .drop)
      else step separator .plain c) = _
    simp [hquote, hreturn, hfeed, hplain]
  · show (if c == '"' then (Place.quoted, Act.drop) else step separator .plain c) = _
    simp [hquote, hplain]
  · exact hplain

/-- Whether a text is at its end, or at the end of a line. -/
def AtLineEnd (separator : Char) (rest : List Char) : Prop :=
  rest = [] ∨ ∃ c more, rest = c :: more ∧ (c = '\n' ∨ c = '\r') ∧ c ≠ separator

/-- The end of a line ends the field and the row. -/
private theorem readFrom_end {place : Place} (hplace : place = .field ∨ place = .plain) (field : List Char)
    (row : List String) {rest : List Char} (hrest : AtLineEnd separator rest) :
    readFrom separator place field row rest =
      (row.reverse ++ [String.ofList field.reverse]) :: rowsBehind separator rest := by
  rcases hrest with rfl | ⟨c, more, rfl, hend, hne⟩
  · rcases hplace with rfl | rfl <;> simp [readFrom, rowsBehind]
  · have hstep : step separator place c = (.row, .endRow) := by
      have hplain : step separator .plain c = (.row, .endRow) := by
        show (if c == separator then (Place.field, Act.endField)
          else if c == '\n' || c == '\r' then (.row, .endRow) else (.plain, .keep)) = _
        rcases hend with rfl | rfl <;> simp [hne]
      rcases hplace with rfl | rfl
      · show (if c == '"' then (Place.quoted, Act.drop) else step separator .plain c) = _
        rcases hend with rfl | rfl <;> exact hplain
      · exact hplain
    simp [readFrom, hstep, rowsBehind]

/-- The reader goes through a line from one separator to the next. A line that a row begins with must not be empty. -/
theorem readFrom_line {line : List Char} (hline : ∀ c ∈ line, IsPlainChar c) {place : Place}
    (hplace : place = .row ∧ line ≠ [] ∨ place = .field ∨ place = .plain) (field : List Char) (row : List String)
    {rest : List Char} (hrest : AtLineEnd separator rest) {piece : List Char} {pieces : List (List Char)}
    (hsplit : splitChars separator line = piece :: pieces) :
    readFrom separator place field row (line ++ rest) =
      (row.reverse ++ String.ofList (field.reverse ++ piece) :: pieces.map String.ofList) ::
        rowsBehind separator rest := by
  induction line generalizing place field row piece pieces with
  | nil =>
    cases hsplit
    have hplace : place = .field ∨ place = .plain := hplace.resolve_left fun h => h.2 rfl
    rw [List.nil_append, readFrom_end hplace field row hrest]
    simp
  | cons c line ih =>
    rw [List.forall_mem_cons] at hline
    have hstep : step separator place c = if c = separator then (.field, .endField) else (.plain, .keep) :=
      step_plain hline.1 (hplace.imp_left And.left)
    obtain ⟨first, others, hrestSplit, hcons⟩ := Path.splitChars_cons separator c line
    rw [hcons] at hsplit
    rw [List.cons_append, readFrom, hstep]
    by_cases hc : c = separator
    · rw [if_pos hc] at hsplit ⊢
      cases hsplit
      dsimp only
      rw [ih hline.2 (.inr (.inl rfl)) [] _ hrestSplit]
      simp
    · rw [if_neg hc] at hsplit ⊢
      cases hsplit
      dsimp only
      rw [ih hline.2 (.inr (.inr rfl)) (c :: field) row hrestSplit]
      simp

private theorem exists_intercalate_cons (hfeed : separator ≠ '\n') (line : List Char) (lines : List (List Char)) :
    ∃ rest, ['\n'].intercalate (line :: lines) = line ++ rest ∧ AtLineEnd separator rest ∧
      rest.drop 1 = ['\n'].intercalate lines := by
  cases lines with
  | nil => exact ⟨[], by simp, .inl rfl, rfl⟩
  | cons next lines =>
    exact ⟨'\n' :: ['\n'].intercalate (next :: lines), by simp, .inr ⟨_, _, rfl, .inl rfl, hfeed.symm⟩, rfl⟩

/-- The rows of lines that are joined by line feeds are the lines other than empty ones, split at the separators. -/
theorem readFrom_lines (hfeed : separator ≠ '\n') {lines : List (List Char)}
    (hlines : ∀ line ∈ lines, ∀ c ∈ line, IsPlainChar c) :
    readFrom separator .row [] [] (['\n'].intercalate lines) =
      (lines.filter (!·.isEmpty)).map (fieldsOf separator) := by
  induction lines with
  | nil => rfl
  | cons line lines ih =>
    rw [List.forall_mem_cons] at hlines
    obtain ⟨rest, htext, hrest, hdrop⟩ := exists_intercalate_cons hfeed line lines
    have hbehind : rowsBehind separator rest = (lines.filter (!·.isEmpty)).map (fieldsOf separator) := by
      rw [rowsBehind, hdrop, ih hlines.2]
    rw [htext]
    by_cases hempty : line = []
    · subst hempty
      rw [List.filter_cons_of_neg (by simp), ← hbehind]
      rcases hrest with rfl | ⟨c, more, rfl, hend, -⟩
      · rfl
      · -- an empty line is passed over
        rcases hend with rfl | rfl <;> rfl
    · obtain ⟨piece, pieces, hsplit⟩ := Path.exists_splitChars separator line
      have hkept : (line :: lines).filter (!·.isEmpty) = line :: lines.filter (!·.isEmpty) := by
        simp [hempty]
      rw [readFrom_line hlines.1 (.inl ⟨rfl, hempty⟩) [] [] hrest hsplit, hkept, List.map_cons, ← hbehind,
        fieldsOf, hsplit]
      simp

/-- The rows of a text of plain lines. -/
theorem rows_lines (hfeed : separator ≠ '\n') {text : String} {lines : List (List Char)}
    (htext : text.toList = ['\n'].intercalate lines) (hlines : ∀ line ∈ lines, ∀ c ∈ line, IsPlainChar c) :
    rows separator text = (lines.filter (!·.isEmpty)).map (fieldsOf separator) := by
  have hmark : '\ufeff' ∉ text.toList := by
    intro h
    rw [htext] at h
    rcases Path.mem_intercalate_iff.1 h with ⟨h, -⟩ | ⟨line, hline, h⟩
    · exact absurd h (by decide)
    · exact (hlines line hline _ h).2.2.2 rfl
  rw [← readFrom_lines hfeed hlines, ← htext, rows]
  split
  · rename_i cs hcs
    rw [hcs] at hmark
    exact absurd List.mem_cons_self hmark
  · rfl

end RecordFix.Csv
