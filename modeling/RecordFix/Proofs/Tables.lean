import RecordFix.Csv.Table
import RecordFix.Proofs.UnquotedRows

/-!
# Tables from their text

A table is written with one separator between the cells of a row and a line feed between rows. Of the separators that a
text may have, only this one occurs in the first line, so it is the one that is guessed (`guessSeparator_tableText`),
whatever the other lines are and however many there are. Reading gives one object for each row that holds a text
(`parse_tableText`): a row without one may be a line of separators, or an empty line, or blank throughout where the
separator is a tab.
-/

namespace RecordFix.Csv

open RecordFix.Text
open RecordFix.Path (splitChars)

/-- A cell that stands for itself: without separators and quotes, without line ends, and without blanks at its ends. -/
structure IsPlainCell (cell : String) : Prop where
  plain : ∀ c ∈ cell.toList, IsPlainChar c
  whole : ∀ c ∈ cell.toList, c ∉ separators
  head : ∀ c ∈ cell.toList.head?, isBlank c = false
  last : ∀ c ∈ cell.toList.getLast?, isBlank c = false

/-- The test for a plain cell. -/
def isPlainCell (cell : String) : Bool :=
  cell.toList.all (fun c => decide (IsPlainChar c) && !separators.contains c) &&
    cell.toList.head?.all (!isBlank ·) && cell.toList.getLast?.all (!isBlank ·)

theorem isPlainCell_iff {cell : String} : isPlainCell cell = true ↔ IsPlainCell cell := by
  simp only [isPlainCell, Bool.and_eq_true, List.all_eq_true, Option.all_eq_true, decide_eq_true_eq,
    Bool.not_eq_true', List.contains_eq_mem, decide_eq_false_iff_not]
  constructor
  · rintro ⟨⟨hchars, hhead⟩, hlast⟩
    exact ⟨fun c hc => (hchars c hc).1, fun c hc => (hchars c hc).2, hhead, hlast⟩
  · rintro ⟨hplain, hwhole, hhead, hlast⟩
    exact ⟨⟨fun c hc => ⟨hplain c hc, hwhole c hc⟩, hhead⟩, hlast⟩

instance : DecidablePred IsPlainCell := fun _ => decidable_of_iff _ isPlainCell_iff

/-- The line of a row. -/
def rowText (separator : Char) (row : List String) : String := (String.singleton separator).intercalate row

/-- The text of a table. -/
def tableText (separator : Char) (table : List (List String)) : String :=
  "\n".intercalate (table.map (rowText separator))

variable {d : Char} {row header : List String} {table body : List (List String)}

/-! ### Lines -/

theorem toList_rowText (d : Char) (row : List String) :
    (rowText d row).toList = [d].intercalate (row.map String.toList) := by
  rw [rowText, String.toList_intercalate, String.toList_singleton]

theorem toList_tableText (d : Char) (table : List (List String)) :
    (tableText d table).toList = ['\n'].intercalate (table.map fun row => (rowText d row).toList) := by
  rw [tableText, String.toList_intercalate, List.map_map]
  rfl

theorem mem_rowText_iff {c : Char} :
    c ∈ (rowText d row).toList ↔ c = d ∧ 2 ≤ row.length ∨ ∃ cell ∈ row, c ∈ cell.toList := by
  rw [toList_rowText, Path.mem_intercalate_iff, List.length_map]
  refine or_congr_right ⟨?_, ?_⟩
  · rintro ⟨piece, hpiece, hc⟩
    obtain ⟨cell, hcell, rfl⟩ := List.mem_map.1 hpiece
    exact ⟨cell, hcell, hc⟩
  · rintro ⟨cell, hcell, hc⟩
    exact ⟨cell.toList, List.mem_map_of_mem hcell, hc⟩

theorem isPlainChar_of_mem_separators (hd : d ∈ separators) : IsPlainChar d := by
  simp only [separators, List.mem_cons, List.not_mem_nil, or_false] at hd
  rcases hd with rfl | rfl | rfl | rfl <;> exact ⟨by decide, by decide, by decide, by decide⟩

theorem isPlainChar_of_mem_rowText (hd : d ∈ separators) (hrow : ∀ cell ∈ row, IsPlainCell cell) {c : Char}
    (hc : c ∈ (rowText d row).toList) : IsPlainChar c := by
  rcases mem_rowText_iff.1 hc with ⟨rfl, -⟩ | ⟨cell, hcell, hc⟩
  · exact isPlainChar_of_mem_separators hd
  · exact (hrow cell hcell).plain c hc

/-- A row is split into its cells. -/
theorem fieldsOf_rowText (hd : d ∈ separators) (hrow : ∀ cell ∈ row, IsPlainCell cell) (hne : row ≠ []) :
    fieldsOf d (rowText d row).toList = row :=
  Path.splitText_intercalate hne fun cell hcell hmem => (hrow cell hcell).whole d hmem hd

/-- A row that holds a text has a line. -/
theorem rowText_ne_nil (h : row.any (· ≠ "")) : (rowText d row).toList ≠ [] := by
  obtain ⟨cell, hcell, hne⟩ := List.any_eq_true.1 h
  obtain ⟨c, hc⟩ := List.exists_mem_of_ne_nil cell.toList (by simpa using hne)
  exact List.ne_nil_of_mem (mem_rowText_iff.2 (.inr ⟨cell, hcell, hc⟩))

/-! ### Guessing the separator -/

theorem lines_eq_splitChars (cs : List Char) : lines cs = splitChars '\n' cs := by
  induction cs with
  | nil => rfl
  | cons c cs ih =>
    obtain ⟨piece, pieces, hsplit⟩ := Path.exists_splitChars '\n' cs
    simp only [lines, splitChars, ih, hsplit]

theorem lines_tableText (hd : d ∈ separators) (hne : table ≠ [])
    (hcells : ∀ row ∈ table, ∀ cell ∈ row, IsPlainCell cell) :
    lines (tableText d table).toList = table.map fun row => (rowText d row).toList := by
  rw [lines_eq_splitChars, toList_tableText, Path.splitChars_intercalate (by simpa using hne)]
  intro line hline hfeed
  obtain ⟨row, hrow, rfl⟩ := List.mem_map.1 hline
  exact (isPlainChar_of_mem_rowText hd (hcells row hrow) hfeed).2.2.1 rfl

/-- A row that holds a text is not blank. -/
theorem not_blank_rowText (hrow : ∀ cell ∈ row, IsPlainCell cell) (h : row.any (· ≠ "")) :
    (rowText d row).toList.all isBlank = false := by
  obtain ⟨cell, hcell, hne⟩ := List.any_eq_true.1 h
  cases hcs : cell.toList with
  | nil =>
    rw [String.toList_eq_nil_iff] at hcs
    simp [hcs] at hne
  | cons c cs =>
    have hc : c ∈ cell.toList := by simp [hcs]
    rw [List.all_eq_false]
    refine ⟨c, mem_rowText_iff.2 (.inr ⟨cell, hcell, hc⟩), ?_⟩
    simpa using (hrow cell hcell).head c (by simp [hcs])

/-- Where the first line has one of the separators only, this is the best. -/
theorem best_separator {line : List Char} {others : List (List Char)} (hd : d ∈ separators) (hline : d ∈ line)
    (honly : ∀ c ∈ separators, c ≠ d → c ∉ line) :
    (separators.foldl (fun best c =>
        if isBetter (rate c (line :: others)) best.2 then (c, rate c (line :: others)) else best)
      (';', false, 0)).1 = d := by
  have hother : ∀ c ∈ separators, c ≠ d → ∀ best, isBetter (rate c (line :: others)) best = false := by
    intro c hc hne best
    have hcount : line.count c = 0 := List.count_eq_zero.2 (honly c hc hne)
    obtain ⟨consistent, n⟩ := best
    cases consistent <;> simp [isBetter, rate, hcount]
  have hbest : isBetter (rate d (line :: others)) (false, 0) = true := by
    have hcount : 0 < line.count d := List.count_pos_iff.2 hline
    obtain ⟨consistent, hrate⟩ : ∃ b, rate d (line :: others) = (b, line.count d) := ⟨_, rfl⟩
    rw [hrate]
    cases consistent <;> simp [isBetter, hcount]
  simp only [separators, List.forall_mem_cons] at hother ⊢
  simp only [separators, List.mem_cons, List.not_mem_nil, or_false] at hd
  obtain ⟨hsemicolon, hcomma, htab, hbar, -⟩ := hother
  rcases hd with rfl | rfl | rfl | rfl
  · simp [hcomma (by decide), htab (by decide), hbar (by decide), hbest]
  · simp [hsemicolon (by decide), htab (by decide), hbar (by decide), hbest]
  · simp [hsemicolon (by decide), hcomma (by decide), hbar (by decide), hbest]
  · simp [hsemicolon (by decide), hcomma (by decide), htab (by decide), hbest]

theorem guessSeparator_tableText (hd : d ∈ separators) (hwide : 2 ≤ header.length) (hfilled : header.any (· ≠ ""))
    (hcells : ∀ row ∈ header :: body, ∀ cell ∈ row, IsPlainCell cell) :
    guessSeparator (tableText d (header :: body)) = d := by
  have hheader : ∀ cell ∈ header, IsPlainCell cell := hcells header List.mem_cons_self
  obtain ⟨others, hsample⟩ : ∃ others, ((lines (tableText d (header :: body)).toList).filter fun line =>
      !line.all isBlank).take sampleSize = (rowText d header).toList :: others := by
    rw [lines_tableText hd (List.cons_ne_nil _ _) hcells, List.map_cons,
      List.filter_cons_of_pos (by rw [not_blank_rowText hheader hfilled]; rfl)]
    exact ⟨_, rfl⟩
  rw [guessSeparator, hsample]
  apply best_separator hd
  · exact mem_rowText_iff.2 (.inl ⟨rfl, hwide⟩)
  · intro c hc hne hmem
    rcases mem_rowText_iff.1 hmem with ⟨h, -⟩ | ⟨cell, hcell, hmem⟩
    · exact hne h
    · exact (hheader cell hcell).whole c hmem hc

/-! ### Reading -/

theorem trim_of_plain {cell : String} (h : IsPlainCell cell) : trim cell = cell := by
  have hdrop : ∀ cs : List Char, (∀ c ∈ cs.head?, isBlank c = false) → cs.dropWhile isBlank = cs := by
    intro cs hcs
    cases cs with
    | nil => rfl
    | cons c cs => rw [List.dropWhile_cons_of_neg (by simp [hcs c rfl])]
  rw [trim, trimChars, hdrop _ h.head, hdrop _ (by rw [List.head?_reverse]; exact h.last), List.reverse_reverse,
    String.ofList_toList]

/-- The rows of a table are read back, other than those whose line is empty. -/
theorem rows_tableText (hd : d ∈ separators) (hcells : ∀ row ∈ table, ∀ cell ∈ row, IsPlainCell cell) :
    (rows d (tableText d table)).map (·.map trim) = table.filter fun row => !(rowText d row).toList.isEmpty := by
  have hplain : ∀ line ∈ table.map fun row => (rowText d row).toList, ∀ c ∈ line, IsPlainChar c := by
    intro line hline c hc
    obtain ⟨row, hrow, rfl⟩ := List.mem_map.1 hline
    exact isPlainChar_of_mem_rowText hd (hcells row hrow) hc
  have hfeed : d ≠ '\n' := (isPlainChar_of_mem_separators hd).2.2.1
  rw [rows_lines hfeed (toList_tableText d table) hplain, List.filter_map, List.map_map, List.map_map]
  conv => rhs; rw [← List.map_id (table.filter _)]
  apply List.map_congr_left
  intro row hrow
  obtain ⟨hrow, hline⟩ := List.mem_filter.1 hrow
  have hne : row ≠ [] := by
    rintro rfl
    simp [toList_rowText] at hline
  have htrim : row.map trim = row := by
    rw [List.map_congr_left fun cell hcell => trim_of_plain (hcells row hrow cell hcell), List.map_id']
  simp only [Function.comp_apply, fieldsOf_rowText hd (hcells row hrow) hne, htrim, id]

private theorem putMember_of_not_mem {key : String} {ms : List (String × Json)} (h : key ∉ ms.map (·.1)) (j : Json) :
    Json.putMember key j ms = ms ++ [(key, j)] := by
  induction ms with
  | nil => rfl
  | cons m ms ih =>
    rw [List.map_cons, List.mem_cons, not_or] at h
    have hne : (m.1 == key) = false := by simpa using Ne.symm h.1
    rw [Json.putMember, hne, if_neg Bool.false_ne_true, ih h.2, List.cons_append]

theorem dedup_of_nodup {ms : List (String × Json)} (h : (ms.map (·.1)).Nodup) : Json.dedup ms = ms := by
  have key : ∀ start : List (String × Json), ((start ++ ms).map (·.1)).Nodup →
      ms.foldl (fun acc m => Json.putMember m.1 m.2 acc) start = start ++ ms := by
    clear h
    induction ms with
    | nil => intro start _; rw [List.append_nil]; rfl
    | cons m ms ih =>
      intro start h
      have hnew : m.1 ∉ start.map (·.1) := by
        rw [List.map_append, List.map_cons, List.nodup_append] at h
        exact fun hm => h.2.2 m.1 hm m.1 List.mem_cons_self rfl
      rw [List.foldl_cons, putMember_of_not_mem hnew, ih _ (by simpa using h), List.append_assoc, List.singleton_append]
  exact key [] h

/-- Headers with distinct names are the keys of an object, in their order. -/
theorem rowObject_of_nodup (hnodup : header.Nodup) (row : List String) :
    rowObject header row = .object (header.zipIdx.map fun (h, i) => (h, .string (row.getD i ""))) := by
  rw [rowObject, dedup_of_nodup]
  have hkeys : (header.zipIdx.map fun (h, i) => (h, Json.string (row.getD i ""))).map (·.1) = header := by
    rw [List.map_map]
    exact List.zipIdx_map_fst 0 header
  rwa [hkeys]

/-- The separator of a table is guessed, and reading gives an object for each row below the header that holds a text:
its keys are the cells of the header, and its values those of the row, empty where the row is short. -/
theorem parse_tableText (hd : d ∈ separators) (hwide : 2 ≤ header.length) (hnodup : header.Nodup)
    (hfilled : header.any (· ≠ "")) (hcells : ∀ row ∈ header :: body, ∀ cell ∈ row, IsPlainCell cell) :
    guessSeparator (tableText d (header :: body)) = d ∧
      Table.parse (tableText d (header :: body)) d =
        .ok ⟨header, (body.filter fun row => row.any (· ≠ "")).map fun row =>
          .object (header.zipIdx.map fun (h, i) => (h, .string (row.getD i "")))⟩ := by
  refine ⟨guessSeparator_tableText hd hwide hfilled hcells, ?_⟩
  have hascii : ¬ '\x7f' < d := by
    simp only [separators, List.mem_cons, List.not_mem_nil, or_false] at hd
    rcases hd with rfl | rfl | rfl | rfl <;> decide
  have hall : ∀ row : List String, row.all (·.isEmpty) = !row.any (· ≠ "") := by
    intro row
    rw [Bool.eq_iff_iff]
    simp
  have hrows := rows_tableText hd hcells
  rw [List.filter_cons_of_pos (by simpa using rowText_ne_nil hfilled)] at hrows
  -- a row without a line holds no text either
  have hbody : (body.filter fun row => !(rowText d row).toList.isEmpty).filter (fun row => !row.all (·.isEmpty)) =
      body.filter fun row => row.any (· ≠ "") := by
    rw [List.filter_filter]
    apply List.filter_congr
    intro row _
    rw [hall, Bool.not_not, Bool.and_eq_left_iff_imp]
    intro htext
    simpa using rowText_ne_nil htext
  rw [Table.parse, if_neg hascii, hrows]
  simp only [List.headD_cons, List.drop_succ_cons, List.drop_zero, hall header, hfilled, Bool.not_true,
    Bool.false_eq_true, ↓reduceIte, hbody]
  rw [List.map_congr_left fun row _ => rowObject_of_nodup hnodup row]

/-- Tabs between cells: the row of empty cells looks blank and the row without cells has an empty line, and neither gives
an object; a short row has an empty value, and a fourth cell does not count. -/
theorem parse_tableText_tabs :
    '\t' ∈ separators ∧ 2 ≤ ["id", "", "name"].length ∧ ["id", "", "name"].Nodup ∧ ["id", "", "name"].any (· ≠ "") ∧
      (∀ row ∈ [["id", "", "name"], ["1"], ["", "", ""], [], ["2", "x y", "", "z"]], ∀ cell ∈ row, IsPlainCell cell) ∧
      guessSeparator "id\t\tname\n1\n\t\t\n\n2\tx y\t\tz" = '\t' ∧
      Table.parse "id\t\tname\n1\n\t\t\n\n2\tx y\t\tz" '\t' =
        .ok ⟨["id", "", "name"], [.object [("id", .string "1"), ("", .string ""), ("name", .string "")],
          .object [("id", .string "2"), ("", .string "x y"), ("name", .string "")]]⟩ := by
  have hcells : ∀ row ∈ [["id", "", "name"], ["1"], ["", "", ""], [], ["2", "x y", "", "z"]],
      ∀ cell ∈ row, IsPlainCell cell := by decide +kernel
  have htext : tableText '\t' [["id", "", "name"], ["1"], ["", "", ""], [], ["2", "x y", "", "z"]] =
      "id\t\tname\n1\n\t\t\n\n2\tx y\t\tz" := by decide +kernel
  obtain ⟨hguess, hparse⟩ := parse_tableText (d := '\t') (by decide) (by decide) (by decide) (by decide) hcells
  rw [htext] at hguess hparse
  exact ⟨by decide, by decide, by decide, by decide, hcells, hguess, hparse⟩

end RecordFix.Csv
