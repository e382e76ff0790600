import RecordFix.LookupMap
import RecordFix.Proofs.UnquotedRows

/-!
# The files of lookup maps

The file of a map holds a line for each entry: the key, the separator and the value (`HoldsEntries`). Where these have no
separators, quotes, line ends and marks in them, the rows of the file are the entries, in order
(`HoldsEntries.entriesOfRows_eq`). So a map answers alike whether its entries are given or stand in a file that is read
with the first lookup (`LookupMap.getOrDefault_of_holds`).
-/

namespace RecordFix

open RecordFix.Csv

/-- Whether an entry can stand in a line without quotes. -/
def IsPlainEntry (separator : Char) (entry : String × String) : Prop :=
  ∀ c ∈ entry.1.toList ++ entry.2.toList, IsPlainChar c ∧ c ≠ separator

instance (separator : Char) : DecidablePred (IsPlainEntry separator) := fun _ => List.decidableBAll _ _

/-- The ends of lines. -/
def lineEnds : List (List Char) := [['\n'], ['\r', '\n'], ['\r']]

/-- The line of an entry. -/
def entryLine (separator : Char) (key value : String) : List Char := key.toList ++ separator :: value.toList

/-- Whether a text holds a line for each entry; the last line may end with the text. -/
inductive HoldsEntries (separator : Char) : List (String × String) → List Char → Prop
  | nil : HoldsEntries separator [] []
  | last (key value : String) : HoldsEntries separator [(key, value)] (entryLine separator key value)
  | line (key value : String) {lineEnd : List Char} {entries : List (String × String)} {cs : List Char} :
    lineEnd ∈ lineEnds → HoldsEntries separator entries cs →
      HoldsEntries separator ((key, value) :: entries) (entryLine separator key value ++ (lineEnd ++ cs))

variable {separator : Char} {entries : List (String × String)} {key value : String}

/-! ### Reading the lines -/

private theorem isPlainChar_of_mem_entryLine (hseparator : IsPlainChar separator)
    (hentry : IsPlainEntry separator (key, value)) {c : Char} (hc : c ∈ entryLine separator key value) :
    IsPlainChar c := by
  rcases List.mem_append.1 hc with hc | hc
  · exact (hentry c (List.mem_append_left _ hc)).1
  · rcases List.mem_cons.1 hc with rfl | hc
    · exact hseparator
    · exact (hentry c (List.mem_append_right _ hc)).1

/-- The line of an entry is a row of its key and its value. -/
private theorem readFrom_entryLine (hseparator : IsPlainChar separator) (hentry : IsPlainEntry separator (key, value))
    {rest : List Char} (hrest : AtLineEnd separator rest) :
    readFrom separator .row [] [] (entryLine separator key value ++ rest) =
      [key, value] :: rowsBehind separator rest := by
  have hkey : separator ∉ key.toList := fun h => (hentry _ (List.mem_append_left _ h)).2 rfl
  have hvalue : separator ∉ value.toList := fun h => (hentry _ (List.mem_append_right _ h)).2 rfl
  have hsplit : Path.splitChars separator (entryLine separator key value) = key.toList :: [value.toList] := by
    rw [entryLine, Path.splitChars_append_cons hkey, Path.splitChars_of_not_mem hvalue]
  rw [readFrom_line (fun c => isPlainChar_of_mem_entryLine hseparator hentry) (.inl ⟨rfl, by simp [entryLine]⟩) [] []
    hrest hsplit]
  simp

/-- Behind a line the next row begins, also if the line has two characters at its end. -/
private theorem rowsBehind_lineEnd {lineEnd : List Char} (h : lineEnd ∈ lineEnds) (cs : List Char) :
    rowsBehind separator (lineEnd ++ cs) = readFrom separator .row [] [] cs := by
  simp only [lineEnds, List.mem_cons, List.not_mem_nil, or_false] at h
  rcases h with rfl | rfl | rfl <;> rfl

private theorem atLineEnd_lineEnd (hseparator : IsPlainChar separator) {lineEnd : List Char} (h : lineEnd ∈ lineEnds)
    (cs : List Char) : AtLineEnd separator (lineEnd ++ cs) := by
  obtain ⟨-, hreturn, hfeed, -⟩ := hseparator
  simp only [lineEnds, List.mem_cons, List.not_mem_nil, or_false] at h
  rcases h with rfl | rfl | rfl
  · exact .inr ⟨_, _, rfl, .inl rfl, hfeed.symm⟩
  · exact .inr ⟨_, _, rfl, .inr rfl, hreturn.symm⟩
  · exact .inr ⟨_, _, rfl, .inr rfl, hreturn.symm⟩

theorem HoldsEntries.readFrom_eq {cs : List Char} (h : HoldsEntries separator entries cs)
    (hseparator : IsPlainChar separator) (hentries : ∀ e ∈ entries, IsPlainEntry separator e) :
    readFrom separator .row [] [] cs = entries.map fun e => [e.1, e.2] := by
  induction h with
  | nil => rfl
  | last key value =>
    have hread := readFrom_entryLine hseparator (hentries _ List.mem_cons_self) (Or.inl rfl : AtLineEnd separator [])
    rw [List.append_nil] at hread
    exact hread
  | line key value hend _ ih =>
    rw [List.forall_mem_cons] at hentries
    rw [readFrom_entryLine hseparator hentries.1 (atLineEnd_lineEnd hseparator hend _), rowsBehind_lineEnd hend,
      ih hentries.2]
    rfl

/-- Such a text does not begin with a mark. -/
private theorem HoldsEntries.head_ne_mark {cs : List Char} (h : HoldsEntries separator entries cs)
    (hseparator : IsPlainChar separator) (hentries : ∀ e ∈ entries, IsPlainEntry separator e) :
    cs.head? ≠ some '\ufeff' := by
  have hline : ∀ {key value : String} (rest : List Char), IsPlainEntry separator (key, value) →
      (entryLine separator key value ++ rest).head? ≠ some '\ufeff' := by
    intro key value rest hentry hhead
    obtain ⟨c, cs, hchars⟩ : ∃ c cs, entryLine separator key value = c :: cs :=
      List.exists_cons_of_ne_nil (by simp [entryLine])
    rw [hchars, List.cons_append] at hhead
    have hmem : c ∈ entryLine separator key value := by simp [hchars]
    exact (isPlainChar_of_mem_entryLine hseparator hentry hmem).2.2.2 (Option.some.inj hhead)
  cases h with
  | nil => exact nofun
  | last key value =>
    have hhead := hline [] (hentries _ List.mem_cons_self)
    rwa [List.append_nil] at hhead
  | line key value hend hrest => exact hline _ (hentries _ List.mem_cons_self)

/-- The entries of a text that holds them. -/
theorem HoldsEntries.entriesOfRows_eq {text : String} (h : HoldsEntries separator entries text.toList)
    (hseparator : IsPlainChar separator) (hentries : ∀ e ∈ entries, IsPlainEntry separator e) :
    FileMap.entriesOfRows (rows separator text) = entries := by
  have hrows : rows separator text = entries.map fun e => [e.1, e.2] := by
    rw [← h.readFrom_eq hseparator hentries, rows]
    split
    · rename_i hmark
      rw [hmark] at h
      exact absurd rfl (h.head_ne_mark hseparator hentries)
    · rfl
  rw [hrows, FileMap.entriesOfRows, List.filterMap_map]
  exact List.filterMap_some

/-! ### Looking up -/

namespace LookupMap

/-- What a text becomes in a map of these entries: the value of its entry, or else that of the default entry. -/
def translate (entries : List (String × String)) (text : String) : Option String :=
  (entries.lookup text).or (entries.lookup defaultKey)

/-- Whether a map has these entries, given or in a file that was read or can be. -/
def Holds (files : Files) (entries : List (String × String)) : LookupMap → Prop
  | .inline given => given = entries
  | .file f => ∃ g, f.opened files = .ok (entries, g)

variable {files : Files} {m : LookupMap}

theorem get_of_holds (h : m.Holds files entries) (key : String) :
    ∃ m', m.get files key = (.ok (entries.lookup key), m') ∧ m'.Holds files entries := by
  cases m with
  | inline given =>
    obtain rfl : given = entries := h
    exact ⟨.inline given, rfl, rfl⟩
  | file f =>
    obtain ⟨g, hg⟩ := h
    have hagain : g.opened files = .ok (entries, g) := by
      unfold FileMap.opened at hg
      split at hg
      · rename_i hentries
        cases hg
        rw [FileMap.opened, hentries]
      · cases hload : f.load files with
        | error e =>
          rw [hload] at hg
          cases hg
        | ok loaded =>
          rw [hload] at hg
          cases hg
          rfl
    exact ⟨.file g, by rw [get, hg], g, hagain⟩

/-- A map with these entries answers by them, and has them afterwards. -/
theorem getOrDefault_of_holds (h : m.Holds files entries) (text : String) :
    ∃ m', m.getOrDefault files text = (.ok (translate entries text), m') ∧ m'.Holds files entries := by
  obtain ⟨m₁, hget, h₁⟩ := get_of_holds h text
  rw [getOrDefault, hget, translate]
  cases entries.lookup text with
  | some value => exact ⟨m₁, rfl, h₁⟩
  | none => exact get_of_holds h₁ defaultKey

end LookupMap

/-- A file with the bytes of a text holds this text. -/
theorem Files.text_of_toUTF8 {files : Files} {path text : String} (h : files path = .ok text.toUTF8) :
    files.text path = .ok text := by
  have hread : String.fromUTF8? text.toUTF8 = some text := dif_pos text.isValidUTF8
  unfold Files.text
  simp only [h, bind, Except.bind, hread]

/-- A map over a file that holds entries and was not read. -/
theorem FileMap.holds_of_text {files : Files} {path text : String} (htext : files.text path = .ok text)
    (h : HoldsEntries separator entries text.toList) (hseparator : IsPlainChar separator)
    (hentries : ∀ e ∈ entries, IsPlainEntry separator e) :
    (LookupMap.file { path := path, separator := separator }).Holds files entries := by
  have hload : FileMap.load files { path := path, separator := separator } = .ok entries := by
    rw [load]
    dsimp only
    rw [htext]
    exact congrArg Except.ok (h.entriesOfRows_eq hseparator hentries)
  exact ⟨_, by rw [opened]; dsimp only; rw [hload]; rfl⟩

end RecordFix
