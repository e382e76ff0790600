import RecordFix.Proofs.Canonical
import RecordFix.Proofs.LiteralPatterns
import RecordFix.Proofs.Searching
import RecordFix.Proofs.WholeValues

/-!
# Splitting at a separator

A separator without signs is found where it stands, and the next match begins where the last one ended. So the pieces of
a text, joined by the separator, are the text again (`Pattern.intercalate_split`), and pieces that have nothing of the
separator in them are found again in the text that they are joined to (`Pattern.split_intercalate`). The commands undo
each other therefore, as long as the separator is not too large for a pattern (`Method.run_split_join`).
-/

namespace RecordFix

open RecordFix.Action RecordFix.Text

namespace Pattern

open Program

variable {sep chars piece rest : List Char} {c : Char} {place i : Nat} {m : Match}

/-! ### Searching -/

theorem search?_literal_eq_some (hplace : place ≤ chars.length)
    (h : (Regex.literal sep).program.search? chars.toArray place = some m) :
    place ≤ m.start ∧ m.stop = m.start + sep.length ∧ sep <+: chars.drop m.start ∧
      ∀ i, place ≤ i → i < m.start → ¬ sep <+: chars.drop i := by
  obtain ⟨-, hstart, -, hspans, hfirst⟩ := Regex.spans_of_search? (by simpa using hplace) h
  obtain ⟨hstands, hstop⟩ := Regex.spans_literal.1 hspans
  exact ⟨hstart, hstop.symm, hstands, fun i hi hlt hi' => hfirst i hi hlt _ (Regex.spans_literal.2 ⟨hi', rfl⟩)⟩

theorem search?_literal_eq_none (hne : sep ≠ [])
    (h : (Regex.literal sep).program.search? chars.toArray place = none) (hi : place ≤ i) :
    ¬ sep <+: chars.drop i := by
  intro hstands
  have hlt : i < chars.length := by
    by_contra hle
    rw [List.drop_eq_nil_of_le (Nat.not_lt.1 hle)] at hstands
    exact hne (List.prefix_nil.1 hstands)
  exact Regex.not_spans_of_search? h hi (by simpa using hlt.le) (Regex.spans_literal.2 ⟨hstands, rfl⟩)

/-- A match is not empty, so the next one is the first from its end on. -/
theorem searchAfter?_literal (hne : sep ≠ []) (hplace : place ≤ chars.length) :
    (Regex.literal sep).program.searchAfter? chars.toArray place =
      (Regex.literal sep).program.search? chars.toArray place := by
  rw [searchAfter?]
  split
  · rename_i m hm
    obtain ⟨hstart, hstop, -, -⟩ := search?_literal_eq_some hplace hm
    have hpos := List.length_pos_iff.2 hne
    rw [if_neg (by omega), hm]
  · rename_i hnone
    exact hnone.symm

/-- The matches after the beginning are all matches. -/
theorem allMatches_literal (hne : sep ≠ []) (chars : List Char) :
    (Regex.literal sep).program.allMatches chars.toArray =
      (Regex.literal sep).program.matchesAfter chars.toArray (chars.length + 2) 0 := by
  rw [allMatches, matchesAfter, searchAfter?_literal hne (Nat.zero_le _), List.size_toArray]

/-! ### Pieces -/

theorem charsBetween_toArray (chars : List Char) (start stop : Nat) :
    charsBetween chars.toArray start stop = (chars.drop start).take (stop - start) := by
  rw [charsBetween, Array.toList_extract, List.extract_eq_take_drop]

theorem charsBetween_end (chars : List Char) (start : Nat) :
    charsBetween chars.toArray start chars.toArray.size = chars.drop start := by
  rw [charsBetween_toArray, List.size_toArray, ← List.length_drop, List.take_length]

theorem piecesBetween_ne_nil (text : Array Char) (place : Nat) (ms : List Match) :
    piecesBetween text place ms ≠ [] := by
  cases ms with
  | nil => exact List.cons_ne_nil _ _
  | cons m ms => exact List.cons_ne_nil _ _

/-- The pieces from a place on and the separators between them are what follows the place. -/
theorem intercalate_piecesBetween (hne : sep ≠ []) (count : Nat) (hplace : place ≤ chars.length) :
    sep.intercalate (piecesBetween chars.toArray place
      ((Regex.literal sep).program.matchesAfter chars.toArray count place)) = chars.drop place := by
  induction count generalizing place with
  | zero => rw [matchesAfter, piecesBetween, List.intercalate_singleton, charsBetween_end]
  | succ count ih =>
    rw [matchesAfter, searchAfter?_literal hne hplace]
    cases hsearch : (Regex.literal sep).program.search? chars.toArray place with
    | none =>
      dsimp only
      rw [piecesBetween, List.intercalate_singleton, charsBetween_end]
    | some m =>
      obtain ⟨hstart, hstop, ⟨after, hafter⟩, -⟩ := search?_literal_eq_some hplace hsearch
      have hrest : after = chars.drop m.stop := by rw [hstop, ← List.drop_drop, ← hafter, List.drop_left]
      have hlength := congrArg List.length hafter
      rw [List.length_append, List.length_drop] at hlength
      have hpos := List.length_pos_iff.2 hne
      have hbefore : (chars.drop place).take (m.start - place) ++ chars.drop m.start = chars.drop place := by
        rw [show m.start = place + (m.start - place) by omega, ← List.drop_drop, Nat.add_sub_cancel_left,
          List.take_append_drop]
      dsimp only
      rw [piecesBetween, List.intercalate_cons_of_ne_nil (piecesBetween_ne_nil _ _ _), ih (by omega),
        charsBetween_toArray, ← hrest, List.append_assoc, hafter, hbefore]

/-- The separator does not begin in a piece that has not its first character. -/
private theorem not_prefix_of_not_mem (hc : c ∉ piece) (hdrop : chars.drop place = piece ++ rest) (hi : place ≤ i)
    (hlt : i < place + piece.length) : ¬ c :: sep <+: chars.drop i := by
  intro hstands
  obtain ⟨after, hafter, -⟩ := List.cons_prefix_iff.1 hstands
  have hat : (chars.drop place)[i - place]? = some c := by
    rw [List.getElem?_drop, Nat.add_sub_cancel' hi]
    exact (Regex.drop_eq_cons_iff.1 hafter).1
  rw [hdrop, List.getElem?_append_left (by omega)] at hat
  exact hc (List.mem_of_getElem? hat)

theorem search?_last_piece (hc : c ∉ chars.drop place) (hplace : place ≤ chars.length) :
    (Regex.literal (c :: sep)).program.search? chars.toArray place = none := by
  cases hsearch : (Regex.literal (c :: sep)).program.search? chars.toArray place with
  | none => rfl
  | some m =>
    obtain ⟨hstart, -, hstands, -⟩ := search?_literal_eq_some hplace hsearch
    have hlength := hstands.length_le
    rw [List.length_drop, List.length_cons] at hlength
    have hbefore : m.start < place + (chars.drop place).length := by
      rw [List.length_drop]
      omega
    exact absurd hstands (not_prefix_of_not_mem hc (List.append_nil _).symm hstart hbefore)

/-- The first match is the separator after the first piece. -/
theorem search?_next_piece (hc : c ∉ piece) (hplace : place ≤ chars.length)
    (hdrop : chars.drop place = piece ++ (c :: sep ++ rest)) :
    ∃ m, (Regex.literal (c :: sep)).program.search? chars.toArray place = some m ∧ m.start = place + piece.length ∧
      m.stop ≤ chars.length ∧ chars.drop m.stop = rest := by
  have hthere : c :: sep <+: chars.drop (place + piece.length) := by
    rw [← List.drop_drop, hdrop, List.drop_left]
    exact List.prefix_append _ _
  cases hsearch : (Regex.literal (c :: sep)).program.search? chars.toArray place with
  | none => exact absurd hthere (search?_literal_eq_none (List.cons_ne_nil _ _) hsearch (Nat.le_add_right _ _))
  | some m =>
    obtain ⟨hstart, hstop, hstands, hfirst⟩ := search?_literal_eq_some hplace hsearch
    have hmatch : m.start = place + piece.length := by
      rcases Nat.lt_trichotomy m.start (place + piece.length) with hlt | heq | hgt
      · exact absurd hstands (not_prefix_of_not_mem hc hdrop hstart hlt)
      · exact heq
      · exact absurd hthere (hfirst _ (Nat.le_add_right _ _) hgt)
    have hlength := hstands.length_le
    rw [List.length_drop] at hlength
    refine ⟨m, rfl, hmatch, ?_, ?_⟩
    · rw [List.length_cons] at hlength hstop
      omega
    · rw [hstop, hmatch, ← List.drop_drop, ← List.drop_drop, hdrop, List.drop_left, List.drop_left]

/-- Pieces without the first character of the separator are found again. -/
theorem piecesBetween_intercalate {pieces : List (List Char)} (hne : pieces ≠ []) (hpieces : ∀ p ∈ pieces, c ∉ p)
    (hplace : place ≤ chars.length) (hdrop : chars.drop place = (c :: sep).intercalate pieces) {count : Nat}
    (hcount : pieces.length ≤ count + 1) :
    piecesBetween chars.toArray place
      ((Regex.literal (c :: sep)).program.matchesAfter chars.toArray count place) = pieces := by
  induction pieces generalizing place count with
  | nil => exact absurd rfl hne
  | cons p pieces ih =>
    rw [List.forall_mem_cons] at hpieces
    obtain ⟨hp, hpieces⟩ := hpieces
    cases pieces with
    | nil =>
      rw [List.intercalate_singleton] at hdrop
      have hnone : (Regex.literal (c :: sep)).program.matchesAfter chars.toArray count place = [] := by
        cases count with
        | zero => rfl
        | succ count =>
          rw [matchesAfter, searchAfter?_literal (List.cons_ne_nil _ _) hplace, search?_last_piece (hdrop ▸ hp) hplace]
      rw [hnone, piecesBetween, charsBetween_end, hdrop]
    | cons q pieces =>
      rw [List.intercalate_cons_cons, List.append_assoc] at hdrop
      cases count with
      | zero => simp at hcount
      | succ count =>
        obtain ⟨m, hsearch, hstart, hstop, hrest⟩ := search?_next_piece hp hplace hdrop
        rw [matchesAfter, searchAfter?_literal (List.cons_ne_nil _ _) hplace, hsearch]
        dsimp only
        rw [piecesBetween, charsBetween_toArray, hstart, Nat.add_sub_cancel_left, hdrop, List.take_left,
          ih (List.cons_ne_nil _ _) hpieces hstop hrest (by simpa using hcount)]

private theorem length_le_length_intercalate (c : Char) (sep : List Char) (pieces : List (List Char)) :
    pieces.length ≤ ((c :: sep).intercalate pieces).length + 1 := by
  induction pieces with
  | nil => exact Nat.zero_le _
  | cons p pieces ih =>
    cases pieces with
    | nil => simp
    | cons q pieces =>
      rw [List.intercalate_cons_cons]
      simp only [List.length_append, List.length_cons] at ih ⊢
      omega

/-! ### Texts -/

variable {separator : String}

/-- The pattern of a separator. -/
def ofSeparator (separator : String) : Pattern := ⟨(Regex.literal separator.toList).program, []⟩

theorem parse?_separator (hne : separator ≠ "") (hsigns : ∀ c ∈ separator.toList, c ∉ signs) :
    parse? separator = if separator.utf8ByteSize ≤ byteLimit then some (ofSeparator separator) else none := by
  have hlength : String.utf8Len separator.toList = separator.utf8ByteSize := by
    rw [← String.utf8ByteSize_ofList, String.ofList_toList]
  have hchars : separator.toList ≠ [] := by simpa using hne
  rw [parse?_literal hsigns, ← hlength]
  exact if_congr (Regex.fits_literal hchars) rfl rfl

theorem intercalate_split (hne : separator ≠ "") (text : String) :
    separator.intercalate ((ofSeparator separator).split text) = text := by
  have hchars : separator.toList ≠ [] := by simpa using hne
  rw [← String.toList_inj, String.toList_intercalate, split, List.map_map]
  simp only [Function.comp_def, String.toList_ofList, List.map_id']
  rw [ofSeparator, allMatches_literal hchars, intercalate_piecesBetween hchars _ (Nat.zero_le _), List.drop_zero]

theorem split_intercalate {texts : List String} (hne : separator ≠ "") (htexts : texts ≠ [])
    (h : ∀ t ∈ texts, ∀ c ∈ separator.toList, c ∉ t.toList) :
    (ofSeparator separator).split (separator.intercalate texts) = texts := by
  cases hsep : separator.toList with
  | nil => exact absurd (by simpa using hsep) hne
  | cons c cs =>
    have hpieces : ∀ p ∈ texts.map String.toList, c ∉ p := by
      intro p hp
      obtain ⟨t, ht, rfl⟩ := List.mem_map.1 hp
      exact h t ht c (hsep ▸ List.mem_cons_self)
    have hcount := length_le_length_intercalate c cs (texts.map String.toList)
    rw [split, ofSeparator, hsep, String.toList_intercalate, hsep, allMatches_literal (List.cons_ne_nil _ _),
      piecesBetween_intercalate (by simpa using htexts) hpieces (Nat.zero_le _) List.drop_zero (by omega), List.map_map]
    simp [Function.comp_def]

end Pattern

/-! ### The commands -/

/-- Texts in an array, without their origins. -/
theorem Value.bareItems_of_texts {items : List Value} {ts : List String} (h : items.map text? = ts.map some) :
    bareItems items = ts.map ofString := by
  induction items generalizing ts with
  | nil =>
    rw [List.map_eq_nil_iff.1 h.symm]
    rfl
  | cons v vs ih =>
    cases ts with
    | nil => cases h
    | cons t ts =>
      rw [List.map_cons, List.map_cons, List.cons.injEq] at h
      cases v with
      | string u o =>
        cases h.1
        rw [bareItems, ih h.2]
        rfl
      | array xs o => cases h.1
      | hash fs o => cases h.1

namespace Method

variable {included : List Expression → Action Unit} {options options' : Options} {s : Session}
  {field separator : String}

theorem run_splitField_of_large (hne : separator ≠ "") (hsigns : ∀ c ∈ separator.toList, c ∉ Pattern.signs)
    (hlarge : Pattern.byteLimit < separator.utf8ByteSize) :
    (splitField included [field, separator] options).run s = (.error (.invalidPattern separator), s) := by
  have hcompile : compilePattern separator = .error (.invalidPattern separator) := by
    rw [compilePattern, Pattern.parse?_separator hne hsigns, if_neg (Nat.not_le.2 hlarge)]
  have hneed : splitField included [field, separator] options = need (compilePattern separator) >>= _ :=
    need_param_bind _
  rw [hneed, hcompile]
  rfl

/-- What splitting does to texts, and joining to an array of texts. -/
private theorem splitField_eq (included : List Expression → Action Unit) (field : String) (options : Options)
    (hne : separator ≠ "") (hsigns : ∀ c ∈ separator.toList, c ∉ Pattern.signs)
    (hsize : separator.utf8ByteSize ≤ Pattern.byteLimit) :
    ∃ change, splitField included [field, separator] options = changeValue field change ∧
      ∀ t o, change (.string t o) = .ok (textArray ((Pattern.ofSeparator separator).split t)) := by
  have hcompile : compilePattern separator = .ok (Pattern.ofSeparator separator) := by
    rw [compilePattern, Pattern.parse?_separator hne hsigns, if_pos hsize]
  have hneed : splitField included [field, separator] options = need (compilePattern separator) >>= _ :=
    need_param_bind _
  rw [hneed, hcompile, need_ok, pure_bind]
  exact ⟨_, rfl, fun t o => rfl⟩

private theorem joinField_eq (included : List Expression → Action Unit) (field separator : String)
    (options : Options) :
    ∃ change, joinField included [field, separator] options = changeValue field change ∧
      ∀ items o ts, items.map Value.text? = ts.map some →
        change (.array items o) = .ok (Value.ofString (separator.intercalate ts)) := by
  refine ⟨_, need_param_bind _, fun items o ts htexts => ?_⟩
  dsimp only
  rw [textsOf_eq_ok htexts]
  rfl

/-- A text is split at a separator without signs, and joining the pieces gives the text back. Texts that have nothing of
the separator in them are joined, and splitting gives them back. A separator that is too large for a pattern is
refused. -/
theorem run_split_join {v : Value} (hnd : s.record.fields.keys.Nodup) (hplain : Glob.isPattern field = false)
    (hfield : s.record.fields.get? field = some v) (hne : separator ≠ "")
    (hsigns : ∀ c ∈ separator.toList, c ∉ Pattern.signs) :
    let split := splitField included [field, separator]
    let join := joinField included [field, separator]
    let holding (w : Value) : Session := { s with record := s.record.put field w }
    (separator.utf8ByteSize ≤ Pattern.byteLimit →
        (∀ t o, v = .string t o →
          ∃ w, (split options >>= fun _ => join options').run s = (.ok (), holding w) ∧ w.bare = v.bare) ∧
        ∀ items o ts, v = .array items o → items.map Value.text? = ts.map some → ts ≠ [] →
          (∀ t ∈ ts, ∀ c ∈ separator.toList, c ∉ t.toList) →
            ∃ w, (join options >>= fun _ => split options').run s = (.ok (), holding w) ∧ w.bare = v.bare) ∧
      (Pattern.byteLimit < separator.utf8ByteSize →
        (split options).run s = (.error (.invalidPattern separator), s)) := by
  intro split join holding
  refine ⟨fun hsize => ⟨?_, ?_⟩, run_splitField_of_large hne hsigns⟩
  · rintro t o rfl
    obtain ⟨splitting, hsplit, htext⟩ := splitField_eq included field options hne hsigns hsize
    obtain ⟨joining, hjoin, hitems⟩ := joinField_eq included field separator options'
    let pieces := (Pattern.ofSeparator separator).split t
    have htexts : ∀ p q, (Value.rebaseItems p 1 (Value.rebaseItems q 1 (pieces.map Value.ofString))).map Value.text? =
        pieces.map some := fun p q => by simp [Function.comp_def, Value.ofString, Value.text?]
    refine ⟨.ofString t, ?_, rfl⟩
    simp only [split, join, hsplit, hjoin]
    refine run_changeValue_twice hnd hplain hfield (htext t o) ((hitems _ _ pieces (htexts _ _)).trans ?_)
    rw [Pattern.intercalate_split hne]
  · rintro items o ts rfl htexts hts hnone
    obtain ⟨splitting, hsplit, htext⟩ := splitField_eq included field options' hne hsigns hsize
    obtain ⟨joining, hjoin, hitems⟩ := joinField_eq included field separator options
    refine ⟨textArray ts, ?_, ?_⟩
    · simp only [split, join, hsplit, hjoin]
      refine run_changeValue_twice hnd hplain hfield (hitems items o ts htexts) ((htext _ _).trans ?_)
      rw [Pattern.split_intercalate hne hts hnone]
    · have hback : Value.bareItems (ts.map Value.ofString) = Value.bareItems items := by
        rw [Value.bareItems_of_texts htexts]
        exact Value.bareItems_of_texts (by simp [Function.comp_def, Value.ofString, Value.text?])
      rw [textArray, Value.ofList, Value.bare, Value.bareItems_rebaseItems, hback, Value.bare]

private theorem forall_mem_of_all {α : Type} {xs : List α} {P : α → Prop} [DecidablePred P]
    (h : xs.all (P ·) = true) : ∀ x ∈ xs, P x :=
  fun x hx => of_decide_eq_true (List.all_eq_true.1 h x hx)

/-- A separator that may overlap itself, with empty pieces at both ends; a bracket and a hash sign are no signs. -/
theorem run_split_join_overlapping :
    let text := "]#]]#]#]a]#]"
    let texts := ["", "b#", ""]
    let s : Session := { record := .ofFields ⟨[("t", .ofString text), ("l", textArray texts)], none⟩ }
    let split (field separator : String) := splitField (fun _ => pure ()) [field, separator] []
    let join (field separator : String) := joinField (fun _ => pure ()) [field, separator] []
    (∃ v w, s.record.fields.get? "t" = some v ∧ (split "t" "]#]" >>= fun _ => join "t" "]#]").run s =
        (.ok (), { s with record := s.record.put "t" w }) ∧ w.bare = v.bare) ∧
      ∃ v w, s.record.fields.get? "l" = some v ∧ (join "l" "]-]" >>= fun _ => split "l" "]-]").run s =
        (.ok (), { s with record := s.record.put "l" w }) ∧ w.bare = v.bare := by
  intro text texts s split join
  have hnd : s.record.fields.keys.Nodup := by decide
  have htext : Glob.isPattern "t" = false := by decide
  have hlist : Glob.isPattern "l" = false := by decide
  have hsharp : ∀ c ∈ "]#]".toList, c ∉ Pattern.signs := forall_mem_of_all (by decide)
  have hdash : ∀ c ∈ "]-]".toList, c ∉ Pattern.signs := forall_mem_of_all (by decide)
  have hnone : ∀ t ∈ texts, ∀ c ∈ "]-]".toList, c ∉ t.toList := by
    simp only [texts, List.forall_mem_cons]
    exact ⟨forall_mem_of_all (by decide), forall_mem_of_all (by decide), forall_mem_of_all (by decide), nofun⟩
  obtain ⟨w, hrun, hback⟩ := ((run_split_join hnd htext rfl (by decide) hsharp).1 (by decide +kernel)).1 text _ rfl
  obtain ⟨w', hrun', hback'⟩ :=
    ((run_split_join hnd hlist rfl (by decide) hdash).1 (by decide +kernel)).2 _ _ texts rfl (by decide) (by decide)
      hnone
  exact ⟨⟨_, w, rfl, hrun, hback⟩, ⟨_, w', rfl, hrun', hback'⟩⟩

private theorem utf8Len_replicate (n : Nat) (c : Char) : String.utf8Len (List.replicate n c) = n * c.utf8Size := by
  induction n with
  | zero => exact (Nat.zero_mul _).symm
  | succ n ih => rw [List.replicate_succ, String.utf8Len, ih, Nat.succ_mul]

/-- A long separator is refused, and the text stays, although there is nothing to split. -/
theorem not_run_split_join_large :
    ¬ ∀ (included : List Expression → Action Unit) (options options' : Options) (s : Session)
        (field separator t : String) (o : Option String),
      s.record.fields.keys.Nodup → Glob.isPattern field = false →
      s.record.fields.get? field = some (.string t o) → separator ≠ "" →
      (∀ c ∈ separator.toList, c ∉ Pattern.signs) →
        ∃ w, (splitField included [field, separator] options >>= fun _ =>
            joinField included [field, separator] options').run s =
          (.ok (), { s with record := s.record.put field w }) ∧ w.bare = (Value.string t o).bare := by
  intro h
  let s : Session := { record := .ofFields ⟨[("n", .ofString "axb")], none⟩ }
  -- the length is kept apart from its value, which would be counted down otherwise
  obtain ⟨length, hlength⟩ : ∃ length, length = 400000 := ⟨_, rfl⟩
  let separator := String.ofList (List.replicate length 'x')
  have hsize : separator.utf8ByteSize = length := by
    rw [String.utf8ByteSize_ofList, utf8Len_replicate]
    exact Nat.mul_one length
  have hlarge : Pattern.byteLimit < separator.utf8ByteSize := by
    rw [hsize, hlength]
    decide
  have hne : separator ≠ "" := by
    intro hempty
    rw [hempty] at hlarge
    exact absurd hlarge (by decide)
  have hsigns : ∀ c ∈ separator.toList, c ∉ Pattern.signs := by
    intro c hc
    rw [String.toList_ofList] at hc
    rw [List.eq_of_mem_replicate hc]
    decide
  have hnd : s.record.fields.keys.Nodup := by decide
  have hplain : Glob.isPattern "n" = false := by decide
  obtain ⟨w, hrun, -⟩ := h (fun _ => pure ()) [] [] s "n" separator "axb" none hnd hplain rfl hne hsigns
  rw [run_bind, run_splitField_of_large hne hsigns hlarge] at hrun
  cases hrun

end Method

end RecordFix
