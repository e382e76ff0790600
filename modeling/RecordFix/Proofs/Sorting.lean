import Mathlib.Data.List.Lex
import RecordFix.Proofs.Totals

/-!
# Sorting a list

A list is sorted by a key if it is in the order of the keys and items of equal key are in the order in which they were
(`SortsStably`). Texts are sorted by their code points, or by the integers that they are; an item that is no integer
ends the command, and the error names the first one (`Method.sortNumerically_eq_error`). Repetitions are dropped before
the list is sorted (`Method.distinct_eq_eraseDups`), and it is reversed afterwards (`Method.run_sortField`).
-/

namespace RecordFix

open RecordFix.Action RecordFix.Text

/-- Whether a list is another one in the order of a key, with items of equal key in the order in which they were. -/
structure SortsStably {α κ : Type} [LinearOrder κ] (key : α → κ) (before after : List α) : Prop where
  perm : after.Perm before
  sorted : after.Pairwise fun a b => key a ≤ key b
  stable : ∀ k, after.filter (key · = k) = before.filter (key · = k)

/-- Items of one key are in order where they stand, and a merge sort keeps what is in order. -/
theorem sortsStably_mergeSort {α κ : Type} [LinearOrder κ] (key : α → κ) (xs : List α) :
    SortsStably key xs (xs.mergeSort fun a b => key a ≤ key b) := by
  let le : α → α → Bool := fun a b => key a ≤ key b
  have htrans : ∀ a b c, le a b = true → le b c = true → le a c = true := by
    intro a b c hab hbc
    exact decide_eq_true ((of_decide_eq_true hab).trans (of_decide_eq_true hbc))
  have htotal : ∀ a b, (le a b || le b a) = true := by
    intro a b
    rw [Bool.or_eq_true, decide_eq_true_eq, decide_eq_true_eq]
    exact le_total (key a) (key b)
  have hperm : (xs.mergeSort le).Perm xs := List.mergeSort_perm xs le
  refine ⟨hperm, ?_, fun k => ?_⟩
  · exact (List.pairwise_mergeSort htrans htotal xs).imp of_decide_eq_true
  · let ofKey := xs.filter (key · = k)
    have hkey : ∀ a ∈ ofKey, key a = k := fun a ha => of_decide_eq_true (List.mem_filter.1 ha).2
    have hordered : ofKey.Pairwise fun a b => le a b = true := by
      refine List.pairwise_of_forall_mem_list fun a ha b hb => ?_
      exact decide_eq_true (by rw [hkey a ha, hkey b hb])
    have hsub : ofKey.Sublist (xs.mergeSort le) := List.sublist_mergeSort htrans htotal hordered List.filter_sublist
    have hall : ofKey.filter (key · = k) = ofKey := List.filter_eq_self.2 fun a ha => decide_eq_true (hkey a ha)
    have hkept : ofKey.Sublist ((xs.mergeSort le).filter (key · = k)) := hall ▸ hsub.filter (key · = k)
    exact (hkept.eq_of_length (hperm.filter _).length_eq.symm).symm

/-! ### The orders -/

/-- The code points of a text, by which texts are compared. -/
def codePoints (t : String) : List Nat := t.toList.map Char.toNat

theorem le_iff_codePoints_le (t u : String) : t ≤ u ↔ codePoints t ≤ codePoints u := by
  have hchars : ∀ c d : Char, c < d → c.toNat < d.toNat := fun _ _ h => h
  have hlt : ∀ {t u : String}, t < u → codePoints t < codePoints u := fun h =>
    List.map_lt hchars (String.lt_iff_toList_lt.1 h)
  constructor
  · intro hle
    rcases hle.lt_or_eq with h | rfl
    · exact (hlt h).le
    · exact le_refl _
  · intro hle
    by_contra hnot
    exact absurd hle (not_le.2 (hlt (not_le.1 hnot)))

namespace Method

variable {command : String} {ts : List String} {key : String → Int}

theorem mergeSort_texts (ts : List String) :
    ts.mergeSort (· ≤ ·) = ts.mergeSort fun t u => codePoints t ≤ codePoints u := by
  congr 1
  funext t u
  exact decide_eq_decide.2 (le_iff_codePoints_le t u)

/-- Texts that are integers are sorted as such. -/
theorem sortNumerically_eq_ok (hkey : ∀ t ∈ ts, (Value.ofString t).integer? = some (key t)) :
    sortNumerically command ts = .ok (ts.mergeSort fun t u => key t ≤ key u) := by
  let withKey (t : String) : Int × String := (key t, t)
  have hkeyed : (ts.mapM fun t => do return (← readInteger command t, t) : Except FixError _) =
      .ok (ts.map withKey) := by
    refine mapM_eq_ok fun t ht => ?_
    rw [readInteger_eq_ok (v := .ofString t) rfl (hkey t ht)]
    rfl
  have hsorted : (ts.map withKey).mergeSort (fun a b => a.1 ≤ b.1) =
      (ts.mergeSort fun t u => key t ≤ key u).map withKey :=
    (List.map_mergeSort (f := withKey) fun t _ u _ => rfl).symm
  rw [sortNumerically, hkeyed]
  show Except.ok (((ts.map withKey).mergeSort fun a b => a.1 ≤ b.1).map (·.2)) = _
  rw [hsorted, List.map_map]
  exact congrArg Except.ok (List.map_id _)

/-- The first text that is no integer is the end. -/
theorem sortNumerically_eq_error (h : ∃ t ∈ ts, (Value.ofString t).integer? = none) :
    ∃ before t after e, ts = before ++ t :: after ∧ (∀ u ∈ before, (Value.ofString u).integer?.isSome) ∧
      parseInt64 (Text.trim t) = .error e ∧
      sortNumerically command ts = .error (.execution command (.notInteger t e)) := by
  let isInteger (t : String) : Bool := (Value.ofString t).integer?.isSome
  cases hrest : ts.dropWhile isInteger with
  | nil =>
    obtain ⟨t, ht, hnone⟩ := h
    have hall := List.dropWhile_eq_nil_iff.1 hrest t ht
    simp only [isInteger, hnone] at hall
    cases hall
  | cons t after =>
    have hsplit : ts = ts.takeWhile isInteger ++ t :: after := by rw [← hrest, List.takeWhile_append_dropWhile]
    have hbefore : ∀ u ∈ ts.takeWhile isInteger, isInteger u = true := fun u hu =>
      List.mem_takeWhile_imp hu
    have hnone : (Value.ofString t).integer? = none := by
      have hnot := List.head?_dropWhile_not isInteger ts
      rw [hrest] at hnot
      simpa [isInteger] using hnot
    obtain ⟨e, hparse, hread⟩ := readInteger_eq_error (v := .ofString t) rfl hnone
    refine ⟨ts.takeWhile isInteger, t, after, e, hsplit, hbefore, hparse, ?_⟩
    rw [hsplit, sortNumerically, mapM_eq_error (e := .execution command (.notInteger t e))]
    · rfl
    · intro u hu
      obtain ⟨n, hn⟩ := Option.isSome_iff_exists.1 (hbefore u hu)
      rw [readInteger_eq_ok (v := .ofString u) rfl hn]
      exact ⟨(n, u), rfl⟩
    · rw [hread]
      rfl

/-! ### Repetitions -/

/-- Texts that were seen do not count, and of the others the first occurrences stay. -/
theorem distinct_eq_eraseDups (seen ts : List String) :
    distinct (· == ·) seen ts = (ts.filter fun t => !seen.contains t).eraseDups := by
  induction ts generalizing seen with
  | nil => rfl
  | cons t ts ih =>
    have htest : seen.any (· == t) = seen.contains t := by
      rw [List.contains_eq_any_beq, List.any_congr rfl fun _ => BEq.comm]
    rw [distinct, htest, List.filter_cons]
    cases hseen : seen.contains t with
    | true => simpa [hseen] using ih seen
    | false =>
      have hboth : ((ts.filter fun u => !seen.contains u).filter fun u => !u == t) =
          ts.filter fun u => !(seen ++ [t]).contains u := by
        rw [List.filter_filter]
        refine List.filter_congr fun u _ => ?_
        simp [Bool.and_comm, beq_eq_decide]
      rw [if_neg Bool.false_ne_true, Bool.not_false, if_pos rfl, ih, List.eraseDups_cons, hboth]

/-! ### The command -/

variable {included : List Expression → Action Unit} {options : Options} {s : Session} {field : String}
  {items : List Value} {o : Option String}

private theorem run_sortField_eq (hnd : s.record.fields.keys.Nodup) (hplain : Glob.isPattern field = false)
    (hfield : s.record.fields.get? field = some (.array items o)) (htexts : items.map Value.text? = ts.map some) :
    let kept := if flag options "uniq" then ts.eraseDups else ts
    (sortField included [field] options).run s =
      match (if flag options "numeric" then sortNumerically "sort_field" kept else .ok (kept.mergeSort (· ≤ ·))) with
      | .ok sorted => (.ok (), { s with
          record := s.record.put field (textArray (if flag options "reverse" then sorted.reverse else sorted)) })
      | .error e => (.error e, s) := by
  intro kept
  have hneed : sortField included [field] options = changeValue field _ := need_param_bind _
  have hkept : distinct (· == ·) [] ts = ts.eraseDups := by
    rw [distinct_eq_eraseDups, List.filter_eq_self.2]
    exact fun t _ => rfl
  rw [hneed, run_changeValue hnd hplain hfield]
  dsimp only
  rw [textsOf_eq_ok htexts]
  simp only [bind, Except.bind, hkept]
  cases flag options "numeric" with
  | false => rfl
  | true =>
    simp only [↓reduceIte]
    cases sortNumerically "sort_field" kept <;> rfl

/-- A list of texts is sorted stably, by code points or, with the flag, by the integers that the texts are; of equal
texts only the first is kept if this is asked for, and the list is reversed in the end if this is. If a text that is
kept is no integer, nothing happens but an execution error that names the first such text. -/
theorem run_sortField (hnd : s.record.fields.keys.Nodup) (hplain : Glob.isPattern field = false)
    (hfield : s.record.fields.get? field = some (.array items o)) (htexts : items.map Value.text? = ts.map some) :
    let kept := if flag options "uniq" then ts.eraseDups else ts
    let run := (sortField included [field] options).run s
    let holding (sorted : List String) : Session :=
      { s with record := s.record.put field (textArray (if flag options "reverse" then sorted.reverse else sorted)) }
    (flag options "numeric" = false → ∃ sorted, SortsStably codePoints kept sorted ∧ run = (.ok (), holding sorted)) ∧
      (flag options "numeric" = true → ∀ key : String → Int,
        (∀ t ∈ kept, (Value.ofString t).integer? = some (key t)) →
          ∃ sorted, SortsStably key kept sorted ∧ run = (.ok (), holding sorted)) ∧
      (flag options "numeric" = true → (∃ t ∈ kept, (Value.ofString t).integer? = none) →
        ∃ before t after e, kept = before ++ t :: after ∧ (∀ u ∈ before, (Value.ofString u).integer?.isSome) ∧
          parseInt64 (Text.trim t) = .error e ∧ run = (.error (.execution "sort_field" (.notInteger t e)), s)) := by
  intro kept run holding
  have hrun : run = _ := run_sortField_eq hnd hplain hfield htexts
  refine ⟨fun hnumeric => ?_, fun hnumeric key hkey => ?_, fun hnumeric hnone => ?_⟩
  · refine ⟨kept.mergeSort fun t u => codePoints t ≤ codePoints u, sortsStably_mergeSort codePoints kept, ?_⟩
    rw [hrun, hnumeric, if_neg Bool.false_ne_true, mergeSort_texts]
  · refine ⟨kept.mergeSort fun t u => key t ≤ key u, sortsStably_mergeSort key kept, ?_⟩
    rw [hrun, hnumeric, if_pos rfl, sortNumerically_eq_ok hkey]
  · obtain ⟨before, t, after, e, hsplit, hbefore, hparse, herror⟩ :=
      @sortNumerically_eq_error "sort_field" kept hnone
    refine ⟨before, t, after, e, hsplit, hbefore, hparse, ?_⟩
    rw [hrun, hnumeric, if_pos rfl, herror]

/-- Texts that are equal numbers, with signs and blanks, are kept apart and in their order, which is turned in the end;
the second `-2` is dropped. -/
theorem run_sortField_equal_numbers :
    let ts := ["10", "01", "-2", " 1", "1", "-2"]
    let s : Session := { record := .ofFields ⟨[("n", textArray ts)], none⟩ }
    let options := [("numeric", "true"), ("reverse", "TRUE"), ("uniq", "true")]
    let key (t : String) : Int := (Value.ofString t).integer?.getD 0
    let run := (sortField (fun _ => pure ()) ["n"] options).run s
    let holding (sorted : List String) : Session := { s with record := s.record.put "n" (textArray sorted.reverse) }
    ∃ items o, s.record.fields.keys.Nodup ∧ Glob.isPattern "n" = false ∧
      s.record.fields.get? "n" = some (.array items o) ∧ items.map Value.text? = ts.map some ∧
      flag options "numeric" = true ∧ (∀ t ∈ ts.eraseDups, (Value.ofString t).integer? = some (key t)) ∧
      ∃ sorted, SortsStably key ts.eraseDups sorted ∧ run = (.ok (), holding sorted) := by
  intro ts s options key run holding
  have hnd : s.record.fields.keys.Nodup := by decide
  have htexts : (Value.rebaseItems none 1 (ts.map Value.ofString)).map Value.text? = ts.map some := by decide
  have hkey : ∀ t ∈ ts.eraseDups, (Value.ofString t).integer? = some (key t) := by decide +kernel
  have hflags : flag options "numeric" = true ∧ flag options "reverse" = true ∧ flag options "uniq" = true := by
    decide +kernel
  obtain ⟨hnumeric, hreverse, huniq⟩ := hflags
  have hplain : Glob.isPattern "n" = false := by decide
  have hrun := @run_sortField ts (fun _ => pure ()) options s "n" _ none hnd hplain rfl htexts
  simp only [hnumeric, hreverse, huniq, if_true] at hrun
  exact ⟨_, none, hnd, hplain, rfl, htexts, hnumeric, hkey, hrun.2.1 trivial key hkey⟩

end Method

end RecordFix
