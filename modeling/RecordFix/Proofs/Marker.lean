import RecordFix.Event
import RecordFix.Settings

/-!
# The array marker

A name is marked when its characters end in the array marker (`isMarked_iff_suffix`). Adding the marker and taking it
away again gives the name (`unmarked?_append`), and a name that is made from a template is marked only if the template
is (`isMarked_memberName`).
-/

namespace RecordFix

private def markerChars : List Char := ['[', ']']

theorem unmarked?_eq_some_iff {name stem : String} : unmarked? name = some stem ↔ name = stem ++ arrayMarker := by
  have hm : arrayMarker.toList = ['[', ']'] := rfl
  unfold unmarked?
  split
  · rename_i cs heq
    have hname : name.toList = cs.reverse ++ ['[', ']'] := by
      rw [← List.reverse_reverse name.toList, heq]
      simp
    rw [Option.some.injEq]
    constructor
    · rintro rfl
      apply String.toList_inj.1
      rw [String.toList_append, String.toList_ofList, hname, hm]
    · rintro rfl
      rw [String.toList_append, hm] at hname
      rw [← List.append_cancel_right hname, String.ofList_toList]
  · rename_i hne
    constructor
    · intro h
      cases h
    · rintro rfl
      refine absurd ?_ (hne stem.toList.reverse)
      rw [String.toList_append, hm]
      simp

theorem unmarked?_append (stem : String) : unmarked? (stem ++ arrayMarker) = some stem :=
  unmarked?_eq_some_iff.2 rfl

theorem isMarked_append (stem : String) : isMarked (stem ++ arrayMarker) = true := by
  rw [isMarked, unmarked?_append]
  rfl

theorem isMarked_iff_suffix {name : String} : isMarked name = true ↔ markerChars <:+ name.toList := by
  rw [isMarked, Option.isSome_iff_exists]
  constructor
  · rintro ⟨stem, h⟩
    rw [unmarked?_eq_some_iff.1 h, String.toList_append]
    exact List.suffix_append _ _
  · rintro ⟨cs, h⟩
    refine ⟨String.ofList cs, unmarked?_eq_some_iff.2 (String.toList_inj.1 ?_)⟩
    rw [String.toList_append, String.toList_ofList, ← h]
    rfl

/-- The stem of a name, or else the name, tells names without the marker and with it apart. -/
theorem unmarked?_getD_append (stem : String) :
    (unmarked? (stem ++ arrayMarker)).getD (stem ++ arrayMarker) = stem := by
  rw [unmarked?_append]
  rfl

theorem unmarked?_getD_of_not {name : String} (h : isMarked name = false) : (unmarked? name).getD name = name := by
  rw [isMarked, Option.isSome_eq_false_iff, Option.isNone_iff_eq_none] at h
  rw [h]
  rfl

/-! ### Names from a template -/

private theorem suffix_of_suffix_append {digits cs : List Char} (h : '[' ∉ digits)
    (hs : markerChars <:+ digits ++ cs) : markerChars <:+ cs := by
  induction digits with
  | nil => exact hs
  | cons d digits ih =>
    rw [List.mem_cons, not_or] at h
    rw [List.cons_append, List.suffix_cons_iff] at hs
    rcases hs with hs | hs
    · exact absurd (List.cons.inj hs).1 h.1
    · exact ih h.2 hs

private theorem eq_of_fillNumber_eq_bracket {digits cs : List Char} (hne : digits ≠ []) (h : ']' ∉ digits)
    (hcs : Settings.fillNumber digits cs = [']']) : cs = [']'] := by
  have hnil : ∀ ds, Settings.fillNumber digits ds = [] → ds = [] := by
    intro ds hds
    fun_cases Settings.fillNumber digits ds with
    | case1 ds =>
      rw [Settings.fillNumber] at hds
      exact absurd (List.append_eq_nil_iff.1 hds).1 hne
    | case2 c ds hc =>
      rw [Settings.fillNumber] at hds
      · cases hds
      · exact hc
    | case3 => rfl
  fun_cases Settings.fillNumber digits cs with
  | case1 ds =>
    rw [Settings.fillNumber] at hcs
    obtain ⟨d, digits, rfl⟩ := List.exists_cons_of_ne_nil hne
    rw [List.cons_append] at hcs
    exact absurd (List.cons.inj hcs).1 (fun hd => h (hd ▸ List.mem_cons_self))
  | case2 c ds hc =>
    rw [Settings.fillNumber] at hcs
    · obtain ⟨rfl, hds⟩ := List.cons.inj hcs
      rw [hnil ds hds]
    · exact hc
  | case3 => cases hcs

/-- Digits in a template do not make a marker at its end. -/
private theorem suffix_of_suffix_fillNumber {digits : List Char} (hne : digits ≠ []) (ho : '[' ∉ digits)
    (hc : ']' ∉ digits) (cs : List Char) (hs : markerChars <:+ Settings.fillNumber digits cs) :
    markerChars <:+ cs := by
  fun_induction Settings.fillNumber digits cs with
  | case1 cs ih =>
    have hcs := ih (suffix_of_suffix_append ho hs)
    exact (hcs.trans (List.suffix_cons _ _)).trans (List.suffix_cons _ _)
  | case2 c cs hcs ih =>
    rw [List.suffix_cons_iff] at hs
    rcases hs with hs | hs
    · obtain ⟨rfl, hrest⟩ := List.cons.inj hs
      rw [eq_of_fillNumber_eq_bracket hne hc hrest.symm]
      exact List.suffix_refl _
    · exact (ih hs).trans (List.suffix_cons _ _)
  | case3 => exact hs

theorem isDigit_of_mem_toString {n : Nat} {c : Char} (h : c ∈ (toString n).toList) : c.isDigit = true := by
  rw [Nat.toString_eq_repr, Nat.toList_repr] at h
  exact Nat.isDigit_of_mem_toDigits (by omega) (by omega) h

private theorem toList_toString_ne_nil (n : Nat) : (toString n).toList ≠ [] := by
  rw [Nat.toString_eq_repr, Nat.toList_repr]
  exact Nat.toDigits_ne_nil

/-- The name of a member is marked only if the template is. -/
theorem isMarked_memberName {settings : Settings} (h : isMarked settings.memberTemplate = false) (position : Nat) :
    isMarked (settings.memberName position) = false := by
  have hdigit : ∀ c ∈ (toString (position + 1)).toList, c.isDigit = true := fun c => isDigit_of_mem_toString
  rw [Bool.eq_false_iff, Ne, isMarked_iff_suffix] at h ⊢
  intro hs
  rw [Settings.memberName, String.toList_ofList] at hs
  exact h (suffix_of_suffix_fillNumber (toList_toString_ne_nil _)
    (fun hm => absurd (hdigit _ hm) (by decide)) (fun hm => absurd (hdigit _ hm) (by decide)) _ hs)

/-- A number is no marked name. -/
theorem isMarked_toString (n : Nat) : isMarked (toString n) = false := by
  rw [Bool.eq_false_iff, Ne, isMarked_iff_suffix]
  intro hs
  have hm : '[' ∈ (toString n).toList := hs.subset (by decide)
  exact absurd (isDigit_of_mem_toString hm) (by decide)

end RecordFix
