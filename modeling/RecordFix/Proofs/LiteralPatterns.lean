import Mathlib.Data.String.Basic
import RecordFix.Proofs.PatternReading

/-!
# Patterns that are a text

A text without signs is a pattern that reads its characters one after the other (`Pattern.parse?_literal`). It spans the
places between which the text stands (`Pattern.Regex.spans_literal`). Its automata have a state for each byte of the
text, so only the length of the text can be in the way (`Pattern.Regex.fits_literal`).
-/

namespace RecordFix.Pattern

open RecordFix.Text

variable {cs : List Char} {i j : Nat}

namespace Regex

/-- The expression for these characters, one after the other. -/
def literal (cs : List Char) : Regex := concat (cs.map fun c => one (Ranges.single c))

theorem spans_literal {chars : List Char} :
    (literal cs).Spans chars.toArray i j ↔ cs <+: chars.drop i ∧ i + cs.length = j := by
  rw [literal, spans_concat]
  induction cs generalizing i with
  | nil => simp [SpansAll]
  | cons c cs ih =>
    simp only [List.map_cons, SpansAll, spans_single, ih, List.cons_prefix_iff, drop_eq_cons_iff, List.length_cons]
    constructor
    · rintro ⟨k, ⟨hc, rfl⟩, hcs, rfl⟩
      exact ⟨⟨_, ⟨hc, rfl⟩, hcs⟩, by omega⟩
    · rintro ⟨⟨rest, ⟨hc, rfl⟩, hcs⟩, rfl⟩
      exact ⟨i + 1, ⟨hc, rfl⟩, hcs, by omega⟩

/-! ### Sizes -/

private theorem literal_eq_concatAll (cs : List Char) :
    literal cs = concatAll (cs.map fun c => one (Ranges.single c)) := by
  rw [literal, concat, List.filter_eq_self.2]
  intro r hr
  obtain ⟨c, -, rfl⟩ := List.mem_map.1 hr
  rfl

theorem places_literal (hne : cs ≠ []) : (literal cs).places = cs.length := by
  rw [literal_eq_concatAll]
  induction cs with
  | nil => exact absurd rfl hne
  | cons c cs ih =>
    cases cs with
    | nil => rfl
    | cons d cs =>
      have hrest := ih (List.cons_ne_nil _ _)
      rw [List.length_cons, ← hrest, Nat.add_comm]
      rfl

theorem size_literal (hne : cs ≠ []) : (literal cs).size = Size.both (stateSize * String.utf8Len cs) := by
  rw [literal_eq_concatAll]
  induction cs with
  | nil => exact absurd rfl hne
  | cons c cs ih =>
    have hc : (one (Ranges.single c)).size = Size.both (stateSize * c.utf8Size) := by rw [size_one, setSize_single]
    cases cs with
    | nil => simpa [concatAll, String.utf8Len] using hc
    | cons d cs =>
      have hcons : (concatAll ((c :: d :: cs).map fun c => one (Ranges.single c))).size =
          (one (Ranges.single c)).size + (concatAll ((d :: cs).map fun c => one (Ranges.single c))).size := rfl
      have hlength : String.utf8Len (c :: d :: cs) = c.utf8Size + String.utf8Len (d :: cs) := Nat.add_comm _ _
      rw [hcons, hc, ih (List.cons_ne_nil _ _), hlength, Nat.mul_add]
      rfl

private theorem utf8Len_le (cs : List Char) : String.utf8Len cs ≤ 4 * cs.length := by
  induction cs with
  | nil => exact Nat.le_refl 0
  | cons c cs ih =>
    have hc := c.utf8Size_le_four
    rw [String.utf8Len, List.length_cons]
    omega

theorem fits_literal (hne : cs ≠ []) : (literal cs).fits = true ↔ String.utf8Len cs ≤ byteLimit :=
  fits_iff_of_size_eq (size_literal hne) (by rw [places_literal hne]; exact utf8Len_le cs)

end Regex

/-! ### Reading -/

/-- The part for a character that stands for itself. -/
private def literalPart (c : Char) : Part := ⟨.one (Ranges.single c), 0⟩

private theorem reads_literals (h : ∀ c ∈ cs, c ∉ signs) (parts : List (Option Part)) :
    Reads { parts := parts } cs { parts := (cs.map fun c => some (literalPart c)).reverse ++ parts } [] := by
  induction cs generalizing parts with
  | nil => exact .refl _ _
  | cons c cs ih =>
    rw [List.forall_mem_cons] at h
    have hfirst : Reads { parts := parts } (c :: cs) { parts := some (literalPart c) :: parts } cs :=
      reads_literal h.1 rfl
    simpa using hfirst.trans (ih h.2 _)

private theorem regex_concat_literals (cs : List Char) :
    (Part.concat (cs.map fun c => some (literalPart c)).reverse).regex = Regex.literal cs := by
  have hfilter : (cs.map fun c => some (literalPart c)).filterMap id = cs.map literalPart := by
    rw [List.filterMap_map]
    simp
  unfold Part.concat
  split
  · rename_i h
    have hcs : cs = [] := by simpa using h
    rw [hcs]
    rfl
  · rename_i h
    have hmem : none ∈ (cs.map fun c => some (literalPart c)).reverse := by rw [h]; exact List.mem_cons_self
    simp at hmem
  · rename_i p h
    rcases cs with - | ⟨c, - | ⟨d, cs⟩⟩
    · cases h
    · cases h
      rfl
    · have hlength := congrArg List.length h
      simp at hlength
  · simp only [List.reverse_reverse, hfilter, List.map_map]
    rfl

private theorem depth_concat_literals (cs : List Char) :
    (Part.concat (cs.map fun c => some (literalPart c)).reverse).depth ≤ nestLimit := by
  refine Nat.le_trans (Part.depth_concat_le (n := 0) fun p hp => ?_) (by decide)
  obtain ⟨c, -, hc⟩ := List.mem_map.1 (List.mem_reverse.1 hp)
  rw [← Option.some.inj hc]
  exact Nat.le_refl 0

/-- A text without signs compiles to the pattern for itself, unless that is too large. -/
theorem parse?_literal {text : String} (h : ∀ c ∈ text.toList, c ∉ signs) :
    parse? text =
      if (Regex.literal text.toList).fits then some ⟨(Regex.literal text.toList).program, []⟩ else none := by
  have hread := reads_literals h []
  rw [List.append_nil] at hread
  rw [parse?_of_reads hread rfl rfl (depth_concat_literals _)]
  have hnames : namesLeft (Regex.literal text.toList) [] = [] := by simp [namesLeft]
  simp only [Reading.body, List.reverse_singleton, Part.choice, regex_concat_literals, List.reverse_nil, hnames]

end RecordFix.Pattern
