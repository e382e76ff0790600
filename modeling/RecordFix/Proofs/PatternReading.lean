import RecordFix.Pattern.Parser
import RecordFix.Proofs.Spans

/-!
# Reading patterns step by step

`Pattern.Reads` leads from one place in the text of a pattern to another, whatever number of steps is left there, so
that the reading of a text is put together of the readings of its pieces; a reading that comes to the end gives the
pattern (`Pattern.parse?_of_reads`). A character is read as itself if it is quoted (`Pattern.reads_quoted`). What is
read is kept in parts, which span what their expressions do (`Pattern.Part.spans_concat`, `Pattern.Part.spans_choice`).
-/

namespace RecordFix.Pattern

open RecordFix.Text

variable {r r' r'' : Reading} {c : Char} {cs rest rest' : List Char}

/-! ### Reading step by step -/

/-- Reading goes on from one place of a text to another. -/
def Reads (r : Reading) (cs : List Char) (r' : Reading) (rest : List Char) : Prop :=
  ∀ fuel, cs.length < fuel → ∃ fuel', rest.length < fuel' ∧ readAll fuel r cs = readAll fuel' r' rest

theorem Reads.refl (r : Reading) (cs : List Char) : Reads r cs r cs := fun fuel h => ⟨fuel, h, rfl⟩

theorem Reads.trans (hfirst : Reads r cs r' rest) (hsecond : Reads r' rest r'' rest') : Reads r cs r'' rest' := by
  intro fuel hfuel
  obtain ⟨fuel', hfuel', hread⟩ := hfirst fuel hfuel
  obtain ⟨fuel'', hfuel'', hread'⟩ := hsecond fuel' hfuel'
  exact ⟨fuel'', hfuel'', hread.trans hread'⟩

theorem Reads.step (hflags : r.flags = {}) (h : r.step? c cs = some (r', rest)) (hlength : rest.length ≤ cs.length) :
    Reads r (c :: cs) r' rest := by
  intro fuel hfuel
  cases fuel with
  | zero => omega
  | succ fuel =>
    rw [List.length_cons] at hfuel
    refine ⟨fuel, by omega, ?_⟩
    have hskip : r.flags.skip (c :: cs) = c :: cs := by rw [hflags]; rfl
    rw [readAll, hskip]
    dsimp only
    rw [h]

theorem readAll_of_reads (h : Reads r cs r' []) (hflags : r'.flags = {}) : readAll (cs.length + 1) r cs = some r' := by
  obtain ⟨fuel, hfuel, hread⟩ := h (cs.length + 1) (Nat.lt_succ_self _)
  rw [hread]
  cases fuel with
  | zero => cases hfuel
  | succ fuel =>
    have hskip : r'.flags.skip [] = [] := by rw [hflags]; rfl
    rw [readAll, hskip]

/-- The pattern of a text that is read to its end. -/
theorem parse?_of_reads {text : String} (h : Reads {} text.toList r []) (hflags : r.flags = {})
    (haround : r.around = []) (hdepth : r.body.depth ≤ nestLimit) :
    parse? text = if r.body.regex.fits then
      some ⟨r.body.regex.program, namesLeft r.body.regex r.names.reverse⟩ else none := by
  have hdeep : decide (r.body.depth > nestLimit) = false := decide_eq_false (Nat.not_lt.2 hdepth)
  rw [parse?, readAll_of_reads h hflags]
  simp only [Option.bind_eq_bind, Option.bind_some, haround, hdeep, List.isEmpty_nil, Bool.not_true, Bool.or_false,
    Bool.false_or]
  cases r.body.regex.fits with
  | true => rfl
  | false => rfl

/-! ### Characters that stand for themselves -/

theorem escape_of_isMeta (h : isMeta c = true) (f : Flags) : escape f (c :: cs) = some (.literal c, cs) := by
  have hmem : c ∈ ['\\', '.', '+', '*', '?', '(', ')', '|', '[', ']', '\x7b', '\x7d', '^', '$', '#', '&', '-', '~'] :=
    of_decide_eq_true h
  simp only [List.mem_cons, List.not_mem_nil, or_false] at hmem
  rcases hmem with rfl | rfl | rfl | rfl | rfl | rfl | rfl | rfl | rfl | rfl | rfl | rfl | rfl | rfl | rfl | rfl | rfl |
    rfl
  all_goals rfl

/-- The characters that do not stand for themselves outside of classes. -/
def signs : List Char := ['\\', '.', '+', '*', '?', '(', ')', '|', '[', '\x7b', '^', '$']

theorem step_of_not_sign (h : c ∉ signs) : r.step? c cs = some (r.pushLiteral c, cs) := by
  have hne : ∀ d ∈ signs, c ≠ d := by
    rintro d hd rfl
    exact h hd
  unfold Reading.step?
  split
  all_goals first
    | exact absurd rfl (hne _ (by decide))
    | rfl

theorem isMeta_of_mem_signs (h : c ∈ signs) : isMeta c = true := by
  simp only [signs, List.mem_cons, List.not_mem_nil, or_false] at h
  rcases h with rfl | rfl | rfl | rfl | rfl | rfl | rfl | rfl | rfl | rfl | rfl | rfl
  all_goals rfl

theorem reads_literal (h : c ∉ signs) (hflags : r.flags = {}) : Reads r (c :: cs) (r.pushLiteral c) cs :=
  Reads.step hflags (step_of_not_sign h) (Nat.le_refl _)

theorem reads_quoted (hflags : r.flags = {}) : Reads r (quoted c ++ cs) (r.pushLiteral c) cs := by
  unfold quoted
  split
  · rename_i hmeta
    have hstep : r.step? '\\' (c :: cs) = some (r.pushLiteral c, cs) := by
      rw [Reading.step?, escape_of_isMeta hmeta]
      rfl
    exact Reads.step hflags hstep (Nat.le_succ _)
  · rename_i hmeta
    exact reads_literal (fun h => hmeta (isMeta_of_mem_signs h)) hflags

/-! ### Parts -/

namespace Part

variable {text : Array Char} {i j : Nat}

theorem spans_concat (parts : List (Option Part)) :
    (Part.concat parts).regex.Spans text i j ↔
      Regex.SpansAll text ((parts.reverse.filterMap id).map (·.regex)) i j := by
  unfold Part.concat
  split
  · exact Iff.rfl
  · exact Iff.rfl
  · simp [Regex.SpansAll]
  · exact Regex.spans_concat

theorem ascending_concat {parts : List (Option Part)} (h : ∀ p, some p ∈ parts → p.regex.Ascending) :
    (Part.concat parts).regex.Ascending := by
  unfold Part.concat
  split
  · trivial
  · trivial
  · exact h _ List.mem_cons_self
  · refine Regex.ascending_concat fun r hr => ?_
    obtain ⟨p, hp, rfl⟩ := List.mem_map.1 hr
    exact h p (by simpa using hp)

theorem spans_choice {ps : List Part} (hne : ps ≠ []) (hsets : ∀ p ∈ ps, p.regex.Ascending) :
    (Part.choice ps).regex.Spans text i j ↔ ∃ p ∈ ps, p.regex.Spans text i j := by
  unfold Part.choice
  split
  · simp
  · rw [Regex.spans_choice (by simpa using hne) (by simpa using hsets)]
    constructor
    · rintro ⟨r, hr, hspans⟩
      obtain ⟨p, hp, rfl⟩ := List.mem_map.1 hr
      exact ⟨p, hp, hspans⟩
    · rintro ⟨p, hp, hspans⟩
      exact ⟨p.regex, List.mem_map_of_mem hp, hspans⟩

private theorem foldl_max_le {depths : List Nat} {m n : Nat} (hm : m ≤ n) (h : ∀ d ∈ depths, d ≤ n) :
    depths.foldl max m ≤ n := by
  induction depths generalizing m with
  | nil => exact hm
  | cons d depths ih =>
    exact ih (Nat.max_le.2 ⟨hm, h d List.mem_cons_self⟩) fun e he => h e (List.mem_cons_of_mem _ he)

private theorem depths_le {ps : List Part} {n : Nat} (h : ∀ p ∈ ps, p.depth ≤ n) :
    1 + (ps.map (·.depth)).foldl max 0 ≤ n + 1 := by
  have hmax : (ps.map (·.depth)).foldl max 0 ≤ n := foldl_max_le (Nat.zero_le n) fun d hd => by
    obtain ⟨p, hp, rfl⟩ := List.mem_map.1 hd
    exact h p hp
  omega

theorem depth_concat_le {parts : List (Option Part)} {n : Nat} (h : ∀ p, some p ∈ parts → p.depth ≤ n) :
    (Part.concat parts).depth ≤ n + 1 := by
  unfold Part.concat
  split
  · exact Nat.zero_le _
  · exact Nat.zero_le _
  · exact Nat.le_succ_of_le (h _ List.mem_cons_self)
  · exact depths_le fun p hp => h p (by simpa using hp)

theorem depth_choice_le {ps : List Part} {n : Nat} (h : ∀ p ∈ ps, p.depth ≤ n) : (Part.choice ps).depth ≤ n + 1 := by
  unfold Part.choice
  split
  · exact Nat.le_succ_of_le (h _ List.mem_cons_self)
  · exact depths_le h

end Part

end RecordFix.Pattern
