import RecordFix.Record.Consulted
import Mathlib.Data.Finset.Card

/-!
# What a matcher keeps

A matcher keeps a pattern with glob syntax the first time it is asked about it, together with what comes of compiling
it, even if that is nothing (`Matcher.consult_cases`). So what is kept is right, and the answers are those that are
given without a matcher (`Matcher.Sound`); it is never replaced (`Matcher.lookup_consultAll_of_some`); and which
patterns are kept depends on which ones were asked, not on the names, the order or how often (`Matcher.Keeps`). An
answer does not show what was asked before (`Matcher.answers_eq_fresh`).
-/

namespace RecordFix

namespace Matcher

variable {m : Matcher} {pattern : String} {patterns : List String}

/-- The patterns that are kept. -/
def kept (m : Matcher) : List String := m.compiled.map Prod.fst

theorem lookup_eq_none : m.compiled.lookup pattern = none ↔ pattern ∉ m.kept := by
  rw [List.lookup_eq_none_iff, kept, List.mem_map]
  constructor
  · rintro h ⟨entry, hentry, rfl⟩
    exact absurd (h entry hentry) (by simp)
  · intro h entry hentry
    exact bne_iff_ne.2 fun heq => h ⟨entry, hentry, heq.symm⟩

/-- What a question does: a pattern with glob syntax that is not kept yet is kept, and any other changes nothing. -/
theorem consult_cases (m : Matcher) (pattern : String) :
    (m.consult pattern = m ∧ (Glob.isPattern pattern = true → pattern ∈ m.kept)) ∨
      (Glob.isPattern pattern = true ∧ pattern ∉ m.kept ∧
        m.consult pattern = ⟨(pattern, Glob.compile? pattern) :: m.compiled⟩) := by
  unfold consult
  split
  · rename_i hnew
    rw [Bool.and_eq_true, Option.isNone_iff_eq_none, lookup_eq_none] at hnew
    exact .inr ⟨hnew.1, hnew.2, rfl⟩
  · rename_i hold
    refine .inl ⟨rfl, fun hglob => ?_⟩
    by_contra hnot
    exact hold (Bool.and_eq_true_iff.2 ⟨hglob, Option.isNone_iff_eq_none.2 (lookup_eq_none.2 hnot)⟩)

/-- A question is remembered as one that was asked. -/
theorem matchesName_consult (m : Matcher) (pattern name : String) :
    (m.matchesName pattern name).2 = m.consult pattern := by
  unfold Matcher.matchesName Matcher.consult
  cases hpattern : Glob.isPattern pattern with
  | false => rfl
  | true =>
    cases hlookup : m.compiled.lookup pattern with
    | some glob => rfl
    | none => rfl

/-! ### Answers -/

/-- Whether the patterns that are kept are kept with what comes of compiling them. -/
def Sound (m : Matcher) : Prop := ∀ pattern glob, m.compiled.lookup pattern = some glob → glob = Glob.compile? pattern

theorem sound_empty : Sound {} := fun _ _ h => nomatch h

theorem Sound.consult (h : m.Sound) (pattern : String) : (m.consult pattern).Sound := by
  rcases consult_cases m pattern with ⟨hsame, -⟩ | ⟨-, -, hnew⟩
  · rw [hsame]
    exact h
  · rw [hnew]
    intro pattern' glob hglob
    rw [List.lookup_cons] at hglob
    split at hglob
    · rename_i heq
      rw [eq_of_beq heq]
      exact (Option.some.inj hglob).symm
    · exact h pattern' glob hglob

/-- A sound matcher answers as if there were none. -/
theorem Sound.matchesName (h : m.Sound) (pattern name : String) :
    (m.matchesName pattern name).1 = Glob.matchesName pattern name := by
  unfold Matcher.matchesName Glob.matchesName
  split
  · split
    · rename_i glob hglob
      rw [h pattern glob hglob]
    · rfl
  · rfl

/-- The answers to questions that are asked one after the other, whether a name matches a pattern. -/
def answers (m : Matcher) : List (String × String) → List Bool
  | [] => []
  | (pattern, name) :: questions =>
    (m.matchesName pattern name).1 :: (m.matchesName pattern name).2.answers questions

theorem Sound.answers (h : m.Sound) (questions : List (String × String)) :
    m.answers questions = questions.map fun q => Glob.matchesName q.1 q.2 := by
  induction questions generalizing m with
  | nil => rfl
  | cons q questions ih =>
    obtain ⟨pattern, name⟩ := q
    have hnext : (m.matchesName pattern name).2.Sound := by
      rw [matchesName_consult]
      exact h.consult pattern
    rw [Matcher.answers, List.map_cons, h.matchesName, ih hnext]

/-! ### What is kept -/

/-- What is kept of a pattern is not replaced, whatever is asked next. -/
theorem lookup_consult_of_some {compiled : Option Pattern} (h : m.compiled.lookup pattern = some compiled)
    (asked : String) : (m.consult asked).compiled.lookup pattern = some compiled := by
  rcases consult_cases m asked with ⟨hsame, -⟩ | ⟨-, hasked, hnew⟩
  · rw [hsame, h]
  · have hne : pattern ≠ asked := by
      rintro rfl
      rw [lookup_eq_none.2 hasked] at h
      cases h
    rw [hnew, List.lookup_cons, beq_false_of_ne hne, h]

theorem lookup_consultAll_of_some {compiled : Option Pattern} (h : m.compiled.lookup pattern = some compiled)
    (asked : List String) : (m.consultAll asked).compiled.lookup pattern = some compiled := by
  induction asked generalizing m with
  | nil => exact h
  | cons p asked ih => exact ih (lookup_consult_of_some h p)

theorem mem_kept_consult {asked : String} :
    pattern ∈ (m.consult asked).kept ↔ pattern ∈ m.kept ∨ pattern = asked ∧ Glob.isPattern asked = true := by
  rcases consult_cases m asked with ⟨hsame, hasked⟩ | ⟨hglob, -, hnew⟩
  · rw [hsame]
    constructor
    · exact .inl
    · rintro (hkept | ⟨rfl, hglob⟩)
      · exact hkept
      · exact hasked hglob
  · rw [hnew, kept, List.map_cons, List.mem_cons, ← kept, or_comm, and_iff_left hglob]

theorem nodup_kept_consult (h : m.kept.Nodup) (asked : String) : (m.consult asked).kept.Nodup := by
  rcases consult_cases m asked with ⟨hsame, -⟩ | ⟨-, hasked, hnew⟩
  · rw [hsame]
    exact h
  · rw [hnew]
    exact List.nodup_cons.2 ⟨hasked, h⟩

/-- Of some patterns, a matcher keeps those with glob syntax, each once and with what comes of compiling it, and it
keeps no others. -/
structure Keeps (m : Matcher) (patterns : List String) : Prop where
  sound : m.Sound
  nodup : m.kept.Nodup
  mem_kept : ∀ pattern, pattern ∈ m.kept ↔ pattern ∈ patterns ∧ Glob.isPattern pattern = true

theorem keeps_empty : Keeps {} [] := ⟨sound_empty, List.nodup_nil, by simp [kept]⟩

theorem Keeps.consult (h : m.Keeps patterns) (asked : String) : (m.consult asked).Keeps (patterns ++ [asked]) := by
  refine ⟨h.sound.consult asked, nodup_kept_consult h.nodup asked, fun pattern => ?_⟩
  rw [mem_kept_consult, h.mem_kept, List.mem_append, List.mem_singleton, or_and_right]
  exact or_congr_right (and_congr_right fun heq => by rw [heq])

theorem Keeps.consultAll (h : m.Keeps patterns) (asked : List String) :
    (m.consultAll asked).Keeps (patterns ++ asked) := by
  induction asked generalizing m patterns with
  | nil =>
    rw [List.append_nil]
    exact h
  | cons p asked ih =>
    rw [List.append_cons]
    exact ih (h.consult p)

/-- As many patterns are kept as there are different ones with glob syntax. -/
theorem Keeps.size_eq (h : m.Keeps patterns) : m.size = (patterns.filter Glob.isPattern).toFinset.card := by
  have hset : m.kept.toFinset = (patterns.filter Glob.isPattern).toFinset := by
    ext pattern
    rw [List.mem_toFinset, List.mem_toFinset, List.mem_filter, h.mem_kept]
  rw [← hset, List.toFinset_card_of_nodup h.nodup, kept, List.length_map, size]

/-! ### Questions one after the other -/

/-- The matcher after questions that are asked one after the other. -/
def afterAll (m : Matcher) (questions : List (String × String)) : Matcher :=
  questions.foldl (fun m q => (m.matchesName q.1 q.2).2) m

/-- Of the questions, only the patterns leave a trace. -/
theorem afterAll_eq_consultAll (m : Matcher) (questions : List (String × String)) :
    m.afterAll questions = m.consultAll (questions.map Prod.fst) := by
  simp only [afterAll, consultAll, List.foldl_map, matchesName_consult]

theorem keeps_afterAll (questions : List (String × String)) :
    (afterAll {} questions).Keeps (questions.map Prod.fst) := by
  rw [afterAll_eq_consultAll]
  exact keeps_empty.consultAll _

/-- Whatever a new matcher is asked, it answers each question like a new matcher that is asked nothing else. What is
kept of a pattern is what comes of compiling it, and no later question replaces it. As many patterns are kept as there
are different ones with glob syntax among those that were asked. -/
theorem answers_eq_fresh (questions : List (String × String)) :
    answers {} questions = questions.map (fun q => (matchesName {} q.1 q.2).1) ∧
      (∀ pattern compiled, (afterAll {} questions).compiled.lookup pattern = some compiled →
        compiled = Glob.compile? pattern ∧
          ∀ later, ((afterAll {} questions).afterAll later).compiled.lookup pattern = some compiled) ∧
      (afterAll {} questions).size = ((questions.map Prod.fst).filter Glob.isPattern).toFinset.card := by
  have hkeeps : (afterAll {} questions).Keeps (questions.map Prod.fst) := keeps_afterAll questions
  refine ⟨?_, fun pattern compiled hcompiled => ⟨hkeeps.sound pattern compiled hcompiled, fun later => ?_⟩,
    hkeeps.size_eq⟩
  · rw [sound_empty.answers]
    exact List.map_congr_left fun q _ => (sound_empty.matchesName q.1 q.2).symm
  · rw [afterAll_eq_consultAll _ later]
    exact lookup_consultAll_of_some hcompiled _

/-- Two patterns that are asked again, of which one is no pattern because its range is the wrong way round, and a plain
name. -/
theorem answers_eq_fresh_reversed :
    let questions := [("n?", "n1"), ("[b-a]", "a"), ("title", "title"), ("[b-a]", "[b-a]"), ("n?", "m1")]
    let m := afterAll {} questions
    answers {} questions = [true, false, true, true, false] ∧
      m.compiled.lookup "[b-a]" = some none ∧
      (∀ later, (m.afterAll later).compiled.lookup "[b-a]" = some none) ∧ m.size = 2 := by
  intro questions m
  obtain ⟨hanswers, hkept, hsize⟩ := answers_eq_fresh questions
  have hreversed : m.compiled.lookup "[b-a]" = some none := by rfl
  exact ⟨hanswers.trans (by decide +kernel), hreversed, (hkept "[b-a]" none hreversed).2,
    hsize.trans (by decide +kernel)⟩

end Matcher

end RecordFix
