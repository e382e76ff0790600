import RecordFix.Glob
import RecordFix.Proofs.PatternReading
import RecordFix.Proofs.Pieces

/-!
# Reading the patterns of globs

Where a glob has no classes, each of its characters is translated on its own (`Glob.translateFrom_of_noClasses`) and
read as a part of its own (`Glob.reads_charText`), so that the alternatives between the bars are read as the
alternatives of a group. The translation compiles to one of them between the ends of the text, unless that is too
large (`Glob.compile?_of_noClasses`).
-/

namespace RecordFix

open RecordFix.Text RecordFix.Pattern

namespace Glob

variable {r : Reading} {c : Char} {cs rest : List Char}

/-! ### The characters of a glob -/

/-- All characters but the line feed, for which `?` stands. -/
def anyCharacter : Regex := .one (Ranges.single '\n').compl

/-- What a character of a glob is read as, outside of classes. -/
def part : Char → Part
  | '*' => ⟨.iterate 0 none true anyCharacter, 1⟩
  | '?' => ⟨anyCharacter, 0⟩
  | c => ⟨.one (Ranges.single c), 0⟩

/-- The text of a character of a glob, outside of classes. -/
def charText : Char → List Char
  | '*' => ['.', '*']
  | '?' => ['.']
  | '|' => ['|']
  | c => quoted c

/-- The reading after a character of a glob. -/
def push (r : Reading) (c : Char) : Reading :=
  if c = '|' then { r with branches := Part.concat r.parts :: r.branches, parts := [] } else r.pushPart (part c)

/-- A character of a glob does not end the group in which it is read. -/
private theorem context_push (r : Reading) (c : Char) :
    (push r c).flags = r.flags ∧ (push r c).around = r.around ∧ (push r c).names = r.names := by
  rw [push]
  split
  · exact ⟨rfl, rfl, rfl⟩
  · exact ⟨rfl, rfl, rfl⟩

private theorem context_foldl_push (cs : List Char) (r : Reading) :
    (cs.foldl push r).flags = r.flags ∧ (cs.foldl push r).around = r.around ∧ (cs.foldl push r).names = r.names := by
  induction cs generalizing r with
  | nil => exact ⟨rfl, rfl, rfl⟩
  | cons c cs ih =>
    obtain ⟨hflags, haround, hnames⟩ := ih (push r c)
    obtain ⟨hflags', haround', hnames'⟩ := context_push r c
    exact ⟨hflags.trans hflags', haround.trans haround', hnames.trans hnames'⟩

private theorem step_star (hflags : r.flags = {}) (hcs : cs.head? ≠ some '?') :
    (r.push anyCharacter).step? '*' cs = some (push r '*', cs) := by
  have hlazy : lazyMark cs = (false, cs) := by
    unfold lazyMark
    split
    · exact absurd rfl hcs
    · rfl
  rw [Reading.step?, hlazy]
  obtain ⟨flags, branches, parts, around, names⟩ := r
  cases hflags
  rfl

private theorem push_of_ne (hbar : c ≠ '|') (hstar : c ≠ '*') (hquestion : c ≠ '?') (hflags : r.flags = {}) :
    push r c = r.pushLiteral c := by
  rw [push, if_neg hbar, part, Reading.pushLiteral, hflags]
  · rfl
  · exact hstar
  · exact hquestion

theorem reads_charText (hflags : r.flags = {}) (hcs : cs.head? ≠ some '?') :
    Reads r (charText c ++ cs) (push r c) cs := by
  have hdot : ∀ cs, r.step? '.' cs = some (r.push anyCharacter, cs) := by
    intro cs
    rw [Reading.step?, Reading.pushDot?, hflags]
    rfl
  unfold charText
  split
  · exact (Reads.step hflags (hdot _) (Nat.le_refl _)).trans
      (Reads.step hflags (step_star hflags hcs) (Nat.le_refl _))
  · exact Reads.step hflags (hdot _) (Nat.le_refl _)
  · exact Reads.step hflags rfl (Nat.le_refl _)
  · rename_i hstar hquestion hbar
    rw [push_of_ne hbar hstar hquestion hflags]
    exact reads_quoted hflags

/-- A repetition of any characters is not followed by the mark that would make it lazy. -/
private theorem head?_charText_ne (c : Char) (cs : List Char) : (charText c ++ cs).head? ≠ some '?' := by
  unfold charText
  split
  · simp
  · simp
  · simp
  · rename_i hquestion _
    unfold quoted
    split
    · simp
    · simpa using hquestion

theorem reads_flatMap (hflags : r.flags = {}) (hrest : rest.head? ≠ some '?') :
    Reads r (cs.flatMap charText ++ rest) (cs.foldl push r) rest := by
  induction cs generalizing r with
  | nil => exact Reads.refl r rest
  | cons c cs ih =>
    have hnext : (cs.flatMap charText ++ rest).head? ≠ some '?' := by
      cases cs with
      | nil => exact hrest
      | cons d cs =>
        rw [List.flatMap_cons, List.append_assoc]
        exact head?_charText_ne d _
    have hpush : (push r c).flags = {} := (context_push r c).1.trans hflags
    rw [List.flatMap_cons, List.append_assoc, List.foldl_cons]
    exact (reads_charText hflags hnext).trans (ih hpush)

/-! ### The alternatives of a glob -/

/-- What an alternative without bars is read as. -/
def alternative (cs : List Char) : Part := Part.concat (cs.map fun c => some (part c)).reverse

/-- The parts of the alternative at hand are those of the characters before. -/
theorem body_foldl_push {before : List Char} (hparts : r.parts = (before.map fun c => some (part c)).reverse)
    (hbefore : '|' ∉ before) :
    (cs.foldl push r).body =
      Part.choice (r.branches.reverse ++ (Path.splitChars '|' (before ++ cs)).map alternative) := by
  induction cs generalizing r before with
  | nil =>
    rw [List.append_nil, Path.splitChars_of_not_mem hbefore, List.foldl_nil, Reading.body, List.reverse_cons, hparts]
    rfl
  | cons c cs ih =>
    rw [List.foldl_cons]
    by_cases hc : c = '|'
    · subst hc
      rw [@ih _ [] rfl List.not_mem_nil, List.nil_append, Path.splitChars_append_cons hbefore, List.map_cons,
        push, if_pos rfl, List.reverse_cons, hparts, List.append_assoc]
      rfl
    · have hmem : '|' ∉ before ++ [c] := by simpa [hbefore] using Ne.symm hc
      have hpush : (push r c).parts = ((before ++ [c]).map fun c => some (part c)).reverse := by
        rw [push, if_neg hc, Reading.pushPart, hparts]
        simp
      rw [ih hpush hmem, List.append_assoc, List.singleton_append, push, if_neg hc]
      rfl

/-! ### Translations -/

/-- Each opening bracket is followed by a closing one, so it is part of the marker of a list and begins no class. -/
def NoClasses : List Char → Prop
  | [] => True
  | c :: cs => (c = '[' → cs.head? = some ']') ∧ NoClasses cs

instance decidableNoClasses : (cs : List Char) → Decidable (NoClasses cs)
  | [] => isTrue trivial
  | c :: cs =>
    have := decidableNoClasses cs
    inferInstanceAs (Decidable ((c = '[' → cs.head? = some ']') ∧ NoClasses cs))

/-- Without classes, each character is translated on its own. -/
theorem translateFrom_of_noClasses {inClass : Bool} (houtside : inClass = false) (h : NoClasses cs) :
    translateFrom inClass cs = cs.flatMap charText := by
  induction inClass, cs using translateFrom.induct with
  | case1 => rw [translateFrom, List.flatMap_nil]
  | case2 | case3 | case4 => cases houtside
  | case5 cs ih | case6 cs ih | case7 cs ih =>
    rw [translateFrom, ih rfl h.2]
    rfl
  | case8 cs ih =>
    rw [translateFrom, ih rfl h.2.2]
    rfl
  | case9 cs ih => exact absurd (h.1 rfl) (by simp)
  | case10 cs hmarker hnegated ih =>
    obtain ⟨rest, hrest⟩ := List.head?_eq_some_iff.1 (h.1 rfl)
    exact absurd hrest (hmarker rest)
  | case11 c cs hstar hquestion hbar hmarker hnegated hclass ih =>
    rw [translateFrom, ih rfl h.2, List.flatMap_cons, charText]
    all_goals assumption

/-- The alternatives of a glob as one group. -/
def group (cs : List Char) : Part := Part.choice ((Path.splitChars '|' cs).map alternative)

/-- The reading at the end of a translation. -/
def finished (cs : List Char) : Reading :=
  { parts := [some ⟨.look .endText, 0⟩, some ⟨(group cs).regex, (group cs).depth + 1⟩, some ⟨.look .startText, 0⟩] }

theorem toList_translation {pattern : String} (h : NoClasses pattern.toList) :
    (translation pattern).toList = '^' :: '(' :: '?' :: ':' :: (pattern.toList.flatMap charText ++ [')', '$']) := by
  simp [translation, translateFrom_of_noClasses rfl h]

theorem reads_translation {pattern : String} (h : NoClasses pattern.toList) :
    Reads {} (translation pattern).toList (finished pattern.toList) [] := by
  rw [toList_translation h]
  generalize pattern.toList = cs
  let begun : Reading := ({} : Reading).push (.look .startText)
  have hbegin : Reads {} ('^' :: '(' :: '?' :: ':' :: (cs.flatMap charText ++ [')', '$'])) begun
      ('(' :: '?' :: ':' :: (cs.flatMap charText ++ [')', '$'])) :=
    Reads.step rfl rfl (Nat.le_refl _)
  let opened : Reading := begun.openGroup none {} []
  have hopen : Reads begun ('(' :: '?' :: ':' :: (cs.flatMap charText ++ [')', '$'])) opened
      (cs.flatMap charText ++ [')', '$']) :=
    Reads.step rfl rfl (Nat.le_succ_of_le (Nat.le_succ _))
  have hcharacters : Reads opened (cs.flatMap charText ++ [')', '$']) (cs.foldl push opened) [')', '$'] :=
    reads_flatMap rfl (by simp)
  obtain ⟨hflags, haround, hnames⟩ := context_foldl_push cs opened
  have hgroup : (cs.foldl push opened).body = group cs := @body_foldl_push opened cs [] rfl List.not_mem_nil
  let closed : Reading := { begun with parts := some ⟨(group cs).regex, (group cs).depth + 1⟩ :: begun.parts }
  have hclose : Reads (cs.foldl push opened) [')', '$'] closed ['$'] := by
    refine Reads.step hflags ?_ (Nat.le_refl _)
    rw [Reading.step?, Reading.close?, haround, hnames, hgroup]
    rfl
  have hend : Reads closed ['$'] (finished cs) [] := Reads.step rfl rfl (Nat.le_refl _)
  exact (((hbegin.trans hopen).trans hcharacters).trans hclose).trans hend

/-! ### The whole pattern -/

/-- The pattern for the whole name: one of the alternatives between the ends of the text. -/
def whole (cs : List Char) : Regex := Regex.concat [.look .startText, (group cs).regex, .look .endText]

theorem regex_finished (cs : List Char) : (finished cs).body.regex = whole cs := rfl

private theorem depth_part_le (c : Char) : (part c).depth ≤ 1 := by
  unfold part
  split
  · exact Nat.le_refl 1
  · exact Nat.zero_le 1
  · exact Nat.zero_le 1

private theorem depth_group_le (cs : List Char) : (group cs).depth ≤ 3 := by
  refine Part.depth_choice_le fun p hp => ?_
  obtain ⟨piece, -, rfl⟩ := List.mem_map.1 hp
  refine Part.depth_concat_le fun p hp => ?_
  obtain ⟨c, -, hc⟩ := List.mem_map.1 (List.mem_reverse.1 hp)
  rw [← Option.some.inj hc]
  exact depth_part_le c

private theorem depth_finished_le (cs : List Char) : (finished cs).body.depth ≤ nestLimit := by
  have hgroup := depth_group_le cs
  have hbody : (finished cs).body.depth ≤ 4 + 1 := Part.depth_concat_le fun p hp => by
    simp only [finished, List.mem_cons, Option.some.injEq, List.not_mem_nil, or_false] at hp
    rcases hp with rfl | rfl | rfl
    · exact Nat.zero_le 4
    · exact Nat.succ_le_succ hgroup
    · exact Nat.zero_le 4
  exact Nat.le_trans hbody (by decide)

/-- A glob without classes compiles to the pattern for the whole name, unless that is too large. -/
theorem compile?_of_noClasses {pattern : String} (h : NoClasses pattern.toList) :
    compile? pattern = if (whole pattern.toList).fits then
      some ⟨(whole pattern.toList).program, namesLeft (whole pattern.toList) []⟩ else none := by
  rw [compile?, parse?_of_reads (reads_translation h) rfl rfl (depth_finished_le _), regex_finished]
  rfl

end Glob

end RecordFix
