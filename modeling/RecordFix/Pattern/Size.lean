import RecordFix.Pattern
import Std.Data.HashMap

/-!
# Sizes of patterns

A pattern stands for two automata over the bytes of UTF-8, one that reads a text forwards and one that reads it
backwards, with the counted repetitions written out. `Regex.size` is the memory that they take, and `Regex.fits` tells
whether both stay within `sizeLimit`.
-/

namespace RecordFix.Pattern

open RecordFix.Text

/-- The memory of an automaton in bytes, forwards and backwards. -/
structure Size where
  forward : Nat
  backward : Nat
  deriving DecidableEq, Repr

namespace Size

/-- The same in both directions. -/
def both (n : Nat) : Size := ⟨n, n⟩

instance : Add Size := ⟨fun a b => ⟨a.forward + b.forward, a.backward + b.backward⟩⟩

def times (n : Nat) (a : Size) : Size := ⟨n * a.forward, n * a.backward⟩

end Size

/-- The memory of a state. -/
def stateSize : Nat := 32

/-- The memory of a transition of a state that has several. -/
def transitionSize : Nat := 8

/-- The memory of a way of a state that branches without reading. -/
def waySize : Nat := 4

/-- The memory of a branching in two with the state where the ways meet. -/
private def branching : Size := Size.both (2 * stateSize + 2 * waySize)

/-! ### Sets of characters -/

/-- A range of bytes. -/
abbrev ByteRange := Nat × Nat

/-- The continuation bytes with all values. -/
private def anyContinuation (n : Nat) : List ByteRange := List.replicate n (0x80, 0xBF)

/-- The numbers from `lo` to `hi` as sequences of a byte above `base` and `n` continuation bytes. -/
private def byteSequences : Nat → Nat → Nat → Nat → List (List ByteRange)
  | 0, base, lo, hi => [[(base + lo, base + hi)]]
  | n + 1, base, lo, hi =>
    let unit := Nat.pow 64 (n + 1)
    let a := lo / unit
    let b := hi / unit
    if a = b then (byteSequences n 0x80 (lo % unit) (hi % unit)).map ((base + a, base + a) :: ·)
    else
      let first := if lo % unit = 0 then [] else
        (byteSequences n 0x80 (lo % unit) (unit - 1)).map ((base + a, base + a) :: ·)
      let last := if hi % unit = unit - 1 then [] else
        (byteSequences n 0x80 0 (hi % unit)).map ((base + b, base + b) :: ·)
      let a := if first.isEmpty then a else a + 1
      let b := if last.isEmpty then b + 1 else b
      let middle := if a < b then [(base + a, base + (b - 1)) :: anyContinuation (n + 1)] else []
      first ++ middle ++ last

/-- The ranges of code points whose characters have a number of continuation bytes, and the first byte of zero. -/
private def lengthClasses : List (Nat × Nat × Nat × Nat) :=
  [(0, 0x7F, 0, 0), (0x80, 0x7FF, 1, 0xC0), (0x800, 0xD7FF, 2, 0xE0), (0xE000, 0xFFFF, 2, 0xE0),
    (0x10000, 0x10FFFF, 3, 0xF0)]

/-- The characters of a range as sequences of ranges of bytes, in ascending order. -/
def utf8Sequences (lo hi : Nat) : List (List ByteRange) :=
  lengthClasses.flatMap fun (first, last, n, base) =>
    let lo := max lo first
    let hi := min hi last
    if lo ≤ hi then byteSequences n base lo hi else []

/-- How many members two lists have in common at their beginnings. -/
private def commonLength : List ByteRange → List ByteRange → Nat
  | x :: xs, y :: ys => if x = y then commonLength xs ys + 1 else 0
  | _, _ => 0

/-- The states that read sequences one after the other, where a beginning in common with the one before is shared. -/
private def newStates : List ByteRange → List (List ByteRange) → Nat
  | _, [] => 0
  | last, s :: ss => (s.length - commonLength last s) + newStates s ss

/-- A backward automaton branches to all sequences and shares their first bytes. -/
private def backwardSize (ss : List (List ByteRange)) : Nat :=
  stateSize * (newStates [] ss + 2) + waySize * ss.length

/-- The states of a forward automaton by their transitions. -/
private abbrev States := Std.HashMap (List (ByteRange × Nat)) Nat

/-- The state that reads the sequences, which are at most `n` long; states with the same transitions are one. -/
private def forwardState : Nat → List (List ByteRange) → StateM States Nat
  | 0, _ => return 0
  | n + 1, ss => do
    let groups := (ss.filter (!·.isEmpty)).splitBy fun s t => s.head? == t.head?
    if groups.isEmpty then return 0
    let transitions ← groups.mapM fun group => do
      let next ← forwardState n (group.map (·.drop 1))
      return ((group.flatMap (·.take 1)).headD (0, 0), next)
    let states ← get
    match states[transitions]? with
    | some state => return state
    | none =>
      set (states.insert transitions (states.size + 1))
      return states.size + 1

/-- A forward automaton shares the states from which the same bytes follow. -/
private def forwardSize (ss : List (List ByteRange)) : Nat :=
  let states := ((forwardState 4 ss).run ∅).2
  stateSize * (states.size + 1) + transitionSize * states.toList.foldl (fun n (ts, _) => n + ts.length) 0

/-- The size of a set: one state for each byte of a single character, two for a set within ASCII. -/
def setSize (s : Ranges) : Size :=
  match s.bounds with
  | [] => Size.both stateSize
  | bounds =>
    let single := match bounds with
      | [(lo, hi)] => if lo = hi then utf8Sequences lo hi else []
      | _ => []
    match single with
    | bytes :: _ => Size.both (stateSize * bytes.length)
    | [] =>
      if bounds.all (·.2 < 128) then Size.both (2 * stateSize + transitionSize * bounds.length)
      else
        let ss := bounds.flatMap fun (lo, hi) => utf8Sequences lo hi
        ⟨forwardSize ss, backwardSize ss⟩

private theorem byteSequences_self (n base code : Nat) :
    ∃ bytes, byteSequences n base code code = [bytes] ∧ bytes.length = n + 1 := by
  induction n generalizing base code with
  | zero => exact ⟨_, rfl, rfl⟩
  | succ n ih =>
    obtain ⟨bytes, hbytes, hlength⟩ := ih 0x80 (code % Nat.pow 64 (n + 1))
    refine ⟨(base + code / Nat.pow 64 (n + 1), base + code / Nat.pow 64 (n + 1)) :: bytes, ?_, ?_⟩
    · rw [byteSequences, if_pos rfl, hbytes]
      rfl
    · rw [List.length_cons, hlength]

private theorem utf8Sequences_self (code : Nat) :
    utf8Sequences code code = lengthClasses.flatMap fun (first, last, n, base) =>
      if first ≤ code ∧ code ≤ last then byteSequences n base code code else [] := by
  unfold utf8Sequences
  congr 1
  funext ⟨first, last, n, base⟩
  by_cases h : first ≤ code ∧ code ≤ last
  · simp only [Nat.max_eq_left h.1, Nat.min_eq_left h.2, Nat.le_refl, h, and_self, ↓reduceIte]
  · have hnot : ¬ max code first ≤ min code last := by omega
    simp only [h, hnot, ↓reduceIte]

/-- A character is the one sequence of its bytes. -/
private theorem utf8Sequences_char (c : Char) :
    ∃ bytes, utf8Sequences c.toNat c.toNat = [bytes] ∧ bytes.length = c.utf8Size := by
  have hsize : c.utf8Size =
      if c.toNat ≤ 0x7F then 1 else if c.toNat ≤ 0x7FF then 2 else if c.toNat ≤ 0xFFFF then 3 else 4 := rfl
  have hvalid : c.toNat < 0xD800 ∨ 0xDFFF < c.toNat ∧ c.toNat < 0x110000 := c.valid
  have hself := utf8Sequences_self c.toNat
  generalize c.toNat = code at hsize hvalid hself ⊢
  have hclass : ∀ n base, ∃ bytes, byteSequences n base code code = [bytes] ∧ bytes.length = n + 1 := fun n base =>
    byteSequences_self n base code
  rw [hself, hsize]
  simp only [lengthClasses, List.flatMap_cons, List.flatMap_nil, List.append_nil]
  -- the character is in one of the classes, and all others give nothing
  obtain h | h | h | h | h : code ≤ 0x7F ∨ 0x7F < code ∧ code ≤ 0x7FF ∨ 0x7FF < code ∧ code ≤ 0xD7FF ∨
      0xDFFF < code ∧ code ≤ 0xFFFF ∨ 0xFFFF < code ∧ code ≤ 0x10FFFF := by omega
  · simpa (disch := omega) only [if_pos, if_neg, List.nil_append, List.append_nil] using hclass 0 0
  · simpa (disch := omega) only [if_pos, if_neg, List.nil_append, List.append_nil] using hclass 1 0xC0
  · simpa (disch := omega) only [if_pos, if_neg, List.nil_append, List.append_nil] using hclass 2 0xE0
  · simpa (disch := omega) only [if_pos, if_neg, List.nil_append, List.append_nil] using hclass 2 0xE0
  · simpa (disch := omega) only [if_pos, if_neg, List.nil_append, List.append_nil] using hclass 3 0xF0

/-- A character has a state for each of its bytes. -/
theorem setSize_single (c : Char) : setSize (Ranges.single c) = Size.both (stateSize * c.utf8Size) := by
  obtain ⟨bytes, hbytes, hlength⟩ := utf8Sequences_char c
  simp only [setSize, Ranges.single, Ranges.between, ↓reduceIte, hbytes, hlength]

/-! ### Expressions -/

namespace Regex

/-- The expression takes at least one character. -/
def takesSome : Regex → Bool
  | empty => false
  | one _ => true
  | look _ => false
  | seq a b => a.takesSome || b.takesSome
  | alt a b => a.takesSome && b.takesSome
  | iterate min _ _ a => min != 0 && a.takesSome
  | capture _ a => a.takesSome

/-- The number of characters and conditions when all repetitions are written out. -/
def places : Regex → Nat
  | empty => 1
  | one _ => 1
  | look _ => 1
  | seq a b => a.places + b.places
  | alt a b => a.places + b.places
  | iterate min max _ a => (max.getD (min + 1)) * (a.places + 1)
  | capture _ a => a.places + 1

/-- The size of an expression, and its size as one or several alternatives. -/
private def sizes : Regex → Size × Size
  | empty => (Size.both stateSize, Size.both (stateSize + waySize))
  | one s => (setSize s, setSize s + Size.both waySize)
  | look _ => (Size.both stateSize, Size.both (stateSize + waySize))
  | seq a b =>
    let whole := a.sizes.1 + b.sizes.1
    (whole, whole + Size.both waySize)
  | alt a b =>
    let ways := a.sizes.2 + b.sizes.2
    (ways + Size.both (2 * stateSize), ways)
  | iterate min max _ a =>
    let once := a.sizes.1
    let turn := Size.both (stateSize + 2 * waySize)
    let whole :=
      match min, max with
      | 0, none => if a.takesSome then once + turn else once + turn + branching
      | n, none => Size.times n once + turn
      | 0, some 1 => once + branching
      | n, some m =>
        if n = m then Size.times n once
        else
          (if n = 0 then Size.both stateSize else Size.times n once) + Size.both stateSize +
            Size.times (m - n) (once + turn)
    (whole, whole + Size.both waySize)
  | capture _ a =>
    let whole := a.sizes.1 + ⟨2 * stateSize, 0⟩
    (whole, whole + Size.both waySize)

/-- The size of an expression. -/
def size (r : Regex) : Size := r.sizes.1

theorem size_one (s : Ranges) : (one s).size = setSize s := rfl

theorem size_seq (a b : Regex) : (seq a b).size = a.size + b.size := rfl

end Regex

/-- The memory that each of the two automata may take. -/
def sizeLimit : Nat := 10 * 1024 * 1024

/-- What an automaton has beside the states of its expression. -/
private def frameSize : Size := ⟨208, 144⟩

/-- No set takes more than this. -/
private def largestSet : Nat := 1024 * 128

/-- Both automata stay within the limit. -/
def Regex.fits (r : Regex) : Bool :=
  r.places * largestSet ≤ sizeLimit ||
    (let s := r.size + frameSize
     s.forward ≤ sizeLimit && s.backward ≤ sizeLimit)

/-- The most bytes for which there are states within the limit. -/
def byteLimit : Nat := 327673

/-- An expression that reads bytes one after the other is within the limit unless there are too many. -/
theorem Regex.fits_iff_of_size_eq {r : Regex} {n : Nat} (hsize : r.size = Size.both (stateSize * n))
    (hplaces : n ≤ 4 * r.places) : r.fits = true ↔ n ≤ byteLimit := by
  have hforward : (r.size + frameSize).forward = 32 * n + 208 := by rw [hsize]; rfl
  have hbackward : (r.size + frameSize).backward = 32 * n + 144 := by rw [hsize]; rfl
  rw [fits, Bool.or_eq_true, Bool.and_eq_true, decide_eq_true_iff, decide_eq_true_iff, decide_eq_true_iff, hforward,
    hbackward, sizeLimit, largestSet, byteLimit]
  omega

end RecordFix.Pattern
