import RecordFix.Pattern

/-!
# Programs of patterns

An expression is carried out by a program: a list of instructions, each of which names the next one. A program is
made from its end, so that what comes next is known; only the instruction at the turn of a loop is filled in later.
-/

namespace RecordFix.Pattern

open RecordFix.Text

/-- An instruction; `fork` prefers its first way, and `mark` notes the place for one end of a group. -/
inductive Instruction where
  | accept
  | one (set : Ranges) (next : Nat)
  | look (condition : Look) (next : Nat)
  | fork (first second : Nat)
  | mark (slot : Nat) (next : Nat)
  deriving Inhabited

/-- The instructions, and the one to begin with. -/
structure Program where
  code : Array Instruction
  start : Nat
  deriving Inhabited

namespace Regex

/-- A way to put instructions in front of the one with number `next`. -/
abbrev Prepend := Nat → Array Instruction → Nat × Array Instruction

def emit (i : Instruction) (code : Array Instruction) : Nat × Array Instruction :=
  (code.size, code.push i)

def prefer (greedy : Bool) (body next : Nat) : Instruction :=
  if greedy then .fork body next else .fork next body

def exactly (body : Prepend) : Nat → Prepend
  | 0, next, code => (next, code)
  | n + 1, next, code =>
    let (next, code) := body next code
    exactly body n next code

/-- Up to `n` times; each time may be the last. -/
def upTo (greedy : Bool) (body : Prepend) (done : Nat) : Nat → Prepend
  | 0, next, code => (next, code)
  | n + 1, next, code =>
    let (start, code) := body next code
    let (next, code) := emit (prefer greedy start done) code
    upTo greedy body done n next code

/-- Once or more. -/
def loop (greedy : Bool) (body : Prepend) : Prepend := fun next code =>
  let (turn, code) := emit .accept code
  let (start, code) := body turn code
  (start, code.setIfInBounds turn (prefer greedy start next))

/-- Puts the instructions of an expression in front of others. -/
def prepend : Regex → Prepend
  | empty, next, code => (next, code)
  | one s, next, code => emit (.one s next) code
  | look l, next, code => emit (.look l next) code
  | seq a b, next, code =>
    let (next, code) := b.prepend next code
    a.prepend next code
  | alt a b, next, code =>
    let (second, code) := b.prepend next code
    let (first, code) := a.prepend next code
    emit (.fork first second) code
  | iterate min max greedy a, next, code =>
    match min, max with
    | 0, none =>
      let (start, code) := loop greedy a.prepend next code
      emit (prefer greedy start next) code
    | n + 1, none =>
      let (next, code) := loop greedy a.prepend next code
      exactly a.prepend n next code
    | n, some m =>
      let (next, code) := upTo greedy a.prepend next (m - n) next code
      exactly a.prepend n next code
  | capture i a, next, code =>
    let (close, code) := emit (.mark (2 * i + 1) next) code
    let (start, code) := a.prepend close code
    emit (.mark (2 * i) start) code

/-- The program of an expression. -/
def program (r : Regex) : Program :=
  let (start, code) := r.prepend 0 #[.accept]
  ⟨code, start⟩

end Regex

end RecordFix.Pattern
