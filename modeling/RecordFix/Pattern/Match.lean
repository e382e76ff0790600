import RecordFix.Pattern.Program
import RecordFix.Text.Word
import Std.Data.TreeSet

/-!
# Matching

A program is run on a text by threads, each at an instruction and a place of the text. The threads wait on a stack,
the preferred one on top. What can be reached from an instruction at a place does not depend on how a thread came
there, so a thread that comes where one was before is dropped: the first thread to accept is the preferred one, and
the work is bounded by the number of instructions times the length of the text. `search?` takes the leftmost place at
which there is a match, and `allMatches` the successive matches that do not overlap.
-/

namespace RecordFix.Pattern

open RecordFix.Text

private def isWordOption (unicode : Bool) (c : Option Char) : Bool :=
  c.any fun c => if unicode then isWord c else isAsciiWord c

/-- Whether a condition holds between two characters. -/
def Look.holds (l : Look) (before next : Option Char) : Bool :=
  match l with
  | startText => before.isNone
  | endText => next.isNone
  | startLine false => before.isNone || before == some '\n'
  | endLine false => next.isNone || next == some '\n'
  | startLine true => before.isNone || before == some '\n' || (before == some '\r' && next != some '\n')
  | endLine true => next.isNone || next == some '\r' || (next == some '\n' && before != some '\r')
  | boundary u => isWordOption u before != isWordOption u next
  | notBoundary u => isWordOption u before == isWordOption u next
  | wordStart u => !isWordOption u before && isWordOption u next
  | wordEnd u => isWordOption u before && !isWordOption u next
  | wordStartHalf u => !isWordOption u before
  | wordEndHalf u => !isWordOption u next

/-- The character before a place. -/
def before? (text : Array Char) (place : Nat) : Option Char :=
  if place = 0 then none else text[place - 1]?

/-- A thread: its instruction, its place, and the marks that it has passed, the latest first. -/
structure Thread where
  label : Nat
  place : Nat
  marks : List (Nat × Nat)

/-- Pairs of an instruction and a place. -/
abbrev Seen := Std.TreeSet (Nat × Nat) lexOrd.compare

namespace Program

/-- The threads that go on from a thread at an instruction, the preferred one first. -/
def successors (text : Array Char) (t : Thread) : Instruction → List Thread
  | .accept => []
  | .one s next => if text[t.place]?.any s.contains then [⟨next, t.place + 1, t.marks⟩] else []
  | .look l next => if l.holds (before? text t.place) text[t.place]? then [⟨next, t.place, t.marks⟩] else []
  | .fork first second => [⟨first, t.place, t.marks⟩, ⟨second, t.place, t.marks⟩]
  | .mark slot next => [⟨next, t.place, (slot, t.place) :: t.marks⟩]

/-- Runs the threads of a stack for up to `fuel` steps; `seen` are the pairs of an instruction and a place where a
thread has been. -/
def runThreads (p : Program) (text : Array Char) :
    Nat → List Thread → Seen → Option Thread × Seen
  | 0, _, seen => (none, seen)
  | _, [], seen => (none, seen)
  | fuel + 1, t :: waiting, seen =>
    if seen.contains (t.label, t.place) then runThreads p text fuel waiting seen
    else
      let seen := seen.insert (t.label, t.place)
      match p.code[t.label]? with
      | none => runThreads p text fuel waiting seen
      | some .accept => (some t, seen)
      | some i => runThreads p text fuel (successors text t i ++ waiting) seen

/-- A bound for the steps of a run: each instruction is carried out once at each place, and leaves two threads at
most. -/
def steps (p : Program) (text : Array Char) : Nat := 3 * (p.code.size + 1) * (text.size + 1) + 1

end Program

/-- A match in a text: its two ends and the marks of its groups, the latest first. -/
structure Match where
  text : Array Char
  start : Nat
  stop : Nat
  marks : List (Nat × Nat)

/-- The characters between two places. -/
def charsBetween (text : Array Char) (start stop : Nat) : List Char :=
  (text.extract start stop).toList

/-- The text of a group; the whole match is group 0. -/
def Match.group? (m : Match) (i : Nat) : Option String :=
  if i = 0 then some (String.ofList (charsBetween m.text m.start m.stop))
  else do
    let start ← m.marks.lookup (2 * i)
    let stop ← m.marks.lookup (2 * i + 1)
    return String.ofList (charsBetween m.text start stop)

namespace Program

/-- The match at the first of `count` places from `place` on that has one. -/
def searchPlaces (p : Program) (text : Array Char) :
    Nat → Nat → Seen → Option Match
  | 0, _, _ => none
  | count + 1, place, seen =>
    match p.runThreads text (p.steps text) [⟨p.start, place, []⟩] seen with
    | (some t, _) => some ⟨text, place, t.place, t.marks⟩
    | (none, seen) => searchPlaces p text count (place + 1) seen

/-- The leftmost match at or after a place. -/
def search? (p : Program) (text : Array Char) (place : Nat) : Option Match :=
  p.searchPlaces text (text.size + 1 - place) place ∅

/-- The next match after one that ended at a place: an empty match right there does not count. -/
def searchAfter? (p : Program) (text : Array Char) (place : Nat) : Option Match :=
  match p.search? text place with
  | some m => if m.stop = place then p.search? text (place + 1) else some m
  | none => none

/-- Up to `count` successive matches after one that ended at a place. -/
def matchesAfter (p : Program) (text : Array Char) : Nat → Nat → List Match
  | 0, _ => []
  | count + 1, place =>
    match p.searchAfter? text place with
    | some m => m :: matchesAfter p text count m.stop
    | none => []

/-- All successive matches in a text. -/
def allMatches (p : Program) (text : Array Char) : List Match :=
  match p.search? text 0 with
  | some m => m :: p.matchesAfter text (text.size + 1) m.stop
  | none => []

end Program

end RecordFix.Pattern
