import RecordFix.Glob

/-!
# A cache of compiled globs

A matcher answers the question of `Glob.matchesName` and keeps each pattern with glob syntax in its compiled form.
-/

namespace RecordFix

/-- The patterns that were compiled so far, with what came of it. -/
structure Matcher where
  compiled : List (String × Option Pattern) := []

namespace Matcher

/-- Keeps a pattern that is put to use. -/
def consult (m : Matcher) (pattern : String) : Matcher :=
  if Glob.isPattern pattern && (m.compiled.lookup pattern).isNone then
    ⟨(pattern, Glob.compile? pattern) :: m.compiled⟩
  else m

/-- Whether a name matches a pattern, and the matcher after the question. -/
def matchesName (m : Matcher) (pattern name : String) : Bool × Matcher :=
  if Glob.isPattern pattern then
    match m.compiled.lookup pattern with
    | some compiled => (Glob.test pattern compiled name, m)
    | none =>
      let compiled := Glob.compile? pattern
      (Glob.test pattern compiled name, ⟨(pattern, compiled) :: m.compiled⟩)
  else (pattern == name, m)

/-- The number of patterns kept. -/
def size (m : Matcher) : Nat := m.compiled.length

end Matcher

end RecordFix
