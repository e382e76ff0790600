import RecordFix.Pattern.Replace

/-!
# Globs

A field name may be given as a glob. It is a list of alternatives between bars, in which `*` stands for any run of
characters, `?` for one character, neither for a line feed, and a bracketed class for one character of the class or,
with `!` in front, outside it. The two characters `[]` are no class but the marker of a list, and stand for
themselves; so does the marker at the end of a name that has no other glob syntax. A glob is translated to a pattern
for the whole name. One whose translation is no pattern, because a class is not well formed or it is too large,
matches its own text only.
-/

namespace RecordFix

namespace Glob

/-- The text of a pattern for the alternatives of a glob, from a place that is in a class or outside of all. -/
def translateFrom : Bool → List Char → List Char
  | _, [] => []
  | true, ']' :: cs => ']' :: translateFrom false cs
  | true, '\\' :: cs => '\\' :: '\\' :: translateFrom true cs
  | true, c :: cs => c :: translateFrom true cs
  | false, '*' :: cs => '.' :: '*' :: translateFrom false cs
  | false, '?' :: cs => '.' :: translateFrom false cs
  | false, '|' :: cs => '|' :: translateFrom false cs
  | false, '[' :: ']' :: cs => Pattern.quoted '[' ++ (Pattern.quoted ']' ++ translateFrom false cs)
  | false, '[' :: '!' :: cs => '[' :: '^' :: translateFrom true cs
  | false, '[' :: cs => '[' :: translateFrom true cs
  | false, c :: cs => Pattern.quoted c ++ translateFrom false cs

/-- The text of a pattern that matches what a glob stands for. -/
def translation (pattern : String) : String :=
  "^(?:" ++ String.ofList (translateFrom false pattern.toList) ++ ")$"

/-- Reads a glob; `none` if it is not well formed, or larger than a pattern may be. -/
def compile? (pattern : String) : Option Pattern := Pattern.parse? (translation pattern)

/-- The characters of a name without a list marker at its end. -/
def withoutMarker (cs : List Char) : List Char :=
  match cs.reverse with
  | ']' :: '[' :: rest => rest.reverse
  | _ => cs

/-- Whether a name has glob syntax. -/
def isPattern (name : String) : Bool :=
  let cs := withoutMarker name.toList
  cs.any (fun c => c == '*' || c == '?' || c == '|') || (cs.contains '[' && cs.contains ']')

/-- The test that a compiled pattern, or one that does not compile, puts to a name. -/
def test (pattern : String) (compiled : Option Pattern) (name : String) : Bool :=
  match compiled with
  | some p => p.isMatch name
  | none => pattern == name

/-- Whether a name matches a pattern; one without glob syntax matches itself. -/
def matchesName (pattern name : String) : Bool :=
  if isPattern pattern then test pattern (compile? pattern) name else pattern == name

end Glob

end RecordFix
