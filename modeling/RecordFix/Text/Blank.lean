import RecordFix.Text.Ranges

/-!
# Blank characters

`isBlank` is the property White_Space of the Unicode character database, and `blank` its set; `trim` takes blank
characters off both ends of a text. Every character that core counts as white space is blank (`isBlank_of_isWhitespace`).
-/

namespace RecordFix.Text

/-- The characters with the property White_Space. -/
def isBlank (c : Char) : Bool :=
  let n := c.toNat
  (9 ≤ n && n ≤ 13) || n == 32 || n == 0x85 || n == 0xA0 || n == 0x1680 || (0x2000 ≤ n && n ≤ 0x200A) ||
    n == 0x2028 || n == 0x2029 || n == 0x202F || n == 0x205F || n == 0x3000

/-- The set of the blank characters. -/
def blank : Ranges := Ranges.parse
  "9-D 20 85 A0 1680 2000-200A 2028-2029 202F 205F 3000"

theorem isBlank_of_isWhitespace {c : Char} (h : c.isWhitespace = true) : isBlank c = true := by
  simp only [Char.isWhitespace, Bool.or_eq_true, decide_eq_true_eq] at h
  rcases h with ((rfl | rfl) | rfl) | rfl <;> rfl

/-- A list of characters without the blanks at both ends. -/
def trimChars (cs : List Char) : List Char :=
  ((cs.dropWhile isBlank).reverse.dropWhile isBlank).reverse

/-- A text without the blanks at both ends. -/
def trim (s : String) : String :=
  String.ofList (trimChars s.toList)

end RecordFix.Text
