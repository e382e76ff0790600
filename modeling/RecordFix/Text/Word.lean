import RecordFix.Text.Letter

/-!
# Words

`word` is the set of the characters that words are made of, `digit` that of the decimal digits of all scripts.
-/

namespace RecordFix.Text

def digit : Ranges := Category.decimalNumber.ranges

/-- The two controls of the joining of letters. -/
def joinControl : Ranges := Ranges.parse
  "200C-200D"

/-- Alphabetic characters, marks, decimal digits, connecting punctuation and the two joiners. -/
def word : Ranges :=
  alphabetic ∪ Category.unionOf (.decimalNumber :: .connectorPunctuation :: Category.marks) ∪ joinControl

def isWord (c : Char) : Bool := word.contains c

/-- A character of words within ASCII. -/
def isAsciiWord (c : Char) : Bool :=
  c.isAlphanum || c == '_'

end RecordFix.Text
