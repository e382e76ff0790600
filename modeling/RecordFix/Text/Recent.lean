import RecordFix.Text.Letter

/-!
# Recent characters

Patterns see the characters of version 16 of the Unicode character database. Names and the case of texts follow
version 17: this module adds what is new in that version to the properties that they need.
-/

namespace RecordFix.Text

private def recentlyAlphabetic : Ranges := Ranges.parse
  "88F C5C CDC A7CE-A7CF A7D2 A7D4 A7F1 10940-10959 10EC5-10EC7 10EFA-10EFB 11B60-11B67 11DB0-11DDB 16EA0-16EB8
    16EBB-16ED3 16FF2-16FF6 187F8-187FF 18D09-18D1E 18D80-18DF2 1E6C0-1E6DE 1E6E0-1E6F5 1E6FE-1E6FF 2B73A-2B73F
    2CEA2-2CEAD 323B0-33479"

private def recentlyNumeric : Ranges := Ranges.parse
  "11DE0-11DE9 16FF4-16FF6"

private def recentlyCased : Ranges := Ranges.parse
  "A7CE-A7CF A7D2 A7D4 A7F1 16EA0-16EB8 16EBB-16ED3"

private def recentlyCaseIgnorable : Ranges := Ranges.parse
  "1ACF-1ADD 1AE0-1AEB A7F1 10EC5 10EFA-10EFB 11B60 11B62-11B64 11B66 11DD9 16FF2-16FF3 1E6E3 1E6E6 1E6EE-1E6EF
    1E6F5 1E6FF"

private def alphabeticNow : Ranges := alphabetic ∪ recentlyAlphabetic

private def numericNow : Ranges := Category.unionOf Category.numbers ∪ recentlyNumeric

private def casedNow : Ranges := (cased \ Ranges.single 'ʕ') ∪ recentlyCased

private def caseIgnorableNow : Ranges := caseIgnorable ∪ recentlyCaseIgnorable

def isAlphabetic (c : Char) : Bool := alphabeticNow.contains c

/-- A letter or a number of any kind. -/
def isAlphanumeric (c : Char) : Bool := isAlphabetic c || numericNow.contains c

/-- A character that takes part in case; the pharyngeal fricative does so no longer. -/
def isCased (c : Char) : Bool := casedNow.contains c

/-- A character that does not count at the ends of a word. -/
def isCaseIgnorable (c : Char) : Bool := caseIgnorableNow.contains c

end RecordFix.Text
