import RecordFix.Text.Letter

/-!
# Identifiers

The characters that may begin and continue a name, with the stricter sets that stay closed under compatibility
forms, and the characters that are kept for the syntax of patterns.
-/

namespace RecordFix.Text

/-- Characters that begin names though they are no letters. -/
def otherIdStart : Ranges := Ranges.parse
  "1885-1886 2118 212E 309B-309C"

/-- Characters that continue names for the sake of older names. -/
def otherIdContinue : Ranges := Ranges.parse
  "B7 387 1369-1371 19DA 200C-200D 30FB FF65"

/-- Mathematical signs that may begin names. -/
def mathIdStart : Ranges := Ranges.parse
  "2202 2207 221E 1D6C1 1D6DB 1D6FB 1D715 1D735 1D74F 1D76F 1D789 1D7A9 1D7C3"

/-- Mathematical signs that may stand inside names. -/
def mathIdContinue : Ranges :=
  mathIdStart ∪ Ranges.parse "B2-B3 B9 2070 2074-207E 2080-208E"

/-- Characters that are kept for the syntax of patterns. -/
def patternSyntax : Ranges := Ranges.parse
  "21-2F 3A-40 5B-5E 60 7B-7E A1-A7 A9 AB-AC AE B0-B1 B6 BB BF D7 F7 2010-2027 2030-203E 2041-2053 2055-205E
    2190-245F 2500-2775 2794-2BFF 2E00-2E7F 3001-3003 3008-3020 3030 FD3E-FD3F FE45-FE46"

/-- The blanks of patterns. -/
def patternBlank : Ranges := Ranges.parse
  "9-D 20 85 200E-200F 2028-2029"

/-- Characters that have a compatibility form which may not stand inside a name. -/
private def openContinue : Ranges := Ranges.parse
  "37A 309B-309C FC5E-FC63 FDFA-FDFB FE70 FE72 FE74 FE76 FE78 FE7A FE7C FE7E"

/-- Characters that have a compatibility form which may only continue a name. -/
private def openStart : Ranges := Ranges.parse
  "E33 EB3 FF9E-FF9F"

/-- The characters that may begin a name. -/
def idStart : Ranges :=
  (letter ∪ Category.letterNumber.ranges ∪ otherIdStart) \ (patternSyntax ∪ patternBlank)

/-- The characters that may stand inside a name. -/
def idContinue : Ranges :=
  idStart ∪
    ((Category.unionOf [.nonspacingMark, .spacingMark, .decimalNumber, .connectorPunctuation] ∪ otherIdContinue) \
      (patternSyntax ∪ patternBlank))

/-- The characters that begin a name in each of their compatibility forms. -/
def closedIdStart : Ranges := idStart \ (openStart ∪ openContinue)

/-- The characters that stand inside a name in each of their compatibility forms. -/
def closedIdContinue : Ranges := idContinue \ openContinue

end RecordFix.Text
