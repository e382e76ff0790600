import RecordFix.Text.Blank
import RecordFix.Text.Mark

/-!
# Signs

Signs of mathematics, and characters that steer how a text is shown.
-/

namespace RecordFix.Text

def math : Ranges := Ranges.parse
  "2B 3C-3E 5E 7C 7E AC B1 D7 F7 3D0-3D2 3D5 3F0-3F1 3F4-3F6 606-608 2016 2032-2034 2040 2044 2052 2061-2064
    207A-207E 208A-208E 20D0-20DC 20E1 20E5-20E6 20EB-20EF 2102 2107 210A-2113 2115 2118-211D 2124 2128-2129
    212C-212D 212F-2131 2133-2138 213C-2149 214B 2190-21A7 21A9-21AE 21B0-21B1 21B6-21B7 21BC-21DB 21DD
    21E4-21E5 21F4-22FF 2308-230B 2320-2321 237C 239B-23B5 23B7 23D0 23DC-23E2 25A0-25A1 25AE-25B7 25BC-25C1
    25C6-25C7 25CA-25CB 25CF-25D3 25E2 25E4 25E7-25EC 25F8-25FF 2605-2606 2640 2642 2660-2663 266D-266F
    27C0-27FF 2900-2AFF 2B30-2B44 2B47-2B4C FB29 FE61-FE66 FE68 FF0B FF1C-FF1E FF3C FF3E FF5C FF5E FFE2
    FFE9-FFEC 10D8E-10D8F 1D400-1D454 1D456-1D49C 1D49E-1D49F 1D4A2 1D4A5-1D4A6 1D4A9-1D4AC 1D4AE-1D4B9 1D4BB
    1D4BD-1D4C3 1D4C5-1D505 1D507-1D50A 1D50D-1D514 1D516-1D51C 1D51E-1D539 1D53B-1D53E 1D540-1D544 1D546
    1D54A-1D550 1D552-1D6A5 1D6A8-1D7CB 1D7CE-1D7FF 1EE00-1EE03 1EE05-1EE1F 1EE21-1EE22 1EE24 1EE27 1EE29-1EE32
    1EE34-1EE37 1EE39 1EE3B 1EE42 1EE47 1EE49 1EE4B 1EE4D-1EE4F 1EE51-1EE52 1EE54 1EE57 1EE59 1EE5B 1EE5D 1EE5F
    1EE61-1EE62 1EE64 1EE67-1EE6A 1EE6C-1EE72 1EE74-1EE77 1EE79-1EE7C 1EE7E 1EE80-1EE89 1EE8B-1EE9B 1EEA1-1EEA3
    1EEA5-1EEA9 1EEAB-1EEBB 1EEF0-1EEF1"

/-- Hexadecimal digits in their usual and their wide form. -/
def hexDigit : Ranges := Ranges.parse
  "30-39 41-46 61-66 FF10-FF19 FF21-FF26 FF41-FF46"

/-- Hexadecimal digits of ASCII. -/
def asciiHexDigit : Ranges := Ranges.parse
  "30-39 41-46 61-66"

/-- Controls of the direction of writing. -/
def bidiControl : Ranges := Ranges.parse
  "61C 200E-200F 202A-202E 2066-2069"

/-- Characters whose use is discouraged. -/
def deprecatedCharacter : Ranges := Ranges.parse
  "149 673 F77 F79 17A3-17A4 206A-206F 2329-232A E0001"

/-- Places that will never be characters. -/
def noncharacter : Ranges := Ranges.parse
  "FDD0-FDEF FFFE-FFFF 1FFFE-1FFFF 2FFFE-2FFFF 3FFFE-3FFFF 4FFFE-4FFFF 5FFFE-5FFFF 6FFFE-6FFFF 7FFFE-7FFFF
    8FFFE-8FFFF 9FFFE-9FFFF AFFFE-AFFFF BFFFE-BFFFF CFFFE-CFFFF DFFFE-DFFFF EFFFE-EFFFF FFFFE-FFFFF
    10FFFE-10FFFF"

/-- Vowels that are written before the consonant after which they are spoken. -/
def logicalOrderException : Ranges := Ranges.parse
  "E40-E44 EC0-EC4 19B5-19B7 19BA AAB5-AAB6 AAB9 AABB-AABC"

/-- Places that are not shown where they are not supported, and that no category accounts for. -/
def otherDefaultIgnorable : Ranges := Ranges.parse
  "34F 115F-1160 17B4-17B5 2065 3164 FFA0 FFF0-FFF8 E0000 E0002-E001F E0080-E00FF E01F0-E0FFF"

/-- Formatting characters that are shown: annotations and the joiners of hieroglyphs. -/
private def shownFormat : Ranges := Ranges.parse
  "FFF9-FFFB 13430-1343F"

/-- The characters that are not shown where they are not supported. -/
def defaultIgnorable : Ranges :=
  (otherDefaultIgnorable ∪ Category.format.ranges ∪ variationSelector) \ (blank ∪ shownFormat ∪ prependedMark)

/-- The mathematical signs that are no mathematical symbols. -/
def otherMath : Ranges := math \ Category.mathSymbol.ranges

end RecordFix.Text
