import RecordFix.Text.Charset.Chart.Traditional
import RecordFix.Text.Charset.Transducer

/-!
# Big5

The set of traditional Chinese with the characters of Hong Kong. Four cells hold a letter with an accent that are two
characters.
-/

namespace RecordFix.Text

private def big5Cell? (lead b : UInt8) : Option Nat :=
  if isBetween 0x40 0x7E b then some ((lead.toNat - 0x81) * 157 + (b.toNat - 0x40))
  else if isBetween 0xA1 0xFE b then some ((lead.toNat - 0x81) * 157 + (b.toNat - 0x62))
  else none

private def big5Pair? (lead b : UInt8) : Option (List Char) := do
  match ← big5Cell? lead b with
  | 1133 => return ['Ê', '\u0304']
  | 1135 => return ['Ê', '\u030c']
  | 1164 => return ['ê', '\u0304']
  | 1166 => return ['ê', '\u030c']
  | cell => return [← traditionalChart.char? cell]

def big5 : PairCode where
  single? := asciiChar?
  isLead := isBetween 0x81 0xFE
  pair? := big5Pair?

end RecordFix.Text
