import RecordFix.Text.Charset.Chart.Korean
import RecordFix.Text.Charset.Transducer

/-!
# EUC-KR

The Korean set with all syllables of the modern script.
-/

namespace RecordFix.Text

private def eucKrPair? (lead b : UInt8) : Option (List Char) := do
  if isBetween 0x41 0xFE b then
    return [← koreanChart.char? ((lead.toNat - 0x81) * 190 + (b.toNat - 0x41))]
  else none

def eucKr : PairCode where
  single? := asciiChar?
  isLead := isBetween 0x81 0xFE
  pair? := eucKrPair?

end RecordFix.Text
