import RecordFix.Text.Charset.Chart.Japanese
import RecordFix.Text.Charset.Transducer

/-!
# Shift_JIS

The Japanese set whose pairs leave room for the narrow katakana among the single bytes. A part of the pairs stands for
the private use area.
-/

namespace RecordFix.Text

/-- A narrow katakana letter or mark by its place among them. -/
def narrowKatakana (i : Nat) : Char := Char.ofNat (0xFF61 + i)

private def shiftJisSingle? (b : UInt8) : Option Char :=
  if b ≤ 0x80 then some (Char.ofNat b.toNat)
  else if isBetween 0xA1 0xDF b then some (narrowKatakana (b.toNat - 0xA1))
  else none

private def shiftJisCell? (lead b : UInt8) : Option Nat :=
  let row := (lead.toNat - (if lead < 0xA0 then 0x81 else 0xC1)) * 188
  if isBetween 0x40 0x7E b then some (row + (b.toNat - 0x40))
  else if isBetween 0x80 0xFC b then some (row + (b.toNat - 0x41))
  else none

private def shiftJisPair? (lead b : UInt8) : Option (List Char) := do
  let cell ← shiftJisCell? lead b
  if 8836 ≤ cell && cell ≤ 10715 then return [Char.ofNat (0xE000 + (cell - 8836))]
  else return [← japaneseChart.char? cell]

def shiftJis : PairCode where
  single? := shiftJisSingle?
  isLead b := isBetween 0x81 0x9F b || isBetween 0xE0 0xFC b
  pair? := shiftJisPair?

end RecordFix.Text
