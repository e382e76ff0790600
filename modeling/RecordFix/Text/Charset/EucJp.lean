import RecordFix.Text.Charset.ShiftJis

/-!
# EUC-JP

The Japanese set of pairs in the upper half of the bytes. One byte announces a narrow katakana, another a pair of the
supplementary chart.
-/

namespace RecordFix.Text

/-- What has been read of a character. -/
inductive EucJpState where
  | start
  | lead (b : UInt8)
  | supplement (b : UInt8)
  deriving DecidableEq

namespace EucJpState

private def isUpper (b : UInt8) : Bool := isBetween 0xA1 0xFE b

/-- The cell of a pair in a chart of 94 columns. -/
private def cell (lead b : UInt8) : Nat :=
  (lead.toNat - 0xA1) * 94 + (b.toNat - 0xA1)

private def read (chart : Chart) (lead b : UInt8) : List Char :=
  let c? := if isUpper lead && isUpper b then chart.char? (cell lead b) else none
  match c? with
  | some c => [c]
  | none => unreadable b

private def step : EucJpState → UInt8 → List Char × EucJpState
  | start, b =>
    match asciiChar? b with
    | some c => ([c], start)
    | none => if b == 0x8E || b == 0x8F || isUpper b then ([], lead b) else ([replacement], start)
  | lead l, b =>
    if l == 0x8E && isBetween 0xA1 0xDF b then ([narrowKatakana (b.toNat - 0xA1)], start)
    else if l == 0x8F && isUpper b then ([], supplement b)
    else (read japaneseChart l b, start)
  | supplement l, b => (read supplementaryChart l b, start)

end EucJpState

def eucJp : Transducer EucJpState where
  start := .start
  step := EucJpState.step
  final s := if s = .start then [] else [replacement]

end RecordFix.Text
