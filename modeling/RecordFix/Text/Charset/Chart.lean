import RecordFix.Text.Ranges

/-!
# Code charts

A chart lists the characters of a set in the order of their cells, with `FFFD` for a cell that is empty. A chart is
written as words: characters that stand for themselves, ranges of code points in hexadecimal, and a full stop with
the number of cells that are empty.
-/

namespace RecordFix.Text

structure Chart where
  cells : Array Char
  deriving Inhabited

namespace Chart

/-- The cells that a word of a chart fills. -/
private def cellsOf (word : String) : List Char :=
  match word.toList with
  | '.' :: count => List.replicate (hexValue (String.ofList count)) '\ufffd'
  | c :: cs =>
    if c ≤ '\x7f' then
      (Ranges.parse word).bounds.flatMap fun (lo, hi) => (List.range (hi + 1 - lo)).map fun i => Char.ofNat (lo + i)
    else c :: cs
  | [] => []

/-- Reads a chart. -/
def parse (text : String) : Chart :=
  ⟨(words text).foldl (fun cells word => cells ++ cellsOf word) #[]⟩

/-- The character in a cell. -/
def char? (t : Chart) (i : Nat) : Option Char :=
  t.cells[i]?.filter (· != '\ufffd')

end Chart

end RecordFix.Text
