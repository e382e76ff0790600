import RecordFix.Text.Punctuation
import RecordFix.Text.Segment.Word

/-!
# Parts of sentences

The classes of characters by which a text is cut into sentences. The classes are disjoint; a character in none of
them neither ends nor continues a sentence.
-/

namespace RecordFix.Text

inductive SentenceClass where
  | carriageReturn
  | lineFeed
  | separator
  | space
  | lower
  | upper
  | otherLetter
  | numeric
  | fullStop
  | terminal
  | continuation
  | closing
  | extend
  | format
  deriving DecidableEq, Repr

namespace SentenceClass

/-- Full stops, which end a sentence or an abbreviation. -/
private def fullStops : Ranges := Ranges.parse
  "2E 2024 FE52 FF0E"

/-- Quotation marks that are no initial or final punctuation. -/
private def quotes : Ranges := Ranges.parse
  "22 27 275B-2760 2E00-2E01 2E06-2E08 2E0B 1F676-1F678"

/-- The two alphabets of Georgian have no case at the beginning of a sentence. -/
private def georgian : Ranges := Ranges.parse
  "10D0-10FA 10FD-10FF 1C90-1CBA 1CBD-1CBF"

private def extending : Ranges := attachedMark ∪ Ranges.single '\u200d'

private def lowerLetters : Ranges := lowercase \ (graphemeExtend ∪ georgian)

private def upperLetters : Ranges := (uppercase ∪ Category.titlecaseLetter.ranges) \ georgian

private def separators : Ranges := Ranges.parse
  "85 2028-2029"

def ranges : SentenceClass → Ranges
  | carriageReturn => Ranges.single '\r'
  | lineFeed => Ranges.single '\n'
  | separator => separators
  | space => Text.blank \ (separators ∪ Ranges.parse "A D")
  | lower => lowerLetters
  | upper => upperLetters
  | otherLetter => (alphabetic ∪ Ranges.single '\u05f3') \ (lowerLetters ∪ upperLetters ∪ extending)
  | numeric => Text.numeric ∪ Ranges.single '\u066c'
  | fullStop => fullStops
  | terminal => sentenceTerminal \ fullStops
  | continuation => Ranges.parse
      "2C-2D 3A-3B 37E 55D 60C-60D 7F8 1802 1808 2013-2014 3001 FE10-FE11 FE13-FE14 FE31-FE32 FE50-FE51 FE54-FE55
        FE58 FE63 FF0C-FF0D FF1A-FF1B FF64"
  | closing =>
      Category.unionOf [.openPunctuation, .closePunctuation, .initialPunctuation, .finalPunctuation] ∪ quotes
  | extend => extending
  | format => Category.format.ranges \ (extending ∪ Text.numeric ∪ Ranges.single '\u200c')

/-- The class under a name. -/
def ofName? : String → Option SentenceClass
  | "cr" => some .carriageReturn
  | "lf" => some .lineFeed
  | "se" | "sep" => some .separator
  | "sp" => some .space
  | "lo" | "lower" => some .lower
  | "up" | "upper" => some .upper
  | "le" | "oletter" => some .otherLetter
  | "nu" | "numeric" => some .numeric
  | "at" | "aterm" => some .fullStop
  | "st" | "sterm" => some .terminal
  | "sc" | "scontinue" => some .continuation
  | "cl" | "close" => some .closing
  | "ex" | "extend" => some .extend
  | "fo" | "format" => some .format
  | _ => none

end SentenceClass

end RecordFix.Text
