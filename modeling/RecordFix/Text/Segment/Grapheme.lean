import RecordFix.Text.Emoji
import RecordFix.Text.Sign

/-!
# Parts of written units

The classes of characters by which a text is cut into the units that a reader sees as one character. The classes
are disjoint; a character in none of them is a unit of its own.
-/

namespace RecordFix.Text

inductive GraphemeClass where
  | carriageReturn
  | lineFeed
  | control
  | extend
  | joiner
  | regionalIndicator
  | prepend
  | spacing
  | leading
  | vowel
  | trailing
  | openSyllable
  | closedSyllable
  deriving DecidableEq, Repr

namespace GraphemeClass

private def extending : Ranges := graphemeExtend ∪ emojiModifier

private def prepending : Ranges :=
  prependedMark ∪ Ranges.parse "D4E 111C2-111C3 113D1 1193F 11941 11A3A 11A84-11A89 11D46 11F02"

/-- Spacing marks that do not join the unit before them. -/
private def freeSpacing : Ranges := Ranges.parse
  "102B-102C 1038 1062-1064 1067-106D 1083 1087-108C 108F 109A-109C 1A61 1A63-1A64 AA7B AA7D 11720-11721"

private def controlling : Ranges :=
  (Category.unionOf [.control, .format, .lineSeparator, .paragraphSeparator] ∪ (defaultIgnorable \ assigned)) \
    (extending ∪ prepending ∪ Ranges.parse "A D 200D")

private def syllables : Ranges := Ranges.between '가' '힣'

/-- The syllables without a final consonant; each of them leads a row of 28. -/
private def openSyllables : Ranges :=
  Ranges.ofCodes ((List.range 399).map fun i => '가'.toNat + 28 * i)

def ranges : GraphemeClass → Ranges
  | carriageReturn => Ranges.single '\r'
  | lineFeed => Ranges.single '\n'
  | control => controlling
  | extend => extending
  | joiner => Ranges.single '\u200d'
  | regionalIndicator => Text.regionalIndicator
  | prepend => prepending
  | spacing => (Category.spacingMark.ranges ∪ Ranges.parse "E33 EB3") \ (extending ∪ freeSpacing)
  | leading => Ranges.parse "1100-115F A960-A97C"
  | vowel => Ranges.parse "1160-11A7 D7B0-D7C6 16D63 16D67-16D6A"
  | trailing => Ranges.parse "11A8-11FF D7CB-D7FB"
  | openSyllable => openSyllables
  | closedSyllable => syllables \ openSyllables

/-- The class under a name. -/
def ofName? : String → Option GraphemeClass
  | "cr" => some .carriageReturn
  | "lf" => some .lineFeed
  | "cn" | "control" => some .control
  | "ex" | "extend" => some .extend
  | "zwj" => some .joiner
  | "ri" | "regionalindicator" => some .regionalIndicator
  | "pp" | "prepend" => some .prepend
  | "sm" | "spacingmark" => some .spacing
  | "l" => some .leading
  | "v" => some .vowel
  | "t" => some .trailing
  | "lv" => some .openSyllable
  | "lvt" => some .closedSyllable
  | _ => none

end GraphemeClass

end RecordFix.Text
