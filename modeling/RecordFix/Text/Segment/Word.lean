import RecordFix.Text.Ideograph
import RecordFix.Text.Script
import RecordFix.Text.Segment.Grapheme
import RecordFix.Text.Word

/-!
# Parts of words

The classes of characters by which a text is cut into words. The classes are disjoint; a character in none of them
stands alone.
-/

namespace RecordFix.Text

inductive WordClass where
  | letter
  | hebrewLetter
  | katakana
  | numeric
  | connector
  | extend
  | format
  | joiner
  | regionalIndicator
  | innerLetter
  | innerNumber
  | innerBoth
  | singleQuote
  | doubleQuote
  | carriageReturn
  | lineFeed
  | newline
  | blank
  deriving DecidableEq, Repr

/-- Digits, and signs that take part in numbers. -/
def numeric : Ranges :=
  digit ∪ Ranges.parse "600-605 66B 6DD 890-891 8E2 110BD 110CD"

/-- Marks that never stand apart from the character before them. -/
def attachedMark : Ranges := graphemeExtend ∪ Category.spacingMark.ranges

namespace WordClass

private def ofScripts (names : List String) : Ranges :=
  Ranges.unionAll ((names.filterMap findScript?).map (·.ranges))

private def katakanaLetters : Ranges :=
  ofScripts ["kana"] ∪ Ranges.parse "3031-3035 309B-309C 30A0 30FC FF70"

private def hebrewLetters : Ranges := ofScripts ["hebr"] ∩ Category.otherLetter.ranges

/-- Hiragana, and the scripts whose words are not separated. -/
private def unseparated : Ranges :=
  ofScripts ["hira", "thai", "laoo", "mymr", "khmr", "tale", "talu", "lana", "tavt", "ahom"]

private def extending : Ranges := attachedMark ∪ emojiModifier

/-- Signs that count as letters inside words. -/
private def letterSigns : Ranges := Ranges.parse
  "B8 2C2-2C5 2D2-2D7 2DE-2DF 2E5-2EB 2ED 2EF-2FF 55A-55C 55E 58A 5F3 70F A708-A716 A720-A721 A789-A78A AB5B"

private def letters : Ranges :=
  (alphabetic \ (extending ∪ ideographic ∪ katakanaLetters ∪ hebrewLetters ∪ unseparated)) ∪ letterSigns

def ranges : WordClass → Ranges
  | letter => letters
  | hebrewLetter => hebrewLetters
  | katakana => katakanaLetters
  | numeric => Text.numeric
  | connector => Category.connectorPunctuation.ranges ∪ Ranges.single '\u202f'
  | extend => extending
  | format => Category.format.ranges \ (extending ∪ prependedMark ∪ Ranges.parse "200B-200D")
  | joiner => Ranges.single '\u200d'
  | regionalIndicator => Text.regionalIndicator
  | innerLetter => Ranges.parse "3A B7 387 55F 5F4 2027 FE13 FE55 FF1A"
  | innerNumber => Ranges.parse "2C 3B 37E 589 60C-60D 66C 7F8 2044 FE10 FE14 FE50 FE54 FF0C FF1B"
  | innerBoth => Ranges.parse "2E 2018-2019 2024 FE52 FF07 FF0E"
  | singleQuote => Ranges.single '\''
  | doubleQuote => Ranges.single '"'
  | carriageReturn => Ranges.single '\r'
  | lineFeed => Ranges.single '\n'
  | newline => Ranges.parse "B-C 85 2028-2029"
  | blank => Category.spaceSeparator.ranges \ Ranges.parse "A0 2007 202F"

/-- The class under a name. -/
def ofName? : String → Option WordClass
  | "le" | "aletter" => some .letter
  | "hl" | "hebrewletter" => some .hebrewLetter
  | "ka" | "katakana" => some .katakana
  | "nu" | "numeric" => some .numeric
  | "ex" | "extendnumlet" => some .connector
  | "extend" => some .extend
  | "fo" | "format" => some .format
  | "zwj" => some .joiner
  | "ri" | "regionalindicator" => some .regionalIndicator
  | "ml" | "midletter" => some .innerLetter
  | "mn" | "midnum" => some .innerNumber
  | "mb" | "midnumlet" => some .innerBoth
  | "sq" | "singlequote" => some .singleQuote
  | "dq" | "doublequote" => some .doubleQuote
  | "cr" => some .carriageReturn
  | "lf" => some .lineFeed
  | "nl" | "newline" => some .newline
  | "wsegspace" => some .blank
  | _ => none

end WordClass

end RecordFix.Text
