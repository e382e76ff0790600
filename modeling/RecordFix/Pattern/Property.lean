import RecordFix.Pattern.CharSet
import RecordFix.Text.Age
import RecordFix.Text.Emoji
import RecordFix.Text.Identifier
import RecordFix.Text.Ideograph
import RecordFix.Text.Punctuation
import RecordFix.Text.Script.Extension
import RecordFix.Text.Segment.Sentence
import RecordFix.Text.Sign

/-!
# Properties of characters

The sets of characters that a pattern names by a property of the Unicode character database: a general category or a
script under its own name, a property that a character has or lacks, or an equation between a property and a value.
-/

namespace RecordFix.Pattern

open RecordFix.Text

/-- Names of properties are compared in lower case, without blanks, hyphens, underscores and a leading `is`. -/
def normalizeName (name : String) : String :=
  let plain (cs : List Char) : List Char :=
    (cs.filter fun c => c ≤ '\x7f' && c != ' ' && c != '_' && c != '-').map Char.toLower
  match name.toList with
  | i :: s :: rest =>
    if i.toLower == 'i' && s.toLower == 's' then
      (if plain rest == ['c'] then "isc" else String.ofList (plain rest))
    else String.ofList (plain (i :: s :: rest))
  | cs => String.ofList (plain cs)

/-! ### Categories -/

/-- The general categories under a name: a single one, or a group such as all letters. -/
def findCategories? : String → Option (List Category)
  | "lu" | "uppercaseletter" => some [.uppercaseLetter]
  | "ll" | "lowercaseletter" => some [.lowercaseLetter]
  | "lt" | "titlecaseletter" => some [.titlecaseLetter]
  | "lc" | "casedletter" => some [.uppercaseLetter, .lowercaseLetter, .titlecaseLetter]
  | "lm" | "modifierletter" => some [.modifierLetter]
  | "lo" | "otherletter" => some [.otherLetter]
  | "l" | "letter" => some Category.letters
  | "mn" | "nonspacingmark" => some [.nonspacingMark]
  | "mc" | "spacingmark" => some [.spacingMark]
  | "me" | "enclosingmark" => some [.enclosingMark]
  | "m" | "mark" | "combiningmark" => some Category.marks
  | "nd" | "decimalnumber" | "digit" => some [.decimalNumber]
  | "nl" | "letternumber" => some [.letterNumber]
  | "no" | "othernumber" => some [.otherNumber]
  | "n" | "number" => some Category.numbers
  | "pc" | "connectorpunctuation" => some [.connectorPunctuation]
  | "pd" | "dashpunctuation" => some [.dashPunctuation]
  | "ps" | "openpunctuation" => some [.openPunctuation]
  | "pe" | "closepunctuation" => some [.closePunctuation]
  | "pi" | "initialpunctuation" => some [.initialPunctuation]
  | "pf" | "finalpunctuation" => some [.finalPunctuation]
  | "po" | "otherpunctuation" => some [.otherPunctuation]
  | "p" | "punctuation" | "punct" => some Category.punctuation
  | "sm" | "mathsymbol" => some [.mathSymbol]
  | "sc" | "currencysymbol" => some [.currencySymbol]
  | "sk" | "modifiersymbol" => some [.modifierSymbol]
  | "so" | "othersymbol" => some [.otherSymbol]
  | "s" | "symbol" => some Category.symbols
  | "zs" | "spaceseparator" => some [.spaceSeparator]
  | "zl" | "lineseparator" => some [.lineSeparator]
  | "zp" | "paragraphseparator" => some [.paragraphSeparator]
  | "z" | "separator" => some Category.separators
  | "cc" | "control" | "cntrl" => some [.control]
  | "cf" | "format" => some [.format]
  | "co" | "privateuse" => some [.privateUse]
  | _ => none

/-- The set of a general category or of one of the names that stand for unassigned or all characters. No text holds a
surrogate, and their category has no set. -/
def categorySet? (name : String) : Option Ranges :=
  match name with
  | "any" => some Ranges.all
  | "assigned" => some assigned
  | "ascii" => some (Ranges.between '\x00' '\x7f')
  | "cn" | "unassigned" => some assigned.compl
  | "c" | "other" => some (assigned.compl ∪ Category.unionOf [.control, .format, .privateUse])
  | _ => (findCategories? name).map Category.unionOf

/-! ### Properties that a character has or lacks -/

private def letterSet? : String → Option Ranges
  | "alphabetic" | "alpha" => some alphabetic
  | "otheralphabetic" | "oalpha" => some otherAlphabetic
  | "uppercase" | "upper" => some uppercase
  | "otheruppercase" | "oupper" => some otherUppercase
  | "lowercase" | "lower" => some lowercase
  | "otherlowercase" | "olower" => some otherLowercase
  | "cased" => some cased
  | "caseignorable" | "ci" => some caseIgnorable
  | "softdotted" | "sd" => some softDotted
  | "changeswhenlowercased" | "cwl" => some changesWhenLowercased
  | "changeswhenuppercased" | "cwu" => some changesWhenUppercased
  | "changeswhentitlecased" | "cwt" => some changesWhenTitlecased
  | "changeswhencasefolded" | "cwcf" => some changesWhenCasefolded
  | "changeswhencasemapped" | "cwcm" => some changesWhenCasemapped
  | _ => none

private def markSet? : String → Option Ranges
  | "diacritic" | "dia" => some diacritic
  | "extender" | "ext" => some extender
  | "graphemebase" | "grbase" => some graphemeBase
  | "graphemeextend" | "grext" => some graphemeExtend
  | "othergraphemeextend" | "ogrext" => some otherGraphemeExtend
  | "graphemelink" | "grlink" => some graphemeLink
  | "variationselector" | "vs" => some variationSelector
  | "modifiercombiningmark" | "mcm" => some modifierCombiningMark
  | "prependedconcatenationmark" | "pcm" => some prependedMark
  | _ => none

private def identifierSet? : String → Option Ranges
  | "idstart" | "ids" => some idStart
  | "idcontinue" | "idc" => some idContinue
  | "xidstart" | "xids" => some closedIdStart
  | "xidcontinue" | "xidc" => some closedIdContinue
  | "otheridstart" | "oids" => some otherIdStart
  | "otheridcontinue" | "oidc" => some otherIdContinue
  | "idcompatmathstart" => some mathIdStart
  | "idcompatmathcontinue" => some mathIdContinue
  | "patternsyntax" | "patsyn" => some patternSyntax
  | "patternwhitespace" | "patws" => some patternBlank
  | _ => none

private def pictureSet? : String → Option Ranges
  | "ideographic" | "ideo" => some ideographic
  | "unifiedideograph" | "uideo" => some unifiedIdeograph
  | "radical" => some radical
  | "idsunaryoperator" | "idsu" => some unaryOperator
  | "idsbinaryoperator" | "idsb" => some binaryOperator
  | "idstrinaryoperator" | "idst" => some trinaryOperator
  | "emoji" => some emoji
  | "emojipresentation" | "epres" => some emojiPresentation
  | "emojimodifier" | "emod" => some emojiModifier
  | "emojimodifierbase" | "ebase" => some emojiModifierBase
  | "emojicomponent" | "ecomp" => some emojiComponent
  | "extendedpictographic" | "extpict" => some extendedPictographic
  | "regionalindicator" | "ri" => some regionalIndicator
  | _ => none

private def signSet? : String → Option Ranges
  | "dash" => some dash
  | "hyphen" => some hyphen
  | "quotationmark" | "qmark" => some quotationMark
  | "sentenceterminal" | "sterm" => some sentenceTerminal
  | "terminalpunctuation" | "term" => some terminalPunctuation
  | "math" => some math
  | "othermath" | "omath" => some otherMath
  | "asciihexdigit" | "ahex" => some asciiHexDigit
  | "hexdigit" | "hex" => some hexDigit
  | "whitespace" | "wspace" | "space" => some blank
  | "bidicontrol" | "bidic" => some bidiControl
  | "joincontrol" | "joinc" => some joinControl
  | "defaultignorablecodepoint" | "di" => some defaultIgnorable
  | "otherdefaultignorablecodepoint" | "odi" => some otherDefaultIgnorable
  | "deprecated" | "dep" => some deprecatedCharacter
  | "noncharactercodepoint" | "nchar" => some noncharacter
  | "logicalorderexception" | "loe" => some logicalOrderException
  | _ => none

/-- The set of a property that a character either has or lacks. -/
def binarySet? (name : String) : Option Ranges :=
  letterSet? name <|> markSet? name <|> identifierSet? name <|> pictureSet? name <|> signSet? name

/-! ### Names and equations -/

private def scriptSet? (name : String) : Option Ranges :=
  (findScript? name).map (·.ranges)

/-- The set of a property given by one name. -/
def namedSet? (name : String) : Option Ranges :=
  let n := normalizeName name
  binarySet? n <|> categorySet? n <|> scriptSet? n

/-- The set of the characters that have a value of a property. -/
def valueSet? (property value : String) : Option Ranges :=
  let v := normalizeName value
  match normalizeName property with
  | "generalcategory" | "gc" => categorySet? v
  | "script" | "sc" => scriptSet? v
  | "scriptextensions" | "scx" => (findScript? v).map Script.used
  | "age" => charactersUpTo? v
  | "graphemeclusterbreak" | "gcb" => (GraphemeClass.ofName? v).map (·.ranges)
  | "wordbreak" | "wb" => (WordClass.ofName? v).map (·.ranges)
  | "sentencebreak" | "sb" => (SentenceClass.ofName? v).map (·.ranges)
  | _ => none

end RecordFix.Pattern
