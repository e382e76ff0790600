import RecordFix.Text.Blank
import RecordFix.Text.Case
import RecordFix.Text.Word

/-!
# Sets of characters in patterns

The classes of digits, blanks and word characters, the bracketed ASCII classes, and the sets that ignore case.
-/

namespace RecordFix.Pattern

open RecordFix.Text

/-- The set, or its complement. -/
def negateIf (negated : Bool) (s : Ranges) : Ranges := if negated then s.compl else s

/-- The characters that agree with one of the set up to case. -/
def foldCase (s : Ranges) : Ranges := closeUnder foldPairs s

/-- The same within ASCII. -/
def foldAscii (s : Ranges) : Ranges :=
  closeUnder ((List.range 26).map fun i => ('A'.toNat + i, 'a'.toNat + i)) s

private def asciiDigit : Ranges := Ranges.between '0' '9'

private def asciiUpper : Ranges := Ranges.between 'A' 'Z'

private def asciiLower : Ranges := Ranges.between 'a' 'z'

private def asciiAlphanumeric : Ranges := asciiDigit ∪ asciiUpper ∪ asciiLower

private def asciiBlank : Ranges := Ranges.parse "9-D 20"

private def asciiWord : Ranges := asciiAlphanumeric ∪ Ranges.single '_'

private def asciiGraphic : Ranges := Ranges.between '!' '~'

/-- The classes `\d`, `\s` and `\w`, of all scripts or of ASCII alone. -/
def shorthand? (unicode : Bool) : Char → Option Ranges
  | 'd' => some (if unicode then digit else asciiDigit)
  | 's' => some (if unicode then blank else asciiBlank)
  | 'w' => some (if unicode then word else asciiWord)
  | _ => none

/-- The classes that are written `[:name:]` inside brackets. -/
def asciiClass? : String → Option Ranges
  | "alnum" => some asciiAlphanumeric
  | "alpha" => some (asciiUpper ∪ asciiLower)
  | "ascii" => some (Ranges.between '\x00' '\x7f')
  | "blank" => some (Ranges.parse "9 20")
  | "cntrl" => some (Ranges.parse "0-1F 7F")
  | "digit" => some asciiDigit
  | "graph" => some asciiGraphic
  | "lower" => some asciiLower
  | "print" => some (Ranges.between ' ' '~')
  | "punct" => some (asciiGraphic \ asciiAlphanumeric)
  | "space" => some asciiBlank
  | "upper" => some asciiUpper
  | "word" => some asciiWord
  | "xdigit" => some (Ranges.parse "30-39 41-46 61-66")
  | _ => none

end RecordFix.Pattern
