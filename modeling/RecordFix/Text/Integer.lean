/-!
# Decimal integers of bounded size

An integer is an optional sign and one or more of the digits `0` to `9`. The digits are read from the left, and the
first fault decides the error: a character that is no digit, or a digit with which the number leaves its range.
-/

namespace RecordFix.Text

/-- Why a text is not an integer of the wanted range. -/
inductive IntegerError where
  | empty
  | invalidDigit
  | tooLarge
  | tooSmall
  deriving DecidableEq, Repr

def IntegerError.message : IntegerError → String
  | .empty => "cannot parse integer from empty string"
  | .invalidDigit => "invalid digit found in string"
  | .tooLarge => "number too large to fit in target type"
  | .tooSmall => "number too small to fit in target type"

/-- The value of a decimal digit. -/
def digitValue? (c : Char) : Option Nat :=
  if '0' ≤ c && c ≤ '9' then some (c.toNat - '0'.toNat) else none

/-- Reads digits after `acc`; the number may not pass `limit`. -/
def readDigits (limit : Nat) (overflow : IntegerError) : Nat → List Char → Except IntegerError Nat
  | acc, [] => .ok acc
  | acc, c :: cs =>
    match digitValue? c with
    | none => .error .invalidDigit
    | some d =>
      let n := 10 * acc + d
      if n ≤ limit then readDigits limit overflow n cs else .error overflow

/-- A magnitude of at least one digit. -/
def readMagnitude (limit : Nat) (overflow : IntegerError) (cs : List Char) : Except IntegerError Nat :=
  if cs.isEmpty then .error .invalidDigit else readDigits limit overflow 0 cs

/-- Reads an integer from `0` to `2 ^ 64 - 1`, with an optional `+`. -/
def parseNat64 (s : String) : Except IntegerError Nat :=
  match s.toList with
  | [] => .error .empty
  | '+' :: cs => readMagnitude (Nat.pow 2 64 - 1) .tooLarge cs
  | cs => readMagnitude (Nat.pow 2 64 - 1) .tooLarge cs

/-- Reads an integer from `-2 ^ 63` to `2 ^ 63 - 1`, with an optional sign. -/
def parseInt64 (s : String) : Except IntegerError Int :=
  match s.toList with
  | [] => .error .empty
  | '-' :: cs => (readMagnitude (Nat.pow 2 63) .tooSmall cs).map fun n => -(n : Int)
  | '+' :: cs => (readMagnitude (Nat.pow 2 63 - 1) .tooLarge cs).map Int.ofNat
  | cs => (readMagnitude (Nat.pow 2 63 - 1) .tooLarge cs).map Int.ofNat

end RecordFix.Text
