import RecordFix.Number.Binary64

/-!
# Shortest decimals

Among the decimals that round to a number, `Binary64.shortest` takes one with the fewest digits, and of those the
nearest. For each count of digits it tries the two neighbours of the number on the grid of decimals with that many
digits.
-/

namespace RecordFix

/-- The decimal `d₀.d₁d₂… * 10 ^ exponent`, with no trailing zeros among its digits. -/
structure Decimal where
  digits : List Char
  exponent : Int
  deriving DecidableEq, Repr

namespace Binary64

/-- The ends of the interval of quotients that round to a magnitude, over a common denominator. -/
private def interval (x : Binary64) : Nat × Nat × Nat :=
  let below := if x.mantissa = Nat.pow 2 52 && x.exponent > -1074 then 1 else 2
  let lo := 4 * x.mantissa - below
  let hi := 4 * x.mantissa + 2
  match x.exponent - 2 with
  | .ofNat n => (lo * Nat.pow 2 n, hi * Nat.pow 2 n, 1)
  | .negSucc n => (lo, hi, Nat.pow 2 (n + 1))

/-- The least `j` after `i` with `den ≤ num * 10 ^ j`. -/
private def firstPower (num den : Nat) : Nat → Nat → Nat
  | 0, i => i
  | fuel + 1, i => if den ≤ num * Nat.pow 10 i then i else firstPower num den fuel (i + 1)

/-- The power of ten of the first digit of `num / den`. -/
private def leadingPower (num den : Nat) : Int :=
  if den ≤ num then ((Nat.toDigits 10 (num / den)).length : Int) - 1
  else -(firstPower num den 400 1 : Int)

/-- Compares `d * 10 ^ s` with `num / den`. -/
private def compareDecimal (d : Nat) (s : Int) (num den : Nat) : Ordering :=
  match s with
  | .ofNat n => compare (d * Nat.pow 10 n * den) num
  | .negSucc n => compare (d * den) (num * Nat.pow 10 (n + 1))

/-- The integral part of `num / (den * 10 ^ s)`, and how twice the remainder compares with the divisor. -/
private def floorDecimal (s : Int) (num den : Nat) : Nat × Ordering :=
  let (n, d) :=
    match s with
    | .ofNat k => (num, den * Nat.pow 10 k)
    | .negSucc k => (num * Nat.pow 10 (k + 1), den)
  (n / d, compare (2 * (n % d)) d)

/-- The best decimal of this many digits in the interval, as `d * 10 ^ s`. -/
private def candidate? (x : Binary64) (power : Int) (count : Nat) : Option (Nat × Int) :=
  let (num, den) := x.ratio
  let (lo, hi, unit) := x.interval
  let s := power + 1 - count
  let (d, side) := floorDecimal s num den
  let inside (d : Nat) : Bool :=
    if x.mantissa % 2 = 0 then compareDecimal d s lo unit != .lt && compareDecimal d s hi unit != .gt
    else compareDecimal d s lo unit == .gt && compareDecimal d s hi unit == .lt
  match inside d, inside (d + 1) with
  | true, true =>
    match side with
    | .lt => some (d, s)
    | .gt => some (d + 1, s)
    | .eq => some (if d % 2 = 0 then d else d + 1, s)
  | true, false => some (d, s)
  | false, true => some (d + 1, s)
  | false, false => none

private def searchCounts (x : Binary64) (power : Int) : Nat → Nat → Nat × Int
  | 0, count => (x.candidate? power count).getD (0, 0)
  | fuel + 1, count =>
    match x.candidate? power count with
    | some found => found
    | none => searchCounts x power fuel (count + 1)

/-- The shortest decimal that rounds to the magnitude of a number other than zero. -/
def shortest (x : Binary64) : Decimal :=
  let (num, den) := x.ratio
  let (d, s) := searchCounts x (leadingPower num den) 17 1
  let digits := Nat.toDigits 10 d
  ⟨(digits.reverse.dropWhile (· == '0')).reverse, s + digits.length - 1⟩

end Binary64

end RecordFix
