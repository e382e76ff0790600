import RecordFix.Text.Integer

/-!
# Binary floating point numbers

A finite number of 64 bits is a sign and a magnitude `mantissa * 2 ^ exponent` with a mantissa below `2 ^ 53` and an
exponent from `-1074` to `971`. `ofRatio?` rounds a quotient of naturals to the nearest magnitude, ties to the even
mantissa; products, quotients and decimal texts are rounded through it. Numbers are compared as integers over
`2 ^ 1074`.
-/

namespace RecordFix

structure Binary64 where
  negative : Bool
  mantissa : Nat
  exponent : Int
  deriving DecidableEq, Repr

namespace Binary64

def zero : Binary64 := ⟨false, 0, -1074⟩

def isZero (x : Binary64) : Bool := x.mantissa == 0

/-- `num / (den * 2 ^ q)` as a quotient of naturals. -/
private def scaleDown (num den : Nat) (q : Int) : Nat × Nat :=
  match q with
  | .ofNat n => (num, den * Nat.pow 2 n)
  | .negSucc n => (num * Nat.pow 2 (n + 1), den)

/-- The quotient rounded to the nearest integer, ties to even. -/
def roundDiv (num den : Nat) : Nat :=
  let d := num / den
  let r := 2 * (num % den)
  if r < den then d else if den < r then d + 1 else if d % 2 = 0 then d else d + 1

/-- The magnitude nearest to `num / den`; none if it is too large. -/
def ofRatio? (num den : Nat) : Option Binary64 :=
  if num = 0 then some zero
  else
    let guess : Int := (num.log2 : Int) - den.log2 - 52
    let (n, d) := scaleDown num den guess
    let exact : Int :=
      if Nat.pow 2 53 ≤ n / d then guess + 1 else if n / d < Nat.pow 2 52 then guess - 1 else guess
    let q := max exact (-1074)
    let (n, d) := scaleDown num den q
    let m := roundDiv n d
    let (m, q) := if m = Nat.pow 2 53 then (Nat.pow 2 52, q + 1) else (m, q)
    if q > 971 then none else some ⟨false, m, q⟩

/-- The magnitude as a quotient of naturals. -/
def ratio (x : Binary64) : Nat × Nat :=
  match x.exponent with
  | .ofNat n => (x.mantissa * Nat.pow 2 n, 1)
  | .negSucc n => (x.mantissa, Nat.pow 2 (n + 1))

def ofNat? (n : Nat) : Option Binary64 := ofRatio? n 1

/-- The product of two magnitudes. -/
def mul? (x y : Binary64) : Option Binary64 :=
  let (a, b) := x.ratio
  let (c, d) := y.ratio
  ofRatio? (a * c) (b * d)

/-- The quotient of two magnitudes, the second not zero. -/
def div? (x y : Binary64) : Option Binary64 :=
  let (a, b) := x.ratio
  let (c, d) := y.ratio
  ofRatio? (a * d) (b * c)

/-- The number times `2 ^ 1074`. -/
def scaled (x : Binary64) : Int :=
  let n : Int := x.mantissa * Nat.pow 2 (x.exponent + 1074).toNat
  if x.negative then -n else n

def lt (x y : Binary64) : Bool := x.scaled < y.scaled

/-! ### Decimal texts -/

/-- `digits * 10 ^ e`; none if it is too large. -/
def ofDecimal? (digits : Nat) (e : Int) : Option Binary64 :=
  let size : Int := (Nat.toDigits 10 digits).length
  if digits = 0 || size + e < -400 then some zero
  else if size + e > 400 then none
  else
    match e with
    | .ofNat n => ofRatio? (digits * Nat.pow 10 n) 1
    | .negSucc n => ofRatio? digits (Nat.pow 10 (n + 1))

private def isDigit (c : Char) : Bool := (Text.digitValue? c).isSome

private def natOf (cs : List Char) : Nat :=
  cs.foldl (fun n c => 10 * n + (Text.digitValue? c).getD 0) 0

/-- The exponent that follows an `e`, nothing else coming after it. -/
private def parseExponent? (cs : List Char) : Option Int :=
  match cs with
  | [] => some 0
  | e :: cs =>
    if e != 'e' && e != 'E' then none
    else
      let (negative, ds) :=
        match cs with
        | '-' :: ds => (true, ds)
        | '+' :: ds => (false, ds)
        | ds => (false, ds)
      if ds.isEmpty || !ds.all isDigit then none
      else some (if negative then -(natOf ds : Int) else natOf ds)

/-- Reads a decimal number: digits with at most one point among them, and an exponent; none if the text is not one or
its value is too large. -/
def ofText? (text : String) : Option Binary64 :=
  let (negative, cs) :=
    match text.toList with
    | '-' :: cs => (true, cs)
    | '+' :: cs => (false, cs)
    | cs => (false, cs)
  let whole := cs.takeWhile isDigit
  let (fraction, rest) :=
    match cs.dropWhile isDigit with
    | '.' :: cs => (cs.takeWhile isDigit, cs.dropWhile isDigit)
    | cs => ([], cs)
  if whole.isEmpty && fraction.isEmpty then none
  else do
    let e ← parseExponent? rest
    let x ← ofDecimal? (natOf (whole ++ fraction)) (e - fraction.length)
    return { x with negative := negative }

end Binary64

end RecordFix
