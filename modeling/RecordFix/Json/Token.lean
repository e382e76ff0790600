import RecordFix.Json
import RecordFix.Text.Ranges

/-!
# Tokens of JSON texts

A JSON text is cut into brackets, commas, colons, words, strings and numbers. Numbers without a point or an exponent
are integers if they fit 64 bits. The others are rounded in the order in which they are read: the digits to an
integer of 64 bits (those that no longer fit count only as places), that to a floating point number, and this times
or divided by a power of ten. The order shows in the last place. A string with half a surrogate pair and a number that
grows too large are well formed, but have no value.
-/

namespace RecordFix.Json

open RecordFix.Text

inductive Token where
  | openBracket
  | closeBracket
  | openBrace
  | closeBrace
  | comma
  | colon
  | null
  | bool (b : Bool)
  | string (s : List Char)
  | number (n : JsonNumber)
  | brokenString
  | hugeNumber

/-! ### Strings -/

def hexQuad? (a b c d : Char) : Option Nat := do
  return 4096 * (← hexDigit? a) + 256 * (← hexDigit? b) + 16 * (← hexDigit? c) + (← hexDigit? d)

/-- A token that has a value, or is only well formed, and what follows it. -/
abbrev Scanned (α : Type) := Option (Option α × List Char)

def consChar (c : Char) (rest : Scanned (List Char)) : Scanned (List Char) :=
  rest.map fun (cs, rest) => (cs.map (c :: ·), rest)

/-- A string that has no value, whatever follows. -/
private def broken (rest : Scanned (List Char)) : Scanned (List Char) :=
  rest.map fun (_, rest) => (none, rest)

/-- The character of a two-character escape. -/
private def simpleEscape? : Char → Option Char
  | '"' => some '"'
  | '\\' => some '\\'
  | '/' => some '/'
  | 'b' => some '\x08'
  | 'f' => some '\x0c'
  | 'n' => some '\n'
  | 'r' => some '\r'
  | 't' => some '\t'
  | _ => none

/-- The characters of a string after its opening quote, and what follows the closing one. Codes beyond 16 bits are
written as pairs of surrogates; `half` is the first of a pair, of which the second is to follow. -/
def readString (half : Option Nat) : List Char → Scanned (List Char)
  | [] => none
  | '"' :: rest => some (if half.isSome then none else some [], rest)
  | '\\' :: 'u' :: a :: b :: c :: d :: rest =>
    match hexQuad? a b c d, half with
    | none, _ => none
    | some n, some h =>
      if 0xDC00 ≤ n && n ≤ 0xDFFF then
        consChar (Char.ofNat (0x10000 + (h - 0xD800) * 0x400 + (n - 0xDC00))) (readString none rest)
      else broken (readString none rest)
    | some n, none =>
      if n < 0xD800 || 0xDFFF < n then consChar (Char.ofNat n) (readString none rest)
      else if n ≤ 0xDBFF then readString (some n) rest
      else broken (readString none rest)
  | '\\' :: c :: rest =>
    match simpleEscape? c with
    | some e => if half.isSome then broken (readString none rest) else consChar e (readString none rest)
    | none => none
  | c :: rest =>
    if c < ' ' then none
    else if half.isSome then broken (readString none rest)
    else consChar c (readString none rest)

/-! ### Numbers -/

/-- The largest significand and exponent that are kept. -/
private def maxSignificand : Nat := Nat.pow 2 64 - 1

private def maxExponent : Nat := Nat.pow 2 31 - 1

/-- Scales a magnitude by a power of ten, at most 308 places at a time. -/
private def scale (x : Binary64) (exponent : Int) : Nat → Option Binary64
  | 0 => some x
  | fuel + 1 =>
    if exponent.natAbs ≤ 308 then do
      let p ← Binary64.ofNat? (Nat.pow 10 exponent.natAbs)
      if exponent ≥ 0 then x.mul? p else x.div? p
    else if x.isZero then some x
    else if exponent ≥ 0 then none
    else do
      let p ← Binary64.ofNat? (Nat.pow 10 308)
      scale (← x.div? p) (exponent + 308) fuel

private def floatOf? (negative : Bool) (significand : Nat) (exponent : Int) : Option JsonNumber := do
  let x ← scale (← Binary64.ofNat? significand) exponent 16
  return .float { x with negative := negative }

/-- The digits of a number after `significand`: the significand with those that fit, how many of the digits went into
it, how many did not, and what follows. -/
private def readSignificand (significand : Nat) : List Char → Nat × Nat × Nat × List Char
  | [] => (significand, 0, 0, [])
  | c :: cs =>
    match digitValue? c with
    | none => (significand, 0, 0, c :: cs)
    | some d =>
      let n := 10 * significand + d
      if n ≤ maxSignificand then
        let (s, taken, left, rest) := readSignificand n cs
        (s, taken + 1, left, rest)
      else
        let places := (c :: cs).takeWhile fun c => (digitValue? c).isSome
        (significand, 0, places.length, (c :: cs).drop places.length)

/-- An exponent that is too large decides the number at once. -/
private def readExponent (negative : Bool) (significand : Nat) (start : Int) (cs : List Char) :
    Scanned JsonNumber :=
  let (down, cs) :=
    match cs with
    | '+' :: cs => (false, cs)
    | '-' :: cs => (true, cs)
    | cs => (false, cs)
  let digits := cs.takeWhile fun c => (digitValue? c).isSome
  let rest := cs.drop digits.length
  if digits.isEmpty then none
  else
    let e := digits.foldl (fun n c => 10 * n + (digitValue? c).getD 0) 0
    if e > maxExponent then
      some (if significand = 0 || down then some (.float { Binary64.zero with negative := negative }) else none, rest)
    else some (floatOf? negative significand (if down then start - e else start + e), rest)

/-- A number after its sign. -/
private def readMagnitude (negative : Bool) (cs : List Char) : Scanned JsonNumber :=
  let wellBegun :=
    match cs with
    | '0' :: c :: _ => (digitValue? c).isNone
    | c :: _ => (digitValue? c).isSome
    | [] => false
  if !wellBegun then none
  else
    let (significand, _, left, rest) := readSignificand 0 cs
    match rest with
    | '.' :: rest =>
      let digits := rest.takeWhile fun c => (digitValue? c).isSome
      if digits.isEmpty then none
      else
        let (s, taken, _, rest) := readSignificand significand rest
        match rest with
        | 'e' :: rest | 'E' :: rest => readExponent negative s (left - taken) rest
        | rest => some (floatOf? negative s (left - taken), rest)
    | 'e' :: rest | 'E' :: rest => readExponent negative significand left rest
    | rest =>
      if left > 0 then some (floatOf? negative significand left, rest)
      else if !negative then some (some (.integer significand), rest)
      else if 0 < significand && significand ≤ Nat.pow 2 63 then some (some (.integer (-significand)), rest)
      else some (floatOf? true significand 0, rest)

def readNumber : List Char → Scanned JsonNumber
  | '-' :: cs => readMagnitude true cs
  | cs => readMagnitude false cs

/-! ### The whole text -/

/-- The first token of a text that does not begin with white space, and what follows it. -/
def readToken : List Char → Option (Token × List Char)
  | '[' :: cs => some (.openBracket, cs)
  | ']' :: cs => some (.closeBracket, cs)
  | '\x7b' :: cs => some (.openBrace, cs)
  | '\x7d' :: cs => some (.closeBrace, cs)
  | ',' :: cs => some (.comma, cs)
  | ':' :: cs => some (.colon, cs)
  | '"' :: cs => (readString none cs).map fun (s, rest) => (s.elim .brokenString .string, rest)
  | 'n' :: 'u' :: 'l' :: 'l' :: cs => some (.null, cs)
  | 't' :: 'r' :: 'u' :: 'e' :: cs => some (.bool true, cs)
  | 'f' :: 'a' :: 'l' :: 's' :: 'e' :: cs => some (.bool false, cs)
  | cs => (readNumber cs).map fun (n, rest) => (n.elim .hugeNumber .number, rest)

def isSpace (c : Char) : Bool := c == ' ' || c == '\n' || c == '\t' || c == '\r'

/-- Cuts a text into at most `fuel` tokens and white space characters. -/
def readTokens : Nat → List Char → Option (List Token)
  | _, [] => some []
  | 0, _ => none
  | fuel + 1, c :: cs =>
    if isSpace c then readTokens fuel cs
    else
      match readToken (c :: cs) with
      | none => none
      | some (t, rest) => (readTokens fuel rest).map (t :: ·)

def tokens? (text : String) : Option (List Token) :=
  readTokens text.toList.length text.toList

end RecordFix.Json
