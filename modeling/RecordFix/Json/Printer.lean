import RecordFix.Json
import RecordFix.Number.Shortest

/-!
# Writing JSON

`compact` writes a value without white space, `pretty` with one member or item a line, two blanks deeper at each
level, and empty containers closed at once. A quote, a backslash and control characters are escaped. A floating
point number is written with the fewest digits that read back: with a point if its first digit stands at a power of
ten from `-5` to `15`, else with an exponent.
-/

namespace RecordFix.Json

/-! ### Numbers -/

/-- `d₀d₁… * 10 ^ (exponent - …)` with a point, at least one digit on both sides of it. -/
private def positional (d : Decimal) : List Char :=
  match d.exponent with
  | .ofNat e =>
    let whole := d.digits.take (e + 1) ++ List.replicate (e + 1 - d.digits.length) '0'
    let fraction := d.digits.drop (e + 1)
    whole ++ '.' :: (if fraction.isEmpty then ['0'] else fraction)
  | .negSucc e => '0' :: '.' :: (List.replicate e '0' ++ d.digits)

private def scientific (d : Decimal) : List Char :=
  let mantissa :=
    match d.digits with
    | [c] => [c]
    | c :: cs => c :: '.' :: cs
    | [] => []
  mantissa ++ 'e' :: (if d.exponent < 0 then '-' else '+') :: (toString d.exponent.natAbs).toList

private def floatChars (x : Binary64) : List Char :=
  let magnitude :=
    if x.isZero then ['0', '.', '0']
    else
      let d := x.shortest
      if -5 ≤ d.exponent && d.exponent ≤ 15 then positional d else scientific d
  if x.negative then '-' :: magnitude else magnitude

def numberText : JsonNumber → String
  | .integer n => toString n
  | .float x => String.ofList (floatChars x)

/-! ### Strings -/

private def hexDigitChar (n : Nat) : Char := (Nat.digitChar n)

/-- A character as it is written between quotes. -/
def escapeChar (c : Char) : List Char :=
  if c == '"' then ['\\', '"']
  else if c == '\\' then ['\\', '\\']
  else if c == '\x08' then ['\\', 'b']
  else if c == '\x0c' then ['\\', 'f']
  else if c == '\n' then ['\\', 'n']
  else if c == '\r' then ['\\', 'r']
  else if c == '\t' then ['\\', 't']
  else if c < ' ' then ['\\', 'u', '0', '0', hexDigitChar (c.toNat / 16), hexDigitChar (c.toNat % 16)]
  else [c]

def quoteChars (s : String) : List Char :=
  '"' :: (s.toList.flatMap escapeChar ++ ['"'])

/-! ### Values -/

mutual

def compactChars : Json → List Char
  | .null => ['n', 'u', 'l', 'l']
  | .bool true => ['t', 'r', 'u', 'e']
  | .bool false => ['f', 'a', 'l', 's', 'e']
  | .number n => (numberText n).toList
  | .string s => quoteChars s
  | .array items => '[' :: (compactItems items ++ [']'])
  | .object members => '\x7b' :: (compactMembers members ++ ['\x7d'])

def compactItems : List Json → List Char
  | [] => []
  | [j] => compactChars j
  | j :: js => compactChars j ++ ',' :: compactItems js

def compactMembers : List (String × Json) → List Char
  | [] => []
  | [(k, j)] => quoteChars k ++ ':' :: compactChars j
  | (k, j) :: ms => quoteChars k ++ ':' :: (compactChars j ++ ',' :: compactMembers ms)

end

/-- A line feed and the blanks of a level. -/
def indent (level : Nat) : List Char := '\n' :: List.replicate (2 * level) ' '

mutual

def prettyChars (level : Nat) : Json → List Char
  | .null => ['n', 'u', 'l', 'l']
  | .bool true => ['t', 'r', 'u', 'e']
  | .bool false => ['f', 'a', 'l', 's', 'e']
  | .number n => (numberText n).toList
  | .string s => quoteChars s
  | .array [] => ['[', ']']
  | .array (j :: js) => '[' :: (prettyItems (level + 1) (j :: js) ++ (indent level ++ [']']))
  | .object [] => ['\x7b', '\x7d']
  | .object (m :: ms) => '\x7b' :: (prettyMembers (level + 1) (m :: ms) ++ (indent level ++ ['\x7d']))

def prettyItems (level : Nat) : List Json → List Char
  | [] => []
  | [j] => indent level ++ prettyChars level j
  | j :: js => indent level ++ (prettyChars level j ++ ',' :: prettyItems level js)

def prettyMembers (level : Nat) : List (String × Json) → List Char
  | [] => []
  | [(k, j)] => indent level ++ (quoteChars k ++ ':' :: ' ' :: prettyChars level j)
  | (k, j) :: ms =>
    indent level ++ (quoteChars k ++ ':' :: ' ' :: (prettyChars level j ++ ',' :: prettyMembers level ms))

end

def compact (j : Json) : String := String.ofList (compactChars j)

def pretty (j : Json) : String := String.ofList (prettyChars 0 j)

end RecordFix.Json
