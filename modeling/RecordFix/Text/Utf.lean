/-!
# Unicode transformation formats

Reading bytes as UTF-8 or UTF-16 without refusing any. What is no character is read as the replacement character: in
UTF-8 once for the longest beginning of a character that goes on wrongly, in UTF-16 once for a unit of a pair that
stands alone and for an odd byte at the end.
-/

namespace RecordFix.Text

/-- The character that stands for bytes that cannot be read. -/
def replacement : Char := '\ufffd'

/-! ### UTF-8 -/

/-- The beginning of a character: its code so far, how many bytes are missing, and the range of the next one. -/
structure Utf8Start where
  code : Nat
  missing : Nat
  low : Nat
  high : Nat
  deriving DecidableEq, Repr

/-- What the first byte of a character says; `none` for a byte that begins none. -/
def utf8Start? (b : Nat) : Option (Char ⊕ Utf8Start) :=
  if b ≤ 0x7F then some (.inl (Char.ofNat b))
  else if b < 0xC2 then none
  else if b ≤ 0xDF then some (.inr ⟨b - 0xC0, 1, 0x80, 0xBF⟩)
  else if b = 0xE0 then some (.inr ⟨0, 2, 0xA0, 0xBF⟩)
  else if b = 0xED then some (.inr ⟨0xD, 2, 0x80, 0x9F⟩)
  else if b ≤ 0xEF then some (.inr ⟨b - 0xE0, 2, 0x80, 0xBF⟩)
  else if b = 0xF0 then some (.inr ⟨0, 3, 0x90, 0xBF⟩)
  else if b ≤ 0xF3 then some (.inr ⟨b - 0xF0, 3, 0x80, 0xBF⟩)
  else if b = 0xF4 then some (.inr ⟨4, 3, 0x80, 0x8F⟩)
  else none

/-- Goes on with the next byte of a character; `none` for a byte that does not continue it. -/
def Utf8Start.next? (s : Utf8Start) (b : Nat) : Option (Char ⊕ Utf8Start) :=
  if s.low ≤ b && b ≤ s.high then
    let code := 64 * s.code + (b - 0x80)
    if s.missing ≤ 1 then some (.inl (Char.ofNat code)) else some (.inr ⟨code, s.missing - 1, 0x80, 0xBF⟩)
  else none

/-- Reads bytes, the first of which may go on with a character. -/
def readUtf8 : Option Utf8Start → List UInt8 → List Char
  | none, [] => []
  | some _, [] => [replacement]
  | start, b :: bs =>
    let fresh (before : List Char) : List Char :=
      match utf8Start? b.toNat with
      | some (.inl c) => before ++ c :: readUtf8 none bs
      | some (.inr s) => before ++ readUtf8 (some s) bs
      | none => before ++ replacement :: readUtf8 none bs
    match start with
    | none => fresh []
    | some s =>
      match s.next? b.toNat with
      | some (.inl c) => c :: readUtf8 none bs
      | some (.inr s) => readUtf8 (some s) bs
      | none => fresh [replacement]

/-! ### UTF-16 -/

/-- Two bytes as a unit. -/
def unit16 (bigEndian : Bool) (a b : UInt8) : Nat :=
  if bigEndian then 256 * a.toNat + b.toNat else 256 * b.toNat + a.toNat

def isHighSurrogate (n : Nat) : Bool := 0xD800 ≤ n && n < 0xDC00

def isLowSurrogate (n : Nat) : Bool := 0xDC00 ≤ n && n < 0xE000

/-- The character of a unit that is not the first half of a pair. -/
def unitChar (n : Nat) : Char := if isLowSurrogate n then replacement else Char.ofNat n

/-- Reads bytes after the first half of a pair, if there is one. -/
def readUtf16 (bigEndian : Bool) : Option Nat → List UInt8 → List Char
  | none, [] => []
  | some _, [] => [replacement]
  | _, [_] => [replacement]
  | half, a :: b :: bs =>
    let n := unit16 bigEndian a b
    let fresh (before : List Char) : List Char :=
      if isHighSurrogate n then before ++ readUtf16 bigEndian (some n) bs
      else before ++ unitChar n :: readUtf16 bigEndian none bs
    match half with
    | none => fresh []
    | some h =>
      if isLowSurrogate n then
        Char.ofNat (0x10000 + 0x400 * (h - 0xD800) + (n - 0xDC00)) :: readUtf16 bigEndian none bs
      else fresh [replacement]

end RecordFix.Text
