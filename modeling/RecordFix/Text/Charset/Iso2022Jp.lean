import RecordFix.Text.Charset.ShiftJis

/-!
# ISO-2022-JP

The Japanese set in seven bits: escape sequences switch between ASCII, the Roman letters, the narrow katakana and the
pairs of the Japanese chart. An escape sequence right after another one is an error, and so is one that is not known,
whose other bytes are read for themselves.
-/

namespace RecordFix.Text

namespace Iso2022Jp

/-- What bytes stand for. -/
inductive Mode where
  | ascii
  | roman
  | katakana
  | pairs
  deriving DecidableEq, Repr

/-- How far an escape sequence or a pair has been read. -/
inductive Place where
  | free
  | pair (lead : UInt8)
  | escape
  | escapeWith (lead : UInt8)
  deriving DecidableEq

/-- `switched` tells that the last thing read is an escape sequence. -/
structure State where
  mode : Mode
  place : Place
  switched : Bool

private def isChartByte (b : UInt8) : Bool := isBetween 0x21 0x7E b

/-- The character of a single byte outside of escape sequences. -/
private def single? (m : Mode) (b : UInt8) : Option Char :=
  if b == 0x0E || b == 0x0F then none
  else
    match m with
    | .ascii => asciiChar? b
    | .roman => if b == 0x5C then some '¥' else if b == 0x7E then some '‾' else asciiChar? b
    | .katakana => if isBetween 0x21 0x5F b then some (narrowKatakana (b.toNat - 0x21)) else none
    | .pairs => none

private def pair? (lead b : UInt8) : Option Char :=
  if isChartByte b then japaneseChart.char? ((lead.toNat - 0x21) * 94 + (b.toNat - 0x21)) else none

/-- Reads a byte outside of escape sequences. -/
private def stepPlain (s : State) (b : UInt8) : List Char × State :=
  match s.place with
  | .pair lead =>
    if b == 0x1B then ([replacement], { s with place := .escape })
    else ([(pair? lead b).getD replacement], { s with place := .free })
  | _ =>
    if b == 0x1B then ([], { s with place := .escape })
    else if s.mode = .pairs && isChartByte b then ([], ⟨s.mode, .pair b, false⟩)
    else ([(single? s.mode b).getD replacement], ⟨s.mode, .free, false⟩)

/-- The mode that an escape sequence switches to. -/
private def modeOf? (lead b : UInt8) : Option Mode :=
  if lead == 0x28 && b == 0x42 then some .ascii
  else if lead == 0x28 && b == 0x4A then some .roman
  else if lead == 0x28 && b == 0x49 then some .katakana
  else if lead == 0x24 && (b == 0x40 || b == 0x42) then some .pairs
  else none

/-- Reads bytes that turned out to belong to no escape sequence. -/
private def stepAgain (s : State) (bs : List UInt8) : List Char × State :=
  bs.foldl (fun (cs, s) b => let (more, s) := stepPlain s b; (cs ++ more, s)) ([replacement], ⟨s.mode, .free, false⟩)

private def step (s : State) (b : UInt8) : List Char × State :=
  match s.place with
  | .escape =>
    if b == 0x24 || b == 0x28 then ([], { s with place := .escapeWith b }) else stepAgain s [b]
  | .escapeWith lead =>
    match modeOf? lead b with
    | some m => (if s.switched then [replacement] else [], ⟨m, .free, true⟩)
    | none => stepAgain s [lead, b]
  | _ => stepPlain s b

private def finalPlain (s : State) : List Char :=
  match s.place with
  | .free => []
  | _ => [replacement]

private def final (s : State) : List Char :=
  match s.place with
  | .escapeWith lead =>
    let (cs, s) := stepAgain s [lead]
    cs ++ finalPlain s
  | _ => finalPlain s

end Iso2022Jp

def iso2022Jp : Transducer Iso2022Jp.State where
  start := ⟨.ascii, .free, false⟩
  step := Iso2022Jp.step
  final := Iso2022Jp.final

end RecordFix.Text
