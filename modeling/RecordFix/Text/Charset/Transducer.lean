import RecordFix.Text.Utf

/-!
# Decoding byte by byte

A transducer reads bytes one at a time: each gives some characters and the next state, and the state at the end may
give some more. `PairCode` describes the sets whose characters are single bytes and pairs of bytes. What is no
character is read as the replacement character, and an ASCII byte that ends it is read again for itself.
-/

namespace RecordFix.Text

structure Transducer (σ : Type) where
  start : σ
  step : σ → UInt8 → List Char × σ
  final : σ → List Char

namespace Transducer

variable {σ : Type} (t : Transducer σ)

def runFrom (s : σ) : List UInt8 → List Char
  | [] => t.final s
  | b :: bs =>
    let (cs, s) := t.step s b
    cs ++ runFrom s bs

/-- The characters of bytes. -/
def run (bs : List UInt8) : List Char := t.runFrom t.start bs

end Transducer

/-- What is read for bytes that are no character, the last of which is `b`. -/
def unreadable (b : UInt8) : List Char :=
  if b < 128 then [replacement, Char.ofNat b.toNat] else [replacement]

/-- Characters of one byte, and of two bytes the first of which tells that it leads a pair. -/
structure PairCode where
  single? : UInt8 → Option Char
  isLead : UInt8 → Bool
  pair? : UInt8 → UInt8 → Option (List Char)

namespace PairCode

private def step (p : PairCode) : Option UInt8 → UInt8 → List Char × Option UInt8
  | none, b =>
    match p.single? b with
    | some c => ([c], none)
    | none => if p.isLead b then ([], some b) else ([replacement], none)
  | some lead, b => ((p.pair? lead b).getD (unreadable b), none)

/-- The state is the byte that leads a pair. -/
def transducer (p : PairCode) : Transducer (Option UInt8) where
  start := none
  step := p.step
  final lead := if lead.isSome then [replacement] else []

end PairCode

/-- A byte of ASCII. -/
def asciiChar? (b : UInt8) : Option Char :=
  if b < 128 then some (Char.ofNat b.toNat) else none

/-- The byte lies between two others. -/
def isBetween (lo hi b : UInt8) : Bool := lo ≤ b && b ≤ hi

end RecordFix.Text
