import RecordFix.Csv.Reader
import RecordFix.File
import RecordFix.Json
import RecordFix.Text.Blank
import RecordFix.Text.Charset

/-!
# Tables

A table is a row of headers and rows below it, each of which is an object with the headers as its keys: a short row
has empty texts at its end, and what a long one has more does not count. Blanks around fields and rows without a text
do not count. The separator of a text is one that divides its first lines evenly, else the one that its first line
has most of.
-/

namespace RecordFix.Csv

inductive Flaw where
  | separator (c : Char)
  | noHeaders
  | unreadable (path : String) (cause : FileError)
  | other (text : String)
  deriving DecidableEq, Repr

def Flaw.message : Flaw → String
  | .separator c => "Delimiter '" ++ String.singleton c ++ "' is not a single byte"
  | .noHeaders => "Empty CSV file"
  | .unreadable path cause => "Cannot read file '" ++ path ++ "': " ++ cause.message
  | .other text => text

/-- A flaw and where it is. -/
structure TableError where
  line : Nat
  column : Option String := none
  flaw : Flaw
  deriving DecidableEq, Repr

def TableError.message (e : TableError) : String :=
  "Line " ++ toString e.line ++ (e.column.elim "" fun c => ", column '" ++ c ++ "'") ++ ": " ++ e.flaw.message

/-- The trouble with a file behind an error. -/
def TableError.file? (e : TableError) : Option FileError :=
  match e.flaw with
  | .unreadable _ cause => some cause
  | _ => none

structure Table where
  headers : List String
  records : List Json

/-! ### Reading -/

/-- A row under the headers; of headers of one name the last gives the value. -/
def rowObject (headers row : List String) : Json :=
  .object (Json.dedup (headers.zipIdx.map fun (header, i) => (header, Json.string (row.getD i ""))))

/-- Reads a text with this separator, which has to be an ASCII character. -/
def Table.parse (text : String) (separator : Char) : Except TableError Table :=
  if '\x7f' < separator then .error { line := 0, flaw := .separator separator }
  else
    let trimmed := (rows separator text).map (·.map Text.trim)
    let headers := trimmed.headD []
    if headers.all (·.isEmpty) then .error { line := 1, flaw := .noHeaders }
    else
      let filled := (trimmed.drop 1).filter fun row => !row.all (·.isEmpty)
      .ok ⟨headers, filled.map (rowObject headers)⟩

/-! ### The separator -/

/-- The separators that a text may have, the first in front. -/
def separators : List Char := [';', ',', '\t', '|']

/-- How many lines tell the separator. -/
def sampleSize : Nat := 10

/-- The lines between line feeds. -/
def lines : List Char → List (List Char)
  | [] => [[]]
  | c :: cs =>
    match lines cs with
    | [] => [[]]
    | line :: rest => if c == '\n' then [] :: line :: rest else (c :: line) :: rest

/-- How well a separator divides lines: whether it occurs in all of them as often as in the first, and how often. -/
def rate (separator : Char) (sample : List (List Char)) : Bool × Nat :=
  let n := (sample.headD []).count separator
  (n != 0 && sample.all fun line => line.count separator == n, n)

def isBetter (a b : Bool × Nat) : Bool := if a.1 == b.1 then b.2 < a.2 else a.1

/-- The separator that divides the first lines best, of equal ones the first. -/
def guessSeparator (text : String) : Char :=
  let sample := ((lines text.toList).filter fun line => !line.all Text.isBlank).take sampleSize
  (separators.foldl (fun best c => if isBetter (rate c sample) best.2 then (c, rate c sample) else best)
    (';', false, 0)).1

/-! ### Bytes -/

/-- A table with the character set and the separator that its bytes seem to have. -/
structure Guessed where
  charset : String
  separator : Char
  table : Table

def Guessed.ofBytes (bytes : ByteArray) : Except TableError Guessed := do
  let charset := Text.guessCharset bytes
  let text := Text.decodeBytes bytes charset
  let separator := guessSeparator text
  return ⟨charset, separator, ← Table.parse text separator⟩

def Guessed.ofFile (files : Files) (path : String) : Except TableError Guessed :=
  match files path with
  | .ok bytes => ofBytes bytes
  | .error cause => .error { line := 0, flaw := .unreadable path cause }

end RecordFix.Csv
