import RecordFix.Text.Blank

/-!
# Strictness

What becomes of a run when a command fails against the data of a record: the run ends, the record is rejected, or the
expression is skipped.
-/

namespace RecordFix

inductive Strictness where
  | process
  | record
  | expression
  deriving DecidableEq, Repr, Inhabited

/-- A text that names no strictness, in lower case and without blanks around it. -/
structure UnknownStrictness where
  text : String
  deriving DecidableEq, Repr

def UnknownStrictness.message (e : UnknownStrictness) : String :=
  "Unknown strictness '" ++ e.text ++ "' (expected process, record or expression)"

namespace Strictness

def label : Strictness → String
  | process => "PROCESS"
  | record => "RECORD"
  | expression => "EXPRESSION"

/-- Reads a name in upper or lower case, with blanks around it or not. -/
def parse (text : String) : Except UnknownStrictness Strictness :=
  match (Text.trim text).toLower with
  | "process" => .ok process
  | "record" => .ok record
  | "expression" => .ok expression
  | other => .error ⟨other⟩

def ofLabel? (text : String) : Option Strictness :=
  match text with
  | "PROCESS" => some process
  | "RECORD" => some record
  | "EXPRESSION" => some expression
  | _ => none

end Strictness

end RecordFix
