import RecordFix.Csv.Table
import RecordFix.Event.Encoder
import RecordFix.Event.Json
import RecordFix.Stage

/-!
# Transformations

A transformation sends the records of an input through a stage and closes it. `collectEvents` gives what the stage
sends, `transformJson` the records that this encodes, with the number of those that came in, came out and were
rejected. Tables are transformed as the objects of their rows.
-/

namespace RecordFix

/-- A fix and the file that it is from. -/
structure Script where
  fix : Fix
  path : Option String := none

/-- Why a transformation fails. -/
inductive RunError where
  | table (cause : Csv.TableError)
  | stream (cause : StreamError)
  | fix (cause : FixError)
  | notRecords
  | settings (cause : SettingsError)
  | notJson
  | unreadable (cause : FileError)
  deriving DecidableEq, Repr

def RunError.message : RunError → String
  | .table cause => "CSV error: " ++ cause.message
  | .stream cause => "Stream error: " ++ cause.message
  | .fix cause => "Fix error: " ++ cause.message
  | .notRecords => "Invalid input: expected a JSON object or an array of objects"
  | .settings cause => "Invalid input: " ++ cause.message
  | .notJson => "JSON error"
  | .unreadable cause => "IO error: " ++ cause.message

/-- The trouble with a file behind an error. -/
def RunError.file? : RunError → Option FileError
  | .table cause => cause.file?
  | .stream cause => cause.file?
  | .fix cause => cause.file?
  | .unreadable cause => some cause
  | _ => none

/-- What is known of the table that the records are from. -/
structure TableSummary where
  charset : String
  separator : Char
  headers : List String
  rowCount : Nat
  deriving DecidableEq, Repr

/-- The records of a transformation. -/
structure Transformed where
  records : List Json
  inputCount : Nat
  emittedCount : Nat
  rejectedCount : Nat
  table : Option TableSummary := none

/-- Loads the script in a file. -/
def Script.load (files : Files) (path : String) : Except RunError Script :=
  match Fix.load files path with
  | .ok fix => .ok ⟨fix, some path⟩
  | .error cause => .error (.fix (.load cause))

/-- The number of records in an input. -/
def recordCount : Json → Except RunError Nat
  | .object _ => .ok 1
  | .array items => .ok items.length
  | _ => .error .notRecords

/-- Sends an input through a stage into a receiver and closes the stream. -/
def runInto {σ : Type} (receive : Receiver σ) (init : σ) (files : Files) (script : Script) (settings : Settings)
    (input : Json) : Except RunError σ := do
  let _ ← recordCount input
  let decoded := Decoder.decode { idField := settings.idField } input
  match Stage.feedAll receive decoded.events (Stage.start script.fix settings files script.path) init with
  | (some cause, _, _) => .error (.stream cause)
  | (none, stage, r) =>
    match decoded.failure with
    | some cause => .error (.stream cause)
    | none =>
      match stage.feed receive .closeStream r with
      | (some cause, _, _) => .error (.stream cause)
      | (none, _, r) => .ok r

/-- The events that the fix makes of an input. -/
def collectEvents (files : Files) (script : Script) (settings : Settings) (input : Json) :
    Except RunError (List Event) := do
  return (← runInto Receiver.collector #[] files script settings input).toList

/-- The records that the fix makes of an input. -/
def transformJson (files : Files) (script : Script) (settings : Settings) (input : Json) :
    Except RunError Transformed := do
  let count ← recordCount input
  let records := (← runInto Encoder.receive {} files script settings input).records.toList
  return { records := records, inputCount := count, emittedCount := records.length
           rejectedCount := count - records.length }

/-- The same for the rows of a table. -/
def transformTable (files : Files) (script : Script) (settings : Settings) (guessed : Csv.Guessed) :
    Except RunError Transformed := do
  let transformed ← transformJson files script settings (.array guessed.table.records)
  return { transformed with
    table := some ⟨guessed.charset, guessed.separator, guessed.table.headers, guessed.table.records.length⟩ }

def transformBytes (files : Files) (script : Script) (settings : Settings) (bytes : ByteArray) :
    Except RunError Transformed :=
  match Csv.Guessed.ofBytes bytes with
  | .ok guessed => transformTable files script settings guessed
  | .error cause => .error (.table cause)

def transformFile (files : Files) (script : Script) (settings : Settings) (path : String) :
    Except RunError Transformed :=
  match Csv.Guessed.ofFile files path with
  | .ok guessed => transformTable files script settings guessed
  | .error cause => .error (.table cause)

end RecordFix
