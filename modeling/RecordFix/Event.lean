import RecordFix.Fix.Error
import RecordFix.Json

/-!
# Events

Records travel as a flat sequence of events: between the start and the end of a record stand literals, and entities
that hold further literals and entities. An entity whose name ends in the array marker `[]` is a list, any other a
map. A receiver takes events one by one, and is as it was after one that it refuses.
-/

namespace RecordFix

inductive Event where
  | startRecord (id : String)
  | endRecord
  | startEntity (name : String)
  | endEntity
  | literal (name value : String)
  | resetStream
  | closeStream
  deriving DecidableEq, Repr

/-- The suffix of the names of entities that are lists. -/
def arrayMarker : String := "[]"

/-- What stands before the array marker of a name that ends in it. -/
def unmarked? (name : String) : Option String :=
  match name.toList.reverse with
  | ']' :: '[' :: cs => some (String.ofList cs.reverse)
  | _ => none

def isMarked (name : String) : Bool := (unmarked? name).isSome

/-- One step down from a record to an entity in it. -/
inductive Step where
  | field (name : String)
  | item (position : Nat)
  deriving DecidableEq, Repr

def Step.text : Step → String
  | .field name => name
  | .item position => toString (position + 1)

inductive StreamError where
  | entitiesNotBalanced
  | entityNotFound (place : List Step)
  | notJson
  | notObject (actual : JsonKind)
  | notRecords (actual : JsonKind)
  | fix (cause : FixError)
  deriving DecidableEq, Repr

def StreamError.message : StreamError → String
  | .entitiesNotBalanced => "Entity starts and ends are not balanced"
  | .entityNotFound place => "Open entity not found: " ++ ".".intercalate (place.map Step.text)
  | .notJson => "Invalid input"
  | .notObject actual => "Invalid input: expected an object, got " ++ actual.label
  | .notRecords actual => "Invalid input: expected an object or an array of objects, got " ++ actual.label
  | .fix cause => "Error while executing the transformation: " ++ cause.message

/-- The trouble with a file behind an error. -/
def StreamError.file? : StreamError → Option FileError
  | .fix cause => cause.file?
  | _ => none

/-- The state after an event, or why the event is refused. -/
abbrev Receiver (σ : Type) := Event → σ → Except StreamError σ

namespace Receiver

/-- Sends events in order, up to the first that is refused. -/
def sendAll {σ : Type} (receive : Receiver σ) : List Event → σ → Option StreamError × σ
  | [], s => (none, s)
  | e :: es, s =>
    match receive e s with
    | .ok s => sendAll receive es s
    | .error cause => (some cause, s)

/-- Keeps every event. -/
def collector : Receiver (Array Event) := fun e es => .ok (es.push e)

end Receiver

end RecordFix
