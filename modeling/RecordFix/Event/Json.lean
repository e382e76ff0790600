import RecordFix.Event
import RecordFix.Json.Parser
import RecordFix.Json.Printer

/-!
# JSON as events

An object is sent as one record: its members are literals, entities for objects and entities with the array marker
for arrays, whose items are numbered from 1. Nulls are left out, and numbers and booleans become their texts. A record
has as its id the text of a chosen member, or else its number.
-/

namespace RecordFix

namespace Json

/-- The text of a value that is neither null nor a container. -/
def scalarText? : Json → Option String
  | string s => some s
  | number n => some (numberText n)
  | bool b => some (if b then "true" else "false")
  | _ => none

mutual

/-- A value under a name. -/
def events (name : String) : Json → List Event
  | object members => .startEntity name :: (memberEvents members ++ [.endEntity])
  | array items =>
    .startEntity (if isMarked name then name else name ++ arrayMarker) :: (itemEvents 1 items ++ [.endEntity])
  | null => []
  | string s => [.literal name s]
  | number n => [.literal name (numberText n)]
  | bool b => [.literal name (if b then "true" else "false")]

def memberEvents : List (String × Json) → List Event
  | [] => []
  | (k, j) :: ms => events k j ++ memberEvents ms

/-- Items that are numbered from a position on. -/
def itemEvents (position : Nat) : List Json → List Event
  | [] => []
  | j :: js => events (toString position) j ++ itemEvents (position + 1) js

end

end Json

/-- An event as an object whose first member is its kind. -/
def Event.toJson : Event → Json
  | .startRecord id => .object [("event", .string "start_record"), ("id", .string id)]
  | .endRecord => .object [("event", .string "end_record")]
  | .startEntity name => .object [("event", .string "start_entity"), ("name", .string name)]
  | .endEntity => .object [("event", .string "end_entity")]
  | .literal name value => .object [("event", .string "literal"), ("name", .string name), ("value", .string value)]
  | .resetStream => .object [("event", .string "reset_stream")]
  | .closeStream => .object [("event", .string "close_stream")]

/-- Where ids come from, and the number of records so far. -/
structure Decoder where
  idField : Option String := none
  count : Nat := 0
  deriving DecidableEq, Repr

/-- The events of an input, and what is wrong with the rest of it. -/
structure Decoded where
  events : List Event
  failure : Option StreamError
  decoder : Decoder

namespace Decoder

/-- The id of the next record. -/
def nextId (d : Decoder) (members : List (String × Json)) : String :=
  match d.idField.bind fun field => (members.lookup field).bind Json.scalarText? with
  | some id => id
  | none => toString (d.count + 1)

/-- An object as a record. -/
def recordEvents (d : Decoder) (members : List (String × Json)) : List Event :=
  .startRecord (d.nextId members) :: (Json.memberEvents members ++ [.endRecord])

/-- Objects as records, up to the first item that is none. -/
def decodeItems (d : Decoder) : List Json → Decoded
  | [] => ⟨[], none, d⟩
  | .object members :: rest =>
    let decoded := decodeItems { d with count := d.count + 1 } rest
    { decoded with events := d.recordEvents members ++ decoded.events }
  | other :: _ => ⟨[], some (.notObject other.kind), d⟩

/-- An object as a record, or an array of objects as records. -/
def decode (d : Decoder) : Json → Decoded
  | .object members => d.decodeItems [.object members]
  | .array items => d.decodeItems items
  | other => ⟨[], some (.notRecords other.kind), d⟩

/-- Decodes the text of an input. -/
def decodeText (d : Decoder) (text : String) : Decoded :=
  match Json.parse? text with
  | some j => d.decode j.distinct
  | none => ⟨[], some .notJson, d⟩

end Decoder

end RecordFix
