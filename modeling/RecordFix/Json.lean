import RecordFix.Number.Binary64

/-!
# JSON

Values of the JSON format. An object is the list of its members as written; `dedup` keeps the last value of a
repeated key at the place of the first. Numbers are integers of 64 bits, with or without a sign, or floating point.
-/

namespace RecordFix

inductive JsonNumber where
  | integer (n : Int)
  | float (x : Binary64)
  deriving DecidableEq, Repr

inductive Json where
  | null
  | bool (b : Bool)
  | number (n : JsonNumber)
  | string (s : String)
  | array (items : List Json)
  | object (members : List (String × Json))
  deriving Inhabited

/-- The six kinds of JSON value. -/
inductive JsonKind where
  | null
  | boolean
  | number
  | string
  | array
  | object
  deriving DecidableEq, Repr

def JsonKind.label : JsonKind → String
  | .null => "null"
  | .boolean => "boolean"
  | .number => "number"
  | .string => "string"
  | .array => "array"
  | .object => "object"

namespace Json

def kind : Json → JsonKind
  | null => .null
  | bool _ => .boolean
  | number _ => .number
  | string _ => .string
  | array _ => .array
  | object _ => .object

/-- Writes a member over the one with its key, or at the end. -/
def putMember (key : String) (j : Json) : List (String × Json) → List (String × Json)
  | [] => [(key, j)]
  | (k, i) :: ms => if k == key then (k, j) :: ms else (k, i) :: putMember key j ms

/-- Members with distinct keys: of a repeated key the first place and the last value. -/
def dedup (members : List (String × Json)) : List (String × Json) :=
  members.foldl (fun ms m => putMember m.1 m.2 ms) []

mutual

/-- A value with distinct keys in all its objects. -/
def distinct : Json → Json
  | array items => array (distinctItems items)
  | object members => object (dedup (distinctMembers members))
  | j => j

def distinctItems : List Json → List Json
  | [] => []
  | j :: js => distinct j :: distinctItems js

def distinctMembers : List (String × Json) → List (String × Json)
  | [] => []
  | (k, j) :: ms => (k, distinct j) :: distinctMembers ms

end

end Json

end RecordFix
