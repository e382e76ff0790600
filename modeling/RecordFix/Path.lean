import RecordFix.Glob
import RecordFix.Value.Hash
import RecordFix.Text.Integer

/-!
# Paths

A path such as `author[].$last.name` is split at its dots. A segment is a field name, possibly a glob, a 1-based
index, the wildcard `*`, or one of the markers `$append`, `$first` and `$last`. What a segment addresses depends on
the container: `fieldTest` says which fields of a hash, `ItemChoice.ofSegment` which items of an array.
-/

namespace RecordFix

/-- The segments of a path. -/
abbrev Path := List String

def wildcard : String := "*"

/-- Segments that stand for a position. -/
inductive Marker where
  | append
  | first
  | last
  deriving DecidableEq, Repr

namespace Marker

def ofSegment? : String → Option Marker
  | "$append" => some append
  | "$first" => some first
  | "$last" => some last
  | _ => none

def text : Marker → String
  | append => "$append"
  | first => "$first"
  | last => "$last"

end Marker

/-- The number that a segment of digits stands for, if it fits in 64 bits. -/
def parseIndex? (segment : String) : Option Nat :=
  let cs := segment.toList
  if cs.isEmpty || !cs.all (fun c => (Text.digitValue? c).isSome) then none
  else
    match Text.parseNat64 segment with
    | .ok n => some n
    | .error _ => none

namespace Path

/-- Splits a list of characters at a separator. -/
def splitChars (separator : Char) : List Char → List (List Char)
  | [] => [[]]
  | c :: cs =>
    match splitChars separator cs with
    | [] => [[]]
    | piece :: rest => if c == separator then [] :: piece :: rest else (c :: piece) :: rest

/-- The pieces of a text between separators; at least one. -/
def splitText (separator : Char) (text : String) : List String :=
  (splitChars separator text.toList).map String.ofList

def ofText (text : String) : Path := splitText '.' text

/-- The paths that a text such as `a.b|c.d` stands for. Bars in a text without dots belong to a glob. -/
def alternatives (text : String) : List Path :=
  if text.toList.contains '|' && text.toList.contains '.' then (splitText '|' text).map ofText else [ofText text]

def display (p : Path) : String := ".".intercalate p

def lastMarker? (p : Path) : Option Marker := p.getLast?.bind Marker.ofSegment?

/-- The path without its last segment. -/
def parent? (p : Path) : Option Path := if p.length < 2 then none else some p.dropLast

end Path

/-- The field name that a marker stands for in a hash of `size` fields; nothing is appended to a hash. -/
def Marker.fieldName (size : Nat) : Marker → String
  | .last => toString size
  | _ => "1"

/-- Whether a segment addresses a field of a hash with `size` fields. -/
def fieldTest (size : Nat) (segment name : String) : Bool :=
  if segment == wildcard then true
  else
    match Marker.ofSegment? segment with
    | some .append => false
    | some m => m.fieldName size == name
    | none => Glob.matchesName segment name

/-- The items of an array that a segment addresses: all of them, the one at a 0-based position, none, or, for a field
name, what the whole path addresses in each item. -/
inductive ItemChoice where
  | all
  | position (i : Nat)
  | nothing
  | through
  deriving DecidableEq, Repr

def ItemChoice.ofSegment (size : Nat) (segment : String) : ItemChoice :=
  if segment == wildcard then all
  else
    match Marker.ofSegment? segment with
    | some .append => nothing
    | some .first => position 0
    | some .last => if size = 0 then nothing else position (size - 1)
    | none =>
      match parseIndex? segment with
      | some 0 => nothing
      | some (n + 1) => position n
      | none => through

def descentMismatch (actual : ValueKind) : ValueError := .typeMismatch "Array or Hash" actual

def leafMismatch (actual : ValueKind) : ValueError := .typeMismatch "String" actual

end RecordFix
