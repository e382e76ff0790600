import RecordFix.Value

/-!
# Hashes

A hash is an ordered map from field names to values, with an origin that its fields are rebased on when they are
put. Putting a name that is there already overwrites the value and keeps the place.
-/

namespace RecordFix

/-- An ordered map of fields. -/
structure Hash where
  fields : List (String × Value) := []
  origin : Option String := none
  deriving Inhabited

namespace Hash

def toValue (h : Hash) : Value := .hash h.fields h.origin

def isEmpty (h : Hash) : Bool := h.fields.isEmpty

def size (h : Hash) : Nat := h.fields.length

def keys (h : Hash) : List String := h.fields.map (·.1)

def contains (h : Hash) (field : String) : Bool :=
  h.fields.any (·.1 == field)

def get? (h : Hash) (field : String) : Option Value :=
  h.fields.lookup field

/-- Overwrites the entry called `key`, or adds one at the end. -/
def putEntry (key : String) (v : Value) : List (String × Value) → List (String × Value)
  | [] => [(key, v)]
  | (k, w) :: fs => if k == key then (k, v) :: fs else (k, w) :: putEntry key v fs

/-- Removes the entry called `key`. -/
def eraseEntry (key : String) (fs : List (String × Value)) : List (String × Value) :=
  fs.filter (·.1 != key)

/-- Writes a field, in its old place if it has one. -/
def put (h : Hash) (field : String) (v : Value) : Hash :=
  { h with fields := putEntry field (v.rebase (some (childOrigin h.origin field))) h.fields }

/-- Writes a field as `put` does, without a new origin for the value. -/
def putRaw (h : Hash) (field : String) (v : Value) : Hash :=
  { h with fields := putEntry field v h.fields }

/-- Overwrites a field that is there. -/
def replace (h : Hash) (field : String) (v : Value) : Hash :=
  if h.contains field then h.put field v else h

/-- Adds a value to a field: a second value makes the field an array. -/
def add (h : Hash) (field : String) (v : Value) : Hash :=
  match h.get? field with
  | some old => h.putRaw field (old.append v)
  | none => h.put field v

def erase (h : Hash) (field : String) : Hash :=
  { h with fields := eraseEntry field h.fields }

def clear (h : Hash) : Hash := { h with fields := [] }

/-- A hash of these fields, put one after the other. -/
def ofList (fs : List (String × Value)) : Hash :=
  fs.foldl (fun h f => h.put f.1 f.2) {}

/-- Drops empty texts, and the containers that this empties. -/
def vacuum (h : Hash) : Hash :=
  { h with fields := Value.vacuumFields h.fields }

/-- The hash at a new origin, with its fields moved along. -/
def rebase (h : Hash) (o : Option String) : Hash :=
  { fields := Value.rebaseFields o h.fields, origin := o }

def same (h g : Hash) : Bool := h.toValue.same g.toValue

def display (h : Hash) : String := h.toValue.display

end Hash

end RecordFix
