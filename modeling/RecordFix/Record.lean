import RecordFix.Path.Find
import RecordFix.Path.Insert
import RecordFix.Path.Edit
import RecordFix.Path.Remove
import RecordFix.Path.Slot

/-!
# Records

A record is a hash of fields with a second hash of virtual fields, such as the record's id, which lookups see but
which are not part of the output, and a mark that keeps a rejected record from being written. A field may be given
by its exact name or by a path; the exact name goes first.
-/

namespace RecordFix

/-- The virtual field that holds a record's id. -/
def idField : String := "_id"

namespace Hash

/-- The names of the fields that match a pattern, in field order. -/
def matchingFields (h : Hash) (pattern : String) : List String :=
  h.keys.filter (Glob.matchesName pattern)

/-- The values of the fields that match a pattern, merged. -/
def getMatching (h : Hash) (pattern : String) : Option Value :=
  Value.merge ((h.fields.filter fun f => Glob.matchesName pattern f.1).map (·.2))

def removeMatching (h : Hash) (pattern : String) : Hash :=
  { h with fields := h.fields.filter fun f => !Glob.matchesName pattern f.1 }

/-- Keeps the fields that match one of the patterns. -/
def retainFields (h : Hash) (keep : List String) : Hash :=
  { h with fields := h.fields.filter fun f => keep.any (Glob.matchesName · f.1) }

end Hash

structure Record where
  fields : Hash := {}
  virtualFields : Hash := {}
  rejected : Bool := false
  deriving Inhabited

namespace Record

/-- A record over these fields alone. -/
def ofFields (fields : Hash) : Record := { fields := fields }

def display (r : Record) : String := r.fields.display

/-! ### Looking up -/

/-- What the alternatives of a path lead to, in order. -/
def findAll (h : Hash) : List Path → Except ValueError (List Value)
  | [] => .ok []
  | p :: ps => do
    let found ← h.find p
    let more ← findAll h ps
    return found.toList ++ more

/-- The value of a field: by its exact name, else at its path, else, for a name without dots, of a virtual field. -/
def get (r : Record) (field : String) : Except ValueError (Option Value) :=
  match r.fields.get? field with
  | some v => .ok (some v)
  | none => do
    match Value.merge (← findAll r.fields (Path.alternatives field)) with
    | some v => return some v
    | none => return if field.toList.contains '.' then none else r.virtualFields.getMatching field

def contains (r : Record) (field : String) : Except ValueError Bool :=
  (r.get field).map (·.isSome)

/-- The value of the single slot that a field addresses. -/
def slot? (r : Record) (field : String) : Option Value :=
  if r.fields.contains field then r.fields.get? field else r.fields.slot? (Path.ofText field)

/-! ### Changing -/

def put (r : Record) (field : String) (v : Value) : Record :=
  { r with fields := r.fields.put field v }

def putVirtual (r : Record) (field : String) (v : Value) : Record :=
  { r with virtualFields := r.virtualFields.put field v }

def add (r : Record) (field : String) (v : Value) : Record :=
  { r with fields := r.fields.add field v }

/-- Writes the slot that a field addresses, if there is one. -/
def fillSlot (r : Record) (field : String) (v : Value) : Record :=
  if r.fields.contains field then { r with fields := r.fields.putRaw field v }
  else { r with fields := r.fields.fillSlot (Path.ofText field) v }

def insert (r : Record) (mode : InsertMode) (field : String) (v : Value) : Record × Option ValueError :=
  let (fields, failure) := r.fields.insert mode (Path.ofText field) v
  ({ r with fields := fields }, failure)

/-- Writes a value at a path over what is there. -/
def set (r : Record) (field : String) (v : Value) : Record × Option ValueError :=
  r.insert .replace field v

/-- Adds a value to what is at a path. -/
def append (r : Record) (field : String) (v : Value) : Record × Option ValueError :=
  r.insert .append field v

/-- Adds values one after the other, up to the first that fails. -/
def appendAll (r : Record) (field : String) : List Value → Record × Option ValueError
  | [] => (r, none)
  | v :: vs =>
    match r.append field v with
    | (r, none) => r.appendAll field vs
    | failed => failed

/-- Removes a field by its exact name, else what is at its path. -/
def remove (r : Record) (field : String) : Record :=
  if r.fields.contains field then { r with fields := r.fields.erase field }
  else { r with fields := (Path.alternatives field).foldl Hash.remove r.fields }

/-- Removes a field and gives what it held. -/
def take (r : Record) (field : String) : Except ValueError (Option Value × Record) := do
  match ← r.get field with
  | some v => return (some v, r.remove field)
  | none => return (none, r)

/-- Adds the items of one field to another. -/
def copyField (r : Record) (source target : String) : Record × Option ValueError :=
  match r.get source with
  | .ok (some v) => r.appendAll target v.toList
  | .ok none => (r, none)
  | .error e => (r, some e)

/-- Keeps the fields that match the first segment of one of the names. Virtual fields that are kept and have no real
counterpart become real. -/
def retain (r : Record) (names : List String) : Record :=
  let keep := names.map fun n => (Path.ofText n).headD ""
  let fields := r.fields.retainFields keep
  let virtual := r.virtualFields.retainFields keep
  let promoted := virtual.fields.filter fun f => !fields.contains f.1
  { r with fields := promoted.foldl (fun h f => h.put f.1 f.2) fields, virtualFields := virtual }

/-- Drops empty texts, and the containers that this empties. -/
def vacuum (r : Record) : Record := { r with fields := r.fields.vacuum }

/-! ### Transforming -/

section

variable {σ ε : Type} (fail : ValueError → ε)

/-- Edits the texts at several paths, up to the first error. -/
def editAll (edit : TextEdit σ ε) (h : Hash) (s : σ) : List Path → Edited σ ε Hash
  | [] => ⟨h, s, none⟩
  | p :: ps =>
    let edited := h.edit fail edit p s
    match edited.failure with
    | some e => ⟨edited.node, edited.state, some e⟩
    | none => editAll edit edited.node edited.state ps

/-- Edits every text of a field. -/
def transform (r : Record) (edit : TextEdit σ ε) (field : String) (s : σ) : Edited σ ε Record :=
  let paths := if r.fields.contains field then [[field]] else Path.alternatives field
  let edited := editAll fail edit r.fields s paths
  ⟨{ r with fields := edited.node }, edited.state, edited.failure⟩

/-- Replaces the values of several fields, up to the first error; none removes the field. -/
def transformFields (change : Value → Except ε (Option Value)) (h : Hash) : List String → Hash × Option ε
  | [] => (h, none)
  | name :: names =>
    match h.get? name with
    | none => transformFields change h names
    | some v =>
      match change v with
      | .ok (some w) => transformFields change (h.put name w) names
      | .ok none => transformFields change (h.erase name) names
      | .error e => (h, some e)

/-- Replaces the whole value of a field; none removes it. A glob changes each matching field on its own; where a path
has no single slot, the values found are replaced by one. -/
def transformValue (r : Record) (change : Value → Except ε (Option Value)) (field : String) : Record × Option ε :=
  let path := Path.ofText field
  if path.length = 1 || r.fields.contains field then
    let (fields, failure) := transformFields change r.fields (r.fields.matchingFields field)
    ({ r with fields := fields }, failure)
  else
    match r.fields.slot? path with
    | some v =>
      match change v with
      | .ok (some w) => ({ r with fields := r.fields.fillSlot path (w.rebase v.origin) }, none)
      | .ok none => (r.remove field, none)
      | .error e => (r, some e)
    | none =>
      match r.get field with
      | .error e => (r, some (fail e))
      | .ok none => (r, none)
      | .ok (some v) =>
        match change v with
        | .ok (some w) =>
          let (r, failure) := r.set field w
          (r, failure.map fail)
        | .ok none => (r.remove field, none)
        | .error e => (r, some e)

end

end Record

end RecordFix
