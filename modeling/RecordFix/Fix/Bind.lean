import RecordFix.Fix.Run

/-!
# The list bind

`do list(path: …, var: …)` runs its block once for every item of the array at a path; a value that is no array is
put into a new one first. With a variable, the item stands under its name in the record while the block runs, and a
field that had the name before is put back afterwards, also after an error. Without one, the item has to be a hash and
becomes the record. What the block made of an item is written back to its place at the path.
-/

namespace RecordFix.Bind

open RecordFix.Action

/-- Writes a value back to its position in the list at a path. -/
def writeBack (r : Record) (path : String) (position : Nat) (v : Value) : Record :=
  match r.slot? path with
  | none => r
  | some (.array items o) => r.fillSlot path (.array (Value.setItem o items position v) o)
  | some other => if position = 0 then r.fillSlot path (v.rebase other.origin) else r

/-- Takes the variable out of a record again: what it holds, and the record with the field that it hid. -/
def unbind (name : String) (hidden : Option Value) (r : Record) : Option Value × Record :=
  (r.fields.get? name,
    match hidden with
    | some v => r.put name v
    | none => { r with fields := r.fields.erase name })

/-- Runs a block while a value stands under a name; what stands there afterwards. -/
def withVariable (name : String) (v : Value) (block : Action Unit) : Action (Option Value) := fun s =>
  let hidden := s.record.fields.get? name
  match block.run { s with record := s.record.put name v } with
  | (outcome, s') =>
    let (bound, record) := unbind name hidden s'.record
    (outcome.map fun _ => bound, { s' with record := record })

/-- Runs a block on a hash as the record; the hash afterwards. A record that the block rejects is rejected. -/
def withScope (v : Value) (block : Action Unit) : Action Value := do
  match v with
  | .hash fields o =>
    let inner ← within (Record.ofFields ⟨fields, o⟩) block
    if inner.rejected then setRecord { (← getRecord) with rejected := true }
    return inner.fields.toValue
  | v => fail (.value (.typeMismatch ValueKind.hash.label v.kind))

/-- Runs a block for values from a position on. -/
def forEach (path : String) (var? : Option String) (block : Action Unit) (position : Nat) : List Value → Action Unit
  | [] => pure ()
  | v :: vs => do
    let updated ←
      match var? with
      | some name => withVariable name v block
      | none => do pure (some (← withScope v block))
    match updated with
    | some w => setRecord (writeBack (← getRecord) path position w)
    | none => pure ()
    forEach path var? block (position + 1) vs

def list : Bind := fun block _ options => do
  match options.lookup "path" with
  | none => fail (.missingOption "list" "path")
  | some path =>
    match (← getRecord).get path with
    | .error e => fail (.value e)
    | .ok none => pure ()
    | .ok (some v) => forEach path (options.lookup "var") block 0 v.asArray.toList

end RecordFix.Bind
