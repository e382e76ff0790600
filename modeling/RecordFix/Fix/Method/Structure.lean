import RecordFix.Fix.Method.Arguments

/-!
# Methods on records

Adding, moving, renaming and removing fields, and building values from several fields.
-/

namespace RecordFix.Method

open RecordFix.Action RecordFix.Text

/-- Paths that append to an array end so. -/
def appendSuffix : String := ".$append"

/-- What stands before the suffix of a text that ends in it. -/
def beforeSuffix? (suffix text : String) : Option String :=
  let cs := text.toList
  let ss := suffix.toList
  let n := cs.length - ss.length
  if ss.length ≤ cs.length && cs.drop n == ss then some (String.ofList (cs.take n)) else none

/-- Replaces the whole value of a field by what a change makes of it. -/
def changeValue (field : String) (change : Value → Except FixError Value) : Action Unit := do
  settle ((← getRecord).transformValue FixError.value (fun v => (change v).map some) field)

/-! ### Adding and setting -/

/-- `add_field(path, value)` -/
def addField : Method := fun _ params _ => do
  let field ← need (param "add_field" params 0)
  let value ← need (param "add_field" params 1)
  settleValue ((← getRecord).append field (Value.ofString value))

/-- `set_field(path, value)` -/
def setField : Method := fun _ params _ => do
  let field ← need (param "set_field" params 0)
  let value ← need (param "set_field" params 1)
  settleValue ((← getRecord).set field (Value.ofString value))

/-- `set_array(path, value, …)` -/
def setArray : Method := fun _ params _ => do
  let field ← need (param "set_array" params 0)
  let values := (params.drop 1).map Value.ofString
  match beforeSuffix? appendSuffix field with
  | some base => settleValue ((← getRecord).appendAll base values)
  | none => settleValue ((← getRecord).set field (Value.ofList values))

/-- Puts a value behind the items of an array that was found at a path, and else over what is there. -/
def putBehind (path : String) (v : Value) (found : Except ValueError (Option Value)) (record : Record) : Action Unit :=
  match found with
  | .error e => fail (.value e)
  | .ok (some (.array ..)) => settleValue (record.append path v)
  | .ok _ => settleValue (record.set path v)

/-- `set_hash(path, key: value, …)` -/
def setHash : Method := fun _ params options => do
  let field ← need (param "set_hash" params 0)
  let made := (Hash.ofList (options.map fun (k, v) => (k, Value.ofString v))).toValue
  match beforeSuffix? appendSuffix field with
  | none => settleValue ((← getRecord).set field made)
  | some base =>
    let record ← getRecord
    putBehind base made (record.get base) record

/-! ### Moving and removing -/

/-- `copy_field(from, to)` -/
def copyField : Method := fun _ params _ => do
  let source ← need (param "copy_field" params 0)
  let target ← need (param "copy_field" params 1)
  settleValue ((← getRecord).copyField source target)

/-- `move_field(from, to)` -/
def moveField : Method := fun _ params _ => do
  let source ← need (param "move_field" params 0)
  let target ← need (param "move_field" params 1)
  settleValue ((← getRecord).copyField source target)
  setRecord ((← getRecord).remove source)

/-- `remove_field(path, …)` -/
def removeField : Method := fun _ params _ => do
  setRecord (params.foldl Record.remove (← getRecord))

/-- `retain(name, …)` -/
def retain : Method := fun _ params _ => do
  setRecord ((← getRecord).retain params)

def reject : Method := fun _ _ _ => do
  setRecord { (← getRecord) with rejected := true }

def vacuum : Method := fun _ _ _ => do
  setRecord (← getRecord).vacuum

/-! ### Between arrays and hashes -/

/-- The names and values of fields, one after the other. -/
def flatten (fields : List (String × Value)) : List Value :=
  fields.flatMap fun (k, v) => [Value.ofString k, v]

/-- Pairs of items, the first as a name; an odd one out does not count. -/
def pairUp : List Value → List (String × Value)
  | k :: v :: rest => (k.display, v) :: pairUp rest
  | _ => []

/-- `array(path)` makes the flat array of a hash. -/
def array : Method := fun _ params _ => do
  let field ← need (param "array" params 0)
  changeValue field fun v =>
    match v with
    | .hash fields _ => .ok (Value.ofList (flatten fields))
    | v => .ok v

/-- `hash(path)` makes a hash of a flat array. -/
def hash : Method := fun _ params _ => do
  let field ← need (param "hash" params 0)
  changeValue field fun v =>
    match v with
    | .array items _ => .ok (Hash.ofList (pairUp items)).toValue
    | v => .ok v

/-! ### Composing -/

/-- Replaces each `%s` by the next value; there are none left when the values run out. -/
def fillTemplate : List Char → List String → List Char
  | [], _ => []
  | '%' :: 's' :: cs, values => (values.headD "").toList ++ fillTemplate cs (values.drop 1)
  | c :: cs, values => c :: fillTemplate cs values

/-- `format(path, template)` -/
def format : Method := fun _ params _ => do
  let field ← need (param "format" params 0)
  let template ← need (param "format" params 1)
  changeValue field fun v =>
    .ok (Value.ofString (String.ofList (fillTemplate template.toList (v.toList.map Value.display))))

/-- What a source of `paste` contributes: a literal after a tilde, or the first item of a field. -/
def pasted (r : Record) (source : String) : Except FixError (List String) :=
  match source.toList with
  | '~' :: literal => .ok [String.ofList literal]
  | _ =>
    match r.get source with
    | .error e => .error (.value e)
    | .ok none => .ok []
    | .ok (some v) => .ok ((v.toList.take 1).map Value.display)

/-- `paste(path, source, …, join_char: …)` -/
def paste : Method := fun _ params options => do
  let target ← need (param "paste" params 0)
  let record ← getRecord
  let parts ← need ((params.drop 1).mapM (pasted record))
  let joined := ((options.lookup "join_char").getD " ").intercalate parts.flatten
  settleValue (record.set target (Value.ofString joined))

/-- The texts of the groups of a match: by name if there are names, else by position. -/
def parsedGroups (p : Pattern) (m : Pattern.Match) : List Value :=
  let names := p.groupNames.filterMap id
  if names.isEmpty then
    (List.range p.groupNames.length).map fun i => Value.ofString ((m.group? (i + 1)).getD "")
  else
    [(Hash.ofList (names.filterMap fun n => (p.namedGroup? m n).map fun t => (n, Value.ofString t))).toValue]

/-- `parse_text(path, pattern)` takes texts that match apart. -/
def parseText : Method := fun _ params _ => do
  let field ← need (param "parse_text" params 0)
  let p ← need (do compileWhole (← param "parse_text" params 1))
  settle ((← getRecord).transformValue FixError.value (fun v =>
    let parsed := v.toList.flatMap fun item =>
      match item.text?.bind p.firstMatch? with
      | some m => parsedGroups p m
      | none => []
    .ok (if parsed.isEmpty then some v else Value.merge parsed)) field)

/-- `random(path, bound)` writes a number below the bound. -/
def random : Method := fun _ params _ => do
  let field ← need (param "random" params 0)
  let bound ← need (do readNatural "random" (← param "random" params 1))
  if bound = 0 then fail (.execution "random" .zeroBound)
  else
    let env ← getEnv
    let (n, state) := randNat env.random 0 (bound - 1)
    setEnv { env with random := state }
    settleValue ((← getRecord).set field (Value.ofString (toString n)))

mutual

/-- Changes the names of all fields in a value. -/
def renameKeys (newName : String → String) : Value → Value
  | .string t o => .string t o
  | .array items _ => Value.ofList (renameItems newName items)
  | .hash fields _ => (Hash.ofList (renameFields newName fields)).toValue

def renameItems (newName : String → String) : List Value → List Value
  | [] => []
  | v :: vs => renameKeys newName v :: renameItems newName vs

def renameFields (newName : String → String) : List (String × Value) → List (String × Value)
  | [] => []
  | (k, v) :: fs => (newName k, renameKeys newName v) :: renameFields newName fs

end

/-- `rename(path, pattern, replacement)` -/
def rename : Method := fun _ params _ => do
  let field ← need (param "rename" params 0)
  let p ← need (do compilePattern (← param "rename" params 1))
  let replacement ← need (param "rename" params 2)
  changeValue field fun v =>
    if v.isString then .error (.value (descentMismatch .string))
    else .ok (renameKeys (p.replaceAll replacement) v)

end RecordFix.Method
