import RecordFix.Path

/-!
# Writing at a path

`insertIn` writes a value at a path below a container. Field names that are missing get a hash; digits and markers
refer to what is there, and in a hash it is an error if nothing is. In an array, `$append`, an index and a field name
add an item where there is none to go into. A wildcard and positions of an empty array write nothing. What was made
on the way stays also when the insertion fails.
-/

namespace RecordFix

/-- Whether a value overwrites the field it is written to or is added to it. -/
inductive InsertMode where
  | replace
  | append
  deriving DecidableEq, Repr

def InsertMode.write (mode : InsertMode) (h : Hash) (field : String) (v : Value) : Hash :=
  match mode with
  | .replace => h.put field v
  | .append => h.add field v

namespace Value

/-- Adds a new item that is made from an empty hash at its place. -/
def pushMade (items : List Value) (o : Option String) (make : Value → Value × Option ValueError) :
    Value × Option ValueError :=
  let (item, failure) := make (hash [] (some (itemOrigin o (items.length + 1))))
  (array (items ++ [item]) o, failure)

/-- Writes `v` at a path below a container; the container afterwards, and the error if there is one. -/
def insertIn (mode : InsertMode) (v : Value) : Path → Value → Value × Option ValueError
  | _, string t o => (string t o, some (descentMismatch .string))
  | [], target => (target, none)
  | segment :: rest, hash fields o =>
    let h : Hash := ⟨fields, o⟩
    if segment == wildcard then (hash fields o, none)
    else if rest.isEmpty then ((mode.write h segment v).toValue, none)
    else
      let into (h : Hash) (key : String) : Value × Option ValueError :=
        match h.get? key with
        | none => (h.toValue, some (.missingReference segment h.display))
        | some child =>
          let (child, failure) := insertIn mode v rest child
          ((h.putRaw key child).toValue, failure)
      match Marker.ofSegment? segment with
      | some .append => insertIn mode v rest (hash fields o)
      | some m => into h (m.fieldName fields.length)
      | none =>
        if (parseIndex? segment).isSome || h.contains segment then into h segment
        else into (h.put segment (hash [] none)) segment
  | segment :: rest, array items o =>
    if segment == wildcard then (array items o, none)
    else
      match Marker.ofSegment? segment with
      | some .append =>
        if rest.isEmpty then (array (pushItem o items v) o, none)
        else pushMade items o (insertIn mode v rest)
      | some m =>
        let i := if m = .first then 0 else items.length - 1
        if rest.isEmpty then (array (setItem o items i v) o, none)
        else
          match items[i]? with
          | some (hash fs p) =>
            let (item, failure) := insertIn mode v rest (hash fs p)
            (array (items.set i item) o, failure)
          | _ => (array items o, none)
      | none =>
        match parseIndex? segment with
        | some n =>
          if rest.isEmpty then (array (pushItem o items v) o, none)
          else
            match (if n = 0 then none else items[n - 1]?) with
            | some (hash fs p) =>
              let (item, failure) := insertIn mode v rest (hash fs p)
              (array (items.set (n - 1) item) o, failure)
            | _ => pushMade items o (insertIn mode v rest)
        | none =>
          if rest.isEmpty then
            (array (pushItem o items (({} : Hash).put segment v).toValue) o, none)
          else
            pushMade items o fun target =>
              let h : Hash := ⟨[], target.origin⟩
              let (child, failure) := insertIn mode v rest (hash [] (some (childOrigin h.origin segment)))
              ((h.putRaw segment child).toValue, failure)

/-! ### Where nothing is written -/

section

variable {mode : InsertMode} {v : Value} {rest : Path} {o : Option String}

theorem insertIn_hash_wildcard {fields : List (String × Value)} :
    insertIn mode v (wildcard :: rest) (hash fields o) = (hash fields o, none) := by
  rw [insertIn]
  simp only [beq_self_eq_true, ↓reduceIte]

theorem insertIn_array_wildcard {items : List Value} :
    insertIn mode v (wildcard :: rest) (array items o) = (array items o, none) := by
  rw [insertIn]
  simp only [beq_self_eq_true, ↓reduceIte]

end

end Value

/-- Writes a value at a path of a hash. -/
def Hash.insert (h : Hash) (mode : InsertMode) (path : Path) (v : Value) : Hash × Option ValueError :=
  match Value.insertIn mode v path h.toValue with
  | (.hash fields origin, failure) => (⟨fields, origin⟩, failure)
  | (_, failure) => (h, failure)

end RecordFix
