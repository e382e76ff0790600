import RecordFix.Path

/-!
# Looking up a path

`findIn` gives the value at a path. A glob that matches several fields merges their values, a wildcard or a field
name met by an array collects what it finds below. Positions that are not there find nothing; to go on below a text
that a field name led to is a mismatch.
-/

namespace RecordFix

/-- What a wildcard found: nothing, or an array. -/
def collect : List Value → Option Value
  | [] => none
  | vs => some (Value.ofList vs)

namespace Value

def isString : Value → Bool
  | string .. => true
  | _ => false

mutual

/-- The value at a path below a value. -/
def findIn (path : Path) : Value → Except ValueError (Option Value)
  | string t o => .ok (if path.isEmpty then some (string t o) else none)
  | array items o =>
    match path with
    | [] => .ok (some (array items o))
    | segment :: rest =>
      match ItemChoice.ofSegment items.length segment with
      | .all => (findItems rest items).map collect
      | .position i => findItem rest i items
      | .nothing => .ok none
      | .through => (findItems path items).map collect
  | hash fields o =>
    match path with
    | [] => .ok (some (hash fields o))
    | segment :: rest =>
      if segment == wildcard then (findFields false (fun _ => true) rest fields).map collect
      else (findFields true (fieldTest fields.length segment) rest fields).map merge

/-- What a path leads to below each of some items. -/
def findItems (path : Path) : List Value → Except ValueError (List Value)
  | [] => .ok []
  | v :: vs => do
    let found ← findIn path v
    let more ← findItems path vs
    return found.toList ++ more

/-- What a path leads to below the item at a position. -/
def findItem (path : Path) : Nat → List Value → Except ValueError (Option Value)
  | _, [] => .ok none
  | 0, v :: _ => findIn path v
  | i + 1, _ :: vs => findItem path i vs

/-- What a path leads to below each field that passes the test. -/
def findFields (strict : Bool) (test : String → Bool) (path : Path) :
    List (String × Value) → Except ValueError (List Value)
  | [] => .ok []
  | (k, v) :: fs =>
    if test k then
      if strict && !path.isEmpty && v.isString then .error (descentMismatch .string)
      else do
        let found ← findIn path v
        let more ← findFields strict test path fs
        return found.toList ++ more
    else findFields strict test path fs

end

end Value

/-- The value at a path in a hash. -/
def Hash.find (h : Hash) (path : Path) : Except ValueError (Option Value) :=
  h.toValue.findIn path

end RecordFix
