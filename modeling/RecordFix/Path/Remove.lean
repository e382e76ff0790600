import RecordFix.Path

/-!
# Removing what is at a path

`removeIn` deletes the fields and items that a path addresses. Where the path leads nowhere, nothing changes.
-/

namespace RecordFix

namespace Value

mutual

def removeIn (path : Path) : Value → Value
  | string t o => string t o
  | array items o =>
    match path with
    | [] => array items o
    | segment :: rest =>
      match ItemChoice.ofSegment items.length segment with
      | .all => array (if rest.isEmpty then [] else removeItems (fun _ => true) rest 0 items) o
      | .position i =>
        array (if rest.isEmpty then eraseItem o items i else removeItems (· == i) rest 0 items) o
      | .nothing => array items o
      | .through => array (removeItems (fun _ => true) path 0 items) o
  | hash fields o =>
    match path with
    | [] => hash fields o
    | segment :: rest => hash (removeFields (fieldTest fields.length segment) rest fields) o

/-- Removes below the items, numbered from `i`, whose positions pass the test. -/
def removeItems (test : Nat → Bool) (path : Path) (i : Nat) : List Value → List Value
  | [] => []
  | v :: vs => (if test i then removeIn path v else v) :: removeItems test path (i + 1) vs

/-- Removes the fields whose names pass the test, or what a longer path addresses below them. -/
def removeFields (test : String → Bool) (path : Path) : List (String × Value) → List (String × Value)
  | [] => []
  | (k, v) :: fs =>
    if test k then
      if path.isEmpty then removeFields test path fs
      else (k, removeIn path v) :: removeFields test path fs
    else (k, v) :: removeFields test path fs

end

end Value

/-- Removes what is at a path of a hash. -/
def Hash.remove (h : Hash) (path : Path) : Hash :=
  match h.toValue.removeIn path with
  | .hash fields origin => ⟨fields, origin⟩
  | _ => h

end RecordFix
