import RecordFix.Glob.Cache
import RecordFix.Record

/-!
# Patterns consulted

Which patterns are put to the test against field names when a record is searched or changed. Children are visited in
order, and an error ends the visit; so a pattern counts only if it is met before. A matcher that sees the lookups of a
record keeps just these in compiled form.
-/

namespace RecordFix

/-- What following a path into a child does: the state afterwards, or none if it ends in an error. The child is given
with the segment that led to it, if it is a field. -/
abbrev Visit (σ : Type) := σ → Option String → Path → Value → Option σ

namespace Value

section

variable {σ : Type} (visit : Visit σ)

mutual

/-- The segments that are compared with names below a value. -/
def consultedIn (path : Path) (s : σ) : Value → List String
  | string .. => []
  | array items _ =>
    match path with
    | [] => []
    | segment :: rest =>
      match ItemChoice.ofSegment items.length segment with
      | .all => consultedItems (fun _ => true) rest 0 s items
      | .position i => consultedItems (· == i) rest 0 s items
      | .nothing => []
      | .through => consultedItems (fun _ => true) path 0 s items
  | hash fields _ =>
    match path with
    | [] => []
    | segment :: rest =>
      (if fields.isEmpty || segment == wildcard || (Marker.ofSegment? segment).isSome then [] else [segment]) ++
        consultedFields segment (fieldTest fields.length segment) rest s fields

def consultedItems (test : Nat → Bool) (path : Path) (i : Nat) (s : σ) : List Value → List String
  | [] => []
  | v :: vs =>
    if test i then
      consultedIn path s v ++
        match visit s none path v with
        | some s => consultedItems test path (i + 1) s vs
        | none => []
    else consultedItems test path (i + 1) s vs

def consultedFields (segment : String) (test : String → Bool) (path : Path) (s : σ) :
    List (String × Value) → List String
  | [] => []
  | (k, v) :: fs =>
    if test k then
      consultedIn path s v ++
        match visit s (some segment) path v with
        | some s => consultedFields segment test path s fs
        | none => []
    else consultedFields segment test path s fs

end

end

end Value

/-- A search below a child. -/
def Visit.search : Visit Unit := fun _ segment path v =>
  if segment.any (· != wildcard) && !path.isEmpty && v.isString then none else (v.findIn path).toOption.map fun _ => ()

/-- A removal below a child, which meets no error. -/
def Visit.remove : Visit Unit := fun _ _ _ _ => some ()

/-- An edit of the texts below a child. -/
def Visit.edit {σ ε : Type} (fail : ValueError → ε) (change : TextEdit σ ε) : Visit σ := fun s segment path v =>
  let edited := v.editIn fail change segment.isSome path s
  if edited.failure.isSome then none else some edited.state

namespace Hash

def consultedByFind (h : Hash) : List Path → List String
  | [] => []
  | p :: ps =>
    h.toValue.consultedIn Visit.search p () ++
      match h.find p with
      | .ok _ => h.consultedByFind ps
      | .error _ => []

def consultedByRemove (h : Hash) : List Path → List String
  | [] => []
  | p :: ps => h.toValue.consultedIn Visit.remove p () ++ (h.remove p).consultedByRemove ps

def consultedByEdit {σ ε : Type} (fail : ValueError → ε) (change : TextEdit σ ε) (h : Hash) (s : σ) :
    List Path → List String
  | [] => []
  | p :: ps =>
    let edited := h.edit fail change p s
    h.toValue.consultedIn (Visit.edit fail change) p s ++
      match edited.failure with
      | some _ => []
      | none => consultedByEdit fail change edited.node edited.state ps

/-- The pattern that is put to the test when the matching fields are listed. -/
def consultedByMatching (h : Hash) (pattern : String) : List String :=
  if h.isEmpty then [] else [pattern]

/-- The patterns that are put to the test when only matching fields are kept: for each field, those up to the first
that matches. -/
def consultedByRetain (h : Hash) (keep : List String) : List String :=
  h.keys.flatMap fun k =>
    let missed := keep.takeWhile fun p => !Glob.matchesName p k
    missed ++ (keep.drop missed.length).take 1

end Hash

namespace Matcher

def consultAll (m : Matcher) (patterns : List String) : Matcher :=
  patterns.foldl consult m

end Matcher

namespace Record

/-- The patterns consulted when a field is looked up. -/
def consultedByGet (r : Record) (field : String) : List String :=
  if r.fields.contains field then []
  else
    r.fields.consultedByFind (Path.alternatives field) ++
      match findAll r.fields (Path.alternatives field) with
      | .ok [] => if field.toList.contains '.' then [] else r.virtualFields.consultedByMatching field
      | _ => []

/-- The patterns consulted when a field is removed. -/
def consultedByRemove (r : Record) (field : String) : List String :=
  if r.fields.contains field then [] else r.fields.consultedByRemove (Path.alternatives field)

/-- The patterns consulted when a field is taken out. -/
def consultedByTake (r : Record) (field : String) : List String :=
  r.consultedByGet field ++
    match r.get field with
    | .ok (some _) => r.consultedByRemove field
    | _ => []

def consultedByRetain (r : Record) (names : List String) : List String :=
  let keep := names.map fun n => (Path.ofText n).headD ""
  r.fields.consultedByRetain keep ++ r.virtualFields.consultedByRetain keep

section

variable {σ ε : Type}

/-- The patterns consulted when the texts of a field are edited. -/
def consultedByTransform (fail : ValueError → ε) (r : Record) (change : TextEdit σ ε) (field : String) (s : σ) :
    List String :=
  r.fields.consultedByEdit fail change s
    (if r.fields.contains field then [[field]] else Path.alternatives field)

/-- The patterns consulted when the value of a field is replaced. -/
def consultedByTransformValue (r : Record) (change : Value → Except ε (Option Value)) (field : String) :
    List String :=
  let path := Path.ofText field
  let consultedByChange (v : Value) : List String :=
    match change v with
    | .ok none => r.consultedByRemove field
    | _ => []
  if path.length = 1 || r.fields.contains field then r.fields.consultedByMatching field
  else
    match r.fields.slot? path with
    | some v => consultedByChange v
    | none =>
      r.consultedByGet field ++
        match r.get field with
        | .ok (some v) => consultedByChange v
        | _ => []

end

end Record

end RecordFix
