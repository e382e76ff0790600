import RecordFix.Event

/-!
# Events as JSON

An encoder collects one object per record. Entities with the array marker become arrays under their name without it,
other entities objects. A name that comes again in an object turns what is there into an array: the new value is
added to an array that stands there, and otherwise the two values make one.
-/

namespace RecordFix

namespace Json

/-- Files a value under a name among the members of an object. -/
def fileMember (name : String) (j : Json) : List (String × Json) → List (String × Json)
  | [] => [(name, j)]
  | (k, i) :: ms =>
    if k == name then
      (k, match i with
        | array items => array (items ++ [j])
        | first => array [first, j]) :: ms
    else (k, i) :: fileMember name j ms

/-- Files a value in a container; in an array its name does not count. -/
def file (container : Json) (name : String) (j : Json) : Json :=
  match container with
  | array items => array (items ++ [j])
  | object members => object (fileMember name j members)
  | other => other

end Json

/-- The open containers with their names, innermost first, and the records so far. -/
structure Encoder where
  frames : List (String × Json) := []
  records : Array Json := #[]

namespace Encoder

/-- A change of an encoder that can fail; what was changed before a failure stays changed. -/
abbrev Change := ExceptT StreamError (StateM Encoder) Unit

/-- The empty container of an entity, with the name that it is filed under. -/
def frame (name : String) : String × Json :=
  match unmarked? name with
  | some stem => (stem, .array [])
  | none => (name, .object [])

/-- Opens a container in the innermost one. -/
def push (f : String × Json) : Change := modify fun s => { s with frames := f :: s.frames }

/-- Takes the innermost container away, if there is one, and goes on with it. -/
def pop (use : String → Json → Change) : Change := do
  match (← get).frames with
  | [] => pure ()
  | (name, j) :: fs =>
    modify fun s => { s with frames := fs }
    use name j

/-- Files a value in the innermost container. -/
def fileInTop (name : String) (j : Json) : Change := do
  match (← get).frames with
  | [] => throw .entitiesNotBalanced
  | (outer, container) :: fs => modify fun s => { s with frames := (outer, container.file name j) :: fs }

/-- Fails where the number of open containers does not pass a test. -/
def guardDepth (test : Nat → Bool) : Change := do
  if !test (← get).frames.length then throw .entitiesNotBalanced

/-- What an event does to an encoder. -/
def act : Event → Change
  | .startRecord _ => modify fun s => { s with frames := [("", .object [])] }
  | .endRecord => do
    guardDepth (· == 1)
    pop fun _ j => modify fun s => { s with records := s.records.push j }
  | .startEntity name => do
    guardDepth (0 < ·)
    push (frame name)
  | .endEntity => do
    guardDepth (1 < ·)
    pop fileInTop
  | .literal name value => fileInTop name (.string value)
  | .resetStream => modify fun s => { s with frames := [] }
  | .closeStream => pure ()

/-- The outcome of an event, and the encoder after it. -/
def step (s : Encoder) (e : Event) : Except StreamError Unit × Encoder := (act e).run.run s

def receive : Receiver Encoder := fun e s =>
  match s.step e with
  | (.ok (), t) => .ok t
  | (.error cause, _) => .error cause

/-- All records as one array. -/
def toJson (s : Encoder) : Json := .array s.records.toList

end Encoder

end RecordFix
