import RecordFix.File.Location
import RecordFix.Fix.Error
import RecordFix.Fix.Json

/-!
# Environments

What the records of a run share: variables, lookup maps, the fixes that were included, the file of the running fix,
against whose directory other files are resolved, and the state of the random numbers.
-/

namespace RecordFix

/-- Reads the text of a fix. -/
def Fix.parse (text : String) : Except LoadError Fix :=
  match Json.parse? text with
  | none => .error .notJson
  | some j =>
    match Fix.ofJson? j with
    | some fix => .ok fix
    | none => .error .notFix

/-- Loads the fix that a file holds. -/
def Fix.load (files : Files) (path : String) : Except LoadError Fix :=
  match files.text path with
  | .error cause => .error (.unreadable cause)
  | .ok text => Fix.parse text

structure Environment where
  vars : List (String × String) := []
  maps : MapRegistry := {}
  includes : List (List String × Fix) := []
  fixFile : Option String := none
  files : Files := Files.empty
  random : StdGen := mkStdGen 0

namespace Environment

/-- The location of a file that a fix names: relative to the directory of the running fix. -/
def resolvePath (env : Environment) (file : String) : String :=
  match env.fixFile.bind Location.parent? with
  | some directory => Location.join directory file
  | none => file

/-- The fix at a location, which is loaded once. -/
def included (env : Environment) (path : String) : Except FixError (Fix × Environment) :=
  let key := Location.components path
  match env.includes.lookup key with
  | some fix => .ok (fix, env)
  | none =>
    match Fix.load env.files path with
    | .ok fix => .ok (fix, { env with includes := (key, fix) :: env.includes })
    | .error cause => .error (.includeFailed path cause)

/-- Releases what the maps hold. -/
def close (env : Environment) : Environment := { env with maps := env.maps.close }

end Environment

end RecordFix
