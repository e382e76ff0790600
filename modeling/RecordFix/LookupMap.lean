import RecordFix.Csv.Reader
import RecordFix.File

/-!
# Lookup maps

Named tables from keys to values. Entries are given directly, or by a file of two columns that is read on the first
lookup; of several rows with one key the first counts. A key that is not there has the value of the key
`__default`, if that is there.
-/

namespace RecordFix

def defaultKey : String := "__default"

def defaultSeparator : Char := ','

inductive MapError where
  | unreadable (path : String) (cause : FileError)
  | malformed (path : String) (cause : Option FileError)
  | invalidSeparator (text : String)
  deriving DecidableEq, Repr

def MapError.message : MapError → String
  | .unreadable path cause => "Failed to read map file '" ++ path ++ "': " ++ cause.message
  | .malformed path cause => "Invalid map file '" ++ path ++ "': " ++ (cause.map (·.message)).getD "not valid text"
  | .invalidSeparator text => "Invalid map separator: '" ++ text ++ "'"

/-- The trouble with a file behind an error. -/
def MapError.file? : MapError → Option FileError
  | .unreadable _ cause => some cause
  | .malformed _ cause => cause
  | .invalidSeparator _ => none

/-- A file of two columns; its entries once it is read. -/
structure FileMap where
  path : String
  separator : Char
  entries : Option (List (String × String)) := none

namespace FileMap

/-- A map over a file, which is not read yet. The separator has to be an ASCII character. -/
def ofPath (path : String) (separator : Char) : Except MapError FileMap :=
  if separator ≤ '\x7f' then .ok { path := path, separator := separator }
  else .error (.invalidSeparator (String.singleton separator))

/-- The entries of the rows with at least two fields. -/
def entriesOfRows (rows : List (List String)) : List (String × String) :=
  rows.filterMap fun row =>
    match row with
    | key :: value :: _ => some (key, value)
    | _ => none

/-- Reads the file. A directory can be opened but has no rows. -/
def load (files : Files) (m : FileMap) : Except MapError (List (String × String)) :=
  match files.text m.path with
  | .ok text => .ok (entriesOfRows (Csv.rows m.separator text))
  | .error .isDirectory => .error (.malformed m.path (some .isDirectory))
  | .error .notText => .error (.malformed m.path none)
  | .error cause => .error (.unreadable m.path cause)

/-- The map with its entries at hand. -/
def opened (files : Files) (m : FileMap) : Except MapError (List (String × String) × FileMap) :=
  match m.entries with
  | some entries => .ok (entries, m)
  | none => (m.load files).map fun entries => (entries, { m with entries := some entries })

def isLoaded (m : FileMap) : Bool := m.entries.isSome

end FileMap

inductive LookupMap where
  | inline (entries : List (String × String))
  | file (map : FileMap)

namespace LookupMap

/-- The value of a key, and the map after the lookup. -/
def get (files : Files) (m : LookupMap) (key : String) : Except MapError (Option String) × LookupMap :=
  match m with
  | inline entries => (.ok (entries.lookup key), m)
  | file f =>
    match f.opened files with
    | .ok (entries, f) => (.ok (entries.lookup key), file f)
    | .error e => (.error e, m)

/-- The value of a key or else of the default key, and the map after the lookup. -/
def getOrDefault (files : Files) (m : LookupMap) (key : String) : Except MapError (Option String) × LookupMap :=
  match m.get files key with
  | (.ok none, m) => m.get files defaultKey
  | found => found

end LookupMap

/-- The maps of a session by name, the latest first. -/
structure MapRegistry where
  maps : List (String × LookupMap) := []

namespace MapRegistry

def get? (r : MapRegistry) (name : String) : Option LookupMap := r.maps.lookup name

def contains (r : MapRegistry) (name : String) : Bool := (r.get? name).isSome

/-- Registers a map, or replaces the one of this name. -/
def put (r : MapRegistry) (name : String) (m : LookupMap) : MapRegistry :=
  ⟨(name, m) :: r.maps.filter (·.1 != name)⟩

/-- The names of all maps, sorted. -/
def names (r : MapRegistry) : List String := (r.maps.map (·.1)).mergeSort (· ≤ ·)

/-- Forgets the entries that were read from files. -/
def close (r : MapRegistry) : MapRegistry :=
  ⟨r.maps.map fun (name, m) =>
    match m with
    | .file f => (name, .file { f with entries := none })
    | m => (name, m)⟩

end MapRegistry

end RecordFix
