import RecordFix.File
import RecordFix.File.Location

/-!
# Trees of files

A directory with the files below it, each under the names that lead to it. A location is followed from the directory
name by name, and nothing is known of what lies outside.
-/

namespace RecordFix

structure FileTree where
  entries : List (List String × ByteArray) := []

namespace FileTree

def content? (t : FileTree) (names : List String) : Option ByteArray := t.entries.lookup names

/-- Whether there are files below these names; the directory of the tree is always there. -/
def isDirectory (t : FileTree) (names : List String) : Bool :=
  names.isEmpty || t.entries.any fun (other, _) => names.isPrefixOf other && names != other

/-- Follows the pieces of a location; `none` stands for the outside. -/
def walk (t : FileTree) : Option (List String) → List String → Except FileError (Option (List String))
  | place, [] => .ok place
  | none, piece :: rest =>
    if piece.isEmpty || piece == "." || piece == ".." then walk t none rest else .error .notFound
  | some names, piece :: rest =>
    if (t.content? names).isSome then .error .notDirectory
    else if piece.isEmpty || piece == "." then walk t (some names) rest
    else if piece == ".." then walk t (if names.isEmpty then none else some names.dropLast) rest
    else
      let longer := names ++ [piece]
      if (t.content? longer).isSome || t.isDirectory longer then walk t (some longer) rest else .error .notFound

/-- The content of the file at a location. -/
def files (t : FileTree) : Files := fun path =>
  if path.isEmpty then .error .notFound
  else if path.toList.contains '\x00' then .error .invalidName
  else
    match t.walk (if Location.isAbsolute path then none else some []) (Location.pieces path) with
    | .error e => .error e
    | .ok none => .error .isDirectory
    | .ok (some names) =>
      match t.content? names with
      | some content => .ok content
      | none => .error .isDirectory

/-- The names that a location goes through. -/
def names (path : String) : List String := (Location.components path).filter (· != ".")

/-- Takes the file at a location away. -/
def erase (t : FileTree) (path : String) : FileTree := ⟨t.entries.filter (·.1 != names path)⟩

/-- Writes a file, and the directories on the way to it. -/
def write (t : FileTree) (path : String) (content : ByteArray) : FileTree :=
  ⟨(t.erase path).entries ++ [(names path, content)]⟩

/-- Why nothing can be written at a location. -/
def writeError? (t : FileTree) (path : String) : Option FileError :=
  match t.files path with
  | .ok _ => none
  | .error .notFound =>
    match (names path).dropLast with
    | [] => none
    | above => if t.isDirectory above then none else some .notFound
  | .error e => some e

def ofList (files : List (String × ByteArray)) : FileTree :=
  files.foldl (fun t f => t.write f.1 f.2) {}

end FileTree

end RecordFix
