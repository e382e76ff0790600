/-!
# Files

The files that a run may read, as they are at its start, and the reasons why one cannot be read. One of them is that
nobody has looked yet; whoever runs the program then looks and starts again.
-/

namespace RecordFix

inductive FileError where
  | notFound
  | isDirectory
  | notDirectory
  | notText
  | denied
  | invalidName
  | system (details : String) (code : Nat)
  | unread (path : String)
  deriving DecidableEq, Repr

def FileError.message : FileError → String
  | .notFound => "No such file or directory (os error 2)"
  | .isDirectory => "Is a directory (os error 21)"
  | .notDirectory => "Not a directory (os error 20)"
  | .notText => "stream did not contain valid UTF-8"
  | .denied => "Permission denied (os error 13)"
  | .invalidName => "file name contained an unexpected NUL byte"
  | .system details code => details ++ " (os error " ++ toString code ++ ")"
  | .unread path => "not read yet: " ++ path

/-- The content of every file, by path. -/
abbrev Files := String → Except FileError ByteArray

/-- No files at all. -/
def Files.empty : Files := fun _ => .error .notFound

/-- The content of a file that holds text. -/
def Files.text (files : Files) (path : String) : Except FileError String := do
  match String.fromUTF8? (← files path) with
  | some s => .ok s
  | none => .error .notText

end RecordFix
