import RecordFix.CommandLine

/-!
# The program

Runs the command line on the files and the environment of the process. Files are read when the command line asks for
them, which then starts again with what they hold.
-/

namespace RecordFix.Program

open RecordFix.CommandLine

/-- What a failed access says about a file. -/
def fileError : IO.Error → FileError
  | .noFileOrDirectory .. => .notFound
  | .inappropriateType _ 20 _ => .notDirectory
  | .inappropriateType .. => .isDirectory
  | .permissionDenied _ code details => .system details code.toNat
  | .invalidArgument _ code details => .system details code.toNat
  | e => .system (toString e) 0

/-- The answers to accesses that were made. -/
abbrev Known := List (String × Except FileError ByteArray)

def Known.files (known : Known) : Files := fun path => (known.lookup path).getD (.error (.unread path))

def access (path : String) : IO (Except FileError ByteArray) := do
  try
    return .ok (← IO.FS.readBinFile path)
  catch e => return .error (fileError e)

/-- The nearest file of variables in the working directory or above it. -/
partial def findEnvFile (path : String) (levels : Nat) : IO (Option String) := do
  match ← access path with
  | .ok bytes => return String.fromUTF8? bytes
  | .error _ => if levels = 0 then return none else findEnvFile ("../" ++ path) (levels - 1)

/-- The variables of the process that the settings may be given by. -/
def readEnvironment : IO (String → Option String) := do
  let names := [Settings.strictnessVariable, Settings.repeatedFieldsVariable, Settings.memberNameVariable]
  let values ← names.mapM fun name => do return (name, ← IO.getEnv name)
  return fun name => (values.lookup name).join

def write (path content : String) : IO (Option FileError) := do
  try
    IO.FS.writeFile path content
    return none
  catch e => return some (fileError e)

/-- Answers the arguments, reading files as they are asked for. -/
partial def respond (host : Host) (known : Known) (args : List String) : IO (Option Failure × Transcript) := do
  let (failure, transcript) := answer { host with files := known.files } args
  match failure.bind Failure.file?, transcript.written with
  | some (.unread path), _ => respond host ((path, ← access path) :: known) args
  | _, some (path, content) =>
    match ← write path content with
    | none => return (failure, transcript)
    | some cause => return answer { host with files := known.files, writeError? := fun _ => some cause } args
  | _, none => return (failure, transcript)

end RecordFix.Program

def main (args : List String) : IO UInt32 := do
  let depth := ((← IO.currentDir).toString.splitOn "/").length
  let host : RecordFix.CommandLine.Host := {
    files := RecordFix.Files.empty
    environment := ← RecordFix.Program.readEnvironment
    envFile := ← RecordFix.Program.findEnvFile ".env" depth }
  let (failure, transcript) ← RecordFix.Program.respond host [] args
  (← IO.getStderr).putStr transcript.stderr
  (← IO.getStdout).putStr transcript.stdout
  match failure with
  | none => return 0
  | some failure => do
    (← IO.getStderr).putStr failure.report
    return failure.exitCode.toUInt32
