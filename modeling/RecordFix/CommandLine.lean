import RecordFix.CommandLine.EnvFile
import RecordFix.CommandLine.Help
import RecordFix.Settings.Json
import RecordFix.Transformation

/-!
# The command line

`answer` answers arguments: what is printed on the two outputs, the file that is written, and the failure that ends
it. A failure leaves standing what was said before.
-/

namespace RecordFix.CommandLine

/-- What a command can see of its surroundings. -/
structure Host where
  files : Files
  environment : String → Option String := fun _ => none
  envFile : Option String := none
  writeError? : String → Option FileError := fun _ => none

inductive Failure where
  | usage
  | run (cause : RunError)
  | table (cause : Csv.TableError)
  | badVariable (text : String)
  | file (cause : FileError)
  | notJson
  deriving DecidableEq, Repr

namespace Failure

def message : Failure → String
  | usage => "wrong arguments"
  | run cause => cause.message
  | table cause => cause.message
  | badVariable text => "Invalid variable '" ++ text ++ "', expected NAME=VALUE"
  | file cause => cause.message
  | notJson => "JSON error"

/-- The trouble with a file behind a failure. -/
def file? : Failure → Option FileError
  | run cause => cause.file?
  | table cause => cause.file?
  | file cause => some cause
  | _ => none

/-- Whether a text was to be JSON and is not. -/
def isNotJson : Failure → Bool
  | notJson => true
  | run .notJson => true
  | run (.fix (.load .notJson)) => true
  | run (.stream (.fix (.includeFailed _ .notJson))) => true
  | _ => false

def exitCode : Failure → Nat
  | usage => 2
  | _ => 1

end Failure

/-- What a command has said and written. -/
structure Transcript where
  stdout : String := ""
  stderr : String := ""
  written : Option (String × String) := none
  deriving DecidableEq, Repr

abbrev Command (α : Type) := ExceptT Failure (StateM Transcript) α

/-- Prints a line for the user. -/
def say (line : String) : Command Unit := modify fun t => { t with stderr := t.stderr ++ line ++ "\n" }

/-- Prints a line of the result. -/
def print (line : String) : Command Unit := modify fun t => { t with stdout := t.stdout ++ line ++ "\n" }

/-- The result of a step, or the failure that its error is. -/
def orFail {ε α : Type} (failure : ε → Failure) : Except ε α → Command α
  | .ok a => pure a
  | .error e => throw (failure e)

/-- Prints a result, or writes it to a file. -/
def deliver (host : Host) (output : Option String) (content : String) : Command Unit :=
  match output with
  | none => print content
  | some path =>
    match host.writeError? path with
    | some cause => throw (.file cause)
    | none => do
      modify fun t => { t with written := some (path, content) }
      say ("💾 Output written to: " ++ path)

/-! ### Settings and inputs -/

/-- The environment of the process and the file of variables. -/
def Host.variable? (host : Host) (name : String) : Option String :=
  match host.envFile with
  | none => host.environment name
  | some text => EnvFile.extend text host.environment name

private def loadSettings (files : Files) (path : String) : Except RunError Settings :=
  match files.text path with
  | .error cause => .error (.unreadable cause)
  | .ok text =>
    match Settings.parse? text with
    | some settings => .ok settings
    | none => .error .notJson

/-- Sets a variable that is given as `name=value`. -/
def addVariable (settings : Settings) (given : String) : Except Failure Settings :=
  let cs := given.toList
  match cs.dropWhile (· != '=') with
  | [] => .error (.badVariable given)
  | _ :: value => .ok (settings.withVar (String.ofList (cs.takeWhile (· != '='))) (String.ofList value))

/-- The settings of a run: those of the file, then the environment, then the arguments. -/
def chooseSettings (host : Host) (a : FixArguments) : Except Failure Settings := do
  let fromFile ←
    match a.settings with
    | none => pure {}
    | some path => (loadSettings host.files path).mapError .run
  let settings ← (fromFile.override host.variable?).mapError (.run ∘ .settings)
  let settings ← a.vars.foldlM addVariable { settings with strictness := a.strictness.getD settings.strictness }
  return { settings with idField := a.idField <|> settings.idField }

/-- Whether a file is a table, by its name. -/
def isTable (path : String) : Bool := (Location.extension? path).any (·.toLower == "csv")

def readJson (host : Host) (path : String) : Except Failure Json := do
  let text ← (host.files.text path).mapError .file
  match Json.parse? text with
  | some j => return j.distinct
  | none => .error .notJson

/-! ### Commands -/

/-- A separator as it is shown. -/
def showSeparator (c : Char) : String := if c == '\t' then "\\t" else String.singleton c

def showColumns (headers : List String) : String := "   Columns: " ++ ", ".intercalate headers

def transform (host : Host) (a : FixArguments) : Command Unit := do
  say ("📄 Processing: " ++ a.input)
  let script ← orFail .run (Script.load host.files a.fix)
  let settings ← orFail id (chooseSettings host a)
  say ("   Fix: " ++ a.fix ++ " (" ++ toString script.fix.expressions.length ++ " expressions)")
  say ("   Strictness: " ++ settings.strictness.label)
  let result ←
    if isTable a.input then orFail .run (transformFile host.files script settings a.input)
    else do orFail .run (transformJson host.files script settings (← orFail id (readJson host a.input)))
  match result.table with
  | none => pure ()
  | some table => do
    say ("   Encoding: " ++ table.charset)
    say ("   Delimiter: '" ++ showSeparator table.separator ++ "'")
    say (showColumns table.headers)
  say ("\n⚙️  Transformed: " ++ toString result.inputCount ++ " records")
  say ("   ✅ Emitted: " ++ toString result.emittedCount)
  if result.rejectedCount > 0 then say ("   ⚠️  Rejected: " ++ toString result.rejectedCount)
  deliver host a.output (Json.array result.records).pretty
  say "\n✨ Done!"

def showEvents (host : Host) (a : FixArguments) : Command Unit := do
  say ("📄 Streaming: " ++ a.input)
  let script ← orFail .run (Script.load host.files a.fix)
  let settings ← orFail id (chooseSettings host a)
  let records ←
    if isTable a.input then do
      pure (Json.array (← orFail .table (Csv.Guessed.ofFile host.files a.input)).table.records)
    else orFail id (readJson host a.input)
  let events ← orFail .run (collectEvents host.files script settings records)
  say ("✅ Collected " ++ toString events.length ++ " events")
  deliver host a.output (Json.array (events.map Event.toJson)).pretty

def parseTable (host : Host) (input : String) (output : Option String) : Command Unit := do
  say ("📄 Parsing CSV: " ++ input)
  let guessed ← orFail .table (Csv.Guessed.ofFile host.files input)
  say ("   Encoding: " ++ guessed.charset)
  say ("   Delimiter: '" ++ showSeparator guessed.separator ++ "' (auto-detected)")
  say (showColumns guessed.table.headers)
  say ("✅ Parsed " ++ toString guessed.table.records.length ++ " records")
  deliver host output (Json.array guessed.table.records).pretty

def listCommands : Command Unit := do
  let registry := Registry.builtin
  print ("Methods:\n  " ++ ", ".intercalate registry.methodNames)
  print ("\nConditionals:\n  " ++ ", ".intercalate registry.conditionalNames)
  print ("\nBinds:\n  " ++ ", ".intercalate registry.bindNames)

def Request.execute (host : Host) : Request → Command Unit
  | .run a => transform host a
  | .events a => showEvents host a
  | .parse input output => parseTable host input output
  | .commands => listCommands
  | .exampleFix => print Fix.sample.print
  | .help topic => modify fun t => { t with stdout := t.stdout ++ topic.text }

/-- Answers arguments. -/
def answer (host : Host) (args : List String) : Option Failure × Transcript :=
  match Request.ofArguments? args with
  | none => (some .usage, {})
  | some request =>
    match (request.execute host).run {} with
    | (.ok (), t) => (none, t)
    | (.error failure, t) => (some failure, t)

/-- What is said of a failure. -/
def Failure.report : Failure → String
  | .usage => "Usage: " ++ Topic.all.usage ++ "\n\nFor more information, try '--help'.\n"
  | failure => "❌ Error: " ++ failure.message ++ "\n"

end RecordFix.CommandLine
