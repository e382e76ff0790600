import RecordFix.LookupMap
import RecordFix.Value
import RecordFix.Text.Integer

/-!
# Errors of fixes

`Fault` lists why a command can fail against the data of a record. Such an error is subject to the strictness of the
run; all other errors end it.
-/

namespace RecordFix

inductive CommandKind where
  | method
  | conditional
  | bind
  deriving DecidableEq, Repr

def CommandKind.label : CommandKind → String
  | .method => "method"
  | .conditional => "conditional"
  | .bind => "bind"

/-- What is wrong with the data that a command was given. -/
inductive Fault where
  | notInteger (text : String) (cause : Text.IntegerError)
  | notNumber (text : String)
  | notText (kind : ValueKind)
  | overflow (item : String)
  | zeroBound
  | unknownMap (name : String)
  | other (message : String)
  deriving DecidableEq, Repr

def Fault.message : Fault → String
  | .notInteger text cause => "cannot parse '" ++ text ++ "' as a number: " ++ cause.message
  | .notNumber text => "'" ++ text ++ "' is not a number"
  | .notText kind => "expected strings, got " ++ kind.label
  | .overflow item => "sum overflows at '" ++ item ++ "'"
  | .zeroBound => "max must be greater than 0"
  | .unknownMap name => "unknown map '" ++ name ++ "'"
  | .other message => message

/-- Why a fix cannot be had from its text: the text cannot be read, is not JSON, or is the JSON of something else. -/
inductive LoadError where
  | unreadable (cause : FileError)
  | notJson
  | notFix
  deriving DecidableEq, Repr

namespace LoadError

def message : LoadError → String
  | unreadable cause => "IO error: " ++ cause.message
  | notJson => "Invalid fix"
  | notFix => "Invalid fix: data did not match any variant of untagged enum FixDocument"

/-- The trouble with a file behind an error. -/
def file? : LoadError → Option FileError
  | unreadable cause => some cause
  | _ => none

end LoadError

inductive FixError where
  | value (cause : ValueError)
  | unknownCommand (kind : CommandKind) (name : String)
  | alreadyRegistered (kind : CommandKind) (name : String)
  | missingParameter (command : String) (index : Nat)
  | missingOption (command option : String)
  | unresolvedVariable (name : String)
  | invalidPattern (pattern : String)
  | includeFailed (path : String) (cause : LoadError)
  | includeTooDeep
  | map (cause : MapError)
  | execution (command : String) (fault : Fault)
  | load (cause : LoadError)
  deriving DecidableEq, Repr

namespace FixError

def message : FixError → String
  | value cause => cause.message
  | unknownCommand kind name => "Unknown " ++ kind.label ++ ": " ++ name
  | alreadyRegistered kind name => kind.label ++ " already registered: " ++ name
  | missingParameter command index => "Missing parameter " ++ toString index ++ " for '" ++ command ++ "'"
  | missingOption command option => "Missing option '" ++ option ++ "' for '" ++ command ++ "'"
  | unresolvedVariable name => "Variable '" ++ name ++ "' could not be resolved"
  | invalidPattern pattern => "Invalid pattern '" ++ pattern ++ "'"
  | includeFailed path cause => "Cannot include '" ++ path ++ "': " ++ cause.message
  | includeTooDeep => "Includes are nested too deeply"
  | map cause => "Map error: " ++ cause.message
  | execution command fault => "Error while executing '" ++ command ++ "': " ++ fault.message
  | load cause => cause.message

/-- The trouble with a file behind an error. -/
def file? : FixError → Option FileError
  | includeFailed _ cause => cause.file?
  | map cause => cause.file?
  | load cause => cause.file?
  | _ => none

/-- Whether the strictness of the run decides what becomes of the error. -/
def isExecution : FixError → Bool
  | execution .. => true
  | _ => false

end FixError

end RecordFix
