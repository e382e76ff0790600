import RecordFix.Fix
import RecordFix.Fix.Strictness

/-!
# Settings

What can be chosen for a run: its strictness, how arrays are sent, the values of variables, and the field that holds
the ids of records. Three of the settings can be given by variables of the process environment.
-/

namespace RecordFix

structure Settings where
  strictness : Strictness := .process
  repeatedFieldsToEntities : Bool := true
  memberTemplate : String := "%d"
  vars : Options := []
  idField : Option String := none
  deriving DecidableEq, Repr

inductive SettingsError where
  | strictness (cause : UnknownStrictness)
  | notBoolean (name value : String)
  deriving DecidableEq, Repr

def SettingsError.message : SettingsError → String
  | .strictness cause => cause.message
  | .notBoolean name value => name ++ " must be true or false, got '" ++ value ++ "'"

namespace Settings

/-- Replaces each `%d` in a template. -/
def fillNumber (number : List Char) : List Char → List Char
  | '%' :: 'd' :: cs => number ++ fillNumber number cs
  | c :: cs => c :: fillNumber number cs
  | [] => []

/-- The name of the member at a position counted from 0; in the template `%d` stands for the position counted
from 1. -/
def memberName (s : Settings) (position : Nat) : String :=
  String.ofList (fillNumber (toString (position + 1)).toList s.memberTemplate.toList)

def withVar (s : Settings) (name value : String) : Settings := { s with vars := s.vars.put name value }

/-! ### The process environment -/

def strictnessVariable : String := "METAFIX_STRICTNESS"

def repeatedFieldsVariable : String := "METAFIX_REPEATED_FIELDS_TO_ENTITIES"

def memberNameVariable : String := "METAFIX_ENTITY_MEMBER_NAME"

private def readBoolean (name value : String) : Except SettingsError Bool :=
  match Text.trim value with
  | "true" => .ok true
  | "false" => .ok false
  | _ => .error (.notBoolean name value)

/-- The settings with what the process environment gives instead. -/
def override (environment : String → Option String) (s : Settings) : Except SettingsError Settings := do
  let strictness ←
    match environment strictnessVariable with
    | none => pure s.strictness
    | some text =>
      match Strictness.parse text with
      | .ok strictness => pure strictness
      | .error cause => .error (.strictness cause)
  let repeated ←
    match environment repeatedFieldsVariable with
    | none => pure s.repeatedFieldsToEntities
    | some text => readBoolean repeatedFieldsVariable text
  return { s with
    strictness := strictness
    repeatedFieldsToEntities := repeated
    memberTemplate := (environment memberNameVariable).getD s.memberTemplate }

end Settings

end RecordFix
