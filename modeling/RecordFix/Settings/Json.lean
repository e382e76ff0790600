import RecordFix.Json.Parser
import RecordFix.Json.Printer
import RecordFix.Settings

/-!
# Settings as JSON

Settings are written as an object with all members, and read from an object in which members may be left out and
unknown ones are skipped, or from the array of the values of the first members. A member may occur once.
-/

namespace RecordFix.Settings

def toJson (s : Settings) : Json :=
  .object [
    ("strictness", .string s.strictness.label), ("repeated_fields_to_entities", .bool s.repeatedFieldsToEntities),
    ("entity_member_name", .string s.memberTemplate), ("vars", .object (s.vars.map fun (k, v) => (k, .string v))),
    ("id_field", match s.idField with
      | some f => .string f
      | none => .null)]

private def readStrictness : Json → Option Strictness
  | .string label => Strictness.ofLabel? label
  | .object [(label, .null)] => Strictness.ofLabel? label
  | _ => none

private def readVars (ms : List (String × Json)) : Option Options :=
  ms.foldlM (fun vars m =>
    match m.2 with
    | .string v => some (vars.put m.1 v)
    | _ => none) []

/-- The names of the members in order. -/
def memberNames : List String :=
  ["strictness", "repeated_fields_to_entities", "entity_member_name", "vars", "id_field"]

/-- Sets what a member gives; a member of another name does not count. -/
def setMember (s : Settings) : String × Json → Option Settings
  | ("strictness", j) => do return { s with strictness := ← readStrictness j }
  | ("repeated_fields_to_entities", .bool b) => some { s with repeatedFieldsToEntities := b }
  | ("entity_member_name", .string t) => some { s with memberTemplate := t }
  | ("vars", .object ms) => do return { s with vars := ← readVars ms }
  | ("id_field", .string f) => some { s with idField := some f }
  | ("id_field", .null) => some { s with idField := none }
  | (name, _) => if memberNames.contains name then none else some s

/-- Whether no name of a setting occurs twice. -/
private def distinctNames (names : List String) : Bool :=
  memberNames.all fun name => (names.filter (· == name)).length ≤ 1

def ofJson? : Json → Option Settings
  | .object ms => if distinctNames (ms.map (·.1)) then ms.foldlM setMember {} else none
  | .array js => if js.length ≤ memberNames.length then (memberNames.zip js).foldlM setMember {} else none
  | _ => none

/-- Reads the text of settings. -/
def parse? (text : String) : Option Settings := (Json.parseWanted? memberNames.contains text).bind ofJson?

end RecordFix.Settings
