import RecordFix.Fix
import RecordFix.Json.Parser
import RecordFix.Json.Printer

/-!
# Fixes as JSON

A fix is written as an object with the list of its expressions, and read from that or from the list alone. An
expression is an object whose member `type` says its kind; it can also be given as the array of the values of its
members in order. Parameters, options and blocks may be left out, members that the kind does not have are ignored,
and a member that it has may occur once.
-/

namespace RecordFix

namespace Fix

/-! ### Writing -/

def textsJson (ss : List String) : Json := .array (ss.map .string)

def optionsMember (options : Options) : List (String × Json) :=
  if options.isEmpty then [] else [("options", .object (options.map fun (k, v) => (k, .string v)))]

mutual

def expressionJson : Expression → Json
  | .call name params options =>
    .object ([("type", .string "call"), ("name", .string name), ("params", textsJson params)] ++
      optionsMember options)
  | .ifThen c body branches otherwise =>
    .object ([("type", .string "if"), ("name", .string c.name), ("params", textsJson c.params),
        ("elements", .array (expressionsJson body))] ++
      (if branches.isEmpty then [] else [("elsif", .array (branchesJson branches))]) ++ elseMember otherwise)
  | .unlessThen c body =>
    .object [("type", .string "unless"), ("name", .string c.name), ("params", textsJson c.params),
      ("elements", .array (expressionsJson body))]
  | .doBlock name params options body =>
    .object ([("type", .string "do"), ("name", .string name), ("params", textsJson params)] ++
      optionsMember options ++ [("elements", .array (expressionsJson body))])

def expressionsJson : List Expression → List Json
  | [] => []
  | e :: es => expressionJson e :: expressionsJson es

def branchesJson : List (Condition × List Expression) → List Json
  | [] => []
  | (c, body) :: rest =>
    .object [("name", .string c.name), ("params", textsJson c.params),
      ("elements", .array (expressionsJson body))] :: branchesJson rest

def elseMember : Option (List Expression) → List (String × Json)
  | none => []
  | some body => [("else", .array (expressionsJson body))]

end

def toJson (f : Fix) : Json :=
  .object [("expressions", .array (expressionsJson f.expressions))]

/-- The text of a fix. -/
def print (f : Fix) : String := f.toJson.pretty

/-! ### Reading -/

/-- A JSON value with what it means as an expression and as a branch of a test, and the same for its items. -/
inductive Reading where
  | mk (json : Json) (expression : Option Expression) (branch : Option (Condition × List Expression))
      (items : Option (List Reading))

namespace Reading

def json : Reading → Json
  | mk j _ _ _ => j

def expression? : Reading → Option Expression
  | mk _ e _ _ => e

def branch? : Reading → Option (Condition × List Expression)
  | mk _ _ b _ => b

def items? : Reading → Option (List Reading)
  | mk _ _ _ rs => rs

def text? (r : Reading) : Option String :=
  match r.json with
  | .string s => some s
  | _ => none

def texts? (r : Reading) : Option (List String) := do (← r.items?).mapM text?

/-- Puts an option whose value is a text. -/
def putOption? (options : Options) (m : String × Json) : Option Options :=
  match m.2 with
  | .string v => some (options.put m.1 v)
  | _ => none

def options? (r : Reading) : Option Options :=
  match r.json with
  | .object ms => ms.foldlM putOption? []
  | _ => none

def block? (r : Reading) : Option (List Expression) := do (← r.items?).mapM expression?

def branches? (r : Reading) : Option (List (Condition × List Expression)) := do (← r.items?).mapM branch?

def elseBlock? (r : Reading) : Option (Option (List Expression)) :=
  match r.json with
  | .null => some none
  | _ => r.block?.map some

end Reading

/-- The kinds of expression and the members that each has, in order. -/
inductive Kind where
  | call
  | ifThen
  | unlessThen
  | doBlock

def Kind.members : Kind → List String
  | .call => ["name", "params", "options"]
  | .ifThen => ["name", "params", "elements", "elsif", "else"]
  | .unlessThen => ["name", "params", "elements"]
  | .doBlock => ["name", "params", "options", "elements"]

/-- A kind by its name, or by its number. -/
def kindOf? (r : Reading) : Option Kind :=
  match r.json with
  | .string "call" => some .call
  | .string "if" => some .ifThen
  | .string "unless" => some .unlessThen
  | .string "do" => some .doBlock
  | .number (.integer 0) => some .call
  | .number (.integer 1) => some .ifThen
  | .number (.integer 2) => some .unlessThen
  | .number (.integer 3) => some .doBlock
  | _ => none

/-- The only reading under a name, or none if there is none; it is an error if there are several. -/
def only? (rs : List (String × Reading)) (name : String) : Option (Option Reading) :=
  match rs.filter (·.1 == name) with
  | [] => some none
  | [(_, r)] => some (some r)
  | _ => none

/-- The value of a member, which may be left out if there is a default. -/
def member? {α : Type} (rs : List (String × Reading)) (name : String) (default? : Option α)
    (read : Reading → Option α) : Option α := do
  match ← only? rs name with
  | none => default?
  | some r => read r

def condition? (rs : List (String × Reading)) : Option Condition := do
  return ⟨← member? rs "name" none Reading.text?, ← member? rs "params" (some []) Reading.texts?⟩

/-- The expression of a kind with these members. -/
def expressionOf? (kind : Kind) (rs : List (String × Reading)) : Option Expression := do
  let c ← condition? rs
  match kind with
  | .call => return .call c.name c.params (← member? rs "options" (some []) Reading.options?)
  | .ifThen =>
    return .ifThen c (← member? rs "elements" (some []) Reading.block?)
      (← member? rs "elsif" (some []) Reading.branches?) (← member? rs "else" (some none) Reading.elseBlock?)
  | .unlessThen => return .unlessThen c (← member? rs "elements" (some []) Reading.block?)
  | .doBlock =>
    return .doBlock c.name c.params (← member? rs "options" (some []) Reading.options?)
      (← member? rs "elements" (some []) Reading.block?)

/-- Values in order as members of these names; there may be fewer values, but not more. -/
def named? (names : List String) (rs : List Reading) : Option (List (String × Reading)) :=
  if rs.length ≤ names.length then some (names.zip rs) else none

def expressionOfMembers? (rs : List (String × Reading)) : Option Expression := do
  let kind ← kindOf? (← (← only? rs "type"))
  expressionOf? kind rs

def expressionOfItems? : List Reading → Option Expression
  | [] => none
  | r :: rs => do
    let kind ← kindOf? r
    expressionOf? kind (← named? kind.members rs)

def branchOf? (rs : List (String × Reading)) : Option (Condition × List Expression) := do
  return (← condition? rs, ← member? rs "elements" (some []) Reading.block?)

def branchOfItems? (rs : List Reading) : Option (Condition × List Expression) := do
  branchOf? (← named? ["name", "params", "elements"] rs)

mutual

def Reading.ofJson : Json → Reading
  | .array js =>
    let rs := readingsOf js
    .mk (.array js) (expressionOfItems? rs) (branchOfItems? rs) (some rs)
  | .object ms =>
    let rs := memberReadings ms
    .mk (.object ms) (expressionOfMembers? rs) (branchOf? rs) none
  | j => .mk j none none none

def readingsOf : List Json → List Reading
  | [] => []
  | j :: js => Reading.ofJson j :: readingsOf js

def memberReadings : List (String × Json) → List (String × Reading)
  | [] => []
  | (k, j) :: ms => (k, Reading.ofJson j) :: memberReadings ms

end

def ofJson? (j : Json) : Option Fix :=
  match j with
  | .object ms => do return ⟨← member? (memberReadings ms) "expressions" none Reading.block?⟩
  | .array js => do return ⟨← (readingsOf js).mapM Reading.expression?⟩
  | _ => none

/-- Reads the text of a fix. -/
def parse? (text : String) : Option Fix := (Json.parse? text).bind ofJson?

end Fix

end RecordFix
