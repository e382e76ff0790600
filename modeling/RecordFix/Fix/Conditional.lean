import RecordFix.Fix.Method.Arguments
import RecordFix.Number.Binary64

/-!
# Conditionals

A conditional looks at the values of a list of fields, separated by commas. Most ask whether all or any of the values
pass a test; only texts can pass, and fields that are not there do not.
-/

namespace RecordFix.Conditional

open RecordFix.Text

inductive Quantifier where
  | all
  | any
  deriving DecidableEq, Repr

/-- The names in a list separated by commas. -/
def fieldNames (fields : String) : List String :=
  ((Path.splitText ',' fields).map trim).filter (!·.isEmpty)

/-- The values of several fields, merged. -/
def fieldValues (r : Record) (fields : String) : Except FixError (Option Value) := do
  let found ← (fieldNames fields).mapM fun f =>
    match r.get f with
    | .ok v => .ok v
    | .error e => .error (FixError.value e)
  return Value.merge (found.filterMap id)

/-- Whether all or any of the values pass a test. -/
def quantify (q : Quantifier) (r : Record) (fields : String) (test : String → Bool) : Except FixError Bool := do
  match ← fieldValues r fields with
  | none => return false
  | some v =>
    let passes (item : Value) : Bool := item.text?.any test
    match q with
    | .all => return v.toList.all passes
    | .any => return v.toList.any passes

def containsText (target text : String) : Bool :=
  let rec search (cs : List Char) : List Char → Bool
    | [] => cs.isEmpty
    | x :: xs => cs.isPrefixOf (x :: xs) || search cs xs
  search target.toList text.toList

/-- A test of texts against the second parameter. -/
def compareTexts (command : String) (q : Quantifier) (test : String → String → Bool) : Conditional :=
  fun r params _ => do
    let fields ← param command params 0
    let target ← param command params 1
    quantify q r fields (test target)

/-- A test of whole texts against a pattern. -/
def matchTexts (command : String) (q : Quantifier) : Conditional := fun r params _ => do
  let fields ← param command params 0
  let p ← compileWhole (← param command params 1)
  quantify q r fields p.isMatch

/-- The contrary of a conditional. -/
def negate (c : Conditional) : Conditional := fun r params options => do
  return !(← c r params options)

/-- A test of texts on their own. -/
def testTexts (command : String) (test : String → Bool) : Conditional := fun r params _ => do
  quantify .any r (← param command params 0) test

def number? (text : String) : Option Binary64 := Binary64.ofText? (trim text)

/-- A comparison of numbers with the second parameter. -/
def compareNumbers (command : String) (test : Binary64 → Binary64 → Bool) : Conditional := fun r params _ => do
  let fields ← param command params 0
  let text ← param command params 1
  match number? text with
  | none => .error (.execution command (.notNumber text))
  | some bound => quantify .any r fields fun t => (number? t).any (test · bound)

def fieldExists : Conditional := fun r params _ => do
  return (← fieldValues r (← param "exists" params 0)).isSome

def fieldIsEmpty : Conditional := fun r params _ => do
  return (← fieldValues r (← param "is_empty" params 0)).any Value.isEmpty

/-- The conditionals by name. -/
def all : List (String × Conditional) :=
  [("all_contain", compareTexts "all_contain" .all containsText),
   ("any_contain", compareTexts "any_contain" .any containsText),
   ("none_contain", negate (compareTexts "none_contain" .any containsText)),
   ("all_equal", compareTexts "all_equal" .all (· == ·)),
   ("any_equal", compareTexts "any_equal" .any (· == ·)),
   ("none_equal", negate (compareTexts "none_equal" .any (· == ·))),
   ("all_match", matchTexts "all_match" .all),
   ("any_match", matchTexts "any_match" .any),
   ("none_match", negate (matchTexts "none_match" .any)),
   ("exists", fieldExists),
   ("is_true", testTexts "is_true" fun t => t == "true" || t == "1"),
   ("is_false", testTexts "is_false" fun t => t == "false" || t == "0"),
   ("is_number", testTexts "is_number" fun t => (number? t).isSome),
   ("is_empty", fieldIsEmpty),
   ("greater_than", compareNumbers "greater_than" fun x bound => bound.lt x),
   ("less_than", compareNumbers "less_than" fun x bound => x.lt bound)]

end RecordFix.Conditional
