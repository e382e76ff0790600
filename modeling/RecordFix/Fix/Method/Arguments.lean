import RecordFix.Fix.Run
import RecordFix.Pattern.Replace

/-!
# Arguments of commands

Reading the parameters and options of a command, and the data that it asks for.
-/

namespace RecordFix

open RecordFix.Text

def param (command : String) (params : List String) (index : Nat) : Except FixError String :=
  match params[index]? with
  | some p => .ok p
  | none => .error (.missingParameter command index)

def compilePattern (text : String) : Except FixError Pattern :=
  match Pattern.parse? text with
  | some p => .ok p
  | none => .error (.invalidPattern text)

/-- A pattern that has to match a whole text. -/
def compileWhole (text : String) : Except FixError Pattern :=
  match Pattern.parseWhole? text with
  | some p => .ok p
  | none => .error (.invalidPattern text)

/-- Whether an option is set, in upper or lower case. -/
def flag (options : Options) (key : String) : Bool :=
  (options.lookup key).any fun v => v.toLower == "true"

def readNatural (command text : String) : Except FixError Nat :=
  match parseNat64 (trim text) with
  | .ok n => .ok n
  | .error e => .error (.execution command (.notInteger text e))

def readInteger (command text : String) : Except FixError Int :=
  match parseInt64 (trim text) with
  | .ok n => .ok n
  | .error e => .error (.execution command (.notInteger text e))

def textOf (command : String) (v : Value) : Except FixError String :=
  match v.text? with
  | some t => .ok t
  | none => .error (.execution command (.notText v.kind))

/-- The texts that the items of an array are. -/
def textsOf (command : String) (items : List Value) : Except FixError (List String) :=
  items.mapM (textOf command)

/-- An array of texts. -/
def textArray (ts : List String) : Value := Value.ofList (ts.map Value.ofString)

end RecordFix
