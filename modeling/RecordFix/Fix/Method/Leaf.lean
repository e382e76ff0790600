import RecordFix.Fix.Method.Script

/-!
# Methods on texts

Methods that change every text at a path.
-/

namespace RecordFix.Method

open RecordFix.Action RecordFix.Text

/-- Changes every text at the path that is the first parameter. -/
def mapTexts (command : String) (params : List String) (change : String → String) : Action Unit := do
  let field ← need (param command params 0)
  let edited := (← getRecord).transform FixError.value (fun t (_ : Unit) => (.ok (some (change t)), ())) field ()
  settle (edited.node, edited.failure)

/-- `append(path, suffix)` -/
def append : Method := fun _ params _ => do
  let ending ← need (param "append" params 1)
  mapTexts "append" params (· ++ ending)

/-- `prepend(path, prefix)` -/
def prepend : Method := fun _ params _ => do
  let beginning ← need (param "prepend" params 1)
  mapTexts "prepend" params (beginning ++ ·)

def capitalize : Method := fun _ params _ => mapTexts "capitalize" params Text.capitalize

def downcase : Method := fun _ params _ => mapTexts "downcase" params Text.lower

def upcase : Method := fun _ params _ => mapTexts "upcase" params Text.upper

def trim : Method := fun _ params _ => mapTexts "trim" params Text.trim

/-- The number of characters before the first occurrence of `cs`. -/
def position? (cs : List Char) : List Char → Option Nat
  | [] => if cs.isEmpty then some 0 else none
  | x :: xs => if cs.isPrefixOf (x :: xs) then some 0 else (position? cs xs).map (· + 1)

/-- `index(path, text)` gives the position of a text, or -1. -/
def index : Method := fun _ params _ => do
  let search ← need (param "index" params 1)
  mapTexts "index" params fun t =>
    match position? search.toList t.toList with
    | some n => toString n
    | none => "-1"

/-- `replace_all(path, pattern, replacement)` -/
def replaceAll : Method := fun _ params _ => do
  let p ← need (do compilePattern (← param "replace_all" params 1))
  let replacement ← need (param "replace_all" params 2)
  mapTexts "replace_all" params (p.replaceAll replacement)

/-- `substring(path, start, length?)`, counted in characters. -/
def substring : Method := fun _ params _ => do
  let start ← need (do readNatural "substring" (← param "substring" params 1))
  let length ← need (params[2]?.mapM (readNatural "substring"))
  mapTexts "substring" params fun t =>
    let cs := t.toList.drop start
    String.ofList (match length with
      | some n => cs.take n
      | none => cs)

/-- The edit that looks texts up in a map; a text without an entry is removed. -/
def lookupEdit (files : Files) : TextEdit LookupMap FixError := fun t m =>
  match m.getOrDefault files t with
  | (.ok found, m) => (.ok found, m)
  | (.error e, m) => (.error (.map e), m)

/-- `lookup(path, map?, key: value, …)` looks texts up in a registered map, or in the one that the options are. -/
def lookup : Method := fun _ params options => do
  let field ← need (param "lookup" params 0)
  match params[1]? with
  | none =>
    let edited := (← getRecord).transform FixError.value (lookupEdit (← getEnv).files) field (.inline options)
    settle (edited.node, edited.failure)
  | some name => do
    registerFileMap name name options
    let env ← getEnv
    match env.maps.get? name with
    | none => fail (.execution "lookup" (.unknownMap name))
    | some m =>
      let edited := (← getRecord).transform FixError.value (lookupEdit env.files) field m
      setEnv { env with maps := env.maps.put name edited.state }
      settle (edited.node, edited.failure)

end RecordFix.Method
