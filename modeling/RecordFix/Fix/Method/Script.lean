import RecordFix.Fix.Method.Arguments

/-!
# Methods on the session

Including fixes and registering lookup maps.
-/

namespace RecordFix.Method

open RecordFix.Action

/-- Runs an action while another file is that of the running fix. -/
def withFixFile (path : String) (a : Action Unit) : Action Unit := fun s =>
  match a.run { s with env := { s.env with fixFile := some path } } with
  | (outcome, s') => (outcome, { s' with env := { s'.env with fixFile := s.env.fixFile } })

/-- `include(file)` runs the expressions of another fix. -/
def includeFix : Method := fun included params _ => do
  let file ← need (param "include" params 0)
  let path := (← getEnv).resolvePath file
  let (fix, env) ← need ((← getEnv).included path)
  setEnv env
  withFixFile path (included fix.expressions)

def nothing : Method := fun _ _ _ => pure ()

def readSeparator (options : Options) : Except FixError Char :=
  match options.lookup "sep_char" with
  | none => .ok defaultSeparator
  | some text =>
    match text.toList with
    | [c] => .ok c
    | _ => .error (.map (.invalidSeparator text))

/-- Registers the map of a file, unless there is a map of this name. -/
def registerFileMap (file name : String) (options : Options) : Action Unit := do
  let env ← getEnv
  if env.maps.contains name then pure ()
  else
    let separator ← need (readSeparator options)
    match FileMap.ofPath (env.resolvePath file) separator with
    | .ok m => setEnv { env with maps := env.maps.put name (.file m) }
    | .error e => fail (.map e)

/-- `put_filemap(file, name?, sep_char: …)` -/
def putFilemap : Method := fun _ params options => do
  let file ← need (param "put_filemap" params 0)
  registerFileMap file (params[1]?.getD file) options

/-- `put_map(name, key: value, …)` -/
def putMap : Method := fun _ params options => do
  let name ← need (param "put_map" params 0)
  let env ← getEnv
  setEnv { env with maps := env.maps.put name (.inline options) }

end RecordFix.Method
