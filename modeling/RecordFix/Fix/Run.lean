import RecordFix.Fix.Environment
import RecordFix.Fix.Strictness
import RecordFix.Fix.Variables
import RecordFix.Record

/-!
# Running fixes

An `Action` changes a session, which is a record and the environment that it shares with others, and ends well or in
an error; what was changed before an error stays changed. A registry gives names to commands. `process` runs
expressions in order. It resolves variables in parameters and options after the command is found, runs the first
block whose condition holds, and leaves an execution error to the strictness of the run. Included fixes are run one
level down, at most `includeLimit` levels.
-/

namespace RecordFix

/-- What the commands of a fix can change. -/
structure Session where
  record : Record := {}
  env : Environment := {}

/-- A change of a session that can fail. -/
abbrev Action (α : Type) := ExceptT FixError (StateM Session) α

namespace Action

def getRecord : Action Record := do return (← get).record

def setRecord (r : Record) : Action Unit := modify fun s => { s with record := r }

def getEnv : Action Environment := do return (← get).env

def setEnv (env : Environment) : Action Unit := modify fun s => { s with env := env }

def fail {α : Type} (e : FixError) : Action α := throw e

def need {α : Type} : Except FixError α → Action α
  | .ok a => pure a
  | .error e => fail e

/-- Puts a record in place that a change made, and fails if the change did. -/
def settle (change : Record × Option FixError) : Action Unit := do
  setRecord change.1
  match change.2 with
  | none => pure ()
  | some e => fail e

/-- The same for a change that fails with the shape of a value. -/
def settleValue (change : Record × Option ValueError) : Action Unit :=
  settle (change.1, change.2.map .value)

/-- Runs an action on a record of its own and gives that record afterwards; the record of the session stays. -/
def within (inner : Record) (a : Action Unit) : Action Record := fun s =>
  match a.run { s with record := inner } with
  | (.ok (), s') => (.ok s'.record, { s' with record := s.record })
  | (.error e, s') => (.error e, { s' with record := s.record })

end Action

/-- A method gets the means to run an included fix, its parameters and its options. -/
abbrev Method := (List Expression → Action Unit) → List String → Options → Action Unit

abbrev Conditional := Record → List String → Options → Except FixError Bool

/-- A bind gets the block that it may run, its parameters and its options. -/
abbrev Bind := Action Unit → List String → Options → Action Unit

/-- The commands that have names. -/
structure Registry where
  methods : List (String × Method) := []
  conditionals : List (String × Conditional) := []
  binds : List (String × Bind) := []

/-! ### Strictness at work -/

namespace Strictness

/-- What an execution error does to a session. -/
def handle (s : Strictness) (e : FixError) : Action Unit :=
  match s with
  | process => Action.fail e
  | record => modify fun session => { session with record := { session.record with rejected := true } }
  | expression => pure ()

/-- Runs an action; if it ends in an execution error, the strictness decides. -/
def guard (s : Strictness) (a : Action Unit) : Action Unit := fun session =>
  match a.run session with
  | (.ok (), session) => (.ok (), session)
  | (.error e, session) => if e.isExecution then (s.handle e).run session else (.error e, session)

end Strictness

/-! ### Expressions -/

section

variable (registry : Registry) (strictness : Strictness) (included : List Expression → Action Unit)

/-- The command under a name. -/
def findCommand {α : Type} (kind : CommandKind) (commands : List (String × α)) (name : String) :
    Except FixError α :=
  match commands.lookup name with
  | some command => .ok command
  | none => .error (.unknownCommand kind name)

/-- Whether a condition holds for the record of the session. -/
def evaluate (c : Condition) : Action Bool := fun s =>
  let outcome := do
    let test ← findCommand .conditional registry.conditionals c.name
    let params ← Variables.resolveAll s.env.vars c.params
    test s.record params []
  (outcome, s)

/-- Resolves the parameters and options of a command. -/
def resolveArguments (params : List String) (options : Options) : Action (List String × Options) := fun s =>
  let outcome := do
    let params ← Variables.resolveAll s.env.vars params
    let options ← Variables.resolveOptions s.env.vars options
    return (params, options)
  (outcome, s)

mutual

/-- Runs one expression. -/
def execute : Expression → Action Unit
  | .call name params options => do
    let method ← Action.need (findCommand .method registry.methods name)
    let (params, options) ← resolveArguments params options
    method included params options
  | .ifThen c body branches otherwise => do
    if ← evaluate registry c then process body
    else executeBranches branches (processElse otherwise)
  | .unlessThen c body => do
    if ← evaluate registry c then pure () else process body
  | .doBlock name params options body => do
    let bind ← Action.need (findCommand .bind registry.binds name)
    let (params, options) ← resolveArguments params options
    bind (process body) params options

/-- Runs the first block whose condition holds, or `otherwise`. -/
def executeBranches : List (Condition × List Expression) → Action Unit → Action Unit
  | [], otherwise => otherwise
  | (c, body) :: rest, otherwise => do
    if ← evaluate registry c then process body else executeBranches rest otherwise

def processElse : Option (List Expression) → Action Unit
  | none => pure ()
  | some body => process body

/-- Runs expressions in order. -/
def process : List Expression → Action Unit
  | [] => pure ()
  | e :: es => do
    strictness.guard (execute e)
    process es

end

end

/-- How deep fixes may include each other. What does not go so deep does not depend on it. -/
def includeLimit : Nat := 4096

/-- Runs expressions that may include fixes `depth` levels deep. -/
def runAt (registry : Registry) (strictness : Strictness) : Nat → List Expression → Action Unit
  | 0, _ => Action.fail .includeTooDeep
  | depth + 1, es => process registry strictness (runAt registry strictness depth) es

/-- Runs the expressions of a fix. -/
def runExpressions (registry : Registry) (strictness : Strictness) (es : List Expression) : Action Unit :=
  runAt registry strictness (includeLimit + 1) es

end RecordFix
