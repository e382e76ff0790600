import RecordFix.Fix.Strictness

/-!
# Arguments of the command line

A command is followed by its input and its options, in any order. The value of an option is the next argument or what
is attached to the option. After two dashes, all arguments are inputs. An option is given once, unless it may be
repeated, and values that name files are not empty. The request for help is answered as soon as it is met.
-/

namespace RecordFix.CommandLine

/-- What the commands that run a fix are given. -/
structure FixArguments where
  input : String
  fix : String
  settings : Option String := none
  strictness : Option Strictness := none
  vars : List String := []
  idField : Option String := none
  output : Option String := none
  deriving DecidableEq, Repr

inductive Topic where
  | all
  | run
  | events
  | parse
  | commands
  | exampleFix
  | help
  deriving DecidableEq, Repr

inductive Request where
  | run (arguments : FixArguments)
  | events (arguments : FixArguments)
  | parse (input : String) (output : Option String)
  | commands
  | exampleFix
  | help (topic : Topic)
  deriving DecidableEq, Repr

/-- What the value of an option has to be. -/
inductive ValueForm where
  | file
  | strictness
  | text
  deriving DecidableEq, Repr

def ValueForm.accepts (form : ValueForm) (value : String) : Bool :=
  match form with
  | .file => !value.isEmpty
  | .strictness =>
    match Strictness.parse value with
    | .ok _ => true
    | .error _ => false
  | .text => true

structure Flag where
  short : Option Char
  long : String
  form : ValueForm
  repeatable : Bool := false
  deriving DecidableEq, Repr

def outputFlag : Flag := { short := some 'o', long := "output", form := .file }

/-- The options of the commands that run a fix. -/
def fixFlags : List Flag :=
  [{ short := some 'f', long := "fix", form := .file }, { short := none, long := "options", form := .file },
   { short := some 's', long := "strictness", form := .strictness },
   { short := none, long := "var", form := .text, repeatable := true },
   { short := none, long := "id-field", form := .text }, outputFlag]

/-! ### Reading -/

/-- The options and inputs so far. -/
structure Given where
  options : List (String × String) := []
  inputs : List String := []
  deriving DecidableEq, Repr

/-- How reading arguments ends: they are wrong, ask for help, or are all read. -/
inductive Outcome where
  | wrong
  | help
  | given (g : Given)
  deriving DecidableEq, Repr

/-- Takes an input, of which there may be so many. -/
def Given.addInput (g : Given) (limit : Nat) (input : String) : Option Given :=
  if g.inputs.length < limit && !input.isEmpty then some { g with inputs := g.inputs ++ [input] } else none

def Given.addOption (g : Given) (flag : Flag) (value : String) : Option Given :=
  if flag.form.accepts value && (flag.repeatable || (g.options.lookup flag.long).isNone) then
    some { g with options := g.options ++ [(flag.long, value)] }
  else none

/-- Takes arguments that are all inputs. -/
def Given.addInputs (g : Given) (limit : Nat) : List String → Outcome
  | [] => .given g
  | input :: rest =>
    match g.addInput limit input with
    | some g => g.addInputs limit rest
    | none => .wrong

/-- An argument by its form: an input, two dashes, or an option with the value attached to it. -/
inductive Argument where
  | input
  | dashes
  | long (name : String) (value : Option String)
  | short (name : Char) (value : Option String)
  deriving DecidableEq, Repr

def Argument.ofText (arg : String) : Argument :=
  match arg.toList with
  | ['-', '-'] => .dashes
  | '-' :: '-' :: cs =>
    let name := String.ofList (cs.takeWhile (· != '='))
    match cs.dropWhile (· != '=') with
    | '=' :: value => .long name (some (String.ofList value))
    | _ => .long name none
  | '-' :: c :: '=' :: value => .short c (some (String.ofList value))
  | ['-', c] => .short c none
  | '-' :: c :: value => .short c (some (String.ofList value))
  | _ => .input

/-- Takes an option: `rest` are the arguments after it, and `read` reads on. -/
def takeOption (flags : List Flag) (g : Given) (isMeant : Flag → Bool) (value? : Option String) (rest : List String)
    (readOn : Given → Bool → Outcome) : Outcome :=
  match flags.find? isMeant with
  | none => .wrong
  | some flag =>
    match value?, rest with
    | some value, _ => ((g.addOption flag value).map (readOn · false)).getD .wrong
    | none, value :: _ =>
      if Argument.ofText value = .input then ((g.addOption flag value).map (readOn · true)).getD .wrong else .wrong
    | none, [] => .wrong

/-- Reads arguments; `skip` says that the first is the value of an option, which was read already. -/
def readArguments (flags : List Flag) (limit : Nat) (g : Given) (skip : Bool) : List String → Outcome
  | [] => .given g
  | arg :: rest =>
    if skip then readArguments flags limit g false rest
    else
      match Argument.ofText arg with
      | .dashes => g.addInputs limit rest
      | .input =>
        match g.addInput limit arg with
        | some g => readArguments flags limit g false rest
        | none => .wrong
      | .long "help" none => .help
      | .short 'h' _ => .help
      | .long name value? =>
        takeOption flags g (·.long == name) value? rest fun g skip => readArguments flags limit g skip rest
      | .short c value? =>
        takeOption flags g (·.short == some c) value? rest fun g skip => readArguments flags limit g skip rest

/-! ### Requests -/

def FixArguments.ofGiven? (g : Given) : Option FixArguments := do
  let input ← g.inputs.head?
  let fix ← g.options.lookup "fix"
  return {
    input := input
    fix := fix
    settings := g.options.lookup "options"
    strictness := (g.options.lookup "strictness").bind fun s => (Strictness.parse s).toOption
    vars := (g.options.filter (·.1 == "var")).map (·.2)
    idField := g.options.lookup "id-field"
    output := g.options.lookup "output" }

/-- Reads the arguments of a command. -/
def readCommand (topic : Topic) (flags : List Flag) (limit : Nat) (args : List String)
    (finish : Given → Option Request) : Option Request :=
  match readArguments flags limit {} false args with
  | .wrong => none
  | .help => some (.help topic)
  | .given g => finish g

def topic? : String → Option Topic
  | "run" => some .run
  | "events" => some .events
  | "parse" => some .parse
  | "commands" => some .commands
  | "example-fix" => some .exampleFix
  | "help" => some .help
  | _ => none

/-- What the arguments ask for; `none` if they are wrong. -/
def Request.ofArguments? : List String → Option Request
  | [] => none
  | ["help"] => some (.help .all)
  | ["help", name] => (topic? name).map .help
  | arg :: rest =>
    match topic? arg with
    | some .run => readCommand .run fixFlags 1 rest fun g => (FixArguments.ofGiven? g).map .run
    | some .events => readCommand .events fixFlags 1 rest fun g => (FixArguments.ofGiven? g).map .events
    | some .parse =>
      readCommand .parse [outputFlag] 1 rest fun g =>
        g.inputs.head?.map fun input => .parse input (g.options.lookup "output")
    | some .commands => readCommand .commands [] 0 rest fun _ => some .commands
    | some .exampleFix => readCommand .exampleFix [] 0 rest fun _ => some .exampleFix
    | some .all | some .help => none
    | none =>
      match Argument.ofText arg with
      | .long "help" none => some (.help .all)
      | .short 'h' _ => some (.help .all)
      | _ => none

end RecordFix.CommandLine
