import RecordFix.Fix.Run

/-!
# Registries

Adding commands to a registry and taking them away. A name that is taken has to be freed before it is given to
another command.
-/

namespace RecordFix.Registry

private def register {α : Type} (kind : CommandKind) (commands : List (String × α)) (name : String) (command : α) :
    Except FixError (List (String × α)) :=
  if (commands.lookup name).isSome then .error (.alreadyRegistered kind name) else .ok ((name, command) :: commands)

private def unregister {α : Type} (commands : List (String × α)) (name : String) : List (String × α) × Bool :=
  (commands.filter (·.1 != name), (commands.lookup name).isSome)

private def sortedNames {α : Type} (commands : List (String × α)) : List String :=
  (commands.map (·.1)).mergeSort (· ≤ ·)

def registerMethod (r : Registry) (name : String) (m : Method) : Except FixError Registry := do
  return { r with methods := ← register .method r.methods name m }

def registerConditional (r : Registry) (name : String) (c : Conditional) : Except FixError Registry := do
  return { r with conditionals := ← register .conditional r.conditionals name c }

def registerBind (r : Registry) (name : String) (b : Bind) : Except FixError Registry := do
  return { r with binds := ← register .bind r.binds name b }

/-- Takes a method away; whether there was one. -/
def unregisterMethod (r : Registry) (name : String) : Registry × Bool :=
  let (methods, found) := unregister r.methods name
  ({ r with methods := methods }, found)

def unregisterConditional (r : Registry) (name : String) : Registry × Bool :=
  let (conditionals, found) := unregister r.conditionals name
  ({ r with conditionals := conditionals }, found)

def unregisterBind (r : Registry) (name : String) : Registry × Bool :=
  let (binds, found) := unregister r.binds name
  ({ r with binds := binds }, found)

def methodNames (r : Registry) : List String := sortedNames r.methods

def conditionalNames (r : Registry) : List String := sortedNames r.conditionals

def bindNames (r : Registry) : List String := sortedNames r.binds

/-- The size of a registry as text. -/
def summary (r : Registry) : String :=
  "FixRegistry \x7b methods: " ++ toString r.methods.length ++ ", conditionals: " ++ toString r.conditionals.length ++
    ", binds: " ++ toString r.binds.length ++ " \x7d"

end RecordFix.Registry
