import RecordFix.Fix
import RecordFix.Fix.Error

/-!
# Variables in texts

In a parameter or the value of an option, `$[name]` stands for a variable; the name is not empty and has no closing
bracket. The placeholders of a text are found first and then replaced, so a value is put in as it is, also if it looks
like a placeholder.
-/

namespace RecordFix.Variables

/-- A text between placeholders, or the name in one. -/
inductive Piece where
  | text (s : List Char)
  | placeholder (name : List Char)
  deriving DecidableEq, Repr

/-- Puts a character in front of the text that comes first. -/
def consChar (c : Char) : List Piece → List Piece
  | .text s :: rest => .text (c :: s) :: rest
  | rest => .text [c] :: rest

/-- The pieces of a text; inside a placeholder, `open?` holds the characters of its name so far, latest first. -/
def pieces (open? : Option (List Char)) : List Char → List Piece
  | [] =>
    match open? with
    | none => []
    | some name => [.text ('$' :: '[' :: name.reverse)]
  | c :: cs =>
    match open?, c, cs with
    | some [], ']', cs => consChar '$' (consChar '[' (consChar ']' (pieces none cs)))
    | some name, ']', cs => .placeholder name.reverse :: pieces none cs
    | some name, c, cs => pieces (some (c :: name)) cs
    | none, '$', '[' :: cs => pieces (some []) cs
    | none, c, cs => consChar c (pieces none cs)

/-- Replaces the placeholders; the first without a value is an error. -/
def fill (vars : List (String × String)) : List Piece → Except FixError (List Char)
  | [] => .ok []
  | .text s :: rest => do return s ++ (← fill vars rest)
  | .placeholder name :: rest =>
    match vars.lookup (String.ofList name) with
    | some value => do return value.toList ++ (← fill vars rest)
    | none => .error (.unresolvedVariable (String.ofList name))

/-- A text with its placeholders replaced by the values of the variables. -/
def resolve (vars : List (String × String)) (text : String) : Except FixError String := do
  return String.ofList (← fill vars (pieces none text.toList))

def resolveAll (vars : List (String × String)) (texts : List String) : Except FixError (List String) :=
  texts.mapM (resolve vars)

def resolveOptions (vars : List (String × String)) (options : Options) : Except FixError Options :=
  options.mapM fun (k, v) => do return (k, ← resolve vars v)

end RecordFix.Variables
