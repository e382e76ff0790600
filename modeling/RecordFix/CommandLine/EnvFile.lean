import RecordFix.Text.Blank
import RecordFix.Text.Recent

/-!
# Files of environment variables

Each line of such a file gives a variable as `NAME=value`, with the word `export` in front or not; blank lines do not
count, nor does what follows a hash at the beginning of a line or after a blank. In a value, single quotes keep
everything as it is, double quotes keep blanks, either keeps line feeds, a backslash stands before a character that is
to be taken as it is, and `$NAME` or the name in braces stands for another variable. The file gives no variable that
the process has already, of several values the first, and none from the first faulty line on.
-/

namespace RecordFix.CommandLine.EnvFile

open RecordFix.Text

abbrev Variables := List (String × String)

/-- Where the reader of a value stands. -/
inductive Place where
  | plain
  | single
  | double
  | escaped (quoted : Bool)
  | ended
  deriving DecidableEq, Repr

/-- A reference to a variable that is being read: its name so far, latest character first, and whether it is in
braces. -/
structure Reference where
  name : List Char
  braced : Bool
  deriving DecidableEq, Repr

/-- The value of a variable; one that is not known is empty. -/
def valueOf (known : String → Option String) (name : List Char) : List Char :=
  ((known (String.ofList name)).getD "").toList

/-- Reads a value from a place on. -/
def readValue (known : String → Option String) (place : Place) (reference : Option Reference) :
    List Char → Option (List Char)
  | [] =>
    match place, reference with
    | .single, _ | .double, _ | .escaped true, _ => none
    | _, some ⟨_, true⟩ => none
    | _, some ⟨name, false⟩ => some (valueOf known name.reverse)
    | _, none => some []
  | c :: cs =>
    match place, reference with
    | .ended, _ =>
      if c == ' ' || c == '\t' then readValue known .ended none cs else if c == '#' then some [] else none
    | .escaped quoted, _ =>
      let back := if quoted then Place.double else Place.plain
      if c == 'n' then (readValue known back none cs).map ('\n' :: ·)
      else if ['\\', '\'', '"', '$', ' '].contains c then (readValue known back none cs).map (c :: ·)
      else none
    | .single, _ =>
      if c == '\'' then readValue known .plain none cs else (readValue known .single none cs).map (c :: ·)
    | place, some ⟨name, false⟩ =>
      if isAlphanumeric c then readValue known place (some ⟨c :: name, false⟩) cs
      else if c == '\x7b' && name.isEmpty then readValue known place (some ⟨[], true⟩) cs
      else if c == '$' then (readValue known place (some ⟨[], false⟩) cs).map (valueOf known name.reverse ++ ·)
      else (readValue known place none cs).map (valueOf known name.reverse ++ c :: ·)
    | place, some ⟨name, true⟩ =>
      if c == '\x7d' then (readValue known place none cs).map (valueOf known name.reverse ++ ·)
      else readValue known place (some ⟨c :: name, true⟩) cs
    | place, none =>
      if c == '$' then readValue known place (some ⟨[], false⟩) cs
      else if c == '\\' then readValue known (.escaped (place == .double)) none cs
      else if place == .double then
        if c == '"' then readValue known .plain none cs else (readValue known .double none cs).map (c :: ·)
      else if c == '\'' then readValue known .single none cs
      else if c == '"' then readValue known .double none cs
      else if c == ' ' || c == '\t' then readValue known .ended none cs
      else (readValue known .plain none cs).map (c :: ·)

private def isNameStart (c : Char) : Bool := c.isAlpha || c == '_'

private def isNameChar (c : Char) : Bool := c.isAlphanum || c == '_' || c == '.'

/-- A name at the beginning of a line, and what follows it and the blanks after it. -/
def readName (cs : List Char) : Option (String × List Char) :=
  match cs with
  | [] => none
  | c :: _ =>
    if isNameStart c then
      some (String.ofList (cs.takeWhile isNameChar), (cs.dropWhile isNameChar).dropWhile isBlank)
    else none

/-- The name that a line gives a value to, and what follows the equals sign and the blanks after it. -/
def readAssignment (cs : List Char) : Option (String × List Char) := do
  let (name, rest) ← readName cs
  match name, rest with
  | name, '=' :: value => return (name, value.dropWhile isBlank)
  | "export", rest =>
    match ← readName rest with
    | (name, '=' :: value) => return (name, value.dropWhile isBlank)
    | _ => none
  | _, _ => none

/-- Reads a line; `none` if it is faulty, and no variable if it does not count. -/
def readLine (known : String → Option String) (line : List Char) : Option (Option (String × String)) :=
  let cs := trimChars line
  match cs with
  | [] => some none
  | '#' :: _ => some none
  | cs => do
    let (name, value) ← readAssignment cs
    match value with
    | '#' :: _ => return some (name, "")
    | value => return some (name, String.ofList (← readValue known .plain none value))

/-! ### Lines -/

/-- Where the reader of lines stands: before the first character that is not blank, outside quotes, after a blank or a
backslash there, in quotes, after a backslash or not, or in a comment. -/
inductive LinePlace where
  | start
  | plain
  | blank
  | escaped
  | quoted (quote : Char) (escaped : Bool)
  | comment
  deriving DecidableEq, Repr

/-- Where a character leads; a line feed outside quotes is no matter of this. -/
def LinePlace.next (place : LinePlace) (c : Char) : LinePlace :=
  let outside (other : LinePlace) : LinePlace :=
    if c == '\\' then .escaped else if c == '"' || c == '\'' then .quoted c false else other
  match place with
  | .start => if isBlank c then .start else if c == '#' then .comment else outside .plain
  | .plain => outside (if isBlank c && c != '\r' then .blank else .plain)
  | .blank => if c == '#' then .comment else outside .plain
  | .escaped => .plain
  | .quoted quote true => .quoted quote false
  | .quoted quote false => if c == '\\' then .quoted quote true else if c == quote then .plain else place
  | .comment => .comment

/-- Reads on from a place; `line` holds the line so far, latest character first. A line that the text breaks off in
quotes, or after a blank or a backslash, is faulty, which is `none`. -/
def splitLines (place : LinePlace) (line : List Char) : List Char → List (Option (List Char))
  | [] =>
    match place with
    | .start => []
    | .plain | .comment => [some line.reverse]
    | .blank | .escaped | .quoted .. => [none]
  | c :: cs =>
    match place, c with
    | .quoted quote escaped, c => splitLines (LinePlace.next (.quoted quote escaped) c) (c :: line) cs
    | _, '\n' => some line.reverse :: splitLines .start [] cs
    | place, c =>
      match place.next c with
      | .comment => splitLines .comment line cs
      | next => splitLines next (c :: line) cs

/-- The lines of a text; a byte order mark in front does not count. -/
def lines (text : String) : List (Option (List Char)) :=
  match text.toList with
  | '\ufeff' :: cs => splitLines .start [] cs
  | cs => splitLines .start [] cs

/-- Reads lines, each with the variables before it at hand. -/
def readLines (environment : String → Option String) (found : Variables) : List (Option (List Char)) → Variables
  | [] | none :: _ => found
  | some line :: rest =>
    match readLine (fun name => environment name <|> found.lookup name) line with
    | none => found
    | some none => readLines environment found rest
    | some (some v) => readLines environment (found ++ [v]) rest

/-- The environment of a process together with a file of variables. -/
def extend (text : String) (environment : String → Option String) : String → Option String :=
  let found := readLines environment [] (lines text)
  fun name => environment name <|> found.lookup name

end RecordFix.CommandLine.EnvFile
