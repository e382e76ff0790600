import RecordFix.Pattern
import RecordFix.Pattern.Property

/-!
# Bracketed classes and escapes

Reading of the parts of a pattern that stand for a single place: escapes such as `\d`, `\x41` or `\p{Lu}`, and
classes such as `[a-z&&[^aeiou]]`. Classes nest; `&&`, `--` and `~~` intersect, subtract and take the symmetric
difference, all from the left. A reader gives `none` if the text is not well formed.
-/

namespace RecordFix.Pattern

open RecordFix.Text

/-- The flags that are in force at a place of a pattern. -/
structure Flags where
  ignoreCase : Bool := false
  multiLine : Bool := false
  dotAll : Bool := false
  swapGreed : Bool := false
  crlf : Bool := false
  extended : Bool := false
  unicode : Bool := true

/-- What a single escape or character stands for. -/
inductive Primitive where
  | literal (c : Char)
  | set (s : Ranges)
  | look (l : Look)

/-- Skips blanks, and comments from `#` to the end of the line. -/
private def skipLayout (inComment : Bool) : List Char → List Char
  | [] => []
  | c :: cs =>
    if inComment then skipLayout (c != '\n') cs
    else if isBlank c then skipLayout false cs
    else if c == '#' then skipLayout true cs
    else c :: cs

/-- Skips what does not count: in an extended pattern, blanks and comments. -/
def Flags.skip (f : Flags) (cs : List Char) : List Char :=
  if f.extended then skipLayout false cs else cs

/-- The set under the flags for case. -/
def Flags.foldSet (f : Flags) (s : Ranges) : Ranges :=
  if f.ignoreCase then (if f.unicode then foldCase s else foldAscii s) else s

/-- The set and its complement; a set of bytes has no complement among the characters. -/
private def Flags.negateSet? (f : Flags) (negated : Bool) (s : Ranges) : Option Ranges :=
  if negated && !f.unicode then none else some (negateIf negated s)

/-! ### Escapes -/

/-- The characters up to a closing brace, and what follows it. -/
def braced (f : Flags) (inComment : Bool) : List Char → Option (List Char × List Char)
  | [] => none
  | c :: cs =>
    if inComment then braced f (c != '\n') cs
    else if f.extended && isBlank c then braced f false cs
    else if f.extended && c == '#' then braced f true cs
    else if c == '\x7d' then some ([], cs)
    else (braced f false cs).map fun (name, rest) => (c :: name, rest)

private def charOfHex? (digits : List Char) : Option Char :=
  if digits.isEmpty || !digits.all (fun c => (hexDigit? c).isSome) then none
  else
    let n := hexValue (String.ofList digits)
    if n.isValidChar then some (Char.ofNat n) else none

private def fixedHex (f : Flags) : Nat → List Char → Option (List Char × List Char)
  | 0, cs => some ([], cs)
  | _ + 1, [] => none
  | n + 1, c :: cs => (fixedHex f n (f.skip cs)).map fun (ds, rest) => (c :: ds, rest)

/-- A character given by its code: `n` digits, or any number of them in braces. -/
private def hexEscape (f : Flags) (n : Nat) (cs : List Char) : Option (Primitive × List Char) :=
  match f.skip cs with
  | '\x7b' :: cs => do
    let (digits, rest) ← braced f false cs
    let c ← charOfHex? digits
    return (.literal c, rest)
  | cs => do
    let (digits, rest) ← fixedHex f n cs
    let c ← charOfHex? digits
    if n == 2 && !f.unicode && '\x7f' < c then none else return (.literal c, rest)

/-- The text before and after the first separator. -/
private def splitFirst? (text separator : String) : Option (String × String) :=
  match text.splitOn separator with
  | first :: second :: rest => some (first, separator.intercalate (second :: rest))
  | _ => none

/-- The set that a name or an equation between a property and a value describes, and whether it is the complement
that is meant. -/
private def propertyByName? (name : String) : Option (Ranges × Bool) :=
  match splitFirst? name "!=" with
  | some (p, v) => (valueSet? p v).map (·, true)
  | none =>
    match splitFirst? name ":" with
    | some (p, v) => (valueSet? p v).map (·, false)
    | none =>
      match splitFirst? name "=" with
      | some (p, v) => (valueSet? p v).map (·, false)
      | none => (namedSet? name).map (·, false)

private def propertyEscape (f : Flags) (negated : Bool) (cs : List Char) : Option (Primitive × List Char) := do
  let (name, rest) ←
    match f.skip cs with
    | [] => none
    | '\\' :: _ => none
    | '\x7b' :: cs => braced f false cs
    | c :: cs => some ([c], cs)
  if !f.unicode then none
  else
    let (s, other) ← propertyByName? (String.ofList name)
    return (.set (negateIf (negated != other) (f.foldSet s)), rest)

private def isBoundaryNameChar (c : Char) : Bool := c.isAlpha || c == '-'

/-- What `\b` stands for: a boundary of a word, or the kind of boundary that a name in braces gives. -/
private def boundaryEscape (f : Flags) (cs : List Char) : Option (Primitive × List Char) :=
  match cs with
  | '\x7b' :: inner =>
    match f.skip inner with
    | [] => none
    | c :: _ =>
      if isBoundaryNameChar c then do
        let (name, rest) ← braced f false inner
        match String.ofList name with
        | "start" => return (.look (.wordStart f.unicode), rest)
        | "end" => return (.look (.wordEnd f.unicode), rest)
        | "start-half" => return (.look (.wordStartHalf f.unicode), rest)
        | "end-half" => return (.look (.wordEndHalf f.unicode), rest)
        | _ => none
      else some (.look (.boundary f.unicode), cs)
  | _ => some (.look (.boundary f.unicode), cs)

/-- Characters that may have a meaning of their own in a pattern. -/
def isMeta (c : Char) : Bool :=
  c ∈ ['\\', '.', '+', '*', '?', '(', ')', '|', '[', ']', '\x7b', '\x7d', '^', '$', '#', '&', '-', '~']

/-- The text of a pattern that stands for a character itself. -/
def quoted (c : Char) : List Char := if isMeta c then ['\\', c] else [c]

/-- What follows a backslash. -/
def escape (f : Flags) : List Char → Option (Primitive × List Char)
  | [] => none
  | c :: cs =>
    match c with
    | 'x' => hexEscape f 2 cs
    | 'u' => hexEscape f 4 cs
    | 'U' => hexEscape f 8 cs
    | 'p' => propertyEscape f false cs
    | 'P' => propertyEscape f true cs
    | 'a' => some (.literal '\x07', cs)
    | 'f' => some (.literal '\x0c', cs)
    | 't' => some (.literal '\t', cs)
    | 'n' => some (.literal '\n', cs)
    | 'r' => some (.literal '\r', cs)
    | 'v' => some (.literal '\x0b', cs)
    | 'A' => some (.look .startText, cs)
    | 'z' => some (.look .endText, cs)
    | 'b' => boundaryEscape f cs
    | 'B' => if f.unicode then some (.look (.notBoundary true), cs) else none
    | '<' => some (.look (.wordStart f.unicode), cs)
    | '>' => some (.look (.wordEnd f.unicode), cs)
    | _ =>
      match shorthand? f.unicode c.toLower with
      | some s => (f.negateSet? c.isUpper s).map fun s => (.set s, cs)
      | none => if isMeta c || (c ≤ '\x7f' && !c.isAlphanum) then some (.literal c, cs) else none

/-! ### Classes -/

/-- A set as it is written, with the depth of the nesting in its text. -/
structure WrittenSet where
  set : Ranges
  depth : Nat := 0

/-- The union of the members of a class. -/
def WrittenSet.unionAll : List WrittenSet → WrittenSet
  | [] => ⟨Ranges.empty, 0⟩
  | [m] => m
  | ms => ⟨Ranges.unionAll (ms.map (·.set)), 1 + (ms.map (·.depth)).foldl max 0⟩

private inductive Operator where
  | inter
  | diff
  | symmDiff

private def Operator.apply : Operator → Ranges → Ranges → Ranges
  | .inter, s, t => s.inter t
  | .diff, s, t => s.diff t
  | .symmDiff, s, t => s.symmDiff t

/-- An open bracket with the members that were read before it, or the left side of an operator. -/
private inductive ClassFrame where
  | bracket (negated : Bool) (before : List WrittenSet)
  | operator (op : Operator) (left : WrittenSet)

/-- Combines a finished operand with the operator that waits for it. -/
private def applyOperator (f : Flags) (right : WrittenSet) : List ClassFrame → WrittenSet × List ClassFrame
  | .operator op left :: stack =>
    (⟨op.apply (f.foldSet left.set) (f.foldSet right.set), 1 + max left.depth right.depth⟩, stack)
  | stack => (right, stack)

private def classPrimitive (f : Flags) : List Char → Option (Primitive × List Char)
  | [] => none
  | '\\' :: cs => escape f cs
  | c :: cs => some (.literal c, cs)

private def literalOf? (f : Flags) : Primitive → Option Char
  | .literal c => if !f.unicode && '\x7f' < c then none else some c
  | _ => none

private def memberOf? (f : Flags) : Primitive → Option Ranges
  | .literal c => (literalOf? f (.literal c)).map Ranges.single
  | .set s => some s
  | .look _ => none

/-- One member of a class: a character, a set or a range. -/
private def classMember (f : Flags) (cs : List Char) : Option (Ranges × List Char) := do
  let (first, rest) ← classPrimitive f cs
  match f.skip rest with
  | [] => none
  | '-' :: after =>
    match f.skip after with
    | [] => none
    | c :: cs =>
      if c == ']' || c == '-' then return (← memberOf? f first, '-' :: after)
      else
        let (last, rest) ← classPrimitive f (c :: cs)
        let lo ← literalOf? f first
        let hi ← literalOf? f last
        if lo ≤ hi then return (Ranges.between lo hi, rest) else none
  | rest => return (← memberOf? f first, rest)

/-- The beginning of a class after its bracket: negation, leading hyphens, and a closing bracket that stands for
itself because it comes first. -/
private def classStart (f : Flags) (cs : List Char) : Option (Bool × List WrittenSet × List Char) :=
  let (negated, cs) :=
    match f.skip cs with
    | '^' :: cs => (true, f.skip cs)
    | cs => (false, cs)
  let rec hyphens : Nat → List Char → List WrittenSet × List Char
    | 0, cs => ([], cs)
    | n + 1, '-' :: cs =>
      let (members, rest) := hyphens n (f.skip cs)
      (⟨Ranges.single '-', 0⟩ :: members, rest)
    | _ + 1, cs => ([], cs)
  let (members, cs) := hyphens cs.length cs
  match members, cs with
  | _, [] => none
  | [], ']' :: cs =>
    match f.skip cs with
    | [] => none
    | cs => some (negated, [⟨Ranges.single ']', 0⟩], cs)
  | members, cs => some (negated, members, cs)

/-- A class such as `[:alpha:]` after its first bracket. -/
private def asciiClassItem? (cs : List Char) : Option (Ranges × List Char) :=
  match cs with
  | ':' :: cs =>
    let (negated, cs) :=
      match cs with
      | '^' :: cs => (true, cs)
      | cs => (false, cs)
    let name := cs.takeWhile (· != ':')
    match cs.dropWhile (· != ':') with
    | ':' :: ']' :: rest => (asciiClass? (String.ofList name)).map fun s => (negateIf negated s, rest)
    | _ => none
  | _ => none

/-- Reads the members of open classes until the outermost is closed. -/
private def classLoop (f : Flags) : Nat → List ClassFrame → List WrittenSet → List Char →
    Option (WrittenSet × List Char)
  | 0, _, _, _ => none
  | fuel + 1, stack, members, cs =>
    match f.skip cs with
    | [] => none
    | '[' :: cs =>
      match asciiClassItem? cs with
      | some (s, rest) => classLoop f fuel stack (members ++ [⟨s, 0⟩]) rest
      | none =>
        match classStart f cs with
        | some (negated, inner, rest) => classLoop f fuel (.bracket negated members :: stack) inner rest
        | none => none
    | ']' :: cs =>
      let (m, stack) := applyOperator f (WrittenSet.unionAll members) stack
      match stack with
      | .bracket negated before :: stack =>
        match f.negateSet? negated (f.foldSet m.set) with
        | none => none
        | some s =>
          let closed : WrittenSet := ⟨s, m.depth + 1⟩
          if stack.isEmpty then some (closed, cs) else classLoop f fuel stack (before ++ [closed]) cs
      | _ => none
    | '&' :: '&' :: cs =>
      let (m, stack) := applyOperator f (WrittenSet.unionAll members) stack
      classLoop f fuel (.operator .inter m :: stack) [] cs
    | '-' :: '-' :: cs =>
      let (m, stack) := applyOperator f (WrittenSet.unionAll members) stack
      classLoop f fuel (.operator .diff m :: stack) [] cs
    | '~' :: '~' :: cs =>
      let (m, stack) := applyOperator f (WrittenSet.unionAll members) stack
      classLoop f fuel (.operator .symmDiff m :: stack) [] cs
    | cs =>
      match classMember f cs with
      | some (s, rest) => classLoop f fuel stack (members ++ [⟨s, 0⟩]) rest
      | none => none

/-- Reads a class after its opening bracket. -/
def readClass (f : Flags) (cs : List Char) : Option (WrittenSet × List Char) := do
  let (negated, members, rest) ← classStart f cs
  classLoop f (rest.length + 1) [.bracket negated []] members rest

end RecordFix.Pattern
