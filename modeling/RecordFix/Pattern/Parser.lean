import RecordFix.Pattern.Class
import RecordFix.Pattern.Program
import RecordFix.Pattern.Size

/-!
# Reading patterns

`Pattern.parse?` reads the text of a pattern. An open group is kept on a stack together with what was read before it;
a flag that is set inside a group, also between its alternatives, is in force until the group ends. A pattern is
refused if it is not well formed, nests deeper than `nestLimit`, or is larger than `sizeLimit` when its counted
repetitions are written out.
-/

namespace RecordFix

open RecordFix.Text RecordFix.Pattern

/-- A program and the names of its groups, in order; a group may have none. -/
structure Pattern where
  program : Program
  groupNames : List (Option String)

namespace Pattern

def nestLimit : Nat := 250

/-- A finished part of a pattern with the depth of its nesting. -/
structure Part where
  regex : Regex
  depth : Nat

/-- A group that is still open: its number if it captures, and what was read before it. -/
structure OpenGroup where
  index : Option Nat
  branches : List Part
  parts : List (Option Part)
  flags : Flags

/-- What has been read: the finished alternatives of the innermost open group and the parts of the one at hand, both
latest first (a flag setting is no part, but keeps its place), the groups around, and the names of all groups. -/
structure Reading where
  flags : Flags := {}
  branches : List Part := []
  parts : List (Option Part) := []
  around : List OpenGroup := []
  names : List (Option String) := []

def Part.concat : List (Option Part) → Part
  | [] | [none] => ⟨.empty, 0⟩
  | [some p] => p
  | parts =>
    let ps := parts.reverse.filterMap id
    ⟨Regex.concat (ps.map (·.regex)), 1 + (ps.map (·.depth)).foldl max 0⟩

def Part.choice : List Part → Part
  | [p] => p
  | ps => ⟨Regex.choice (ps.map (·.regex)), 1 + (ps.map (·.depth)).foldl max 0⟩

def Reading.body (r : Reading) : Part :=
  Part.choice (Part.concat r.parts :: r.branches).reverse

def Reading.pushPart (r : Reading) (p : Part) : Reading :=
  { r with parts := some p :: r.parts }

def Reading.push (r : Reading) (regex : Regex) : Reading := r.pushPart ⟨regex, 0⟩

/-! ### Single places -/

def Reading.pushLiteral (r : Reading) (c : Char) : Reading :=
  r.push (.one (r.flags.foldSet (Ranges.single c)))

def Reading.pushPrimitive (r : Reading) : Primitive → Reading
  | .literal c => r.pushLiteral c
  | .set s => r.push (.one s)
  | .look l => r.push (.look l)

def Reading.pushDot? (r : Reading) : Option Reading :=
  if !r.flags.unicode then none
  else
    let except :=
      if r.flags.dotAll then Ranges.empty
      else if r.flags.crlf then Ranges.single '\n' ∪ Ranges.single '\r' else Ranges.single '\n'
    some (r.push (.one except.compl))

/-! ### Repetition -/

/-- Replaces the last part by its repetition. -/
def Reading.repeatLast? (r : Reading) (min : Nat) (max : Option Nat) (lazily : Bool) : Option Reading :=
  match r.parts with
  | some p :: before =>
    let greedy := lazily == r.flags.swapGreed
    some { r with parts := some ⟨Regex.repeated min max greedy p.regex, p.depth + 1⟩ :: before }
  | _ => none

/-- A question mark after a repetition makes it lazy. -/
def lazyMark : List Char → Bool × List Char
  | '?' :: cs => (true, cs)
  | cs => (false, cs)

/-- The digits of a decimal number between blanks, and what follows. -/
private def decimalDigits (f : Flags) : List Char → List Char × List Char
  | [] => ([], [])
  | c :: cs =>
    if '0' ≤ c && c ≤ '9' then
      let (ds, rest) := decimalDigits f cs
      (c :: ds, rest)
    else if f.extended && isBlank c then decimalDigits f cs
    else ([], c :: cs)

private def readCount (f : Flags) (cs : List Char) : Option Nat × List Char :=
  let (ds, rest) := decimalDigits f ((f.skip cs).dropWhile isBlank)
  let n := ds.foldl (fun n c => 10 * n + (c.toNat - '0'.toNat)) 0
  (if ds.isEmpty || n ≥ Nat.pow 2 32 then none else some n, f.skip (rest.dropWhile isBlank))

/-- A counted repetition after its opening brace. -/
private def Reading.countedRepeat? (r : Reading) (cs : List Char) : Option (Reading × List Char) := do
  let (min, rest) := readCount r.flags cs
  let min ← min
  let (max, rest) ←
    match rest with
    | ',' :: rest =>
      match r.flags.skip rest with
      | '\x7d' :: rest => some (none, rest)
      | rest =>
        match readCount r.flags rest with
        | (some max, '\x7d' :: rest) => some (some max, rest)
        | _ => none
    | '\x7d' :: rest => some (some min, rest)
    | _ => none
  if max.any (· < min) then none
  else
    let (lazily, rest) := lazyMark (r.flags.skip rest)
    return (← r.repeatLast? min max lazily, rest)

/-! ### Groups -/

def setFlag (f : Flags) (on : Bool) : Char → Option Flags
  | 'i' => some { f with ignoreCase := on }
  | 'm' => some { f with multiLine := on }
  | 's' => some { f with dotAll := on }
  | 'U' => some { f with swapGreed := on }
  | 'u' => some { f with unicode := on }
  | 'R' => some { f with crlf := on }
  | 'x' => some { f with extended := on }
  | _ => none

/-- Reads flags up to a colon or a closing parenthesis, which it gives back; `seen` are those read so far. -/
def readFlags (f : Flags) (on : Bool) (seen : List Char) : List Char → Option (Flags × Char × List Char)
  | [] => none
  | c :: cs =>
    if c == ':' || c == ')' then
      if seen.head? == some '-' || (c == ')' && seen.isEmpty) then none else some (f, c, cs)
    else if seen.contains c then none
    else if c == '-' then readFlags f false ('-' :: seen) cs
    else
      match setFlag f on c with
      | some f => readFlags f on (c :: seen) cs
      | none => none

def Reading.openGroup (r : Reading) (index : Option Nat) (inner : Flags) (names : List (Option String)) :
    Reading :=
  { flags := inner, branches := [], parts := [], names := names
    around := ⟨index, r.branches, r.parts, r.flags⟩ :: r.around }

private def isNameChar (c : Char) : Bool :=
  c == '_' || c == '.' || c == '[' || c == ']' || isAlphanumeric c

/-- Opens a group with a name, which ends at `>`. -/
private def Reading.openNamed? (r : Reading) (cs : List Char) : Option (Reading × List Char) :=
  let name := cs.takeWhile (· != '>')
  match cs.dropWhile (· != '>') with
  | '>' :: rest =>
    let text := String.ofList name
    let wellFormed :=
      match name with
      | [] => false
      | c :: cs => (c == '_' || isAlphabetic c) && cs.all isNameChar
    if !wellFormed || r.names.contains (some text) then none
    else some (r.openGroup (some (r.names.length + 1)) r.flags (some text :: r.names), rest)
  | _ => none

/-- An opening parenthesis was read. -/
def Reading.openAny? (r : Reading) (cs : List Char) : Option (Reading × List Char) :=
  match r.flags.skip cs with
  | '?' :: '=' :: _ => none
  | '?' :: '!' :: _ => none
  | '?' :: '<' :: '=' :: _ => none
  | '?' :: '<' :: '!' :: _ => none
  | '?' :: 'P' :: '<' :: cs => r.openNamed? cs
  | '?' :: '<' :: cs => r.openNamed? cs
  | '?' :: cs =>
    match readFlags r.flags true [] cs with
    | some (f, ')', rest) => some ({ r with flags := f, parts := none :: r.parts }, rest)
    | some (f, _, rest) => some (r.openGroup none f r.names, rest)
    | none => none
  | cs => some (r.openGroup (some (r.names.length + 1)) r.flags (none :: r.names), cs)

/-- A closing parenthesis was read. -/
def Reading.close? (r : Reading) : Option Reading :=
  match r.around with
  | [] => none
  | g :: around =>
    let body := r.body
    let regex :=
      match g.index with
      | some i => .capture i body.regex
      | none => body.regex
    some { flags := g.flags, branches := g.branches, around := around, names := r.names
           parts := some ⟨regex, body.depth + 1⟩ :: g.parts }

/-! ### The whole pattern -/

/-- Reads what begins with the character `c`. -/
def Reading.step? (r : Reading) (c : Char) (cs : List Char) : Option (Reading × List Char) :=
  match c with
  | '(' => r.openAny? cs
  | ')' => r.close?.map (·, cs)
  | '|' => some ({ r with branches := Part.concat r.parts :: r.branches, parts := [] }, cs)
  | '[' => (readClass r.flags cs).map fun (s, rest) => (r.pushPart ⟨.one s.set, s.depth⟩, rest)
  | '?' =>
    let (lazily, rest) := lazyMark cs
    (r.repeatLast? 0 (some 1) lazily).map (·, rest)
  | '*' =>
    let (lazily, rest) := lazyMark cs
    (r.repeatLast? 0 none lazily).map (·, rest)
  | '+' =>
    let (lazily, rest) := lazyMark cs
    (r.repeatLast? 1 none lazily).map (·, rest)
  | '\x7b' => r.countedRepeat? cs
  | '\\' => (escape r.flags cs).map fun (p, rest) => (r.pushPrimitive p, rest)
  | '.' => r.pushDot?.map (·, cs)
  | '^' => some (r.push (.look (if r.flags.multiLine then .startLine r.flags.crlf else .startText)), cs)
  | '$' => some (r.push (.look (if r.flags.multiLine then .endLine r.flags.crlf else .endText)), cs)
  | _ => some (r.pushLiteral c, cs)

def readAll : Nat → Reading → List Char → Option Reading
  | 0, _, _ => none
  | fuel + 1, r, cs =>
    match r.flags.skip cs with
    | [] => some r
    | c :: cs =>
      match r.step? c cs with
      | some (r, rest) => readAll fuel r rest
      | none => none

/-- The names of the groups up to the last that is left in an expression. A group that is to be repeated no times is
not left, and gives no name. -/
def namesLeft (r : Regex) (names : List (Option String)) : List (Option String) :=
  let left := r.groups
  ((names.zipIdx 1).take (left.foldl max 0)).map fun (name, i) => if left.contains i then name else none

/-- Reads a pattern; `none` if the text is not one. -/
def parse? (text : String) : Option Pattern := do
  let cs := text.toList
  let r ← readAll (cs.length + 1) {} cs
  let body := r.body
  if !r.around.isEmpty || body.depth > nestLimit || !body.regex.fits then none
  else return ⟨body.regex.program, namesLeft body.regex r.names.reverse⟩

/-- Reads a pattern that has to match a whole text. -/
def parseWhole? (text : String) : Option Pattern :=
  parse? ("^(?:" ++ text ++ ")$")

end Pattern

end RecordFix
