/-!
# Values

A record is a tree of values: texts, arrays and hashes. A hash is a list of named fields in the order in which the
names first came. Every value carries an origin, the dotted path at which it was last attached; `rebase` gives a
value a new origin and moves everything below along. Two values are the same (`Value.same`) when they agree up to
origins and the order of the fields in a hash.
-/

namespace RecordFix

/-- A node of a record. -/
inductive Value where
  | string (text : String) (origin : Option String)
  | array (items : List Value) (origin : Option String)
  | hash (fields : List (String × Value)) (origin : Option String)
  deriving Inhabited

/-- The three kinds of value. -/
inductive ValueKind where
  | string
  | array
  | hash
  deriving DecidableEq, Repr

def ValueKind.label : ValueKind → String
  | .string => "String"
  | .array => "Array"
  | .hash => "Hash"

/-- The value does not have the shape that a path or a command asks for. -/
inductive ValueError where
  | typeMismatch (expected : String) (actual : ValueKind)
  | missingReference (reference context : String)
  deriving DecidableEq, Repr

def ValueError.message : ValueError → String
  | .typeMismatch expected actual => "Expected " ++ expected ++ ", got " ++ actual.label
  | .missingReference reference context =>
    "Using ref, but can't find: " ++ reference ++ " in: " ++ context

/-- The origin of the child called `segment`. -/
def childOrigin (parent : Option String) (segment : String) : String :=
  match parent with
  | none => segment
  | some p => if p.isEmpty then segment else p ++ "." ++ segment

/-- The origin of the child at a 1-based position. -/
def itemOrigin (parent : Option String) (position : Nat) : String :=
  childOrigin parent (toString position)

namespace Value

/-- A text with no origin. -/
def ofString (text : String) : Value := .string text none

def kind : Value → ValueKind
  | string .. => .string
  | array .. => .array
  | hash .. => .hash

def origin : Value → Option String
  | string _ o => o
  | array _ o => o
  | hash _ o => o

def text? : Value → Option String
  | string t _ => some t
  | _ => none

/-- An empty text, array or hash. -/
def isEmpty : Value → Bool
  | string t _ => t.isEmpty
  | array xs _ => xs.isEmpty
  | hash fs _ => fs.isEmpty

def expect (wanted : ValueKind) (v : Value) : Except ValueError Value :=
  if v.kind = wanted then .ok v else .error (.typeMismatch wanted.label v.kind)

/-! ### Origins -/

mutual

/-- Gives a value a new origin and moves everything below along. -/
def rebase (o : Option String) : Value → Value
  | string t _ => string t o
  | array xs _ => array (rebaseItems o 1 xs) o
  | hash fs _ => hash (rebaseFields o fs) o

/-- The items of an array with origin `o`, numbered from `i`. -/
def rebaseItems (o : Option String) (i : Nat) : List Value → List Value
  | [] => []
  | v :: vs => rebase (some (itemOrigin o i)) v :: rebaseItems o (i + 1) vs

/-- The fields of a hash with origin `o`. -/
def rebaseFields (o : Option String) : List (String × Value) → List (String × Value)
  | [] => []
  | (k, v) :: fs => (k, rebase (some (childOrigin o k)) v) :: rebaseFields o fs

end

/-- An array of these values, with no origin of its own. -/
def ofList (vs : List Value) : Value :=
  array (rebaseItems none 1 vs) none

/-! ### Arrays -/

/-- A value as a list: an array gives its items, anything else itself. -/
def toList : Value → List Value
  | array xs _ => xs
  | v => [v]

/-- A value as an array: anything else becomes the only item of a new one and has its place there. -/
def asArray : Value → Value
  | array xs o => array xs o
  | v => ofList [v]

/-- Adds an item at the end of an array with origin `o`. -/
def pushItem (o : Option String) (xs : List Value) (v : Value) : List Value :=
  xs ++ [rebase (some (itemOrigin o (xs.length + 1))) v]

/-- Appends to a value: what is not yet an array becomes one, and keeps its origin. -/
def append : Value → Value → Value
  | array xs o, v => array (pushItem o xs v) o
  | w, v => array (pushItem w.origin (pushItem w.origin [] w) v) w.origin

/-- Replaces the item at a 0-based position, if there is one. -/
def setItem (o : Option String) (xs : List Value) (i : Nat) (v : Value) : List Value :=
  if i < xs.length then xs.set i (rebase (some (itemOrigin o (i + 1))) v) else xs

/-- Removes the item at a 0-based position, if there is one. -/
def eraseItem (o : Option String) (xs : List Value) (i : Nat) : List Value :=
  if i < xs.length then rebaseItems o 1 (xs.eraseIdx i) else xs

/-- Merges what several fields hold: one value stays as it is, several become an array in which the items of arrays
stand on their own. -/
def merge : List Value → Option Value
  | [] => none
  | [v] => some v
  | vs => some (ofList (vs.flatMap toList))

/-! ### Equality and display -/

mutual

/-- Equality up to origins and the order of fields. -/
def same : Value → Value → Bool
  | string t _, string u _ => t == u
  | array xs _, array ys _ => sameItems xs ys
  | hash fs _, hash gs _ => fs.length == gs.length && sameFields fs gs
  | _, _ => false

def sameItems : List Value → List Value → Bool
  | [], [] => true
  | x :: xs, y :: ys => same x y && sameItems xs ys
  | _, _ => false

/-- Every field of the first list has its equal in the second. -/
def sameFields : List (String × Value) → List (String × Value) → Bool
  | [], _ => true
  | (k, v) :: fs, gs =>
    (match gs.lookup k with
      | some w => same v w
      | none => false) && sameFields fs gs

end

mutual

/-- The text of a value: its items or its fields `name=value`, between brackets or braces. -/
def display : Value → String
  | string t _ => t
  | array xs _ => "[" ++ ", ".intercalate (displayItems xs) ++ "]"
  | hash fs _ => "\x7b" ++ ", ".intercalate (displayFields fs) ++ "\x7d"

def displayItems : List Value → List String
  | [] => []
  | v :: vs => display v :: displayItems vs

def displayFields : List (String × Value) → List String
  | [] => []
  | (k, v) :: fs => (k ++ "=" ++ display v) :: displayFields fs

end

/-! ### Cleaning -/

mutual

/-- Drops empty texts, and the arrays and hashes that this empties; `none` if nothing is left of the value. What was
empty before stays. -/
def vacuum : Value → Option Value
  | string t o => if t.isEmpty then none else some (string t o)
  | array [] o => some (array [] o)
  | array (x :: xs) o =>
    match vacuumItems (x :: xs) with
    | [] => none
    | ys => some (array (rebaseItems o 1 ys) o)
  | hash [] o => some (hash [] o)
  | hash (f :: fs) o =>
    match vacuumFields (f :: fs) with
    | [] => none
    | gs => some (hash gs o)

def vacuumItems : List Value → List Value
  | [] => []
  | v :: vs => (vacuum v).toList ++ vacuumItems vs

def vacuumFields : List (String × Value) → List (String × Value)
  | [] => []
  | (k, v) :: fs => ((vacuum v).map (k, ·)).toList ++ vacuumFields fs

end

theorem vacuum_string (t : String) (o : Option String) :
    (string t o).vacuum = if t.isEmpty then none else some (string t o) := by
  rw [vacuum]

/-- An array is dropped only if the removal of its items empties it. -/
theorem vacuum_array (items : List Value) (o : Option String) :
    (array items o).vacuum =
      if items ≠ [] ∧ vacuumItems items = [] then none else some (array (rebaseItems o 1 (vacuumItems items)) o) := by
  cases items with
  | nil => rfl
  | cons v vs =>
    rw [vacuum]
    cases vacuumItems (v :: vs) with
    | nil => simp
    | cons w ws => simp

/-- A hash is dropped only if the removal of its fields empties it. -/
theorem vacuum_hash (fields : List (String × Value)) (o : Option String) :
    (hash fields o).vacuum =
      if fields ≠ [] ∧ vacuumFields fields = [] then none else some (hash (vacuumFields fields) o) := by
  cases fields with
  | nil => rfl
  | cons f fs =>
    rw [vacuum]
    cases vacuumFields (f :: fs) with
    | nil => simp
    | cons g gs => simp

end Value

end RecordFix
