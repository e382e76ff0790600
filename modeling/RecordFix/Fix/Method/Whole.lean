import RecordFix.Fix.Method.Structure

/-!
# Methods on whole values

Methods that replace the value of a field: counting, filtering, ordering and splitting. Values of a kind that a
method does not handle stay as they are.
-/

namespace RecordFix.Method

open RecordFix.Action RecordFix.Text

/-- `count(path)` -/
def count : Method := fun _ params _ => do
  let field ← need (param "count" params 0)
  changeValue field fun v =>
    match v with
    | .array items _ => .ok (Value.ofString (toString items.length))
    | .hash fields _ => .ok (Value.ofString (toString fields.length))
    | v => .ok v

/-- `filter(path, pattern, invert: …)` keeps the items that match. -/
def filter : Method := fun _ params options => do
  let field ← need (param "filter" params 0)
  let p ← need (do compilePattern (← param "filter" params 1))
  let invert := flag options "invert"
  changeValue field fun v =>
    match v with
    | .array items _ => .ok (Value.ofList (items.filter fun item => item.text?.any p.isMatch != invert))
    | v => .ok v

/-- `join_field(path, separator?)` -/
def joinField : Method := fun _ params _ => do
  let field ← need (param "join_field" params 0)
  let separator := params[1]?.getD ""
  changeValue field fun v =>
    match v with
    | .array items _ => do return Value.ofString (separator.intercalate (← textsOf "join_field" items))
    | v => .ok v

/-- `reverse(path)` -/
def reverse : Method := fun _ params _ => do
  let field ← need (param "reverse" params 0)
  changeValue field fun v =>
    match v with
    | .array items _ => .ok (Value.ofList items.reverse)
    | .string t _ => .ok (Value.ofString (String.ofList t.toList.reverse))
    | v => .ok v

/-- The first occurrences, in order. -/
def distinct (same : α → α → Bool) (seen : List α) : List α → List α
  | [] => []
  | x :: xs => if seen.any (same · x) then distinct same seen xs else x :: distinct same (seen ++ [x]) xs

/-- Texts in the order of the integers that they are. -/
def sortNumerically (command : String) (texts : List String) : Except FixError (List String) := do
  let keyed ← texts.mapM fun t => do return (← readInteger command t, t)
  return (keyed.mergeSort fun a b => a.1 ≤ b.1).map (·.2)

/-- `sort_field(path, numeric: …, reverse: …, uniq: …)` -/
def sortField : Method := fun _ params options => do
  let field ← need (param "sort_field" params 0)
  changeValue field fun v =>
    match v with
    | .array items _ => do
      let texts ← textsOf "sort_field" items
      let texts := if flag options "uniq" then distinct (· == ·) [] texts else texts
      let sorted ←
        if flag options "numeric" then sortNumerically "sort_field" texts else pure (texts.mergeSort (· ≤ ·))
      return textArray (if flag options "reverse" then sorted.reverse else sorted)
    | v => .ok v

/-- `split_field(path, pattern?)` -/
def splitField : Method := fun _ params _ => do
  let field ← need (param "split_field" params 0)
  let p ← need (compilePattern (params[1]?.getD "\\s+"))
  let split (t : String) : Value := textArray (p.split t)
  changeValue field fun v =>
    match v with
    | .string t _ => .ok (split t)
    | .array items _ => do return Value.ofList ((← textsOf "split_field" items).map split)
    | .hash fields _ => do
      let pieces ← fields.mapM fun (k, item) => do return (k, split (← textOf "split_field" item))
      return (Hash.ofList pieces).toValue

/-- Adds up integers of 64 bits. -/
def addUp (command : String) (total : Int) : List String → Except FixError Int
  | [] => .ok total
  | t :: ts => do
    let sum := total + (← readInteger command t)
    if -2 ^ 63 ≤ sum && sum < 2 ^ 63 then addUp command sum ts else .error (.execution command (.overflow t))

/-- `sum(path)` -/
def sum : Method := fun _ params _ => do
  let field ← need (param "sum" params 0)
  changeValue field fun v =>
    match v with
    | .array items _ => do
      let total ← addUp "sum" 0 (← textsOf "sum" items)
      return Value.ofString (toString total)
    | v => .ok v

/-- `uniq(path)` -/
def uniq : Method := fun _ params _ => do
  let field ← need (param "uniq" params 0)
  changeValue field fun v =>
    match v with
    | .array items _ => .ok (Value.ofList (distinct Value.same [] items))
    | v => .ok v

end RecordFix.Method
