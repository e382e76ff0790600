import RecordFix.Path

/-!
# Editing the texts at a path

`editIn` hands every text at a path to an operator, in order, and puts the answer in its place. The operator may keep
a state and may fail. A text for which it gives none is removed, but only when the whole container was gone through;
so an error leaves the edits made before it, and no removal of the containers that were open. A hash at the end of
the path, or a text in a field before it, is a mismatch.
-/

namespace RecordFix

/-- An operator on texts: what takes the place of a text, if anything, or an error. -/
abbrev TextEdit (σ ε : Type) := String → σ → Except ε (Option String) × σ

/-- A node after an edit, the state of the operator, and the error that ended the edit. -/
structure Edited (σ ε α : Type) where
  node : α
  state : σ
  failure : Option ε

/-- A child of a container after an edit, and whether it is to be removed. -/
structure EditedChild where
  value : Value
  removed : Bool := false

namespace Value

/-- The items of an array once all are edited. -/
def settleItems (o : Option String) (children : List EditedChild) : List Value :=
  if children.any (·.removed) then rebaseItems o 1 ((children.filter (!·.removed)).map (·.value))
  else children.map (·.value)

/-- The fields of a hash once all are edited. -/
def settleFields (children : List (String × EditedChild)) : List (String × Value) :=
  (children.filter (!·.2.removed)).map fun (k, c) => (k, c.value)

section

variable {σ ε : Type} (fail : ValueError → ε) (edit : TextEdit σ ε)

mutual

/-- Edits the texts at a path below a value; in `strict` mode a text that the path leads beyond is an error. -/
def editIn (strict : Bool) (path : Path) (s : σ) : Value → Edited σ ε EditedChild
  | string t o =>
    if path.isEmpty then
      match edit t s with
      | (.ok (some u), s) => ⟨{ value := string u o }, s, none⟩
      | (.ok none, s) => ⟨{ value := string t o, removed := true }, s, none⟩
      | (.error e, s) => ⟨{ value := string t o }, s, some e⟩
    else ⟨{ value := string t o }, s, if strict then some (fail (descentMismatch .string)) else none⟩
  | array items o =>
    let edited :=
      match path with
      | [] => editItems (fun _ => true) [] 0 s items
      | segment :: rest =>
        match ItemChoice.ofSegment items.length segment with
        | .all => editItems (fun _ => true) rest 0 s items
        | .position i => editItems (· == i) rest 0 s items
        | .nothing => editItems (fun _ => false) rest 0 s items
        | .through => editItems (fun _ => true) path 0 s items
    match edited.failure with
    | some e => ⟨{ value := array (edited.node.map (·.value)) o }, edited.state, some e⟩
    | none => ⟨{ value := array (settleItems o edited.node) o }, edited.state, none⟩
  | hash fields o =>
    match path with
    | [] => ⟨{ value := hash fields o }, s, some (fail (leafMismatch .hash))⟩
    | segment :: rest =>
      let edited := editFields (fieldTest fields.length segment) rest s fields
      match edited.failure with
      | some e => ⟨{ value := hash (edited.node.map fun (k, c) => (k, c.value)) o }, edited.state, some e⟩
      | none => ⟨{ value := hash (settleFields edited.node) o }, edited.state, none⟩

/-- Edits the items, numbered from `i`, whose positions pass the test. -/
def editItems (test : Nat → Bool) (path : Path) (i : Nat) (s : σ) :
    List Value → Edited σ ε (List EditedChild)
  | [] => ⟨[], s, none⟩
  | v :: vs =>
    if test i then
      let child := editIn false path s v
      match child.failure with
      | some e => ⟨child.node :: vs.map ({ value := · }), child.state, some e⟩
      | none =>
        let more := editItems test path (i + 1) child.state vs
        ⟨child.node :: more.node, more.state, more.failure⟩
    else
      let more := editItems test path (i + 1) s vs
      ⟨{ value := v } :: more.node, more.state, more.failure⟩

/-- Edits the fields whose names pass the test. -/
def editFields (test : String → Bool) (path : Path) (s : σ) :
    List (String × Value) → Edited σ ε (List (String × EditedChild))
  | [] => ⟨[], s, none⟩
  | (k, v) :: fs =>
    if test k then
      let child := editIn true path s v
      match child.failure with
      | some e => ⟨(k, child.node) :: fs.map (fun (k, v) => (k, { value := v })), child.state, some e⟩
      | none =>
        let more := editFields test path child.state fs
        ⟨(k, child.node) :: more.node, more.state, more.failure⟩
    else
      let more := editFields test path s fs
      ⟨(k, { value := v }) :: more.node, more.state, more.failure⟩

end

end

end Value

/-- Edits the texts at a path of a hash. -/
def Hash.edit {σ ε : Type} (h : Hash) (fail : ValueError → ε) (edit : TextEdit σ ε) (path : Path) (s : σ) :
    Edited σ ε Hash :=
  if path.isEmpty then ⟨h, s, none⟩
  else
    let edited := Value.editIn fail edit true path s h.toValue
    match edited.node.value with
    | .hash fields origin => ⟨⟨fields, origin⟩, edited.state, edited.failure⟩
    | _ => ⟨h, edited.state, edited.failure⟩

end RecordFix
