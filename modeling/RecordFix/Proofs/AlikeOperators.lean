import RecordFix.Proofs.Editing
import RecordFix.Record

/-!
# Operators that answer alike

Two operators on texts may keep different states. If they answer alike from related states, and the states stay related,
then an edit with one of them leaves what an edit with the other leaves, also when it fails (`Value.alike_editIn`), and
so does the change of all texts of a field (`Record.alike_transform`).
-/

namespace RecordFix

variable {σ τ ε : Type} {R : σ → τ → Prop}

/-- Whether two operators answer alike from related states, and leave related states. -/
def TextEdit.Alike (R : σ → τ → Prop) (edit : TextEdit σ ε) (edit' : TextEdit τ ε) : Prop :=
  ∀ t s s', R s s' → (edit t s).1 = (edit' t s').1 ∧ R (edit t s).2 (edit' t s').2

/-- Whether two edits have left the same, ended alike, and left related states. -/
structure Edited.Alike (R : σ → τ → Prop) {α : Type} (e : Edited σ ε α) (e' : Edited τ ε α) : Prop where
  node : e.node = e'.node
  failure : e.failure = e'.failure
  state : R e.state e'.state

namespace Value

variable {fail : ValueError → ε} {edit : TextEdit σ ε} {edit' : TextEdit τ ε} {s : σ} {s' : τ}

private theorem alike_consEdited {α : Type} {first : Edited σ ε α} {first' : Edited τ ε α} (others : List α)
    {more : σ → Edited σ ε (List α)} {more' : τ → Edited τ ε (List α)} (hfirst : first.Alike R first')
    (hmore : ∀ s s', R s s' → (more s).Alike R (more' s')) :
    (consEdited first others more).Alike R (consEdited first' others more') := by
  obtain ⟨node, state, failure⟩ := first
  obtain ⟨node', state', failure'⟩ := first'
  obtain ⟨rfl, rfl, hstate⟩ := hfirst
  cases failure with
  | some e => exact ⟨rfl, rfl, hstate⟩
  | none =>
    have hrest := hmore state state' hstate
    exact ⟨congrArg (node :: ·) hrest.node, hrest.failure, hrest.state⟩

private theorem alike_closeItems (o : Option String) {e : Edited σ ε (List EditedChild)}
    {e' : Edited τ ε (List EditedChild)} (h : e.Alike R e') : (closeItems o e).Alike R (closeItems o e') := by
  obtain ⟨node, state, failure⟩ := e
  obtain ⟨node', state', failure'⟩ := e'
  obtain ⟨rfl, rfl, hstate⟩ := h
  cases failure <;> exact ⟨rfl, rfl, hstate⟩

private theorem alike_closeFields (o : Option String) {e : Edited σ ε (List (String × EditedChild))}
    {e' : Edited τ ε (List (String × EditedChild))} (h : e.Alike R e') :
    (closeFields o e).Alike R (closeFields o e') := by
  obtain ⟨node, state, failure⟩ := e
  obtain ⟨node', state', failure'⟩ := e'
  obtain ⟨rfl, rfl, hstate⟩ := h
  cases failure <;> exact ⟨rfl, rfl, hstate⟩

private theorem alike_editChild {v : Value} {path : Path} {strict : Bool} (b : Bool) (hs : R s s')
    (hv : (editIn fail edit strict path s v).Alike R (editIn fail edit' strict path s' v)) :
    (editChild fail edit b strict path s v).Alike R (editChild fail edit' b strict path s' v) := by
  cases b with
  | false => exact ⟨rfl, rfl, hs⟩
  | true => exact hv

variable (fail) in
mutual

/-- Operators that answer alike edit a value alike. -/
theorem alike_editIn (hedit : edit.Alike R edit') : ∀ (v : Value) (strict : Bool) (path : Path) {s : σ} {s' : τ},
    R s s' → (editIn fail edit strict path s v).Alike R (editIn fail edit' strict path s' v)
  | string t o, strict, path, s, s', hs => by
    unfold editIn
    split
    · obtain ⟨hanswer, hstate⟩ := hedit t s s' hs
      cases h : edit t s with
      | mk answer s₁ =>
        cases h' : edit' t s' with
        | mk answer' s₁' =>
          rw [h, h'] at hanswer hstate
          obtain rfl : answer = answer' := hanswer
          rcases answer with e | - | u <;> exact ⟨rfl, rfl, hstate⟩
    · exact ⟨rfl, rfl, hs⟩
  | array items o, strict, path, s, s', hs => by
    rw [editIn_array, editIn_array]
    exact alike_closeItems o (alike_editItems hedit items _ _ _ hs)
  | hash fields o, strict, [], s, s', hs => ⟨rfl, rfl, hs⟩
  | hash fields o, strict, segment :: rest, s, s', hs => by
    rw [editIn_hash, editIn_hash]
    exact alike_closeFields o (alike_editFields hedit fields _ _ hs)

theorem alike_editItems (hedit : edit.Alike R edit') : ∀ (vs : List Value) (test : Nat → Bool) (path : Path) (i : Nat)
    {s : σ} {s' : τ}, R s s' → (editItems fail edit test path i s vs).Alike R (editItems fail edit' test path i s' vs)
  | [], _, _, _, _, _, hs => ⟨rfl, rfl, hs⟩
  | v :: vs, test, path, i, s, s', hs => by
    rw [editItems_cons, editItems_cons]
    exact alike_consEdited _ (alike_editChild _ hs (alike_editIn hedit v false path hs))
      fun _ _ hs => alike_editItems hedit vs test path (i + 1) hs

theorem alike_editFields (hedit : edit.Alike R edit') : ∀ (fs : List (String × Value)) (test : String → Bool)
    (path : Path) {s : σ} {s' : τ}, R s s' →
    (editFields fail edit test path s fs).Alike R (editFields fail edit' test path s' fs)
  | [], _, _, _, _, hs => ⟨rfl, rfl, hs⟩
  | (k, v) :: fs, test, path, s, s', hs => by
    have hchild := alike_editChild (test k) hs (alike_editIn hedit v true path hs)
    rw [editFields_cons, editFields_cons]
    exact alike_consEdited _ ⟨congrArg (k, ·) hchild.node, hchild.failure, hchild.state⟩
      fun _ _ hs => alike_editFields hedit fs test path hs

end

end Value

variable (fail : ValueError → ε) {edit : TextEdit σ ε} {edit' : TextEdit τ ε} {s : σ} {s' : τ}

theorem Hash.alike_edit (hedit : edit.Alike R edit') (h : Hash) (path : Path) (hs : R s s') :
    (h.edit fail edit path s).Alike R (h.edit fail edit' path s') := by
  have hvalue := Value.alike_editIn fail hedit h.toValue true path hs
  unfold Hash.edit
  split
  · exact ⟨rfl, rfl, hs⟩
  · dsimp only
    rw [hvalue.node]
    split
    · exact ⟨rfl, hvalue.failure, hvalue.state⟩
    · exact ⟨rfl, hvalue.failure, hvalue.state⟩

namespace Record

theorem alike_editAll (hedit : edit.Alike R edit') (h : Hash) (paths : List Path) (hs : R s s') :
    (editAll fail edit h s paths).Alike R (editAll fail edit' h s' paths) := by
  induction paths generalizing h s s' with
  | nil => exact ⟨rfl, rfl, hs⟩
  | cons p ps ih =>
    have hfirst := Hash.alike_edit fail hedit h p hs
    unfold editAll
    dsimp only
    rw [hfirst.node, hfirst.failure]
    split
    · exact ⟨rfl, rfl, hfirst.state⟩
    · exact ih _ hfirst.state

/-- Operators that answer alike change all texts of a field alike. -/
theorem alike_transform (hedit : edit.Alike R edit') (r : Record) (field : String) (hs : R s s') :
    (r.transform fail edit field s).Alike R (r.transform fail edit' field s') := by
  have hall := alike_editAll fail hedit r.fields
    (if r.fields.contains field then [[field]] else Path.alternatives field) hs
  unfold transform
  exact ⟨congrArg (fun fields => { r with fields := fields }) hall.node, hall.failure, hall.state⟩

end Record

end RecordFix
