import RecordFix.Proofs.Congruence

/-!
# Runs keep records placed

An action keeps records placed if it leaves a placed record placed, whether it ends well or in an error, and if its
result has a property (`Action.Keeps`). Plain actions do (`Plain.keeps`), and so does a run of expressions at any depth
(`keeps_runAt`). A block on a hash starts with a record that is placed for the origin of the hash, so the statement on
blocks is one for all origins.
-/

namespace RecordFix

open RecordFix.Action RecordFix.Record

/-- Whether a record that is placed stays so, and the result has a property. -/
def Action.Keeps (o : Option String) {α : Type} (post : α → Prop) (a : Action α) : Prop :=
  ∀ s : Session, s.record.Placed o → (a.run s).2.record.Placed o ∧ ∀ x, (a.run s).1 = .ok x → post x

/-- Whether placed records stay so for any origin of the root. -/
def Action.KeepsPlaced (a : Action Unit) : Prop := ∀ o, Keeps o (fun _ => True) a

namespace Action

variable {o : Option String} {α β : Type} {post : α → Prop} {post' : β → Prop}

/-! ### Steps -/

theorem keeps_pure {x : α} (h : post x) : Keeps o post (pure x) :=
  fun _ hs => ⟨hs, fun _ hx => Except.ok.inj hx ▸ h⟩

theorem keeps_fail (e : FixError) : Keeps o post (fail e : Action α) :=
  fun _ hs => ⟨hs, fun _ hx => nomatch hx⟩

theorem keeps_bind {a : Action α} {f : α → Action β} (ha : Keeps o post a) (hf : ∀ x, post x → Keeps o post' (f x)) :
    Keeps o post' (a >>= f) := by
  intro s hs
  obtain ⟨hplaced, hpost⟩ := ha s hs
  rw [run_bind]
  cases hrun : a.run s with
  | mk outcome s' =>
    rw [hrun] at hplaced hpost
    cases outcome with
    | error e => exact ⟨hplaced, fun _ hx => nomatch hx⟩
    | ok x => exact hf x (hpost x rfl) s' hplaced

theorem keeps_getRecord : Keeps o (Placed o) getRecord :=
  fun _ hs => ⟨hs, fun _ hx => Except.ok.inj hx ▸ hs⟩

theorem keeps_setRecord {r : Record} (hr : r.Placed o) : Keeps o (fun _ => True) (setRecord r) :=
  fun _ _ => ⟨hr, fun _ _ => trivial⟩

/-- An action that leaves the record as it is. -/
theorem keeps_of_record {a : Action α} (h : ∀ s, (a.run s).2.record = s.record) : Keeps o (fun _ => True) a :=
  fun s hs => ⟨(h s).symm ▸ hs, fun _ _ => trivial⟩

theorem keeps_need (x : Except FixError α) : Keeps o (fun _ => True) (need x) := by
  cases x with
  | ok a => exact keeps_pure trivial
  | error e => exact keeps_fail e

theorem Plain.keeps {a : Action α} (h : Plain a) : Keeps o (fun _ => True) a := by
  induction h with
  | pure x => exact keeps_pure trivial
  | fail e => exact keeps_fail e
  | bind _ _ ih₁ ih₂ => exact keeps_bind ih₁ fun x _ => ih₂ x
  | getEnv => exact keeps_of_record fun _ => rfl
  | setEnv env => exact keeps_of_record fun _ => rfl
  | read f _ => exact keeps_of_record fun _ => rfl
  | change hc =>
    intro s hs
    rw [run_settle]
    exact ⟨hc.placed hs, fun _ _ => trivial⟩
  | reject => exact fun s hs => ⟨⟨hs.fields, hs.virtualFields⟩, fun _ _ => trivial⟩

end Action

/-! ### Writing back -/

namespace Record.Placed

variable {o : Option String} {r : Record} {path : String} {v w : Value}

theorem slot? (hp : r.Placed o) (hv : r.slot? path = some v) : v.Placed v.origin := by
  unfold Record.slot? at hv
  split at hv
  · have hplaced := hp.fields.get? hv
    rw [hplaced.origin]
    exact hplaced
  · exact hp.fields.slot? hv

theorem fillSlot (hp : r.Placed o) (hw : ∀ u, r.slot? path = some u → w.Placed u.origin) :
    (r.fillSlot path w).Placed o := by
  unfold Record.slot? at hw
  unfold Record.fillSlot
  split
  · rename_i hcontains
    rw [if_pos hcontains] at hw
    rw [Hash.contains_eq_isSome_get?, Option.isSome_iff_exists] at hcontains
    obtain ⟨u, hu⟩ := hcontains
    have hplaced := hw u hu
    rw [(hp.fields.get? hu).origin] at hplaced
    exact ⟨hp.fields.putRaw hplaced, hp.virtualFields⟩
  · rename_i hcontains
    rw [if_neg hcontains] at hw
    exact ⟨hp.fields.fillSlot hw, hp.virtualFields⟩

theorem put (hp : r.Placed o) (name : String) (hv : v.Distinct) : (r.put name v).Placed o :=
  ⟨hp.fields.put hv, hp.virtualFields⟩

/-- A value that is written back is rebased to the place in the list. -/
theorem writeBack (hp : r.Placed o) (path : String) (position : Nat) (hv : v.Distinct) :
    (Bind.writeBack r path position v).Placed o := by
  unfold Bind.writeBack
  split
  · exact hp
  · rename_i items p hslot
    refine hp.fillSlot fun u hu => ?_
    have hplaced := hp.slot? hslot
    rw [hslot, Option.some.injEq] at hu
    rw [← hu]
    exact ⟨rfl, Value.placedItems_setItem hplaced.2 hv⟩
  · rename_i other _ hslot
    split
    · refine hp.fillSlot fun u hu => ?_
      rw [hslot, Option.some.injEq] at hu
      rw [← hu]
      exact hv.placed_rebase _
    · exact hp

theorem unbind (hp : r.Placed o) (name : String) {hidden : Option Value} (hhidden : ∀ v ∈ hidden, v.Distinct) :
    (Bind.unbind name hidden r).2.Placed o := by
  cases hidden with
  | none => exact ⟨hp.fields.erase, hp.virtualFields⟩
  | some v => exact hp.put name (hhidden v rfl)

/-- The fields of a placed record have no name twice in them. -/
theorem distinct_get? (hp : r.Placed o) {name : String} : ∀ v ∈ r.fields.get? name, v.Distinct :=
  fun _ hv => (hp.fields.get? hv).distinct

end Record.Placed

/-! ### Commands with blocks -/

theorem Method.keeps_includeFix {included : List Expression → Action Unit} (h : ∀ es, (included es).KeepsPlaced)
    (params : List String) (options : Options) : (includeFix included params options).KeepsPlaced := by
  intro o
  have hfile : ∀ path es, Keeps o (fun _ => True) (withFixFile path (included es)) := by
    intro path es s hs
    exact ⟨(h es o { s with env := { s.env with fixFile := some path } } hs).1, fun _ _ => trivial⟩
  refine keeps_bind (keeps_need _) fun file _ => ?_
  refine keeps_bind Plain.getEnv.keeps fun env _ => keeps_bind Plain.getEnv.keeps fun env' _ => ?_
  refine keeps_bind (keeps_need _) fun found _ => ?_
  exact keeps_bind (Plain.setEnv _).keeps fun _ _ => hfile _ _

namespace Bind

variable {o : Option String} {block : Action Unit}

/-- The hash that is left by a block has no name twice in it. -/
theorem keeps_withScope (h : block.KeepsPlaced) {v : Value} (hv : v.Placed v.origin) :
    Keeps o Value.Distinct (withScope v block) := by
  cases v with
  | string t p => exact keeps_fail _
  | array items p => exact keeps_fail _
  | hash fields p =>
    -- the record waits outside, and comes back as it was but for the mark
    intro s hs
    have hinner := (h p { s with record := Record.ofFields ⟨fields, p⟩ } (placed_ofFields hv)).1
    rw [run_withScope]
    cases hrun : block.run { s with record := Record.ofFields ⟨fields, p⟩ } with
    | mk outcome s' =>
      rw [hrun] at hinner
      cases outcome with
      | error e => exact ⟨hs, fun _ hx => nomatch hx⟩
      | ok u =>
        refine ⟨⟨hs.fields, hs.virtualFields⟩, fun w hw => ?_⟩
        rw [← Except.ok.inj hw]
        exact hinner.fields.distinct

theorem keeps_withVariable (h : block.KeepsPlaced) (name : String) {v : Value} (hv : v.Distinct) :
    Keeps o (fun bound => ∀ w ∈ bound, w.Distinct) (withVariable name v block) := by
  intro s hs
  have hblock := (h o { s with record := s.record.put name v } (hs.put name hv)).1
  rw [run_withVariable]
  cases hrun : block.run { s with record := s.record.put name v } with
  | mk outcome s' =>
    rw [hrun] at hblock
    -- the variable is taken away whether the block failed or not
    refine ⟨hblock.unbind name hs.distinct_get?, fun bound hbound => ?_⟩
    obtain ⟨u, -, rfl⟩ := exists_of_map_eq_ok hbound
    exact hblock.distinct_get?

private theorem keeps_writeBackAnd {rest : Action Unit} (h : Keeps o (fun _ => True) rest) (path : String)
    (position : Nat) {w : Value} (hw : w.Distinct) : Keeps o (fun _ => True) (writeBackAnd path position rest w) :=
  keeps_bind keeps_getRecord fun _ hr => keeps_bind (keeps_setRecord (hr.writeBack path position hw)) fun _ _ => h

theorem keeps_forEach (h : block.KeepsPlaced) (path : String) (var? : Option String) {vs : List Value}
    (hvs : ∀ v ∈ vs, v.Placed v.origin) (position : Nat) :
    Keeps o (fun _ => True) (forEach path var? block position vs) := by
  induction vs generalizing position with
  | nil => exact keeps_pure trivial
  | cons v vs ih =>
    rw [List.forall_mem_cons] at hvs
    have hrest := ih hvs.2 (position + 1)
    cases var? with
    | some name =>
      rw [forEach_variable]
      refine keeps_bind (keeps_withVariable h name hvs.1.distinct) fun bound hbound => ?_
      cases bound with
      | none => exact hrest
      | some w => exact keeps_writeBackAnd hrest path position (hbound w rfl)
    | none =>
      rw [forEach_scope]
      exact keeps_bind (keeps_withScope h hvs.1) fun w hw => keeps_writeBackAnd hrest path position hw

theorem keeps_list (h : block.KeepsPlaced) (params : List String) (options : Options) :
    (list block params options).KeepsPlaced := by
  intro o
  unfold list
  split
  · exact keeps_fail _
  · refine keeps_bind keeps_getRecord fun r hr => ?_
    split
    · exact keeps_fail _
    · exact keeps_pure trivial
    · rename_i v hv
      exact keeps_forEach h _ _ (hr.get hv).asArray.toList 0

end Bind

/-! ### Expressions -/

theorem Strictness.keeps_guard {o : Option String} (strictness : Strictness) {a : Action Unit}
    (h : Keeps o (fun _ => True) a) : Keeps o (fun _ => True) (strictness.guard a) := by
  intro s hs
  refine ⟨?_, fun _ _ => trivial⟩
  have hplaced := (h s hs).1
  rw [run_guard]
  cases hrun : a.run s with
  | mk outcome s' =>
    rw [hrun] at hplaced
    cases outcome with
    | ok u => exact hplaced
    | error e =>
      dsimp only
      split
      · cases strictness with
        | process => exact hplaced
        | record => exact ⟨hplaced.fields, hplaced.virtualFields⟩
        | expression => exact hplaced
      · exact hplaced

theorem congruence_keeps (strictness : Strictness) :
    Congruence strictness strictness fun a _ => a.KeepsPlaced where
  plain h := fun _ => h.keeps
  andThen h h' := fun o => keeps_bind (h o) fun _ _ => h' o
  guard h := fun o => strictness.keeps_guard (h o)
  condition c h h' := fun o => keeps_bind (keeps_of_record fun _ => rfl) fun holds _ => by
    split
    · exact h o
    · exact h' o
  arguments params options h := fun o => keeps_bind (keeps_of_record fun _ => rfl) fun arguments _ => h arguments o
  includeFix := Method.keeps_includeFix
  list := Bind.keeps_list

theorem keeps_runAt (strictness : Strictness) (depth : Nat) :
    ∀ es : List Expression, (runAt Registry.builtin strictness depth es).KeepsPlaced :=
  (congruence_keeps strictness).runAt depth

end RecordFix
