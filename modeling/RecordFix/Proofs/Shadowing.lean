import RecordFix.Proofs.Keeps
import RecordFix.Proofs.Untouched

/-!
# The field that a variable hides

With a variable the list bind puts each value of its list in the record under the name of the variable, and may hide a
field there. The block can do to the variable what it likes, and it can fail: the field is put back, or what stands in
its place is taken away (`Bind.keepsField_withVariable`). Writing back goes to another field if the path of the list
does not start with the name. So the bind leaves the field as it was (`run_doBlock_list_variable`).
-/

namespace RecordFix

open RecordFix.Action

/-! ### Fields that are not written to -/

namespace Hash

variable {h : Hash} {path : Path} {name : String}

/-- A slot is written in the field that the path starts with. -/
theorem get?_fillSlot_of_ne (hhead : path.head? ≠ some name) (w : Value) :
    (h.fillSlot path w).get? name = h.get? name := by
  cases path with
  | nil => rfl
  | cons segment rest =>
    have hne : name ≠ segment := fun heq => hhead (congrArg some heq.symm)
    have hnonempty : ¬ (segment :: rest).isEmpty = true := Bool.false_ne_true
    cases hl : h.fields.lookup segment with
    | none =>
      have hsame : Value.fillSlot w (segment :: rest) h.toValue = .hash h.fields h.origin := by
        simp only [toValue, Value.fillSlot, hl]
      rw [fillSlot, if_neg hnonempty, hsame]
    | some child =>
      have hput : Value.fillSlot w (segment :: rest) h.toValue =
          .hash (putEntry segment (Value.fillSlot w rest child) h.fields) h.origin := by
        simp only [toValue, Value.fillSlot, hl]
      rw [fillSlot, if_neg hnonempty, hput]
      exact lookup_putEntry_of_ne hne

end Hash

namespace Record

variable {r : Record} {path name : String}

theorem get?_fillSlot_of_ne (hne : path ≠ name) (hhead : (Path.ofText path).head? ≠ some name) (w : Value) :
    (r.fillSlot path w).fields.get? name = r.fields.get? name := by
  unfold fillSlot
  split
  · exact Hash.lookup_putEntry_of_ne hne.symm
  · exact Hash.get?_fillSlot_of_ne hhead w

end Record

namespace Bind

variable {r : Record} {path name : String}

theorem get?_writeBack_of_ne (hne : path ≠ name) (hhead : (Path.ofText path).head? ≠ some name) (position : Nat)
    (w : Value) : (writeBack r path position w).fields.get? name = r.fields.get? name := by
  unfold writeBack
  split
  · rfl
  · exact Record.get?_fillSlot_of_ne hne hhead _
  · split
    · exact Record.get?_fillSlot_of_ne hne hhead _
    · rfl

/-- The hidden field is back once the variable is taken out. -/
theorem get?_unbind (name : String) (hidden : Option Value) (r : Record) :
    ((unbind name hidden r).2.fields.get? name).map Value.bare = hidden.map Value.bare := by
  cases hidden with
  | none => exact congrArg (Option.map Value.bare) (Hash.lookup_filter_self name r.fields.fields)
  | some v =>
    have hput : (unbind name (some v) r).2.fields.get? name =
        some (v.rebase (some (childOrigin r.fields.origin name))) := Hash.lookup_putEntry_self
    rw [hput, Option.map_some, Option.map_some, Value.bare_rebase]

end Bind

/-! ### Actions that keep a field -/

/-- Whether an action leaves a field of the record as it was but for origins, or missing if it was, also when it
fails. -/
def Action.KeepsField (name : String) {α : Type} (a : Action α) : Prop :=
  ∀ s : Session, ((a.run s).2.record.fields.get? name).map Value.bare = (s.record.fields.get? name).map Value.bare

namespace Action

variable {α β : Type} {name : String}

theorem keepsField_of_record {a : Action α} (h : ∀ s, (a.run s).2.record = s.record) : KeepsField name a :=
  fun s => by rw [h s]

theorem keepsField_bind {a : Action α} {f : α → Action β} (ha : KeepsField name a) (hf : ∀ x, KeepsField name (f x)) :
    KeepsField name (a >>= f) := by
  intro s
  have hfirst := ha s
  rw [run_bind]
  cases hrun : a.run s with
  | mk outcome s' =>
    rw [hrun] at hfirst
    cases outcome with
    | error e => exact hfirst
    | ok x => exact (hf x s').trans hfirst

end Action

namespace Bind

variable {path name : String} {block : Action Unit}

/-- Whatever the block does, the field that its variable hides is the same afterwards. -/
theorem keepsField_withVariable (name : String) (v : Value) (block : Action Unit) :
    KeepsField name (withVariable name v block) := by
  intro s
  rw [run_withVariable]
  exact get?_unbind name _ _

private theorem keepsField_writeBackAnd (hne : path ≠ name) (hhead : (Path.ofText path).head? ≠ some name)
    {rest : Action Unit} (hrest : KeepsField name rest) (position : Nat) (w : Value) :
    KeepsField name (writeBackAnd path position rest w) := by
  intro s
  have hwrite : (writeBackAnd path position rest w).run s =
      rest.run { s with record := writeBack s.record path position w } := rfl
  rw [hwrite, hrest, get?_writeBack_of_ne hne hhead]

theorem keepsField_forEach (hne : path ≠ name) (hhead : (Path.ofText path).head? ≠ some name) (block : Action Unit)
    (vs : List Value) (position : Nat) : KeepsField name (forEach path (some name) block position vs) := by
  induction vs generalizing position with
  | nil => exact keepsField_of_record fun _ => rfl
  | cons v vs ih =>
    rw [forEach_variable]
    refine keepsField_bind (keepsField_withVariable name v block) fun bound => ?_
    cases bound with
    | none => exact ih (position + 1)
    | some w => exact keepsField_writeBackAnd hne hhead (ih (position + 1)) position w

theorem keepsField_list {options : Options} (hpath : options.lookup "path" = some path)
    (hvar : options.lookup "var" = some name) (hne : path ≠ name) (hhead : (Path.ofText path).head? ≠ some name)
    (block : Action Unit) (params : List String) : KeepsField name (list block params options) := by
  unfold list
  rw [hpath, hvar]
  refine keepsField_bind (keepsField_of_record fun _ => rfl) fun r => ?_
  split
  · exact keepsField_of_record fun _ => rfl
  · exact keepsField_of_record fun _ => rfl
  · exact keepsField_forEach hne hhead block _ 0

end Bind

/-- In placed records fields that are the same but for origins are the same. -/
private theorem Record.Placed.get?_eq_of_bare {o : Option String} {r r' : Record} {name : String} (hr : r.Placed o)
    (hr' : r'.Placed o) (h : (r'.fields.get? name).map Value.bare = (r.fields.get? name).map Value.bare) :
    r'.fields.get? name = r.fields.get? name := by
  cases hv : r.fields.get? name with
  | none =>
    rw [hv] at h
    exact Option.map_eq_none_iff.1 h
  | some v =>
    rw [hv] at h
    obtain ⟨w, hw, hbare⟩ := Option.map_eq_some_iff.1 h
    rw [hw, (hr'.fields.get? hw).eq_of_bare (hr.fields.get? hv) hbare]

/-- A list bind with a variable leaves the field of this name as it was before, or missing if it was missing, whatever
its block does and whether it ends well or not. The path of the list is neither the name nor starts with it. The value
is the same but for its origin, and in a placed record that is the same too. -/
theorem run_doBlock_list_variable (strictness : Strictness) (included : List Expression → Action Unit)
    (params : List String) (options : Options) (body : List Expression) (s : Session) {options' : Options}
    {path name : String} (hoptions : Variables.resolveOptions s.env.vars options = .ok options')
    (hpath : options'.lookup "path" = some path) (hvar : options'.lookup "var" = some name) (hne : path ≠ name)
    (hhead : (Path.ofText path).head? ≠ some name) :
    let after := (execute Registry.builtin strictness included (.doBlock "list" params options body)).run s
    (after.2.record.fields.get? name).map Value.bare = (s.record.fields.get? name).map Value.bare ∧
      ((∀ es, (included es).KeepsPlaced) → ∀ o, s.record.Placed o →
        after.2.record.fields.get? name = s.record.fields.get? name) := by
  intro after
  have hfield : (after.2.record.fields.get? name).map Value.bare = (s.record.fields.get? name).map Value.bare := by
    have hafter : after = (resolveArguments params options >>= fun x =>
        Bind.list (process Registry.builtin strictness included body) x.1 x.2).run s := by
      rw [← execute_list]
    rw [hafter, run_bind]
    cases harguments : (resolveArguments params options).run s with
    | mk outcome t =>
      obtain rfl : s = t := congrArg Prod.snd harguments
      cases outcome with
      | error e => rfl
      | ok x =>
        obtain rfl := Except.ok.inj (hoptions.symm.trans (resolveOptions_of_resolveArguments harguments))
        exact Bind.keepsField_list hpath hvar hne hhead _ _ s
  refine ⟨hfield, fun hincluded o hplaced => ?_⟩
  have hblock : (process Registry.builtin strictness included body).KeepsPlaced :=
    @Congruence.process _ _ _ included included (congruence_keeps strictness) hincluded body
  have hrun : Keeps o (fun _ => True)
      (execute Registry.builtin strictness included (.doBlock "list" params options body)) := by
    rw [execute_list]
    exact keeps_bind (keeps_of_record fun _ => rfl) fun x _ => Bind.keeps_list hblock x.1 x.2 o
  exact hplaced.get?_eq_of_bare (hrun s hplaced).1 hfield

/-- The block takes the variable away, and it fails: the field that the variable hides is there again. -/
theorem run_doBlock_list_variable_item :
    let fields : List (String × Value) :=
      [("item", .ofString "keep-me"), ("tags", .array [.ofString "a", .ofString "b"] none)]
    let s : Session := ⟨.ofFields ⟨fields, none⟩, {}⟩
    let body := [Expression.call "append" ["item", "!"] [], .call "remove_field" ["item"] [], .call "untag" [] []]
    let after := (execute Registry.builtin .process (fun _ => pure ())
      (.doBlock "list" [] [("path", "tags"), ("var", "item")] body)).run s
    after.1 = .error (.unknownCommand .method "untag") ∧
      (after.2.record.fields.get? "item").map Value.bare = some (.ofString "keep-me") := by
  intro fields s body
  have hhead : (Path.ofText "tags").head? ≠ some "item" := by decide
  have h := run_doBlock_list_variable .process (fun _ => pure ()) [] [("path", "tags"), ("var", "item")] body s rfl rfl
    rfl (by decide) hhead
  exact ⟨by decide +kernel, h.1⟩

end RecordFix
