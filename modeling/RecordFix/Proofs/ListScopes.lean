import RecordFix.Proofs.Running
import RecordFix.Proofs.Slots

/-!
# Lists without a variable

Without a variable the list bind takes each value of its list as the record of a scope, runs its block there and puts
the fields of the scope in the place of the value. `Bind.scopes` is what the block makes of the values in turn, with no
list around them. The list is read once but written to after every value, by a lookup of its own; `run_doBlock_list`
says that what the bind does is nevertheless what the scopes give: the same outcome and environment, their fields at
the front of the list, and a record that is rejected if one of them is.
-/

namespace RecordFix

open RecordFix.Action

/-! ### Writing back -/

namespace Record

variable {r : Record} {field : String} {steps : List Step} {o : Option String} {v : Value}

theorem Leads.marked (h : r.Leads field steps v) (b : Bool) : (r.marked b).Leads field steps v := by
  cases h with
  | name hfound => exact .name hfound
  | path hno hbelow => exact .path hno hbelow

/-- A value that is written back is the item after those in front, wherever the list stands in the record. -/
theorem Leads.writeBack {front vs : List Value} (h : r.Leads field steps (.array (front ++ v :: vs) o)) (w : Value) :
    Bind.writeBack r field front.length w =
      r.replaceAt (.array (front ++ w.rebase (some (itemOrigin o (front.length + 1))) :: vs) o) steps := by
  have hlt : front.length < (front ++ v :: vs).length := by
    rw [List.length_append, List.length_cons]
    omega
  have hset : Value.setItem o (front ++ v :: vs) front.length w =
      front ++ w.rebase (some (itemOrigin o (front.length + 1))) :: vs := by
    rw [Value.setItem, if_pos hlt, List.set_append_right _ _ (Nat.le_refl _), Nat.sub_self, List.set_cons_zero]
  simp only [Bind.writeBack, h.slot?, h.fillSlot, hset]

end Record

namespace Bind

/-! ### Scopes -/

/-- What a block makes of values in turn. -/
structure Scopes where
  /-- The records of the scopes that end well. -/
  records : List Record
  outcome : Except FixError Unit
  env : Environment

/-- Runs a block on each value as the record, with the environment that the one before leaves, up to the first value
that is no hash or on which the block fails. -/
def scopes (block : Action Unit) : List Value → Environment → Scopes
  | [], env => ⟨[], .ok (), env⟩
  | .hash fields o :: vs, env =>
    match block.run ⟨Record.ofFields ⟨fields, o⟩, env⟩ with
    | (.ok (), s) =>
      let rest := scopes block vs s.env
      { rest with records := s.record :: rest.records }
    | (.error e, s) => ⟨[], .error e, s.env⟩
  | v :: _, env => ⟨[], .error (.value (.typeMismatch ValueKind.hash.label v.kind)), env⟩

namespace Scopes

/-- The values that some scopes are made of, as the items of an array from a number on: the fields of the scopes that
end well, and then the other values as they are. -/
def items (run : Scopes) (o : Option String) (i : Nat) (vs : List Value) : List Value :=
  Value.rebaseItems o i (run.records.map (·.fields.toValue)) ++ vs.drop run.records.length

def rejected (run : Scopes) : Bool := run.records.any (·.rejected)

end Scopes

section

variable {block : Action Unit} {env : Environment} {vs : List Value}

/-- All values have a scope that ends well exactly if the outcome is well. -/
theorem length_scopes : (scopes block vs env).records.length ≤ vs.length ∧
    ((scopes block vs env).outcome = .ok () ↔ (scopes block vs env).records.length = vs.length) := by
  fun_induction scopes block vs env with
  | case1 env => exact ⟨Nat.le_refl 0, iff_of_true rfl rfl⟩
  | case2 env fields o vs s hrun rest ih => exact ⟨Nat.succ_le_succ ih.1, ih.2.trans Nat.succ_inj.symm⟩
  | case3 env fields o vs e s hrun => exact ⟨Nat.zero_le _, iff_of_false nofun nofun⟩
  | case4 env v vs hno => exact ⟨Nat.zero_le _, iff_of_false nofun nofun⟩

variable {r : Record} {path : String} {steps : List Step} {front : List Value} {o : Option String}

/-- The record that some scopes leave: its list has their fields after the items in front. -/
private def Scopes.applied (run : Scopes) (o : Option String) (front vs : List Value) (steps : List Step)
    (r : Record) : Record :=
  (r.replaceAt (.array (front ++ run.items o (front.length + 1) vs) o) steps).marked (run.rejected || r.rejected)

/-- The fields of the first scope are in front for the others. -/
private theorem Scopes.applied_cons {v : Value} (h : r.Leads path steps (.array (front ++ v :: vs) o)) (run : Scopes)
    (inner : Record) :
    Scopes.applied { run with records := inner :: run.records } o front (v :: vs) steps r =
      run.applied o (front ++ [inner.fields.toValue.rebase (some (itemOrigin o (front.length + 1)))]) vs steps
        (writeBack (r.marked (inner.rejected || r.rejected)) path front.length inner.fields.toValue) := by
  have hitems : Scopes.items { run with records := inner :: run.records } o (front.length + 1) (v :: vs) =
      inner.fields.toValue.rebase (some (itemOrigin o (front.length + 1))) :: run.items o (front.length + 1 + 1) vs :=
    rfl
  have hmark : Scopes.rejected { run with records := inner :: run.records } = (inner.rejected || run.rejected) := rfl
  have hmarks : (inner.rejected || run.rejected || r.rejected) =
      (run.rejected || (inner.rejected || r.rejected)) := by
    rw [Bool.or_comm inner.rejected, Bool.or_assoc]
  rw [(h.marked _).writeBack]
  unfold Scopes.applied
  rw [hitems, hmark, hmarks, List.length_append, List.length_singleton, List.append_assoc, List.singleton_append]
  rw [(h.marked _).replaceAt_replaceAt]
  rfl

/-- A scope that ends in an error ends the loop, and the list is as it was. -/
private theorem run_forEach_error {v : Value} {e : FixError} {env' : Environment}
    (h : r.Leads path steps (.array (front ++ v :: vs) o))
    (hscope : (withScope v block).run ⟨r, env⟩ = (.error e, ⟨r, env'⟩)) :
    (forEach path none block front.length (v :: vs)).run ⟨r, env⟩ =
      (.error e, ⟨Scopes.applied ⟨[], .error e, env'⟩ o front (v :: vs) steps r, env'⟩) := by
  have hsame : Scopes.applied ⟨[], .error e, env'⟩ o front (v :: vs) steps r = r := by
    show (r.replaceAt (.array (front ++ v :: vs) o) steps).marked r.rejected = r
    rw [h.replaceAt_self]
    rfl
  rw [forEach_scope, run_bind, hscope, hsame]

/-- The loop from a position on, where the items in front are what it made of them. -/
private theorem run_forEach (h : r.Leads path steps (.array (front ++ vs) o)) :
    (forEach path none block front.length vs).run ⟨r, env⟩ =
      ((scopes block vs env).outcome,
        ⟨(scopes block vs env).applied o front vs steps r, (scopes block vs env).env⟩) := by
  induction vs generalizing r env front with
  | nil =>
    have hsame : Scopes.applied ⟨[], .ok (), env⟩ o front [] steps r = r := by
      show (r.replaceAt (.array (front ++ []) o) steps).marked r.rejected = r
      rw [h.replaceAt_self]
      rfl
    rw [scopes, hsame]
    rfl
  | cons v vs ih =>
    cases v with
    | string t p => exact run_forEach_error h rfl
    | array items p => exact run_forEach_error h rfl
    | hash fields p =>
      have hscope := run_withScope fields p block ⟨r, env⟩
      rw [scopes]
      cases hblock : block.run ⟨Record.ofFields ⟨fields, p⟩, env⟩ with
      | mk outcome s' =>
        rw [hblock] at hscope
        cases outcome with
        | error e => exact run_forEach_error h hscope
        | ok u =>
          let w := s'.record.fields.toValue.rebase (some (itemOrigin o (front.length + 1)))
          let r' := writeBack (r.marked (s'.record.rejected || r.rejected)) path front.length s'.record.fields.toValue
          have hnext : r'.Leads path steps (.array ((front ++ [w]) ++ vs) o) := by
            have hwritten : r' = Record.replaceAt (.array (front ++ w :: vs) o) steps _ := (h.marked _).writeBack _
            rw [hwritten, List.append_assoc]
            exact (h.marked _).replaced _
          calc
            (forEach path none block front.length (.hash fields p :: vs)).run ⟨r, env⟩ =
                (forEach path none block (front ++ [w]).length vs).run ⟨r', s'.env⟩ := by
              rw [forEach_scope, run_bind, hscope, List.length_append]
              rfl
            _ = ((scopes block vs s'.env).outcome,
                ⟨(scopes block vs s'.env).applied o (front ++ [w]) vs steps r', (scopes block vs s'.env).env⟩) :=
              ih hnext
            _ = _ := by rw [← Scopes.applied_cons h]

end

/-- What the bind does to a list that a field leads to. -/
theorem run_list_scopes (block : Action Unit) (params : List String) {options : Options} {s : Session} {path : String}
    {steps : List Step} {vs : List Value} {o : Option String} (hpath : options.lookup "path" = some path)
    (hvar : options.lookup "var" = none) (hd : s.record.fields.toValue.Distinct)
    (h : s.record.Leads path steps (.array vs o)) :
    (list block params options).run s =
      ((scopes block vs s.env).outcome,
        ⟨(s.record.replaceAt (.array ((scopes block vs s.env).items o 1 vs) o) steps).marked
          ((scopes block vs s.env).rejected || s.record.rejected), (scopes block vs s.env).env⟩) := by
  have hrecord : getRecord.run s = (.ok s.record, s) := rfl
  simp only [list, hpath, hvar, run_bind, hrecord, h.get hd]
  have hall : s.record.Leads path steps (.array ([] ++ vs) o) := h
  exact run_forEach hall

end Bind

/-- A list bind without a variable maps its block over a list: at the place that the path leads to are the fields of
the scopes that ended well and then the other values, and nothing else of the record is changed but the mark. -/
theorem run_doBlock_list (strictness : Strictness) (included : List Expression → Action Unit) (params : List String)
    (options : Options) (body : List Expression) (s : Session) {params' : List String} {options' : Options}
    {path : String} {steps : List Step} {vs : List Value} {o : Option String}
    (hparams : Variables.resolveAll s.env.vars params = .ok params')
    (hoptions : Variables.resolveOptions s.env.vars options = .ok options')
    (hpath : options'.lookup "path" = some path) (hvar : options'.lookup "var" = none)
    (hd : s.record.fields.toValue.Distinct) (h : s.record.Leads path steps (.array vs o)) :
    let run := Bind.scopes (process Registry.builtin strictness included body) vs s.env
    let after := (execute Registry.builtin strictness included (.doBlock "list" params options body)).run s
    after.1 = run.outcome ∧ (run.outcome = .ok () ↔ run.records.length = vs.length) ∧
      after.2.record =
        (s.record.replaceAt (.array (run.items o 1 vs) o) steps).marked (run.rejected || s.record.rejected) ∧
      after.2.record.get path = .ok (some (.array (run.items o 1 vs) o)) ∧ after.2.env = run.env := by
  have hrun : (execute Registry.builtin strictness included (.doBlock "list" params options body)).run s =
      (Bind.list (process Registry.builtin strictness included body) params' options').run s := by
    rw [execute_list, run_bind, run_resolveArguments hparams hoptions]
  intro run after
  have hafter : after = _ := hrun.trans (Bind.run_list_scopes _ params' hpath hvar hd h)
  refine ⟨?_, Bind.length_scopes.2, ?_, ?_, ?_⟩
  · rw [hafter]
  · rw [hafter]
  · rw [hafter]
    exact h.get_replaceAt hd _
  · rw [hafter]

/-- The scope of the first person ends well and is rejected, and the second value is no hash. -/
theorem run_doBlock_list_people :
    let people : List Value := [.hash [("name", .ofString "ann")] none, .ofString "bob"]
    let s : Session := ⟨.ofFields ⟨[("people", .hash [("list", .array people none)] none)], none⟩, {}⟩
    let body := [Expression.call "set_field" ["name", "eve"] [], Expression.call "reject" [] []]
    let run := Bind.scopes (process Registry.builtin .process (fun _ => pure ()) body) people s.env
    let after := (execute Registry.builtin .process (fun _ => pure ())
      (.doBlock "list" [] [("path", "people.list")] body)).run s
    after.1 = run.outcome ∧ run.outcome = .error (.value (.typeMismatch "Hash" .string)) ∧
      after.2.record.get "people.list" = .ok (some (.array (run.items none 1 people) none)) ∧
      Value.displayItems (run.items none 1 people) = ["\x7bname=eve\x7d", "bob"] ∧ run.rejected = true := by
  intro people s body
  have hd : s.record.fields.toValue.Distinct := by
    simp [s, people, Record.ofFields, Hash.toValue, Value.Distinct, Value.DistinctFields, Value.DistinctItems,
      Value.ofString]
  have hplace : s.record.Leads "people.list" [.field "people", .field "list"] (.array people none) := by
    have hpath : Path.ofText "people.list" = ["people", "list"] := by decide
    refine .path rfl ?_
    rw [hpath]
    exact .field (by decide) rfl (.field (by decide) rfl (.here _))
  have hoptions : Variables.resolveOptions s.env.vars [("path", "people.list")] = .ok [("path", "people.list")] := by
    rfl
  have hpath : [("path", "people.list")].lookup "path" = some "people.list" := rfl
  have h := run_doBlock_list .process (fun _ => pure ()) [] [("path", "people.list")] body s rfl hoptions hpath rfl hd
    hplace
  exact ⟨h.1, rfl, h.2.2.2.1, by decide +kernel, by decide⟩

end RecordFix
