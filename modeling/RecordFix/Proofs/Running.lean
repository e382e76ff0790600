import RecordFix.Fix.Builtin
import RecordFix.Proofs.FieldChange

/-!
# Running actions

What an action that is made of others does to a session, given what these do: one after the other (`run_bind`), a
change of the record (`run_settle`), a block on a hash as the record (`run_withScope`), and an action whose execution
errors are handled (`run_guard`), which is not changed if there is nothing left to handle (`run_guard_settled`).
-/

namespace RecordFix

namespace Action

variable {α β : Type}

theorem run_bind (a : Action α) (f : α → Action β) (s : Session) :
    (a >>= f).run s =
      match a.run s with
      | (.ok x, s') => (f x).run s'
      | (.error e, s') => (.error e, s') := by
  show ExceptT.bindCont f (a.run s).1 (a.run s).2 = _
  cases a.run s with
  | mk outcome s' => cases outcome <;> rfl

theorem run_getRecord (s : Session) : getRecord.run s = (.ok s.record, s) := rfl

theorem run_getEnv (s : Session) : getEnv.run s = (.ok s.env, s) := rfl

theorem run_setEnv (env : Environment) (s : Session) : (setEnv env).run s = (.ok (), { s with env := env }) := rfl

theorem need_ok (x : α) : need (.ok x) = pure x := rfl

/-- A change of the record, and the error that it ends in. -/
theorem run_settle (c : Record → Record × Option FixError) (s : Session) :
    (getRecord >>= fun r => settle (c r)).run s =
      (match (c s.record).2 with | none => .ok () | some e => .error e, { s with record := (c s.record).1 }) := by
  show (settle (c s.record)).run s = _
  obtain ⟨r, failure⟩ := c s.record
  cases failure <;> rfl

end Action

open RecordFix.Action

/-- A command that is found is one of the registry. -/
theorem mem_of_findCommand {α : Type} {kind : CommandKind} {commands : List (String × α)} {name : String} {command : α}
    (h : findCommand kind commands name = .ok command) : (name, command) ∈ commands := by
  unfold findCommand at h
  split at h
  · rename_i found hfound
    rw [← Except.ok.inj h]
    exact Hash.mem_of_lookup hfound
  · cases h

/-- Arguments whose variables all have values. -/
theorem run_resolveArguments {params params' : List String} {options options' : Options} {s : Session}
    (hparams : Variables.resolveAll s.env.vars params = .ok params')
    (hoptions : Variables.resolveOptions s.env.vars options = .ok options') :
    (resolveArguments params options).run s = (.ok (params', options'), s) := by
  have hrun : (resolveArguments params options).run s =
      ((Variables.resolveAll s.env.vars params).bind fun params =>
        (Variables.resolveOptions s.env.vars options).bind fun options => .ok (params, options), s) := rfl
  rw [hrun, hparams, hoptions]
  rfl

/-- Steps that all succeed give what each of them gives. -/
theorem mapM_eq_ok {α β ε : Type} {f : α → Except ε β} {g : α → β} {xs : List α} (h : ∀ x ∈ xs, f x = .ok (g x)) :
    xs.mapM f = .ok (xs.map g) := by
  induction xs with
  | nil => rfl
  | cons x xs ih =>
    rw [List.mapM_cons, h x List.mem_cons_self, ih fun y hy => h y (List.mem_cons_of_mem _ hy)]
    rfl

/-- The first step that fails is the end. -/
theorem mapM_eq_error {α β ε : Type} {f : α → Except ε β} {before after : List α} {x : α} {e : ε}
    (hbefore : ∀ y ∈ before, ∃ b, f y = .ok b) (hx : f x = .error e) : (before ++ x :: after).mapM f = .error e := by
  induction before with
  | nil =>
    rw [List.nil_append, List.mapM_cons, hx]
    rfl
  | cons y before ih =>
    obtain ⟨b, hy⟩ := hbefore y List.mem_cons_self
    rw [List.cons_append, List.mapM_cons, hy, ih fun z hz => hbefore z (List.mem_cons_of_mem _ hz)]
    rfl

theorem length_of_mapM_eq_ok {α β ε : Type} {f : α → Except ε β} {xs : List α} {ys : List β}
    (h : xs.mapM f = .ok ys) : ys.length = xs.length := by
  induction xs generalizing ys with
  | nil =>
    cases h
    rfl
  | cons x xs ih =>
    rw [List.mapM_cons] at h
    obtain ⟨y, -, h⟩ := exists_of_bind_eq_ok h
    obtain ⟨more, hmore, h⟩ := exists_of_bind_eq_ok h
    cases h
    rw [List.length_cons, List.length_cons, ih hmore]

theorem resolveAll_of_resolveArguments {params : List String} {options : Options} {x : List String × Options}
    {s t : Session} (h : (resolveArguments params options).run s = (.ok x, t)) :
    Variables.resolveAll s.env.vars params = .ok x.1 := by
  obtain ⟨houtcome, -⟩ := Prod.mk.inj h
  obtain ⟨resolved, hresolved, houtcome⟩ := exists_of_bind_eq_ok houtcome
  obtain ⟨resolvedOptions, -, houtcome⟩ := exists_of_bind_eq_ok houtcome
  cases houtcome
  exact hresolved

theorem resolveOptions_of_resolveArguments {params : List String} {options : Options} {x : List String × Options}
    {s t : Session} (h : (resolveArguments params options).run s = (.ok x, t)) :
    Variables.resolveOptions s.env.vars options = .ok x.2 := by
  obtain ⟨houtcome, -⟩ := Prod.mk.inj h
  obtain ⟨resolved, -, houtcome⟩ := exists_of_bind_eq_ok houtcome
  obtain ⟨resolvedOptions, hresolved, houtcome⟩ := exists_of_bind_eq_ok houtcome
  cases houtcome
  exact hresolved

/-- Resolving variables keeps the number of parameters. -/
theorem length_resolveArguments {params : List String} {options : Options} {x : List String × Options}
    {s t : Session} (h : (resolveArguments params options).run s = (.ok x, t)) : x.1.length = params.length :=
  length_of_mapM_eq_ok (resolveAll_of_resolveArguments h)

/-- The list bind resolves its arguments and runs the expressions of its block for each value. -/
theorem execute_list (strictness : Strictness) (included : List Expression → Action Unit) (params : List String)
    (options : Options) (body : List Expression) :
    execute Registry.builtin strictness included (.doBlock "list" params options body) =
      resolveArguments params options >>= fun x =>
        Bind.list (process Registry.builtin strictness included body) x.1 x.2 := by
  have hfound : findCommand .bind Registry.builtin.binds "list" = .ok Bind.list := rfl
  rw [execute, hfound]
  rfl

/-- A block on a hash: only the mark of the inner record goes over to the outer one, and only if the block ends well. -/
theorem Bind.run_withScope (fields : List (String × Value)) (o : Option String) (block : Action Unit) (s : Session) :
    (Bind.withScope (.hash fields o) block).run s =
      match block.run { s with record := Record.ofFields ⟨fields, o⟩ } with
      | (.ok (), s') =>
        (.ok s'.record.fields.toValue,
          { s' with record := s.record.marked (s'.record.rejected || s.record.rejected) })
      | (.error e, s') => (.error e, { s' with record := s.record }) := by
  have hwithin : (within (Record.ofFields ⟨fields, o⟩) block).run s =
      match block.run { s with record := Record.ofFields ⟨fields, o⟩ } with
      | (.ok (), s') => (.ok s'.record, { s' with record := s.record })
      | (.error e, s') => (.error e, { s' with record := s.record }) := rfl
  unfold Bind.withScope
  rw [run_bind, hwithin]
  cases block.run { s with record := Record.ofFields ⟨fields, o⟩ } with
  | mk outcome s' =>
    cases outcome with
    | error e => rfl
    | ok u =>
      dsimp only
      cases s'.record.rejected <;> rfl

/-- A block under a variable: the field that the variable hides is back afterwards, also after an error. -/
theorem Bind.run_withVariable (name : String) (v : Value) (block : Action Unit) (s : Session) :
    (Bind.withVariable name v block).run s =
      match block.run { s with record := s.record.put name v } with
      | (outcome, s') =>
        (outcome.map fun _ => s'.record.fields.get? name,
          { s' with record := (Bind.unbind name (s.record.fields.get? name) s'.record).2 }) :=
  rfl

section

variable (path : String) (block : Action Unit) (position : Nat) (v : Value) (vs : List Value)

/-- What follows a block of which a value is left. -/
def Bind.writeBackAnd (rest : Action Unit) (w : Value) : Action Unit :=
  getRecord >>= fun r => setRecord (Bind.writeBack r path position w) >>= fun _ => rest

theorem Bind.forEach_variable (name : String) :
    Bind.forEach path (some name) block position (v :: vs) =
      Bind.withVariable name v block >>= fun bound =>
        match bound with
        | some w => Bind.writeBackAnd path position (Bind.forEach path (some name) block (position + 1) vs) w
        | none => Bind.forEach path (some name) block (position + 1) vs :=
  rfl

theorem Bind.forEach_scope :
    Bind.forEach path none block position (v :: vs) =
      Bind.withScope v block >>= Bind.writeBackAnd path position (Bind.forEach path none block (position + 1) vs) :=
  rfl

end

/-! ### Properties of actions -/

/-- Whether a property of actions is one of those that end at once and of two in a row if it is one of both. -/
structure Action.Closed (P : {α : Type} → Action α → Prop) : Prop where
  pure : ∀ {α : Type} (x : α), P (pure x : Action α)
  fail : ∀ {α : Type} (e : FixError), P (fail e : Action α)
  bind : ∀ {α β : Type} {a : Action α} {f : α → Action β}, P a → (∀ x, P (f x)) → P (a >>= f)
  getRecord : P Action.getRecord

/-- A loop over the values at a path has a property if running the block on one of them and writing back have it. -/
theorem Action.Closed.list {P : {α : Type} → Action α → Prop} (h : Closed P) {block : Action Unit}
    (hscope : ∀ v, P (Bind.withScope v block)) (hvariable : ∀ name v, P (Bind.withVariable name v block))
    (hwrite : ∀ path position w, P (Action.getRecord >>= fun r => setRecord (Bind.writeBack r path position w)))
    (params : List String) (options : Options) : P (Bind.list block params options) := by
  have hforEach : ∀ path var? (vs : List Value) position, P (Bind.forEach path var? block position vs) := by
    intro path var? vs
    induction vs with
    | nil => exact fun _ => h.pure ()
    | cons v vs ih =>
      intro position
      have hback : ∀ w, P (Bind.writeBackAnd path position (Bind.forEach path var? block (position + 1) vs) w) := by
        intro w
        have hboth := h.bind (hwrite path position w) fun _ => ih (position + 1)
        rw [bind_assoc] at hboth
        exact hboth
      cases var? with
      | none =>
        rw [Bind.forEach_scope]
        exact h.bind (hscope v) hback
      | some name =>
        rw [Bind.forEach_variable]
        refine h.bind (hvariable name v) fun bound => ?_
        cases bound with
        | none => exact ih (position + 1)
        | some w => exact hback w
  unfold Bind.list
  split
  · exact h.fail _
  · refine h.bind h.getRecord fun r => ?_
    split
    · exact h.fail _
    · exact h.pure ()
    · exact hforEach _ _ _ 0

/-- An execution error is left to the strictness. -/
theorem Strictness.run_guard (strictness : Strictness) (a : Action Unit) (s : Session) :
    (strictness.guard a).run s =
      match a.run s with
      | (.ok (), s') => (.ok (), s')
      | (.error e, s') =>
        if e.isExecution then
          match strictness with
          | .process => (.error e, s')
          | .record => (.ok (), { s' with record := s'.record.marked true })
          | .expression => (.ok (), s')
        else (.error e, s') := by
  show (match a.run s with
    | (.ok (), session) => (.ok (), session)
    | (.error e, session) => if e.isExecution then (strictness.handle e).run session else (.error e, session) :
    Except FixError Unit × Session) = _
  cases a.run s with
  | mk outcome s' =>
    cases outcome with
    | ok u => rfl
    | error e => cases strictness <;> rfl

/-! ### Expressions in a row -/

section

variable {registry : Registry} {strictness : Strictness} {included : List Expression → Action Unit}

/-- Expressions in a row are run in a row. -/
theorem process_append (es es' : List Expression) :
    process registry strictness included (es ++ es') =
      process registry strictness included es >>= fun _ => process registry strictness included es' := by
  induction es with
  | nil => rfl
  | cons e es ih =>
    rw [List.cons_append, process, process, bind_assoc, ih]

/-- A handled error is an execution error only under the strictness that lets it be. -/
theorem Strictness.guard_settled {a : Action Unit} {s s' : Session} {e : FixError}
    (hrun : (strictness.guard a).run s = (.error e, s')) (he : e.isExecution = true) : strictness = .process := by
  rw [run_guard] at hrun
  split at hrun
  · cases hrun
  · split at hrun
    · cases strictness with
      | process => rfl
      | record => cases hrun
      | expression => cases hrun
    · rename_i hno
      cases hrun
      exact absurd he hno

theorem process_settled {es : List Expression} {s s' : Session} {e : FixError}
    (hrun : (process registry strictness included es).run s = (.error e, s')) (he : e.isExecution = true) :
    strictness = .process := by
  induction es generalizing s with
  | nil => cases hrun
  | cons e' es ih =>
    rw [process, run_bind] at hrun
    split at hrun
    · exact ih hrun
    · rename_i hguard
      cases hrun
      exact Strictness.guard_settled hguard he

/-- There is nothing left to handle after an action that leaves no execution error but under the strictness that lets
it be. -/
theorem Strictness.run_guard_settled {a : Action Unit} {s : Session}
    (h : ∀ e s', a.run s = (.error e, s') → e.isExecution = true → strictness = .process) :
    (strictness.guard a).run s = a.run s := by
  rw [run_guard]
  cases ha : a.run s with
  | mk outcome s' =>
    cases outcome with
    | ok u => rfl
    | error e =>
      dsimp only
      split
      · rename_i he
        rw [h e s' ha he]
      · rfl

end

end RecordFix
