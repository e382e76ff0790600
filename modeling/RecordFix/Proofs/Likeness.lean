import RecordFix.Proofs.Calls

/-!
# Runs in like environments

Two actions are alike for a relation between environments if, from the same record and related environments, they have
the same outcome and leave the same record and related environments again (`Action.Alike`). Most methods have to do with
the record only (`Method.onRecord_or_mem`) and are alike for every relation. What expressions are put together from is
alike for a relation under which the environments agree on what is read and keep agreeing when maps are put
(`Environment.Likeness`), but for the methods that look for the file of the running fix or for included fixes.
-/

namespace RecordFix

open RecordFix.Action

/-! ### Actions on the record -/

/-- Whether an action has nothing to do with the environment. -/
def Action.OnRecord {α : Type} (a : Action α) : Prop :=
  ∀ (s : Session) (env : Environment), a.run { s with env := env } = ((a.run s).1, { (a.run s).2 with env := env })

namespace Action.OnRecord

variable {α β : Type}

theorem pure (x : α) : OnRecord (Pure.pure x : Action α) := fun _ _ => rfl

theorem fail (e : FixError) : OnRecord (Action.fail e : Action α) := fun _ _ => rfl

theorem bind {a : Action α} {f : α → Action β} (ha : OnRecord a) (hf : ∀ x, OnRecord (f x)) : OnRecord (a >>= f) := by
  intro s env
  rw [run_bind, run_bind, ha s env]
  cases a.run s with
  | mk outcome s' =>
    cases outcome with
    | error e => rfl
    | ok x => exact hf x s' env

theorem need {x : Except FixError α} {f : α → Action β} (hf : ∀ a, OnRecord (f a)) :
    OnRecord (Action.need x >>= f) := by
  cases x with
  | ok a => exact hf a
  | error e => exact .fail e

theorem reading {f : Record → Action α} (hf : ∀ r, OnRecord (f r)) : OnRecord (getRecord >>= f) :=
  bind (fun _ _ => rfl) hf

theorem setRecord (r : Record) : OnRecord (Action.setRecord r) := fun _ _ => rfl

theorem settle (change : Record × Option FixError) : OnRecord (Action.settle change) := by
  refine bind (.setRecord _) fun _ => ?_
  cases change.2 with
  | none => exact .pure ()
  | some e => exact .fail e

theorem settleValue (change : Record × Option ValueError) : OnRecord (Action.settleValue change) := .settle _

end Action.OnRecord

namespace Method

/-- Whether a method has nothing to do with the environment or with included fixes. -/
def OnRecord (m : Method) : Prop :=
  ∃ a : List String → Options → Action Unit,
    (∀ included, m included = a) ∧ ∀ params options, (a params options).OnRecord

private theorem OnRecord.of {a : List String → Options → Action Unit}
    (h : ∀ params options, (a params options).OnRecord) : OnRecord fun _ => a :=
  ⟨a, fun _ => rfl, h⟩

private theorem onRecord_mapTexts (command : String) (params : List String) (change : String → String) :
    Action.OnRecord (mapTexts command params change) :=
  .need fun _ => .reading fun _ => .settle _

private theorem onRecord_changeValue (field : String) (change : Value → Except FixError Value) :
    Action.OnRecord (changeValue field change) :=
  .reading fun _ => .settle _

private theorem onRecord_setArray : OnRecord setArray := by
  refine .of fun params options => .need fun field => ?_
  dsimp only
  split
  · exact .reading fun _ => .settleValue _
  · exact .reading fun _ => .settleValue _

private theorem onRecord_setHash : OnRecord setHash := by
  refine .of fun params options => .need fun field => ?_
  dsimp only
  split
  · exact .reading fun _ => .settleValue _
  · refine .reading fun r => ?_
    unfold putBehind
    split
    · exact .fail _
    · exact .settleValue _
    · exact .settleValue _

private theorem onRecord_moveField : OnRecord moveField := .of fun _ _ =>
  .need fun _ => .need fun _ => .reading fun _ => .bind (.settleValue _) fun _ => .reading fun _ => .setRecord _

private theorem onRecord_paste : OnRecord paste := .of fun _ _ =>
  .need fun _ => .reading fun _ => .need fun _ => .settleValue _

private theorem onRecord_parseText : OnRecord parseText := .of fun _ _ =>
  .need fun _ => .need fun _ => .reading fun _ => .settle _

private theorem onRecord_format : OnRecord format := .of fun _ _ =>
  .need fun _ => .need fun _ => onRecord_changeValue _ _

private theorem onRecord_rename : OnRecord rename := .of fun _ _ =>
  .need fun _ => .need fun _ => .need fun _ => onRecord_changeValue _ _

private theorem onRecord_filter : OnRecord filter := .of fun _ _ =>
  .need fun _ => .need fun _ => onRecord_changeValue _ _

private theorem onRecord_splitField : OnRecord splitField := .of fun _ _ =>
  .need fun _ => .need fun _ => onRecord_changeValue _ _

private theorem onRecord_replaceAll : OnRecord replaceAll := .of fun params _ =>
  .need fun _ => .need fun _ => onRecord_mapTexts _ params _

private theorem onRecord_substring : OnRecord substring := .of fun params _ =>
  .need fun _ => .need fun _ => onRecord_mapTexts _ params _

/-- The methods that read or change the environment. -/
def environmental : List (String × Method) :=
  [("include", includeFix), ("put_filemap", putFilemap), ("put_map", putMap), ("random", random), ("lookup", lookup)]

theorem onRecord_or_mem {name : String} {m : Method} (h : (name, m) ∈ all) :
    m.OnRecord ∨ (name, m) ∈ environmental := by
  have hall : ∀ c ∈ all, c.2.OnRecord ∨ c ∈ environmental := by
    -- most methods read parameters and then change a value, the texts or the fields
    have hvalue : ∀ {command : String} {change : List String → Options → String → Value → Except FixError Value},
        OnRecord fun _ params options =>
          Action.need (param command params 0) >>= fun field => changeValue field (change params options field) :=
      .of fun _ _ => .need fun _ => onRecord_changeValue _ _
    have htexts : ∀ {command : String} {change : String → String},
        OnRecord fun _ params _ => mapTexts command params change :=
      .of fun params _ => onRecord_mapTexts _ params _
    have htextsBy : ∀ {α : Type} {x : List String → Except FixError α} {command : String}
        {change : α → String → String},
        OnRecord fun _ params _ => Action.need (x params) >>= fun a => mapTexts command params (change a) :=
      .of fun params _ => .need fun _ => onRecord_mapTexts _ params _
    have hfields : ∀ {c : String → String → Record → Record × Option ValueError} {command : String},
        OnRecord fun _ params _ => Action.need (param command params 0) >>= fun field =>
          Action.need (param command params 1) >>= fun other => getRecord >>= fun r =>
            Action.settleValue (c field other r) :=
      .of fun _ _ => .need fun _ => .need fun _ => .reading fun _ => .settleValue _
    have hset : ∀ {f : List String → Record → Record},
        OnRecord fun _ params _ => getRecord >>= fun r => setRecord (f params r) :=
      .of fun _ _ => .reading fun _ => .setRecord _
    simp only [all, List.forall_mem_cons]
    refine ⟨.inr ?_, .inl (.of fun _ _ => .pure ()), .inr ?_, .inr ?_, .inl hfields, .inl hvalue, .inl hfields,
      .inl onRecord_format, .inl hvalue, .inl onRecord_moveField, .inl onRecord_parseText, .inl onRecord_paste, .inr ?_,
      .inl hset, .inl hset, .inl onRecord_rename, .inl hset, .inl onRecord_setArray, .inl hfields,
      .inl onRecord_setHash, .inl hset, .inl htextsBy, .inl htexts, .inl hvalue, .inl htexts, .inl onRecord_filter,
      .inl htextsBy, .inl hvalue, .inr ?_, .inl htextsBy, .inl onRecord_replaceAll, .inl hvalue, .inl hvalue,
      .inl onRecord_splitField, .inl onRecord_substring, .inl hvalue, .inl htexts, .inl hvalue, .inl htexts,
      List.forall_mem_nil _⟩
    all_goals simp only [environmental, List.mem_cons, true_or, or_true]
  exact hall (name, m) h

end Method

/-! ### Alike actions -/

/-- Whether two actions do the same with a record in related environments, and leave related ones. -/
def Action.Alike (R : Environment → Environment → Prop) {α : Type} (a b : Action α) : Prop :=
  ∀ (r : Record) (env env' : Environment), R env env' → ∃ outcome r' after after',
    a.run ⟨r, env⟩ = (outcome, ⟨r', after⟩) ∧ b.run ⟨r, env'⟩ = (outcome, ⟨r', after'⟩) ∧ R after after'

variable {R : Environment → Environment → Prop}

namespace Action

variable {α β : Type}

/-- What has nothing to do with the environment is like itself. -/
theorem OnRecord.alike {a : Action α} (h : OnRecord a) : Alike R a a := by
  intro r env env' hR
  have hself : a.run ⟨r, env⟩ = ((a.run ⟨r, env⟩).1, { (a.run ⟨r, env⟩).2 with env := env }) := h ⟨r, env⟩ env
  exact ⟨_, _, env, env', hself, h ⟨r, env⟩ env', hR⟩

theorem alike_pure (x : α) : Alike R (pure x : Action α) (pure x) := (OnRecord.pure x).alike

theorem alike_fail (e : FixError) : Alike R (fail e : Action α) (fail e) := (OnRecord.fail e).alike

/-- What comes next may depend on what the first action gives. -/
theorem alike_bind_of_ok {a b : Action α} {f g : α → Action β} (hab : Alike R a b)
    (hfg : ∀ x r env env' t, R env env' → a.run ⟨r, env⟩ = (.ok x, t) → Alike R (f x) (g x)) :
    Alike R (a >>= f) (b >>= g) := by
  intro r env env' hR
  obtain ⟨outcome, r', after, after', ha, hb, hafter⟩ := hab r env env' hR
  rw [run_bind, run_bind, ha, hb]
  cases outcome with
  | error e => exact ⟨_, _, _, _, rfl, rfl, hafter⟩
  | ok x => exact hfg x r env env' _ hR ha r' after after' hafter

theorem alike_bind {a b : Action α} {f g : α → Action β} (hab : Alike R a b) (hfg : ∀ x, Alike R (f x) (g x)) :
    Alike R (a >>= f) (b >>= g) :=
  alike_bind_of_ok hab fun x _ _ _ _ _ _ => hfg x

theorem alike_reading {f g : Record → Action α} (h : ∀ r, Alike R (f r) (g r)) :
    Alike R (getRecord >>= f) (getRecord >>= g) :=
  alike_bind (OnRecord.alike fun _ _ => rfl) h

theorem alike_need {x : Except FixError α} {f g : α → Action β} (h : ∀ a, Alike R (f a) (g a)) :
    Alike R (need x >>= f) (need x >>= g) := by
  cases x with
  | ok a => exact h a
  | error e => exact alike_fail e

/-- What is read from related environments may lead to different actions, if these are alike. -/
theorem alike_getEnv {f g : Environment → Action α} (h : ∀ env env', R env env' → Alike R (f env) (g env')) :
    Alike R (getEnv >>= f) (getEnv >>= g) :=
  fun r env env' hR => h env env' hR r env env' hR

theorem alike_setEnv {env env' : Environment} (h : R env env') : Alike R (setEnv env) (setEnv env') :=
  fun _ _ _ _ => ⟨_, _, _, _, rfl, rfl, h⟩

end Action

namespace Bind

variable {block block' : Action Unit}

private theorem alike_withScope (h : Alike R block block') (v : Value) :
    Alike R (withScope v block) (withScope v block') := by
  cases v with
  | string t o => exact alike_fail _
  | array items o => exact alike_fail _
  | hash fields o =>
    intro r env env' hR
    obtain ⟨outcome, inner, after, after', ha, hb, hafter⟩ := h (Record.ofFields ⟨fields, o⟩) env env' hR
    rw [run_withScope, run_withScope, ha, hb]
    cases outcome with
    | error e => exact ⟨_, _, _, _, rfl, rfl, hafter⟩
    | ok u => exact ⟨_, _, _, _, rfl, rfl, hafter⟩

private theorem alike_withVariable (h : Alike R block block') (name : String) (v : Value) :
    Alike R (withVariable name v block) (withVariable name v block') := by
  intro r env env' hR
  obtain ⟨outcome, r', after, after', ha, hb, hafter⟩ := h (r.put name v) env env' hR
  rw [run_withVariable, run_withVariable, ha, hb]
  exact ⟨_, _, _, _, rfl, rfl, hafter⟩

private theorem alike_writeBackAnd {rest rest' : Action Unit} (h : Alike R rest rest') (path : String) (position : Nat)
    (w : Value) : Alike R (writeBackAnd path position rest w) (writeBackAnd path position rest' w) :=
  alike_reading fun _ => alike_bind (OnRecord.setRecord _).alike fun _ => h

private theorem alike_forEach (h : Alike R block block') (path : String) (var? : Option String) (position : Nat)
    (vs : List Value) : Alike R (forEach path var? block position vs) (forEach path var? block' position vs) := by
  induction vs generalizing position with
  | nil => exact alike_pure ()
  | cons v vs ih =>
    cases var? with
    | some name =>
      rw [forEach_variable, forEach_variable]
      refine alike_bind (alike_withVariable h name v) fun bound => ?_
      cases bound with
      | none => exact ih _
      | some w => exact alike_writeBackAnd (ih _) path position w
    | none =>
      rw [forEach_scope, forEach_scope]
      exact alike_bind (alike_withScope h v) fun w => alike_writeBackAnd (ih _) path position w

theorem alike_list (h : Alike R block block') (params : List String) (options : Options) :
    Alike R (list block params options) (list block' params options) := by
  unfold list
  split
  · exact alike_fail _
  · rename_i path _
    refine alike_reading fun r => ?_
    split
    · exact alike_fail _
    · exact alike_pure ()
    · exact alike_forEach h path _ 0 _

end Bind

theorem Strictness.alike_guard (strictness : Strictness) {a b : Action Unit} (h : Alike R a b) :
    Alike R (strictness.guard a) (strictness.guard b) := by
  intro r env env' hR
  obtain ⟨outcome, r', after, after', ha, hb, hafter⟩ := h r env env' hR
  rw [run_guard, run_guard, ha, hb]
  cases outcome with
  | ok u => exact ⟨_, _, _, _, rfl, rfl, hafter⟩
  | error e =>
    dsimp only
    split
    · cases strictness with
      | process => exact ⟨_, _, _, _, rfl, rfl, hafter⟩
      | record => exact ⟨_, _, _, _, rfl, rfl, hafter⟩
      | expression => exact ⟨_, _, _, _, rfl, rfl, hafter⟩
    · exact ⟨_, _, _, _, rfl, rfl, hafter⟩

/-! ### Like environments -/

namespace Environment

/-- Whether related environments have the same variables, maps, files and random numbers, and stay related when the maps
or the random numbers change. -/
structure Likeness (R : Environment → Environment → Prop) : Prop where
  vars : ∀ {env env'}, R env env' → env'.vars = env.vars
  maps : ∀ {env env'}, R env env' → env'.maps = env.maps
  files : ∀ {env env'}, R env env' → env'.files = env.files
  random : ∀ {env env'}, R env env' → env'.random = env.random
  putMaps : ∀ {env env'}, R env env' → ∀ maps, R { env with maps := maps } { env' with maps := maps }
  putRandom : ∀ {env env'}, R env env' → ∀ random, R { env with random := random } { env' with random := random }

end Environment

open Environment (Likeness)

/-! ### Reading the variables -/

section

variable (h : Likeness R)
include h

/-- An action that reads the record and the variables and changes nothing. -/
private theorem alike_readVars {α : Type} (f : Record → List (String × String) → Except FixError α) :
    Alike R (fun s => (f s.record s.env.vars, s) : Action α) (fun s => (f s.record s.env.vars, s)) := by
  intro r env env' hR
  refine ⟨_, _, _, _, rfl, ?_, hR⟩
  show (f r env'.vars, _) = (f r env.vars, _)
  rw [h.vars hR]

private theorem alike_condition (c : Condition) {a b a' b' : Action Unit} (hab : Alike R a b) (hab' : Alike R a' b') :
    Alike R (evaluate Registry.builtin c >>= fun holds => if holds then a else a')
      (evaluate Registry.builtin c >>= fun holds => if holds then b else b') := by
  refine alike_bind (alike_readVars h fun r vars => do
    let test ← findCommand .conditional Registry.builtin.conditionals c.name
    test r (← Variables.resolveAll vars c.params) []) fun holds => ?_
  split
  · exact hab
  · exact hab'

/-- The arguments come from the variables of an environment that is related. -/
theorem alike_arguments (params : List String) (options : Options) {f g : List String × Options → Action Unit}
    (hfg : ∀ x env env', R env env' → Variables.resolveAll env.vars params = .ok x.1 → Alike R (f x) (g x)) :
    Alike R (resolveArguments params options >>= f) (resolveArguments params options >>= g) :=
  alike_bind_of_ok (alike_readVars h fun _ vars => do
    return (← Variables.resolveAll vars params, ← Variables.resolveOptions vars options)) fun x _ env env' _ hR hx =>
      hfg x env env' hR (resolveAll_of_resolveArguments hx)

end

/-! ### Methods on the environment -/

namespace Method

variable {included included' : List Expression → Action Unit} {params : List String} {options : Options}

section

variable (h : Likeness R)
include h

private theorem alike_putMap : Alike R (putMap included params options) (putMap included' params options) := by
  refine alike_need fun name => alike_getEnv fun env env' hR => ?_
  rw [h.maps hR]
  exact alike_setEnv (h.putMaps hR _)

private theorem alike_random : Alike R (random included params options) (random included' params options) := by
  refine alike_need fun field => alike_need fun bound => ?_
  split
  · exact alike_fail _
  · refine alike_getEnv fun env env' hR => ?_
    rw [h.random hR]
    exact alike_bind (alike_setEnv (h.putRandom hR _)) fun _ => alike_reading fun _ => (OnRecord.settleValue _).alike

private theorem alike_lookupInline (hlength : params.length ≤ 1) :
    Alike R (lookup included params options) (lookup included' params options) := by
  have hnone : params[1]? = none := List.getElem?_eq_none hlength
  unfold lookup
  rw [hnone]
  refine alike_need fun field => alike_reading fun r => alike_getEnv fun env env' hR => ?_
  rw [h.files hR]
  exact (OnRecord.settle _).alike

variable (hfile : ∀ {env env'}, R env env' → env'.fixFile = env.fixFile)
include hfile

/-- A file is looked for in the directory of the running fix. -/
private theorem alike_registerFileMap (file name : String) :
    Alike R (registerFileMap file name options) (registerFileMap file name options) := by
  refine alike_getEnv fun env env' hR => ?_
  have hpath : env'.resolvePath file = env.resolvePath file := by
    unfold Environment.resolvePath
    rw [hfile hR]
  rw [h.maps hR, hpath]
  split
  · exact alike_pure ()
  · refine alike_need fun separator => ?_
    split
    · exact alike_setEnv (h.putMaps hR _)
    · exact alike_fail _

private theorem alike_putFilemap :
    Alike R (putFilemap included params options) (putFilemap included' params options) :=
  alike_need fun file => alike_registerFileMap h hfile file _

private theorem alike_lookup : Alike R (lookup included params options) (lookup included' params options) := by
  by_cases hlength : params.length ≤ 1
  · exact alike_lookupInline h hlength
  · have hlt : 1 < params.length := by omega
    have hname : params[1]? = some params[1] := List.getElem?_eq_getElem hlt
    unfold lookup
    rw [hname]
    refine alike_need fun field => alike_bind (alike_registerFileMap h hfile _ _) fun _ =>
      alike_getEnv fun env env' hR => ?_
    rw [h.maps hR, h.files hR]
    split
    · exact alike_fail _
    · refine alike_reading fun _ => alike_bind (alike_setEnv ?_) fun _ => (OnRecord.settle _).alike
      have hput := h.putMaps hR
      simp only [h.files hR] at hput
      exact hput _

end

end Method

/-! ### Expressions -/

section

variable {kind : String → List String → Prop} {included included' : List Expression → Action Unit}
  (strictness : Strictness)

/-- Calls of a kind are alike if those of methods on the environment are. -/
private theorem respects_of_environmental (h : Likeness R)
    (hcall : ∀ {name : String} {m : Method} {params resolved : List String} (options : Options) {env env'},
      (name, m) ∈ Method.environmental → kind name params → R env env' →
        Variables.resolveAll env.vars params = .ok resolved →
          Alike R (m included resolved options) (m included' resolved options)) :
    Respects kind strictness strictness included included' (Alike R) where
  pure := alike_pure ()
  fail := alike_fail
  andThen hab hab' := alike_bind hab fun _ => hab'
  guard := strictness.alike_guard
  condition c hab hab' := alike_condition h c hab hab'
  call params options hm hname := alike_arguments h params options fun x env env' hR hx => by
    rcases Method.onRecord_or_mem hm with ⟨a, ha, hrecord⟩ | henv
    · rw [ha, ha]
      exact (hrecord x.1 x.2).alike
    · exact hcall _ henv hname hR hx
  list params options hblock := alike_arguments h params options fun x _ _ _ _ => Bind.alike_list hblock x.1 x.2

/-- Whether a call has nothing to do with the file of the running fix or with included fixes. -/
def selfContainedCall (name : String) (params : List String) : Bool :=
  name != "include" && name != "put_filemap" && (name != "lookup" || params.length ≤ 1)

/-- Calls that are self-contained are alike in like environments, whatever included fixes would do. -/
theorem respects_alike_selfContained (h : Likeness R) :
    Respects (selfContainedCall · · = true) strictness strictness included included' (Alike R) := by
  refine respects_of_environmental strictness h fun {_ _ params _} options {_ _} hm hname hR hx => ?_
  simp only [Method.environmental, List.mem_cons, Prod.mk.injEq, List.not_mem_nil, or_false] at hm
  rcases hm with ⟨rfl, -⟩ | ⟨rfl, -⟩ | ⟨-, rfl⟩ | ⟨-, rfl⟩ | ⟨rfl, rfl⟩
  · cases hname
  · cases hname
  · exact Method.alike_putMap h
  · exact Method.alike_random h
  · have hlength : params.length ≤ 1 := of_decide_eq_true hname
    rw [← length_of_mapM_eq_ok hx] at hlength
    exact Method.alike_lookupInline h hlength

/-- Calls are alike in like environments with the same file of the running fix if the inclusions of a kind are. -/
theorem respects_alike (h : Likeness R) (hfile : ∀ {env env'}, R env env' → env'.fixFile = env.fixFile)
    (hinclude : ∀ {params resolved : List String} (options : Options) {env env'}, kind "include" params → R env env' →
      Variables.resolveAll env.vars params = .ok resolved →
        Alike R (Method.includeFix included resolved options) (Method.includeFix included' resolved options)) :
    Respects kind strictness strictness included included' (Alike R) := by
  refine respects_of_environmental strictness h fun {_ _ _ _} options {_ _} hm hkind hR hx => ?_
  simp only [Method.environmental, List.mem_cons, Prod.mk.injEq, List.not_mem_nil, or_false] at hm
  rcases hm with ⟨rfl, rfl⟩ | ⟨-, rfl⟩ | ⟨-, rfl⟩ | ⟨-, rfl⟩ | ⟨-, rfl⟩
  · exact hinclude options hkind hR hx
  · exact Method.alike_putFilemap h hfile
  · exact Method.alike_putMap h
  · exact Method.alike_random h
  · exact Method.alike_lookup h hfile

end

end RecordFix
