import RecordFix.Fix.Builtin
import RecordFix.Proofs.Running

/-!
# Limits of actions

Which errors an action can end in, and whether it leaves the environment as it is (`Action.Limited`). Two actions in a
row have the limits of both (`limited_bind`). Most methods are tame: they keep the environment, and all their errors end
the run whatever its strictness. The ten that are not are listed (`Method.tame_or_mem_untamed`).
-/

namespace RecordFix

open RecordFix.Action RecordFix.Record

/-- Whether an action ends only in errors that have a property, and keeps the environment if it has to. -/
structure Action.Limited (may : FixError → Prop) (keep : Prop) {α : Type} (a : Action α) : Prop where
  failure : ∀ {s t : Session} {e : FixError}, a.run s = (.error e, t) → may e
  env : keep → ∀ s : Session, (a.run s).2.env = s.env

/-- Whether an error ends a run under any strictness. -/
abbrev FixError.Fatal (e : FixError) : Prop := e.isExecution = false

/-- Whether an action keeps the environment and ends in fatal errors only. -/
abbrev Action.Tame {α : Type} (a : Action α) : Prop := Limited FixError.Fatal True a

namespace Action

variable {may may' : FixError → Prop} {keep keep' : Prop} {α β : Type}

/-! ### Steps -/

theorem Limited.mono {a : Action α} (h : Limited may keep a) (hmay : ∀ e, may e → may' e) (hkeep : keep' → keep) :
    Limited may' keep' a :=
  ⟨fun hrun => hmay _ (h.failure hrun), fun hk => h.env (hkeep hk)⟩

/-- An action that always ends well. -/
theorem limited_of_ok {a : Action α} (hok : ∀ s, ∃ x, (a.run s).1 = .ok x)
    (henv : keep → ∀ s, (a.run s).2.env = s.env) : Limited may keep a := by
  refine ⟨fun {s t e} hrun => ?_, henv⟩
  obtain ⟨x, hx⟩ := hok s
  rw [hrun] at hx
  cases hx

theorem limited_pure (x : α) : Limited may keep (pure x : Action α) :=
  limited_of_ok (fun _ => ⟨x, rfl⟩) fun _ _ => rfl

theorem limited_fail {e : FixError} (h : may e) : Limited may keep (fail e : Action α) := by
  refine ⟨fun hrun => ?_, fun _ _ => rfl⟩
  cases hrun
  exact h

/-- What comes next may depend on what the first action gives. -/
theorem limited_bind_of_ok {a : Action α} {f : α → Action β} (ha : Limited may keep a)
    (hf : ∀ x s t, a.run s = (.ok x, t) → Limited may keep (f x)) : Limited may keep (a >>= f) := by
  constructor
  · intro s t e hrun
    rw [run_bind] at hrun
    cases hfirst : a.run s with
    | mk outcome s' =>
      rw [hfirst] at hrun
      cases outcome with
      | error e' =>
        cases hrun
        exact ha.failure hfirst
      | ok x => exact (hf x s s' hfirst).failure hrun
  · intro hkeep s
    have henv := ha.env hkeep s
    rw [run_bind]
    cases hfirst : a.run s with
    | mk outcome s' =>
      rw [hfirst] at henv
      cases outcome with
      | error e => exact henv
      | ok x => exact ((hf x s s' hfirst).env hkeep s').trans henv

theorem limited_bind {a : Action α} {f : α → Action β} (ha : Limited may keep a) (hf : ∀ x, Limited may keep (f x)) :
    Limited may keep (a >>= f) :=
  limited_bind_of_ok ha fun x _ _ _ => hf x

theorem limited_need {x : Except FixError α} (h : ∀ e, x = .error e → may e) : Limited may keep (need x) := by
  cases x with
  | ok a => exact limited_pure a
  | error e => exact limited_fail (h e rfl)

theorem limited_getRecord : Limited may keep getRecord := limited_of_ok (fun s => ⟨s.record, rfl⟩) fun _ _ => rfl

theorem limited_setRecord (r : Record) : Limited may keep (setRecord r) :=
  limited_of_ok (fun _ => ⟨(), rfl⟩) fun _ _ => rfl

theorem limited_getEnv : Limited may keep getEnv := limited_of_ok (fun s => ⟨s.env, rfl⟩) fun _ _ => rfl

/-- Another environment may be put in place where none has to be kept. -/
theorem limited_setEnv (env : Environment) : Limited may False (setEnv env) :=
  limited_of_ok (fun _ => ⟨(), rfl⟩) False.elim

theorem limited_settle {change : Record × Option FixError} (h : ∀ e, change.2 = some e → may e) :
    Limited may keep (settle change) := by
  unfold settle
  refine limited_bind (limited_setRecord _) fun _ => ?_
  split
  · exact limited_pure ()
  · rename_i e he
    exact limited_fail (h e he)

theorem limited_settleValue (h : ∀ cause, may (.value cause)) (change : Record × Option ValueError) :
    Limited may keep (settleValue change) := by
  refine limited_settle fun e he => ?_
  obtain ⟨cause, -, rfl⟩ := Option.map_eq_some_iff.1 he
  exact h cause

/-- A record that is read and changed. -/
theorem limited_change {c : Record → Record × Option FixError} (h : ∀ r e, (c r).2 = some e → may e) :
    Limited may keep (getRecord >>= fun r => settle (c r)) :=
  limited_bind limited_getRecord fun r => limited_settle (h r)

theorem tame_changeValue (c : Record → Record × Option ValueError) :
    Tame (getRecord >>= fun r => settleValue (c r)) :=
  limited_bind limited_getRecord fun _ => limited_settleValue (fun _ => rfl) _

/-! ### Arguments -/

theorem failure_of_bind {x : Except FixError α} {f : α → Except FixError β}
    (hx : ∀ e, x = .error e → may e) (hf : ∀ a e, f a = .error e → may e) : ∀ e, x >>= f = .error e → may e := by
  intro e he
  cases x with
  | error e' =>
    cases he
    exact hx e rfl
  | ok a => exact hf a e he

theorem failure_of_mapM {f : α → Except FixError β} (h : ∀ a e, f a = .error e → may e) {xs : List α} :
    ∀ e, xs.mapM f = .error e → may e := by
  induction xs with
  | nil => exact fun _ he => nomatch he
  | cons x xs ih =>
    rw [List.mapM_cons]
    exact failure_of_bind (h x) fun _ => failure_of_bind ih fun _ _ he => nomatch he

private theorem failure_param {command : String} {params : List String} {i : Nat} :
    ∀ e, param command params i = .error e → e.Fatal := by
  intro e he
  unfold param at he
  split at he
  · cases he
  · cases he
    rfl

private theorem failure_compilePattern (text : String) :
    ∀ e, compilePattern text = .error e → e.Fatal := by
  intro e he
  unfold compilePattern at he
  split at he
  · cases he
  · cases he
    rfl

private theorem failure_compileWhole (text : String) : ∀ e, compileWhole text = .error e → e.Fatal := by
  intro e he
  unfold compileWhole at he
  split at he
  · cases he
  · cases he
    rfl

theorem tame_param (command : String) (params : List String) (i : Nat) : Tame (need (param command params i)) :=
  limited_need failure_param

theorem tame_patternParam (command : String) (params : List String) (i : Nat) :
    Tame (need (do compilePattern (← param command params i))) :=
  limited_need (failure_of_bind failure_param fun text => failure_compilePattern text)

theorem tame_wholeParam (command : String) (params : List String) (i : Nat) :
    Tame (need (do compileWhole (← param command params i))) :=
  limited_need (failure_of_bind failure_param fun text => failure_compileWhole text)

end Action

/-! ### Changes of values -/

section

variable {σ ε : Type} {fail : ValueError → ε} {e : ε}

namespace Record

variable {change : Value → Except ε (Option Value)}

/-- The changes of several fields fail as the change of one of them does. -/
theorem failure_transformFields {names : List String} {h : Hash} (he : (transformFields change h names).2 = some e) :
    ∃ v, change v = .error e := by
  induction names generalizing h with
  | nil => cases he
  | cons name names ih =>
    unfold transformFields at he
    split at he
    · exact ih he
    · rename_i v hv
      split at he
      · exact ih he
      · exact ih he
      · rename_i e' he'
        cases he
        exact ⟨v, he'⟩

/-- The change of a field fails with the shape of the record or as the change of a value does. -/
theorem failure_transformValue {r : Record} {field : String} (he : (r.transformValue fail change field).2 = some e) :
    (∃ cause, e = fail cause) ∨ ∃ v, change v = .error e := by
  unfold transformValue at he
  dsimp only at he
  split at he
  · exact Or.inr (failure_transformFields he)
  · split at he
    · rename_i v hv
      split at he
      · cases he
      · cases he
      · rename_i e' he'
        cases he
        exact Or.inr ⟨v, he'⟩
    · split at he
      · rename_i cause hcause
        cases he
        exact Or.inl ⟨cause, rfl⟩
      · cases he
      · rename_i v hv
        split at he
        · obtain ⟨cause, -, rfl⟩ := Option.map_eq_some_iff.1 he
          exact Or.inl ⟨cause, rfl⟩
        · cases he
        · rename_i e' he'
          cases he
          exact Or.inr ⟨v, he'⟩

end Record

/-- Whether an error is one of the shape of a record, or one of an operator on texts. -/
def TextEdit.Raises (fail : ValueError → ε) (edit : TextEdit σ ε) (e : ε) : Prop :=
  (∃ cause, e = fail cause) ∨ ∃ t s, (edit t s).1 = .error e

variable {edit : TextEdit σ ε}

mutual

theorem Value.failure_editIn (strict : Bool) (path : Path) (s : σ) :
    ∀ v : Value, (v.editIn fail edit strict path s).failure = some e → edit.Raises fail e
  | .string t o, he => by
    unfold Value.editIn at he
    split at he
    · split at he
      · cases he
      · cases he
      · rename_i e' s' hedit
        cases he
        exact Or.inr ⟨t, s, by rw [hedit]⟩
    · dsimp only at he
      split at he
      · cases he
        exact Or.inl ⟨_, rfl⟩
      · cases he
  | .array items o, he => by
    unfold Value.editIn at he
    dsimp only at he
    split at he
    · rename_i e' hfailure
      cases he
      split at hfailure
      · exact Value.failure_editItems _ _ _ _ items hfailure
      · split at hfailure
        · exact Value.failure_editItems _ _ _ _ items hfailure
        · exact Value.failure_editItems _ _ _ _ items hfailure
        · exact Value.failure_editItems _ _ _ _ items hfailure
        · exact Value.failure_editItems _ _ _ _ items hfailure
    · cases he
  | .hash fields o, he => by
    unfold Value.editIn at he
    split at he
    · cases he
      exact Or.inl ⟨_, rfl⟩
    · dsimp only at he
      split at he
      · rename_i e' hfailure
        cases he
        exact Value.failure_editFields _ _ _ fields hfailure
      · cases he

theorem Value.failure_editItems (test : Nat → Bool) (path : Path) (i : Nat) (s : σ) :
    ∀ vs : List Value, (Value.editItems fail edit test path i s vs).failure = some e → edit.Raises fail e
  | [], he => nomatch he
  | v :: vs, he => by
    unfold Value.editItems at he
    dsimp only at he
    split at he
    · split at he
      · rename_i e' hfailure
        cases he
        exact Value.failure_editIn _ _ _ v hfailure
      · exact Value.failure_editItems _ _ _ _ vs he
    · exact Value.failure_editItems _ _ _ _ vs he

theorem Value.failure_editFields (test : String → Bool) (path : Path) (s : σ) :
    ∀ fs : List (String × Value), (Value.editFields fail edit test path s fs).failure = some e → edit.Raises fail e
  | [], he => nomatch he
  | (k, v) :: fs, he => by
    unfold Value.editFields at he
    dsimp only at he
    split at he
    · split at he
      · rename_i e' hfailure
        cases he
        exact Value.failure_editIn _ _ _ v hfailure
      · exact Value.failure_editFields _ _ _ fs he
    · exact Value.failure_editFields _ _ _ fs he

end

private theorem Hash.failure_edit {h : Hash} {path : Path} {s : σ} (he : (h.edit fail edit path s).failure = some e) :
    edit.Raises fail e := by
  unfold Hash.edit at he
  split at he
  · cases he
  · dsimp only at he
    split at he
    · exact Value.failure_editIn true path s h.toValue he
    · exact Value.failure_editIn true path s h.toValue he

/-- The edit of the texts of a field fails with the shape of the record or as the operator does. -/
theorem Record.failure_transform {r : Record} {field : String} {s : σ}
    (he : (r.transform fail edit field s).failure = some e) : edit.Raises fail e := by
  have hall : ∀ (paths : List Path) (h : Hash) (s : σ), (editAll fail edit h s paths).failure = some e →
      edit.Raises fail e := by
    intro paths
    induction paths with
    | nil => exact fun _ _ he => nomatch he
    | cons p ps ih =>
      intro h s he
      unfold editAll at he
      dsimp only at he
      split at he
      · rename_i e' hfailure
        cases he
        exact Hash.failure_edit hfailure
      · exact ih _ _ he
  exact hall _ r.fields s he

end

/-! ### Methods -/

/-- Whether all actions of a method are tame. -/
def Method.Tame (m : Method) : Prop := ∀ included params options, Action.Tame (m included params options)

namespace Method

variable {may : FixError → Prop} {keep : Prop}

theorem limited_changeValue (hvalue : ∀ cause, may (.value cause)) {change : Value → Except FixError Value}
    (h : ∀ v e, change v = .error e → may e) (field : String) :
    Action.Limited may keep (changeValue field change) := by
  refine limited_change fun r e he => ?_
  rcases failure_transformValue he with ⟨cause, rfl⟩ | ⟨v, hv⟩
  · exact hvalue cause
  · refine h v e ?_
    cases hchange : change v with
    | ok w =>
      rw [hchange] at hv
      cases hv
    | error e' =>
      rw [hchange] at hv
      cases hv
      rfl

/-- The change of a value by a function that does not fail. -/
theorem tame_changeTotal {change : Value → Except FixError Value} (h : ∀ v e, change v ≠ .error e) (field : String) :
    Action.Tame (changeValue field change) :=
  limited_changeValue (fun _ => rfl) (fun v e he => absurd he (h v e)) field

theorem limited_transform {σ : Type} (hvalue : ∀ cause, may (.value cause)) {edit : TextEdit σ FixError}
    (h : ∀ t s e, (edit t s).1 = .error e → may e) (field : String) (s : σ) :
    Action.Limited may keep (getRecord >>= fun r =>
      settle ((r.transform FixError.value edit field s).node, (r.transform FixError.value edit field s).failure)) := by
  refine limited_change fun r e he => ?_
  rcases failure_transform he with ⟨cause, rfl⟩ | ⟨t, s', ht⟩
  · exact hvalue cause
  · exact h t s' e ht

theorem tame_mapTexts (command : String) (params : List String) (change : String → String) :
    Action.Tame (mapTexts command params change) :=
  limited_bind (tame_param command params 0) fun field =>
    limited_transform (fun _ => rfl) (fun _ _ _ he => nomatch he) field ()

/-- Looking texts up fails with the shape of the record or with the map, and no strictness decides on that. -/
theorem fatal_of_lookup {files : Files} {field : String} {m : LookupMap} {r : Record} {e : FixError}
    (he : (r.transform FixError.value (lookupEdit files) field m).failure = some e) : e.Fatal := by
  rcases failure_transform he with ⟨cause, rfl⟩ | ⟨t, m', ht⟩
  · rfl
  · unfold lookupEdit at ht
    split at ht
    · cases ht
    · cases ht
      rfl

/-- Looking texts up in the map that the options are. -/
theorem tame_lookupInline {params : List String} (h : params.length ≤ 1) (included : List Expression → Action Unit)
    (options : Options) : Action.Tame (lookup included params options) := by
  unfold lookup
  refine limited_bind (tame_param _ _ _) fun field => ?_
  rw [List.getElem?_eq_none h]
  exact limited_bind limited_getRecord fun r => limited_bind limited_getEnv fun env =>
    limited_settle fun _ => fatal_of_lookup

/-! ### Tame methods -/

theorem tame_nothing : Tame nothing := fun _ _ _ => limited_pure ()

theorem tame_addField : Tame addField := fun _ params _ =>
  limited_bind (tame_param _ params 0) fun field => limited_bind (tame_param _ params 1) fun value =>
    tame_changeValue fun r => r.append field (Value.ofString value)

theorem tame_setField : Tame setField := fun _ params _ =>
  limited_bind (tame_param _ params 0) fun field => limited_bind (tame_param _ params 1) fun value =>
    tame_changeValue fun r => r.set field (Value.ofString value)

theorem tame_setArray : Tame setArray := by
  refine fun _ params _ => limited_bind (tame_param _ params 0) fun field => ?_
  dsimp only
  split
  · exact tame_changeValue fun r => r.appendAll _ _
  · exact tame_changeValue fun r => r.set field _

theorem tame_setHash : Tame setHash := by
  refine fun _ params _ => limited_bind (tame_param _ params 0) fun field => ?_
  dsimp only
  split
  · exact tame_changeValue fun r => r.set field _
  · refine limited_bind limited_getRecord fun r => ?_
    unfold putBehind
    split
    · exact limited_fail rfl
    · exact limited_settleValue (fun _ => rfl) _
    · exact limited_settleValue (fun _ => rfl) _

theorem tame_copyField : Tame copyField := fun _ params _ =>
  limited_bind (tame_param _ params 0) fun source => limited_bind (tame_param _ params 1) fun target =>
    tame_changeValue fun r => r.copyField source target

theorem tame_moveField : Tame moveField := fun _ params _ =>
  limited_bind (tame_param _ params 0) fun source => limited_bind (tame_param _ params 1) fun target =>
    limited_bind limited_getRecord fun r =>
      limited_bind (limited_settleValue (fun _ => rfl) (r.copyField source target)) fun _ =>
        limited_bind limited_getRecord fun r => limited_setRecord (r.remove source)

theorem tame_removeField : Tame removeField := fun _ _ _ =>
  limited_bind limited_getRecord fun _ => limited_setRecord _

theorem tame_retain : Tame retain := fun _ _ _ => limited_bind limited_getRecord fun _ => limited_setRecord _

theorem tame_reject : Tame reject := fun _ _ _ => limited_bind limited_getRecord fun _ => limited_setRecord _

theorem tame_vacuum : Tame vacuum := fun _ _ _ => limited_bind limited_getRecord fun _ => limited_setRecord _

private theorem fatal_pasted (r : Record) (source : String) (e : FixError) (he : pasted r source = .error e) :
    e.Fatal := by
  unfold pasted at he
  split at he
  · cases he
  · split at he
    · cases he
      rfl
    · cases he
    · cases he

theorem tame_paste : Tame paste := fun _ params _ =>
  limited_bind (tame_param _ params 0) fun _ => limited_bind limited_getRecord fun r =>
    limited_bind (limited_need (failure_of_mapM (fatal_pasted r))) fun _ => limited_settleValue (fun _ => rfl) _

theorem tame_format : Tame format := fun _ params _ =>
  limited_bind (tame_param _ params 0) fun field => limited_bind (tame_param _ params 1) fun _ =>
    tame_changeTotal (fun _ _ => by nofun) field

theorem tame_array : Tame array := fun _ params _ =>
  limited_bind (tame_param _ params 0) fun field => tame_changeTotal (fun v _ => by cases v <;> nofun) field

theorem tame_hash : Tame hash := fun _ params _ =>
  limited_bind (tame_param _ params 0) fun field => tame_changeTotal (fun v _ => by cases v <;> nofun) field

theorem tame_parseText : Tame parseText := by
  refine fun _ params _ => limited_bind (tame_param _ params 0) fun field =>
    limited_bind (tame_wholeParam _ params 1) fun p => limited_change fun r e he => ?_
  rcases failure_transformValue he with ⟨cause, rfl⟩ | ⟨v, hv⟩
  · rfl
  · cases hv

theorem tame_rename : Tame rename := by
  refine fun _ params _ => limited_bind (tame_param _ params 0) fun field =>
    limited_bind (tame_patternParam _ params 1) fun p => limited_bind (tame_param _ params 2) fun replacement =>
      limited_changeValue (fun _ => rfl) (fun v e he => ?_) field
  split at he
  · cases he
    rfl
  · cases he

theorem tame_count : Tame count := fun _ params _ =>
  limited_bind (tame_param _ params 0) fun field => tame_changeTotal (fun v _ => by cases v <;> nofun) field

theorem tame_filter : Tame filter := fun _ params _ =>
  limited_bind (tame_param _ params 0) fun field => limited_bind (tame_patternParam _ params 1) fun _ =>
    tame_changeTotal (fun v _ => by cases v <;> nofun) field

theorem tame_reverse : Tame reverse := fun _ params _ =>
  limited_bind (tame_param _ params 0) fun field => tame_changeTotal (fun v _ => by cases v <;> nofun) field

theorem tame_uniq : Tame uniq := fun _ params _ =>
  limited_bind (tame_param _ params 0) fun field => tame_changeTotal (fun v _ => by cases v <;> nofun) field

theorem tame_append : Tame append := fun _ params _ =>
  limited_bind (tame_param _ params 1) fun _ => tame_mapTexts _ params _

theorem tame_prepend : Tame prepend := fun _ params _ =>
  limited_bind (tame_param _ params 1) fun _ => tame_mapTexts _ params _

theorem tame_index : Tame index := fun _ params _ =>
  limited_bind (tame_param _ params 1) fun _ => tame_mapTexts _ params _

theorem tame_replaceAll : Tame replaceAll := fun _ params _ =>
  limited_bind (tame_patternParam _ params 1) fun _ => limited_bind (tame_param _ params 2) fun _ =>
    tame_mapTexts _ params _

/-- The methods that run other fixes, change the environment, or fail on the data of a record. -/
def untamed : List (String × Method) :=
  [("include", includeFix), ("put_filemap", putFilemap), ("put_map", putMap), ("random", random), ("lookup", lookup),
   ("join_field", joinField), ("sort_field", sortField), ("split_field", splitField), ("substring", substring),
   ("sum", sum)]

/-- All methods but those that are listed are tame. -/
theorem tame_or_mem_untamed {name : String} {m : Method} (h : (name, m) ∈ all) : m.Tame ∨ (name, m) ∈ untamed := by
  have hall : ∀ c ∈ all, c.2.Tame ∨ c ∈ untamed := by
    have htexts : ∀ command change, Tame fun _ params _ => mapTexts command params change :=
      fun command change _ params _ => tame_mapTexts command params change
    simp only [all, List.forall_mem_cons]
    refine ⟨.inr ?_, .inl tame_nothing, .inr ?_, .inr ?_, .inl tame_addField, .inl tame_array, .inl tame_copyField,
      .inl tame_format, .inl tame_hash, .inl tame_moveField, .inl tame_parseText, .inl tame_paste, .inr ?_,
      .inl tame_reject, .inl tame_removeField, .inl tame_rename, .inl tame_retain, .inl tame_setArray,
      .inl tame_setField, .inl tame_setHash, .inl tame_vacuum, .inl tame_append, .inl (htexts _ _), .inl tame_count,
      .inl (htexts _ _), .inl tame_filter, .inl tame_index, .inr ?_, .inr ?_, .inl tame_prepend,
      .inl tame_replaceAll, .inl tame_reverse, .inr ?_, .inr ?_, .inr ?_, .inr ?_, .inl (htexts _ _), .inl tame_uniq,
      .inl (htexts _ _), List.forall_mem_nil _⟩
    all_goals simp only [untamed, List.mem_cons, true_or, or_true]
  exact hall (name, m) h

end Method

end RecordFix
