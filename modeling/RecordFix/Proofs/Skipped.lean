import RecordFix.Proofs.Limits

/-!
# Skipped expressions

A method whose execution error is skipped has left the record as it was, with one exception: a change of whole values
under a glob goes through the fields that match, and one that cannot be changed leaves the changes of those before it
(`Record.HalfChanged`). Only the methods that join, sort, split and add up values can end so
(`Method.half_changed_of_skipped`).
-/

namespace RecordFix

open RecordFix.Action RecordFix.Record

/-- Whether of the fields that match a glob some were changed, the next one not, and no other field was. -/
structure Record.HalfChanged (glob : String) (r r' : Record) : Prop where
  virtualFields : r'.virtualFields = r.virtualFields
  rejected : r'.rejected = r.rejected
  keys : r'.fields.keys = r.fields.keys
  fields : ∃ (done : List String) (failing : String), done ≠ [] ∧ done ++ [failing] <+: r.fields.matchingFields glob ∧
    ∀ name ∉ done, r'.fields.get? name = r.fields.get? name

/-! ### Changes of several fields -/

namespace Record

variable {ε : Type} {change : Value → Except ε (Option Value)} {names : List String} {h : Hash} {e : ε}

/-- What becomes of the first of several fields: its change fails and ends all, or the others are changed next, in a hash
that differs in this field only. -/
private theorem transformFields_cons (change : Value → Except ε (Option Value)) (h : Hash) (first : String) :
    (∃ e, ∀ names, transformFields change h (first :: names) = (h, some e)) ∨
      ∃ g : Hash, (∀ names, transformFields change h (first :: names) = transformFields change g names) ∧
        (∀ name, name ≠ first → g.get? name = h.get? name) ∧ ((∀ v, change v ≠ .ok none) → g.keys = h.keys) := by
  cases hv : h.get? first with
  | none =>
    refine Or.inr ⟨h, fun names => ?_, fun _ _ => rfl, fun _ => rfl⟩
    simp only [transformFields, hv]
  | some v =>
    have hmem : first ∈ h.fields.map (·.1) := List.mem_map.2 ⟨(first, v), Hash.mem_of_lookup hv, rfl⟩
    cases hw : change v with
    | error e =>
      refine Or.inl ⟨e, fun names => ?_⟩
      simp only [transformFields, hv, hw]
    | ok outcome =>
      cases outcome with
      | some w =>
        refine Or.inr ⟨h.put first w, fun names => ?_, fun name hne => Hash.lookup_putEntry_of_ne hne,
          fun _ => Hash.keys_putEntry_of_mem hmem⟩
        simp only [transformFields, hv, hw]
      | none =>
        refine Or.inr ⟨h.erase first, fun names => ?_, fun name hne => Hash.lookup_filter_of_ne hne h.fields,
          fun hchange => absurd hw (hchange v)⟩
        simp only [transformFields, hv, hw]

theorem get?_transformFields_of_not_mem {name : String} (hname : name ∉ names) :
    (transformFields change h names).1.get? name = h.get? name := by
  induction names generalizing h with
  | nil => rfl
  | cons first names ih =>
    rw [List.mem_cons, not_or] at hname
    rcases transformFields_cons change h first with ⟨e, hfails⟩ | ⟨g, hstep, hget, -⟩
    · rw [hfails]
    · rw [hstep, ih hname.2]
      exact hget name hname.1

/-- Fields that are replaced keep their names and their order. -/
theorem keys_transformFields (hchange : ∀ v, change v ≠ .ok none) :
    (transformFields change h names).1.keys = h.keys := by
  induction names generalizing h with
  | nil => rfl
  | cons first names ih =>
    rcases transformFields_cons change h first with ⟨e, hfails⟩ | ⟨g, hstep, -, hkeys⟩
    · rw [hfails]
    · rw [hstep, ih]
      exact hkeys hchange

/-- Where the change of several fields fails, those before the failing one were changed, and no others. -/
theorem transformFields_of_failure (he : (transformFields change h names).2 = some e) :
    ∃ (done : List String) (failing : String), done ++ [failing] <+: names ∧
      (transformFields change h names).1 = (transformFields change h done).1 := by
  induction names generalizing h with
  | nil => cases he
  | cons first names ih =>
    rcases transformFields_cons change h first with ⟨e', hfails⟩ | ⟨g, hstep, -, -⟩
    · refine ⟨[], first, List.prefix_append [first] names, ?_⟩
      rw [hfails]
      rfl
    · rw [hstep] at he
      obtain ⟨done, failing, hprefix, heq⟩ := ih he
      refine ⟨first :: done, failing, List.cons_prefix_cons.2 ⟨rfl, hprefix⟩, ?_⟩
      rw [hstep, hstep]
      exact heq

/-- A change of whole values that fails as the change of one of them does leaves the record as it was, or half
changed. -/
theorem transformValue_of_failure {fail : ValueError → ε} {r : Record} {field : String}
    (he : (r.transformValue fail change field).2 = some e) (hfail : ∀ cause, e ≠ fail cause)
    (hchange : ∀ v, change v ≠ .ok none) :
    (r.transformValue fail change field).1 = r ∨ r.HalfChanged field (r.transformValue fail change field).1 := by
  revert he
  unfold transformValue
  dsimp only
  split
  · intro he
    obtain ⟨done, failing, hprefix, heq⟩ := transformFields_of_failure he
    dsimp only
    rw [heq]
    by_cases hdone : done = []
    · left
      rw [hdone]
      rfl
    · right
      exact ⟨rfl, rfl, keys_transformFields hchange, done, failing, hdone, hprefix,
        fun name hname => get?_transformFields_of_not_mem hname⟩
  -- below the root nothing is written before the change has not failed
  · split
    · split
      · exact fun he => nomatch he
      · exact fun he => nomatch he
      · exact fun _ => Or.inl rfl
    · split
      · exact fun _ => Or.inl rfl
      · exact fun he => nomatch he
      · split
        · intro he
          obtain ⟨cause, -, hcause⟩ := Option.map_eq_some_iff.1 he
          exact absurd hcause.symm (hfail cause)
        · exact fun he => nomatch he
        · exact fun _ => Or.inl rfl

end Record

/-! ### What a skipped action leaves -/

/-- Whether an action that ends in an execution error leaves a record that is related to the one before. -/
def Action.Leaves (left : Record → Record → Prop) {α : Type} (a : Action α) : Prop :=
  ∀ (s t : Session) (e : FixError), a.run s = (.error e, t) → e.isExecution = true → left s.record t.record

namespace Action

variable {left : Record → Record → Prop} {α β : Type}

theorem leaves_of_fatal {a : Action α} (h : Limited FixError.Fatal False a) : Leaves left a := by
  intro s t e hrun he
  have hfatal : e.isExecution = false := h.failure hrun
  rw [he] at hfatal
  cases hfatal

theorem Tame.fatal {a : Action α} (h : Tame a) : Limited FixError.Fatal False a := h.mono (fun _ he => he) False.elim

theorem Tame.leaves {a : Action α} (h : Tame a) : Leaves left a := leaves_of_fatal h.fatal

theorem leaves_fail (hrefl : ∀ r, left r r) (e : FixError) : Leaves left (fail e : Action α) := by
  intro s t e' hrun _
  cases hrun
  exact hrefl s.record

/-- What comes first must not change the record. -/
theorem leaves_bind {a : Action α} {f : α → Action β} (ha : Leaves left a) (hkept : ∀ s, (a.run s).2.record = s.record)
    (hf : ∀ x, Leaves left (f x)) : Leaves left (a >>= f) := by
  intro s t e hrun he
  rw [run_bind] at hrun
  cases hfirst : a.run s with
  | mk outcome s' =>
    have hrecord := hkept s
    rw [hfirst] at hrun hrecord
    cases outcome with
    | error e' =>
      cases hrun
      exact ha s _ _ hfirst he
    | ok x =>
      have hrest := hf x s' t e hrun he
      rw [show s'.record = s.record from hrecord] at hrest
      exact hrest

/-- Two actions in a row that both keep the record. -/
theorem record_bind {a : Action α} {f : α → Action β} (ha : ∀ s, (a.run s).2.record = s.record)
    (hf : ∀ x s, ((f x).run s).2.record = s.record) : ∀ s, ((a >>= f).run s).2.record = s.record := by
  intro s
  have hfirst := ha s
  rw [run_bind]
  cases hrun : a.run s with
  | mk outcome s' =>
    rw [hrun] at hfirst
    cases outcome with
    | error e => exact hfirst
    | ok x => exact (hf x s').trans hfirst

theorem leaves_needing (hrefl : ∀ r, left r r) {x : Except FixError α} {f : α → Action β}
    (h : ∀ a, x = .ok a → Leaves left (f a)) : Leaves left (need x >>= f) := by
  cases x with
  | ok a => exact h a rfl
  | error e => exact leaves_fail hrefl e

end Action

/-! ### Included fixes -/

/-- Under `expression` no execution error comes out of an expression. -/
theorem Strictness.limited_guard_expression (a : Action Unit) :
    Limited FixError.Fatal False (expression.guard a) := by
  refine ⟨fun {s t e} hrun => ?_, fun hkeep => hkeep.elim⟩
  rw [run_guard] at hrun
  cases ha : a.run s with
  | mk outcome s' =>
    rw [ha] at hrun
    cases outcome with
    | ok u => cases hrun
    | error e' =>
      dsimp only at hrun
      split at hrun
      · cases hrun
      · rename_i hexecution
        cases hrun
        exact Bool.eq_false_iff.2 hexecution

/-- Nor out of a run of expressions, however deep it includes other fixes. -/
theorem limited_runAt_expression (registry : Registry) (depth : Nat) (es : List Expression) :
    Limited FixError.Fatal False (runAt registry .expression depth es) := by
  cases depth with
  | zero => exact limited_fail rfl
  | succ depth =>
    show Limited _ False (process registry .expression (runAt registry .expression depth) es)
    induction es with
    | nil => exact limited_pure ()
    | cons e es ih =>
      rw [process]
      exact limited_bind (Strictness.limited_guard_expression _) fun _ => ih

namespace Method

/-! ### Methods -/

private theorem limited_includeFix {included : List Expression → Action Unit}
    (h : ∀ es, Action.Limited FixError.Fatal False (included es)) (params : List String)
    (options : Options) : Action.Limited FixError.Fatal False (includeFix included params options) := by
  have hload : ∀ (env : Environment) path e, env.included path = .error e → e.isExecution = false := by
    intro env path e he
    unfold Environment.included at he
    dsimp only at he
    split at he
    · cases he
    · split at he
      · cases he
      · cases he
        rfl
  have hwith : ∀ path es, Action.Limited FixError.Fatal False (withFixFile path (included es)) := by
    refine fun path es => ⟨fun {s t e} hrun => ?_, fun hkeep => hkeep.elim⟩
    have houtcome : ((withFixFile path (included es)).run s).1 =
        ((included es).run { s with env := { s.env with fixFile := some path } }).1 := rfl
    rw [hrun] at houtcome
    cases hinner : (included es).run { s with env := { s.env with fixFile := some path } } with
    | mk outcome s' =>
      rw [hinner] at houtcome
      cases houtcome
      exact (h es).failure hinner
  refine limited_bind (tame_param _ _ _).fatal fun file => ?_
  refine limited_bind limited_getEnv fun env => limited_bind limited_getEnv fun env' => ?_
  refine limited_bind (limited_need (hload _ _)) fun found => ?_
  exact limited_bind (limited_setEnv _) fun _ => hwith _ _

private theorem limited_registerFileMap (file name : String) (options : Options) :
    Action.Limited FixError.Fatal False (registerFileMap file name options) := by
  have hseparator : ∀ e, readSeparator options = .error e → e.isExecution = false := by
    intro e he
    unfold readSeparator at he
    split at he
    · cases he
    · split at he
      · cases he
      · cases he
        rfl
  refine limited_bind limited_getEnv fun env => ?_
  split
  · exact limited_pure ()
  · refine limited_bind (limited_need hseparator) fun separator => ?_
    split
    · exact limited_setEnv _
    · exact limited_fail rfl

private theorem record_registerFileMap (file name : String) (options : Options) :
    ∀ s, ((registerFileMap file name options).run s).2.record = s.record := by
  refine record_bind (fun _ => rfl) fun env => ?_
  split
  · exact fun _ => rfl
  · refine record_bind (fun s => ?_) fun separator => ?_
    · cases readSeparator options <;> rfl
    · split
      · exact fun _ => rfl
      · exact fun _ => rfl

private theorem limited_putFilemap (included : List Expression → Action Unit) (params : List String)
    (options : Options) : Action.Limited FixError.Fatal False (putFilemap included params options) :=
  limited_bind (tame_param _ params 0).fatal fun _ => limited_registerFileMap _ _ options

private theorem limited_putMap (included : List Expression → Action Unit) (params : List String) (options : Options) :
    Action.Limited FixError.Fatal False (putMap included params options) :=
  limited_bind (tame_param _ params 0).fatal fun _ =>
    limited_bind limited_getEnv fun _ => limited_setEnv _

private theorem leaves_lookup (included : List Expression → Action Unit) (params : List String) (options : Options) :
    Leaves Eq (lookup included params options) := by
  cases hname : params[1]? with
  | none => exact (tame_lookupInline (List.getElem?_eq_none_iff.1 hname) included options).leaves
  | some name =>
    unfold lookup
    rw [hname]
    refine leaves_needing (fun _ => rfl) fun field _ => ?_
    refine leaves_bind (leaves_of_fatal (limited_registerFileMap name name options))
      (record_registerFileMap name name options) fun _ => ?_
    refine leaves_bind (leaves_of_fatal limited_getEnv) (fun _ => rfl) fun env => ?_
    split
    · exact leaves_fail (fun _ => rfl) _
    · exact leaves_of_fatal (limited_bind limited_getRecord fun r => limited_bind (limited_setEnv _) fun _ =>
        limited_settle fun _ => fatal_of_lookup)

private theorem leaves_random (included : List Expression → Action Unit) (params : List String) (options : Options) :
    Leaves Eq (random included params options) := by
  refine leaves_needing (fun _ => rfl) fun field _ => leaves_needing (fun _ => rfl) fun bound _ => ?_
  split
  · exact leaves_fail (fun _ => rfl) _
  · exact leaves_of_fatal (limited_bind limited_getEnv fun env => limited_bind (limited_setEnv _) fun _ =>
      (tame_changeValue fun r => r.set field _).fatal)

private theorem leaves_substring (included : List Expression → Action Unit) (params : List String) (options : Options) :
    Leaves Eq (substring included params options) :=
  leaves_needing (fun _ => rfl) fun _ _ => leaves_needing (fun _ => rfl) fun _ _ => (tame_mapTexts _ params _).leaves

/-- Records that are the same, or half changed under the first parameter. -/
def AtMostHalfChanged (params : List String) (r r' : Record) : Prop :=
  r' = r ∨ ∃ glob, params[0]? = some glob ∧ r.HalfChanged glob r'

/-- A change of whole values leaves the record as it was or half changed. -/
private theorem leaves_changeValue {params : List String} {command field : String}
    (hfield : param command params 0 = .ok field) (change : Value → Except FixError Value) :
    Leaves (AtMostHalfChanged params) (changeValue field change) := by
  intro s t e hrun he
  have hparam : params[0]? = some field := by
    unfold param at hfield
    split at hfield
    · rename_i p hp
      cases hfield
      exact hp
    · cases hfield
  unfold changeValue at hrun
  rw [run_settle] at hrun
  obtain ⟨houtcome, rfl⟩ := Prod.mk.inj hrun
  split at houtcome
  · cases houtcome
  · rename_i e' he'
    cases houtcome
    refine (transformValue_of_failure he' ?_ ?_).imp_right fun h => ⟨field, hparam, h⟩
    · rintro cause rfl
      cases he
    · intro v hv
      obtain ⟨w, -, hw⟩ := exists_of_map_eq_ok hv
      cases hw

private theorem leaves_needing_changeValue {command : String} {params : List String}
    {change : Value → Except FixError Value} :
    Leaves (AtMostHalfChanged params)
      (need (param command params 0) >>= fun field => changeValue field change) :=
  leaves_needing (fun _ => Or.inl rfl) fun _ hfield => leaves_changeValue hfield change

private theorem leaves_splitField (included : List Expression → Action Unit) (params : List String)
    (options : Options) : Leaves (AtMostHalfChanged params) (splitField included params options) :=
  leaves_needing (fun _ => Or.inl rfl) fun _ hfield => leaves_needing (fun _ => Or.inl rfl) fun _ _ =>
    leaves_changeValue hfield _

/-- A method that ends in an execution error is skipped under `expression`. The record is as it was before then, unless
the method is one of four that change whole values: these may leave it half changed under the glob that they got. -/
theorem half_changed_of_skipped {name : String} {m : Method} (hm : (name, m) ∈ all) (depth : Nat)
    (params : List String) (options : Options) {s t : Session} {e : FixError}
    (hrun : (m (runAt Registry.builtin .expression depth) params options).run s = (.error e, t))
    (he : e.isExecution = true) :
    (Strictness.expression.guard (m (runAt Registry.builtin .expression depth) params options)).run s = (.ok (), t) ∧
      (t.record = s.record ∨
        name ∈ ["join_field", "sort_field", "split_field", "sum"] ∧
          ∃ glob, params[0]? = some glob ∧ s.record.HalfChanged glob t.record) := by
  have hincluded := limited_runAt_expression Registry.builtin depth
  have hsame : Leaves Eq (m (runAt Registry.builtin .expression depth) params options) → t.record = s.record :=
    fun h => (h s t e hrun he).symm
  constructor
  · rw [Strictness.run_guard, hrun]
    dsimp only
    rw [if_pos he]
  · rcases tame_or_mem_untamed hm with htame | hm
    · exact Or.inl (hsame (htame _ _ _).leaves)
    · simp only [untamed, List.mem_cons, Prod.mk.injEq, List.not_mem_nil, or_false] at hm
      rcases hm with ⟨-, rfl⟩ | ⟨-, rfl⟩ | ⟨-, rfl⟩ | ⟨-, rfl⟩ | ⟨-, rfl⟩ | ⟨rfl, rfl⟩ | ⟨rfl, rfl⟩ | ⟨rfl, rfl⟩ |
        ⟨-, rfl⟩ | ⟨rfl, rfl⟩
      · exact Or.inl (hsame (leaves_of_fatal (limited_includeFix hincluded params options)))
      · exact Or.inl (hsame (leaves_of_fatal (limited_putFilemap _ params options)))
      · exact Or.inl (hsame (leaves_of_fatal (limited_putMap _ params options)))
      · exact Or.inl (hsame (leaves_random _ params options))
      · exact Or.inl (hsame (leaves_lookup _ params options))
      · exact (leaves_needing_changeValue s t e hrun he).imp_right fun h => ⟨by simp, h⟩
      · exact (leaves_needing_changeValue s t e hrun he).imp_right fun h => ⟨by simp, h⟩
      · exact (leaves_splitField _ params options s t e hrun he).imp_right fun h => ⟨by simp, h⟩
      · exact Or.inl (hsame (leaves_substring _ params options))
      · exact (leaves_needing_changeValue s t e hrun he).imp_right fun h => ⟨by simp, h⟩

private theorem exists_execution {x : Except FixError Unit}
    (h : (match x with | .error e => e.isExecution | .ok _ => false) = true) :
    ∃ e, x = .error e ∧ e.isExecution = true := by
  cases x with
  | error e => exact ⟨e, rfl, h⟩
  | ok u => cases h

/-- Adding up two fields of which the second does not hold integers. -/
theorem half_changed_of_skipped_sum :
    let s : Session := { record := .ofFields ⟨[("n1", textArray ["1", "2"]), ("n2", textArray ["x"])], none⟩ }
    let run := (sum (runAt Registry.builtin .expression 0) ["n?"] []).run s
    ∃ e, run = (.error e, run.2) ∧ e.isExecution = true ∧
      (Strictness.expression.guard (sum (runAt Registry.builtin .expression 0) ["n?"] [])).run s = (.ok (), run.2) ∧
      (run.2.record.fields.get? "n1").bind Value.text? = some "3" ∧ s.record.HalfChanged "n?" run.2.record := by
  intro s run
  obtain ⟨e, herror, he⟩ : ∃ e, run.1 = .error e ∧ e.isExecution = true := exists_execution (by decide +kernel)
  have hrun : run = (.error e, run.2) := Prod.ext herror rfl
  have hsum : (run.2.record.fields.get? "n1").bind Value.text? = some "3" := by decide +kernel
  have hchanged : run.2.record ≠ s.record := by
    intro hsame
    rw [hsame] at hsum
    exact absurd hsum (by decide)
  have hm : ("sum", sum) ∈ all := by simp [all]
  obtain ⟨hskipped, hcases⟩ := half_changed_of_skipped hm 0 ["n?"] [] hrun he
  obtain ⟨-, glob, hglob, hhalf⟩ := hcases.resolve_left hchanged
  cases hglob
  exact ⟨e, hrun, he, hskipped, hsum, hhalf⟩

/-- So a method that is skipped can have changed a field: here the first one is added up before the second fails. -/
theorem not_unchanged_of_skipped :
    ¬ ∀ (name : String) (m : Method), (name, m) ∈ all → ∀ (depth : Nat) (params : List String) (options : Options)
      (s t : Session) (e : FixError),
      (m (runAt Registry.builtin .expression depth) params options).run s = (.error e, t) →
      e.isExecution = true → t.record.fields = s.record.fields ∧ t.record.virtualFields = s.record.virtualFields := by
  intro h
  let s : Session := { record := .ofFields ⟨[("n1", textArray ["1", "2"]), ("n2", textArray ["x"])], none⟩ }
  let run := (sum (runAt Registry.builtin .expression 0) ["n?"] []).run s
  obtain ⟨e, herror, he⟩ : ∃ e, run.1 = .error e ∧ e.isExecution = true := exists_execution (by decide +kernel)
  have hfields := (h "sum" sum (by simp [all]) 0 ["n?"] [] s run.2 e (Prod.ext herror rfl) he).1
  have hbefore : (s.record.fields.get? "n1").bind Value.text? = none := by decide
  have hafter : (run.2.record.fields.get? "n1").bind Value.text? = some "3" := by decide +kernel
  rw [hfields, hbefore] at hafter
  cases hafter

end Method

end RecordFix
