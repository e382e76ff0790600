import RecordFix.Fix.Builtin
import RecordFix.Proofs.FieldChange

/-!
# What commands are made of

The methods other than the inclusion of a fix read the fields and the environment, change the fields (`FieldChange`),
put another environment in place, mark the record as rejected, or fail. An action that is put together from such steps
is plain (`Action.Plain`), and what holds of each step and of two in a row holds of every plain action.
-/

namespace RecordFix

open RecordFix.Action RecordFix.Record

/-- An action that is put together from the steps of commands. -/
inductive Action.Plain : {α : Type} → Action α → Prop
  | pure {α : Type} (x : α) : Plain (Pure.pure x)
  | fail {α : Type} (e : FixError) : Plain (Action.fail e : Action α)
  | bind {α β : Type} {a : Action α} {f : α → Action β} (first : Plain a) (next : ∀ x, Plain (f x)) : Plain (a >>= f)
  | getEnv : Plain Action.getEnv
  | setEnv (env : Environment) : Plain (Action.setEnv env)
  | read {α : Type} (f : Record → α) (unmarked : ∀ r b, f (r.marked b) = f r) :
      Plain (getRecord >>= fun r => Pure.pure (f r))
  | change {c : Record → Record × Option FixError} (fields : FieldChange c) :
      Plain (getRecord >>= fun r => settle (c r))
  | reject : Plain (getRecord >>= fun r => setRecord (r.marked true))

namespace Action.Plain

theorem need {α : Type} (x : Except FixError α) : Plain (Action.need x) := by
  cases x with
  | ok a => exact .pure a
  | error e => exact .fail e

/-- What is needed comes first. -/
theorem needing {α β : Type} {x : Except FixError α} {f : α → Action β} (h : ∀ a, Plain (f a)) :
    Plain (Action.need x >>= f) :=
  .bind (need x) h

theorem changeOnly {f : Record → Record} (h : FieldChange fun r => (f r, (none : Option FixError))) :
    Plain (getRecord >>= fun r => setRecord (f r)) := .change h

theorem settleValue {c : Record → Record × Option ValueError} (h : FieldChange c) :
    Plain (getRecord >>= fun r => Action.settleValue (c r)) :=
  .change (h.mapFailure FixError.value)

theorem swap {β : Type} {f : Record → Environment → Action β}
    (h : Plain (Action.getEnv >>= fun env => getRecord >>= fun r => f r env)) :
    Plain (getRecord >>= fun r => Action.getEnv >>= fun env => f r env) := h

/-- What is read from the fields decides what comes next. -/
theorem branch {α β : Type} (x : Record → α) (f : α → Record → Action β) (hx : ∀ r b, x (r.marked b) = x r)
    (h : ∀ a, Plain (getRecord >>= f a)) : Plain (getRecord >>= fun r => f (x r) r) := by
  have hread : Plain ((getRecord >>= fun r => Pure.pure (x r)) >>= fun a => getRecord >>= f a) := .bind (.read x hx) h
  exact hread

/-- An environment that depends on the fields is put in place before these are changed. -/
theorem setEnvAndChange {x : Record → Environment} {c : Record → Record × Option FixError}
    (hx : ∀ r b, x (r.marked b) = x r) (hc : FieldChange c) :
    Plain (getRecord >>= fun r => Action.setEnv (x r) >>= fun _ => settle (c r)) := by
  have hread : Plain ((getRecord >>= fun r => Pure.pure (x r)) >>= fun env =>
      Action.setEnv env >>= fun _ => getRecord >>= fun r => settle (c r)) :=
    .bind (.read x hx) fun env => .bind (.setEnv env) fun _ => .change hc
  exact hread

end Action.Plain

/-! ### Methods -/

/-- A method that does not run included fixes and whose actions are plain. -/
def Method.IsPlain (m : Method) : Prop :=
  ∃ a : List String → Options → Action Unit, (∀ included, m included = a) ∧ ∀ params options, (a params options).Plain

namespace Method

open RecordFix.Action.Plain

theorem IsPlain.of {a : List String → Options → Action Unit} (h : ∀ params options, (a params options).Plain) :
    IsPlain fun _ => a :=
  ⟨a, fun _ => rfl, h⟩

theorem isPlain_nothing : IsPlain nothing := .of fun _ _ => .pure ()

theorem plain_registerFileMap (file name : String) (options : Options) :
    (registerFileMap file name options).Plain := by
  refine .bind .getEnv fun env => ?_
  split
  · exact .pure ()
  · refine .needing fun separator => ?_
    split
    · exact .setEnv _
    · exact .fail _

theorem isPlain_putFilemap : IsPlain putFilemap := .of fun _ _ =>
  .needing fun file => plain_registerFileMap file _ _

theorem isPlain_putMap : IsPlain putMap := .of fun _ _ =>
  .needing fun _ => .bind .getEnv fun _ => .setEnv _

/-! ### Methods on records -/

theorem isPlain_addField : IsPlain addField := .of fun _ _ =>
  .needing fun field => .needing fun _ => .settleValue (.append field trivial)

theorem isPlain_setField : IsPlain setField := .of fun _ _ =>
  .needing fun field => .needing fun _ => .settleValue (.set field trivial)

private theorem distinct_texts (ts : List String) : ∀ v ∈ ts.map Value.ofString, v.Distinct := by
  intro v hv
  obtain ⟨t, -, rfl⟩ := List.mem_map.1 hv
  trivial

private theorem distinct_textArray (ts : List String) : (textArray ts).Distinct :=
  (Value.placed_ofList (distinct_texts ts)).distinct

theorem isPlain_setArray : IsPlain setArray := by
  refine .of fun params _ => .needing fun field => ?_
  dsimp only
  split
  · exact .settleValue (.appendAll _ (distinct_texts _))
  · exact .settleValue (.set field (distinct_textArray _))

theorem isPlain_setHash : IsPlain setHash := by
  refine .of fun params options => .needing fun field => ?_
  have hmade : (Hash.ofList (options.map fun f => (f.1, Value.ofString f.2))).toValue.Distinct := by
    refine (Hash.placed_ofList fun f hf => ?_).distinct
    obtain ⟨f, -, rfl⟩ := List.mem_map.1 hf
    trivial
  dsimp only
  split
  · exact .settleValue (.set field hmade)
  · rename_i base _
    refine branch (fun r => r.get base) (putBehind base _) (fun _ _ => rfl) fun found => ?_
    unfold putBehind
    split
    · exact .change (.keep (some _))
    · exact .settleValue (.append base hmade)
    · exact .settleValue (.set base hmade)

theorem isPlain_copyField : IsPlain copyField := .of fun _ _ =>
  .needing fun source => .needing fun target => .settleValue (.copyField source target)

theorem isPlain_moveField : IsPlain moveField := .of fun _ _ =>
  .needing fun source => .needing fun target => by
    have hmove : Action.Plain ((getRecord >>= fun r => Action.settleValue (r.copyField source target)) >>= fun _ =>
        getRecord >>= fun r => setRecord (r.remove source)) :=
      .bind (.settleValue (.copyField source target)) fun _ => .changeOnly (.remove source)
    exact hmove

theorem isPlain_removeField : IsPlain removeField := .of fun params _ => .changeOnly (.removeAll params)

theorem isPlain_retain : IsPlain retain := .of fun params _ => .changeOnly (.retain params)

theorem isPlain_reject : IsPlain reject := .of fun _ _ => .reject

theorem isPlain_vacuum : IsPlain vacuum := .of fun _ _ => .changeOnly .vacuum

theorem isPlain_paste : IsPlain paste := by
  refine .of fun params options => .needing fun target => ?_
  refine branch (fun r => (params.drop 1).mapM (pasted r)) (fun parts record => Action.need parts >>= fun parts =>
    Action.settleValue (record.set target
      (Value.ofString (((options.lookup "join_char").getD " ").intercalate parts.flatten))))
    (fun _ _ => rfl) fun parts => ?_
  cases parts with
  | ok parts => exact .settleValue (.set target trivial)
  | error e => exact .change (.keep (some e))

theorem isPlain_random : IsPlain random := by
  refine .of fun params _ => .needing fun field => .needing fun bound => ?_
  split
  · exact .fail _
  · exact .bind .getEnv fun env => .bind (.setEnv _) fun _ => .settleValue (.set field trivial)

/-! ### Methods on values -/

/-- Whether a change of values makes values without repeated names. -/
def Clean (change : Value → Except FixError Value) : Prop := ∀ v w, v.Distinct → change v = .ok w → w.Distinct

theorem plain_changeValue {change : Value → Except FixError Value} (h : Clean change) (field : String) :
    (changeValue field change).Plain := by
  refine .change (.transformValue FixError.value (fun v w hv hw => ?_) field)
  obtain ⟨u, hu, huw⟩ := exists_of_map_eq_ok hw
  exact h v w hv (Option.some.inj huw ▸ hu)

theorem isPlain_format : IsPlain format := .of fun _ _ =>
  .needing fun field => .needing fun _ => plain_changeValue (fun _ _ _ hw => by cases hw; trivial) field

theorem isPlain_array : IsPlain array := by
  refine .of fun _ _ => .needing fun field => plain_changeValue (fun v w hv hw => ?_) field
  split at hw
  · rename_i fields p
    cases hw
    refine (Value.placed_ofList fun u hu => ?_).distinct
    obtain ⟨f, hf, hu⟩ := List.mem_flatMap.1 hu
    rcases List.mem_cons.1 hu with rfl | hu
    · trivial
    · rw [List.mem_singleton.1 hu]
      exact Value.distinctFields_iff.1 hv.2 f hf
  · cases hw
    exact hv

private theorem distinct_pairUp : ∀ {items : List Value}, (∀ v ∈ items, v.Distinct) →
    ∀ f ∈ pairUp items, f.2.Distinct
  | [], _, _, hf | [_], _, _, hf => nomatch hf
  | k :: v :: rest, h, f, hf => by
    rw [List.forall_mem_cons, List.forall_mem_cons] at h
    rcases List.mem_cons.1 hf with rfl | hf
    · exact h.2.1
    · exact distinct_pairUp h.2.2 f hf

theorem isPlain_hash : IsPlain hash := by
  refine .of fun _ _ => .needing fun field => plain_changeValue (fun v w hv hw => ?_) field
  split at hw
  · cases hw
    exact (Hash.placed_ofList (distinct_pairUp (Value.distinctItems_iff.1 hv))).distinct
  · cases hw
    exact hv

mutual

theorem distinct_renameKeys (newName : String → String) : ∀ v : Value, (renameKeys newName v).Distinct
  | .string _ _ => trivial
  | .array items _ => (Value.placed_ofList (distinct_renameItems newName items)).distinct
  | .hash fields _ => (Hash.placed_ofList (distinct_renameFields newName fields)).distinct

theorem distinct_renameItems (newName : String → String) :
    ∀ vs : List Value, ∀ w ∈ renameItems newName vs, w.Distinct
  | [] => fun _ hw => nomatch hw
  | v :: vs => List.forall_mem_cons.2 ⟨distinct_renameKeys newName v, distinct_renameItems newName vs⟩

theorem distinct_renameFields (newName : String → String) :
    ∀ fs : List (String × Value), ∀ f ∈ renameFields newName fs, f.2.Distinct
  | [] => fun _ hf => nomatch hf
  | (_, v) :: fs => List.forall_mem_cons.2 ⟨distinct_renameKeys newName v, distinct_renameFields newName fs⟩

end

theorem isPlain_rename : IsPlain rename := by
  refine .of fun _ _ => .needing fun field => .needing fun p => .needing fun replacement =>
    plain_changeValue (fun v w hv hw => ?_) field
  split at hw
  · cases hw
  · cases hw
    exact distinct_renameKeys _ v

private theorem distinct_parsedGroups (p : Pattern) (m : Pattern.Match) : ∀ v ∈ parsedGroups p m, v.Distinct := by
  intro v hv
  unfold parsedGroups at hv
  dsimp only at hv
  split at hv
  · obtain ⟨i, -, rfl⟩ := List.mem_map.1 hv
    trivial
  · rw [List.mem_singleton.1 hv]
    refine (Hash.placed_ofList fun f hf => ?_).distinct
    obtain ⟨n, -, hn⟩ := List.mem_filterMap.1 hf
    obtain ⟨t, -, rfl⟩ := Option.map_eq_some_iff.1 hn
    trivial

theorem isPlain_parseText : IsPlain parseText := by
  refine .of fun _ _ => .needing fun field => .needing fun p => .change (.transformValue _ (fun v w hv hw => ?_) field)
  dsimp only at hw
  rw [Except.ok.injEq] at hw
  split at hw
  · cases hw
    exact hv
  · refine Value.distinct_merge (fun u hu => ?_) w hw
    obtain ⟨item, -, hu⟩ := List.mem_flatMap.1 hu
    split at hu
    · exact distinct_parsedGroups p _ u hu
    · cases hu

/-! ### Methods on whole values -/

private theorem distinct_filter {items : List Value} (h : ∀ v ∈ items, v.Distinct) (p : Value → Bool) :
    (Value.ofList (items.filter p)).Distinct :=
  (Value.placed_ofList fun v hv => h v (List.mem_filter.1 hv).1).distinct

theorem isPlain_count : IsPlain count := by
  refine .of fun _ _ => .needing fun field => plain_changeValue (fun v w hv hw => ?_) field
  split at hw <;> cases hw
  · trivial
  · trivial
  · exact hv

theorem isPlain_filter : IsPlain filter := by
  refine .of fun _ _ => .needing fun field => .needing fun p => plain_changeValue (fun v w hv hw => ?_) field
  split at hw <;> cases hw
  · exact distinct_filter (Value.distinctItems_iff.1 hv) _
  · exact hv

theorem isPlain_joinField : IsPlain joinField := by
  refine .of fun _ _ => .needing fun field => plain_changeValue (fun v w hv hw => ?_) field
  split at hw
  · obtain ⟨texts, -, hw⟩ := exists_of_bind_eq_ok hw
    cases hw
    trivial
  · cases hw
    exact hv

theorem isPlain_reverse : IsPlain reverse := by
  refine .of fun _ _ => .needing fun field => plain_changeValue (fun v w hv hw => ?_) field
  split at hw <;> cases hw
  · exact (Value.placed_ofList fun u hu => Value.distinctItems_iff.1 hv u (List.mem_reverse.1 hu)).distinct
  · trivial
  · exact hv

theorem isPlain_sortField : IsPlain sortField := by
  refine .of fun _ _ => .needing fun field => plain_changeValue (fun v w hv hw => ?_) field
  split at hw
  · obtain ⟨texts, -, hw⟩ := exists_of_bind_eq_ok hw
    dsimp only at hw
    split at hw
    · obtain ⟨sorted, -, hw⟩ := exists_of_bind_eq_ok hw
      cases hw
      exact distinct_textArray _
    · cases hw
      exact distinct_textArray _
  · cases hw
    exact hv

private theorem forall_of_mapM_eq_ok {α β ε : Type} {f : α → Except ε β} {P : β → Prop}
    (hf : ∀ a b, f a = .ok b → P b) {xs : List α} {ys : List β} (h : xs.mapM f = .ok ys) : ∀ y ∈ ys, P y := by
  induction xs generalizing ys with
  | nil =>
    cases h
    intro y hy
    cases hy
  | cons x xs ih =>
    rw [List.mapM_cons] at h
    obtain ⟨y, hy, h⟩ := exists_of_bind_eq_ok h
    obtain ⟨ys, hys, h⟩ := exists_of_bind_eq_ok h
    cases h
    exact List.forall_mem_cons.2 ⟨hf x y hy, ih hys⟩

theorem isPlain_splitField : IsPlain splitField := by
  refine .of fun _ _ => .needing fun field => .needing fun p => plain_changeValue (fun v w hv hw => ?_) field
  split at hw
  · cases hw
    exact distinct_textArray _
  · obtain ⟨texts, -, hw⟩ := exists_of_bind_eq_ok hw
    cases hw
    refine (Value.placed_ofList fun u hu => ?_).distinct
    obtain ⟨t, -, rfl⟩ := List.mem_map.1 hu
    exact distinct_textArray _
  · obtain ⟨pieces, hpieces, hw⟩ := exists_of_bind_eq_ok hw
    cases hw
    refine (Hash.placed_ofList (forall_of_mapM_eq_ok (fun f g hg => ?_) hpieces)).distinct
    obtain ⟨t, -, hg⟩ := exists_of_bind_eq_ok hg
    cases hg
    exact distinct_textArray _

theorem isPlain_sum : IsPlain sum := by
  refine .of fun _ _ => .needing fun field => plain_changeValue (fun v w hv hw => ?_) field
  split at hw
  · obtain ⟨texts, -, hw⟩ := exists_of_bind_eq_ok hw
    obtain ⟨total, -, hw⟩ := exists_of_bind_eq_ok hw
    cases hw
    trivial
  · cases hw
    exact hv

private theorem mem_of_mem_distinct {α : Type} (same : α → α → Bool) {x : α} :
    ∀ {seen xs : List α}, x ∈ distinct same seen xs → x ∈ xs
  | _, [], h => nomatch h
  | seen, y :: ys, h => by
    unfold distinct at h
    split at h
    · exact List.mem_cons_of_mem y (mem_of_mem_distinct same h)
    · rcases List.mem_cons.1 h with rfl | h
      · exact List.mem_cons_self
      · exact List.mem_cons_of_mem y (mem_of_mem_distinct same h)

theorem isPlain_uniq : IsPlain uniq := by
  refine .of fun _ _ => .needing fun field => plain_changeValue (fun v w hv hw => ?_) field
  split at hw <;> cases hw
  · exact (Value.placed_ofList fun u hu =>
      Value.distinctItems_iff.1 hv u (mem_of_mem_distinct Value.same hu)).distinct
  · exact hv

/-! ### Methods on texts -/

theorem plain_mapTexts (command : String) (params : List String) (change : String → String) :
    (mapTexts command params change).Plain :=
  .needing fun field => .change (.transform FixError.value _ field ())

theorem isPlain_append : IsPlain append := .of fun params _ => .needing fun _ => plain_mapTexts _ params _

theorem isPlain_prepend : IsPlain prepend := .of fun params _ => .needing fun _ => plain_mapTexts _ params _

theorem isPlain_capitalize : IsPlain capitalize := .of fun params _ => plain_mapTexts _ params _

theorem isPlain_downcase : IsPlain downcase := .of fun params _ => plain_mapTexts _ params _

theorem isPlain_upcase : IsPlain upcase := .of fun params _ => plain_mapTexts _ params _

theorem isPlain_trim : IsPlain trim := .of fun params _ => plain_mapTexts _ params _

theorem isPlain_index : IsPlain index := .of fun params _ => .needing fun _ => plain_mapTexts _ params _

theorem isPlain_replaceAll : IsPlain replaceAll := .of fun params _ =>
  .needing fun _ => .needing fun _ => plain_mapTexts _ params _

theorem isPlain_substring : IsPlain substring := .of fun params _ =>
  .needing fun _ => .needing fun _ => plain_mapTexts _ params _

theorem isPlain_lookup : IsPlain lookup := by
  refine .of fun params options => .needing fun field => ?_
  split
  · refine swap (.bind .getEnv fun env => ?_)
    exact .change (.transform FixError.value (lookupEdit env.files) field (.inline options))
  · rename_i name _
    refine .bind (plain_registerFileMap name name options) fun _ => .bind .getEnv fun env => ?_
    split
    · exact .fail _
    · rename_i m _
      let edited (r : Record) := r.transform FixError.value (lookupEdit env.files) field m
      let mapsAfter (r : Record) := env.maps.put name (edited r).state
      have hmaps : ∀ r b, mapsAfter (r.marked b) = mapsAfter r := fun _ _ => rfl
      exact setEnvAndChange (x := fun r => { env with maps := mapsAfter r }) (fun r b => by rw [hmaps])
        (.transform FixError.value (lookupEdit env.files) field m)

/-- All methods but the inclusion of a fix are plain. -/
theorem isPlain_of_mem {name : String} {m : Method} (h : (name, m) ∈ all) :
    (name = "include" ∧ m = includeFix) ∨ m.IsPlain := by
  have hothers : ∀ c ∈ all.tail, c.2.IsPlain := by
    simp only [all, List.tail_cons, List.forall_mem_cons]
    exact ⟨isPlain_nothing, isPlain_putFilemap, isPlain_putMap, isPlain_addField, isPlain_array, isPlain_copyField,
      isPlain_format, isPlain_hash, isPlain_moveField, isPlain_parseText, isPlain_paste, isPlain_random,
      isPlain_reject, isPlain_removeField, isPlain_rename, isPlain_retain, isPlain_setArray, isPlain_setField,
      isPlain_setHash, isPlain_vacuum, isPlain_append, isPlain_capitalize, isPlain_count, isPlain_downcase,
      isPlain_filter, isPlain_index, isPlain_joinField, isPlain_lookup, isPlain_prepend, isPlain_replaceAll,
      isPlain_reverse, isPlain_sortField, isPlain_splitField, isPlain_substring, isPlain_sum, isPlain_trim,
      isPlain_uniq, isPlain_upcase, List.forall_mem_nil _⟩
  rcases List.mem_cons.1 h with h | h
  · exact Or.inl (Prod.mk.inj h)
  · exact Or.inr (hothers (name, m) h)

end Method

end RecordFix
