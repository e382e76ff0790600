import RecordFix.Proofs.Congruence

/-!
# Runs that follow each other

Two actions follow each other if, from sessions that differ at most in the mark of a rejected record, they end alike and
in such sessions again, unless the first ends in an error that is let go (`Action.Follows`). Runs of expressions
respect this if what the two strictnesses make of an error does (`congruence_follows`).
-/

namespace RecordFix

open RecordFix.Action RecordFix.Record

/-- Records with the same fields. The marks are the same too, or they may differ and the first is set. -/
structure Record.Near (loose : Prop) (r r' : Record) : Prop where
  fields : r.fields = r'.fields
  virtualFields : r.virtualFields = r'.virtualFields
  mark : r.rejected = r'.rejected ∨ loose ∧ r.rejected = true

/-- Sessions whose records are near and that share the environment. -/
structure Session.Near (loose : Prop) (s t : Session) : Prop where
  record : s.record.Near loose t.record
  env : s.env = t.env

theorem Session.Near.eq {s t : Session} (h : s.Near False t) : s = t := by
  obtain ⟨⟨hfields, hvirtual, hmark⟩, henv⟩ := h
  cases s with
  | mk r env =>
    cases t with
    | mk r' env' =>
      cases r
      cases r'
      cases hfields
      cases hvirtual
      cases henv
      rcases hmark with hmark | ⟨hfalse, -⟩
      · cases hmark
        rfl
      · exact hfalse.elim

/-- Outcomes that are the same error, or values that belong together. -/
def Agree {α β : Type} (S : α → β → Prop) : Except FixError α → Except FixError β → Prop
  | .ok x, .ok y => S x y
  | .error e, .error e' => e = e'
  | _, _ => False

theorem Agree.cases {α β : Type} {S : α → β → Prop} {x : Except FixError α} {y : Except FixError β} (h : Agree S x y) :
    (∃ e, x = .error e ∧ y = .error e) ∨ ∃ a b, x = .ok a ∧ y = .ok b ∧ S a b := by
  cases x with
  | error e =>
    cases y with
    | error e' => exact Or.inl ⟨e, rfl, congrArg Except.error (Eq.symm h)⟩
    | ok b => exact h.elim
  | ok a =>
    cases y with
    | error e' => exact h.elim
    | ok b => exact Or.inr ⟨a, b, rfl, rfl, h⟩

theorem Agree.eq {α : Type} {x y : Except FixError α} (h : Agree Eq x y) : x = y := by
  rcases h.cases with ⟨e, rfl, rfl⟩ | ⟨a, b, rfl, rfl, hab⟩
  · rfl
  · exact congrArg Except.ok hab

theorem Agree.refl {α : Type} (x : Except FixError α) : Agree Eq x x := by
  cases x <;> rfl

/-- Whether the second action ends as the first does, with results that belong together, unless this ends in an error
that is let go. -/
def Action.Follows (loose : Prop) (letGo : FixError → Prop) {α β : Type} (S : α → β → Prop) (a : Action α)
    (b : Action β) : Prop :=
  ∀ s t : Session, s.Near loose t →
    (∃ e, (a.run s).1 = .error e ∧ letGo e) ∨
      Agree S (a.run s).1 (b.run t).1 ∧ (a.run s).2.Near loose (b.run t).2

namespace Record.Near

variable {loose : Prop} {r r' : Record}

theorem refl (r : Record) : r.Near loose r := ⟨rfl, rfl, Or.inl rfl⟩

theorem eq_marked (h : r.Near loose r') : r = r'.marked r.rejected := by
  obtain ⟨hfields, hvirtual, -⟩ := h
  cases r
  cases r'
  cases hfields
  cases hvirtual
  rfl

theorem reject (h : r.Near loose r') : (r.marked true).Near loose (r'.marked true) :=
  ⟨h.fields, h.virtualFields, Or.inl rfl⟩

/-- A mark that comes from inner records. -/
theorem or {b b' : Bool} (h : r.Near loose r') (hb : b = b' ∨ loose ∧ b = true) :
    (r.marked (b || r.rejected)).Near loose (r'.marked (b' || r'.rejected)) := by
  refine ⟨h.fields, h.virtualFields, ?_⟩
  show (b || r.rejected) = (b' || r'.rejected) ∨ loose ∧ (b || r.rejected) = true
  rcases hb with rfl | ⟨hloose, rfl⟩
  · rcases h.mark with hr | ⟨hloose, hr⟩
    · exact Or.inl (by rw [hr])
    · exact Or.inr ⟨hloose, by rw [hr, Bool.or_true]⟩
  · exact Or.inr ⟨hloose, Bool.true_or _⟩

/-- A change that has nothing to do with the mark. -/
theorem change {ε : Type} {c : Record → Record × Option ε} (hc : ∀ r b, c (r.marked b) = ((c r).1.marked b, (c r).2))
    (h : r.Near loose r') : (c r).1.Near loose (c r').1 ∧ (c r).2 = (c r').2 := by
  have hkept : (c r').1 = (c r').1.marked r'.rejected := congrArg Prod.fst (hc r' r'.rejected)
  have hmark : (c r').1.rejected = r'.rejected := by
    rw [hkept]
    rfl
  rw [h.eq_marked, hc]
  refine ⟨⟨rfl, rfl, ?_⟩, rfl⟩
  rw [hmark]
  exact h.mark

end Record.Near

theorem Session.Near.refl {loose : Prop} (s : Session) : s.Near loose s := ⟨.refl s.record, rfl⟩

namespace Action

variable {loose : Prop} {letGo : FixError → Prop} {α β α' β' : Type} {S : α → α' → Prop} {T : β → β' → Prop}

/-! ### Steps -/

theorem follows_pure {x : α} {y : α'} (h : S x y) : Follows loose letGo S (pure x) (pure y) :=
  fun _ _ hst => Or.inr ⟨h, hst⟩

theorem follows_fail (e : FixError) : Follows loose letGo S (fail e) (fail e) :=
  fun _ _ hst => Or.inr ⟨rfl, hst⟩

theorem follows_need (x : Except FixError α) : Follows loose letGo Eq (need x) (need x) := by
  cases x with
  | ok a => exact follows_pure rfl
  | error e => exact follows_fail e

theorem follows_bind {a : Action α} {b : Action α'} {f : α → Action β} {g : α' → Action β'}
    (hab : Follows loose letGo S a b) (hfg : ∀ x y, S x y → Follows loose letGo T (f x) (g y)) :
    Follows loose letGo T (a >>= f) (b >>= g) := by
  intro s t hst
  have hrun := hab s t hst
  rw [run_bind, run_bind]
  cases ha : a.run s with
  | mk outcome s' =>
    cases hb : b.run t with
    | mk outcome' t' =>
      rw [ha, hb] at hrun
      rcases hrun with ⟨e, he, hgo⟩ | ⟨hagree, hnear⟩
      · cases he
        exact Or.inl ⟨e, rfl, hgo⟩
      · rcases hagree.cases with ⟨e, rfl, rfl⟩ | ⟨x, y, rfl, rfl, hxy⟩
        · exact Or.inr ⟨rfl, hnear⟩
        · exact hfg x y hxy s' t' hnear

theorem follows_getRecord : Follows loose letGo (Record.Near loose) getRecord getRecord :=
  fun _ _ hst => Or.inr ⟨hst.record, hst⟩

theorem follows_getEnv : Follows loose letGo Eq getEnv getEnv :=
  fun _ _ hst => Or.inr ⟨hst.env, hst⟩

theorem follows_setEnv (env : Environment) : Follows loose letGo Eq (setEnv env) (setEnv env) :=
  fun _ _ hst => Or.inr ⟨rfl, hst.record, rfl⟩

theorem follows_setRecord {r r' : Record} (h : r.Near loose r') :
    Follows loose letGo Eq (setRecord r) (setRecord r') :=
  fun _ _ hst => Or.inr ⟨rfl, h, hst.env⟩

theorem follows_change {c : Record → Record × Option FixError}
    (hc : ∀ r b, c (r.marked b) = ((c r).1.marked b, (c r).2)) :
    Follows loose letGo Eq (getRecord >>= fun r => settle (c r)) (getRecord >>= fun r => settle (c r)) := by
  intro s t hst
  obtain ⟨hnear, hfailure⟩ := hst.record.change hc
  rw [run_settle, run_settle, hfailure]
  refine Or.inr ⟨?_, hnear, hst.env⟩
  cases (c t.record).2 <;> rfl

theorem Plain.follows {a : Action α} (h : Plain a) : Follows loose letGo Eq a a := by
  induction h with
  | pure x => exact follows_pure rfl
  | fail e => exact follows_fail e
  | bind _ _ ih₁ ih₂ => exact follows_bind ih₁ fun x y hxy => hxy ▸ ih₂ x
  | getEnv => exact follows_getEnv
  | setEnv env => exact follows_setEnv env
  | read f hf =>
    refine follows_bind follows_getRecord fun r r' hr => follows_pure ?_
    rw [hr.eq_marked, hf]
  | change hc => exact follows_change hc.marked
  | reject => exact follows_bind follows_getRecord fun r r' hr => follows_setRecord hr.reject

end Action

/-! ### Commands with blocks -/

section

variable {loose : Prop} {letGo : FixError → Prop} {block block' : Action Unit}

/-- Including a fix: the file of the running fix is put back in both. -/
theorem Method.follows_includeFix {included included' : List Expression → Action Unit}
    (h : ∀ es, Follows loose letGo Eq (included es) (included' es)) (params : List String) (options : Options) :
    Follows loose letGo Eq (includeFix included params options) (includeFix included' params options) := by
  have hfile : ∀ path es,
      Follows loose letGo Eq (withFixFile path (included es)) (withFixFile path (included' es)) := by
    intro path es s t hst
    have henv : ({ s.env with fixFile := some path } : Environment) = { t.env with fixFile := some path } := by
      rw [hst.env]
    rcases h es { s with env := { s.env with fixFile := some path } }
      { t with env := { t.env with fixFile := some path } } ⟨hst.record, henv⟩ with ⟨e, he, hgo⟩ | ⟨hagree, hnear⟩
    · exact Or.inl ⟨e, he, hgo⟩
    · refine Or.inr ⟨hagree, hnear.record, ?_⟩
      have hafter : ∀ {env env' : Environment} {file file' : Option String}, env = env' → file = file' →
          ({ env with fixFile := file } : Environment) = { env' with fixFile := file' } := by
        rintro _ _ _ _ rfl rfl
        rfl
      exact hafter hnear.env (congrArg Environment.fixFile hst.env)
  refine follows_bind (follows_need _) fun file _ hfileEq => ?_
  subst hfileEq
  refine follows_bind follows_getEnv fun env _ henv => ?_
  subst henv
  refine follows_bind follows_getEnv fun env' _ henv => ?_
  subst henv
  refine follows_bind (follows_need _) fun found _ hfound => ?_
  subst hfound
  exact follows_bind (follows_setEnv _) fun _ _ _ => hfile _ _

namespace Bind

theorem follows_withScope (h : Follows loose letGo Eq block block') (v : Value) :
    Follows loose letGo Eq (withScope v block) (withScope v block') := by
  cases v with
  | string t o => exact follows_fail _
  | array items o => exact follows_fail _
  | hash fields o =>
    intro s t hst
    have hinner := h { s with record := Record.ofFields ⟨fields, o⟩ } { t with record := Record.ofFields ⟨fields, o⟩ }
      ⟨.refl _, hst.env⟩
    rw [run_withScope, run_withScope]
    cases hs : block.run { s with record := Record.ofFields ⟨fields, o⟩ } with
    | mk outcome s' =>
      cases ht : block'.run { t with record := Record.ofFields ⟨fields, o⟩ } with
      | mk outcome' t' =>
        rw [hs, ht] at hinner
        rcases hinner with ⟨e, rfl, hgo⟩ | ⟨hagree, hnear⟩
        · exact Or.inl ⟨e, rfl, hgo⟩
        · rcases hagree.cases with ⟨e, rfl, rfl⟩ | ⟨u, u', rfl, rfl, -⟩
          · exact Or.inr ⟨rfl, hst.record, hnear.env⟩
          -- the mark of the inner record is passed on to the outer one
          · have hrecord : s'.record.Near loose t'.record := hnear.record
            have hfields : s'.record.fields.toValue = t'.record.fields.toValue := congrArg Hash.toValue hrecord.fields
            exact Or.inr ⟨hfields, hst.record.or hrecord.mark, hnear.env⟩

theorem follows_withVariable (h : Follows loose letGo Eq block block') (name : String) (v : Value) :
    Follows loose letGo Eq (withVariable name v block) (withVariable name v block') := by
  intro s t hst
  have hput : (s.record.put name v).Near loose (t.record.put name v) :=
    ⟨congrArg (Hash.put · name v) hst.record.fields, hst.record.virtualFields, hst.record.mark⟩
  have hhidden : s.record.fields.get? name = t.record.fields.get? name := congrArg (Hash.get? · name) hst.record.fields
  have hrun := h { s with record := s.record.put name v } { t with record := t.record.put name v } ⟨hput, hst.env⟩
  rw [run_withVariable, run_withVariable]
  cases hs : block.run { s with record := s.record.put name v } with
  | mk outcome s' =>
    cases ht : block'.run { t with record := t.record.put name v } with
    | mk outcome' t' =>
      rw [hs, ht] at hrun
      rcases hrun with ⟨e, rfl, hgo⟩ | ⟨hagree, hnear⟩
      · exact Or.inl ⟨e, rfl, hgo⟩
      · have hrecord : s'.record.Near loose t'.record := hnear.record
        refine Or.inr ⟨?_, ?_, hnear.env⟩
        · rcases hagree.cases with ⟨e, rfl, rfl⟩ | ⟨u, u', rfl, rfl, -⟩
          · exact rfl
          · exact congrArg (Hash.get? · name) hrecord.fields
        · rw [hhidden]
          refine (hrecord.change (c := fun r => ((unbind name _ r).2, (none : Option FixError))) fun r b => ?_).1
          cases t.record.fields.get? name <;> rfl

theorem writeBack_marked (path : String) (position : Nat) (v : Value) (r : Record) (b : Bool) :
    writeBack (r.marked b) path position v = (writeBack r path position v).marked b := by
  have hslot : (r.marked b).slot? path = r.slot? path := rfl
  have hfill : ∀ w, (r.marked b).fillSlot path w = (r.fillSlot path w).marked b := by
    intro w
    have hfields : (r.marked b).fields = r.fields := rfl
    simp only [Record.fillSlot, hfields]
    split <;> rfl
  simp only [writeBack, hslot, hfill]
  split
  · rfl
  · rfl
  · split <;> rfl

private theorem follows_writeBackAnd {rest rest' : Action Unit} (h : Follows loose letGo Eq rest rest') (path : String)
    (position : Nat) (w : Value) :
    Follows loose letGo Eq (writeBackAnd path position rest w) (writeBackAnd path position rest' w) := by
  refine follows_bind follows_getRecord fun r r' hr => follows_bind (follows_setRecord ?_) fun _ _ _ => h
  exact (hr.change (c := fun r => (writeBack r path position w, (none : Option FixError))) fun r b => by
    rw [writeBack_marked]).1

theorem follows_forEach (h : Follows loose letGo Eq block block') (path : String) (var? : Option String)
    (position : Nat) (vs : List Value) :
    Follows loose letGo Eq (forEach path var? block position vs) (forEach path var? block' position vs) := by
  induction vs generalizing position with
  | nil => exact follows_pure rfl
  | cons v vs ih =>
    cases var? with
    | some name =>
      rw [forEach_variable, forEach_variable]
      refine follows_bind (follows_withVariable h name v) fun bound _ hbound => ?_
      subst hbound
      cases bound with
      | none => exact ih _
      | some w => exact follows_writeBackAnd (ih _) path position w
    | none =>
      rw [forEach_scope, forEach_scope]
      refine follows_bind (follows_withScope h v) fun w _ hw => ?_
      subst hw
      exact follows_writeBackAnd (ih _) path position w

theorem follows_list (h : Follows loose letGo Eq block block') (params : List String) (options : Options) :
    Follows loose letGo Eq (list block params options) (list block' params options) := by
  unfold list
  split
  · exact follows_fail _
  · rename_i path _
    refine follows_bind follows_getRecord fun r r' hr => ?_
    have hget : r.get path = r'.get path := by
      rw [hr.eq_marked]
      rfl
    rw [hget]
    cases r'.get path with
    | error e => exact follows_fail _
    | ok found =>
      cases found with
      | none => exact follows_pure rfl
      | some v => exact follows_forEach h path _ 0 _

end Bind

end

/-! ### Conditions -/

namespace Conditional

/-- Whether a conditional does not look at the mark. -/
def Unmarked (c : Conditional) : Prop :=
  ∀ (r : Record) (b : Bool) (params : List String) (options : Options),
    c (r.marked b) params options = c r params options

private theorem quantify_marked (q : Quantifier) (r : Record) (b : Bool) (fields : String) (test : String → Bool) :
    quantify q (r.marked b) fields test = quantify q r fields test := rfl

theorem unmarked_compareTexts (command : String) (q : Quantifier) (test : String → String → Bool) :
    Unmarked (compareTexts command q test) := fun r b params _ => by
  simp only [compareTexts, quantify_marked]

theorem unmarked_matchTexts (command : String) (q : Quantifier) : Unmarked (matchTexts command q) :=
  fun r b params _ => by simp only [matchTexts, quantify_marked]

theorem unmarked_testTexts (command : String) (test : String → Bool) : Unmarked (testTexts command test) :=
  fun r b params _ => by simp only [testTexts, quantify_marked]

theorem unmarked_compareNumbers (command : String) (test : Binary64 → Binary64 → Bool) :
    Unmarked (compareNumbers command test) := fun r b params _ => by
  simp only [compareNumbers, quantify_marked]

theorem Unmarked.negate {c : Conditional} (h : Unmarked c) : Unmarked (negate c) := fun r b params options => by
  simp only [Conditional.negate, h r b params options]

theorem unmarked_fieldExists : Unmarked fieldExists := fun _ _ _ _ => rfl

theorem unmarked_fieldIsEmpty : Unmarked fieldIsEmpty := fun _ _ _ _ => rfl

theorem unmarked_of_mem {name : String} {c : Conditional} (h : (name, c) ∈ all) : Unmarked c := by
  have hall : ∀ d ∈ all, Unmarked d.2 := by
    simp only [all, List.forall_mem_cons]
    exact ⟨unmarked_compareTexts _ _ _, unmarked_compareTexts _ _ _, (unmarked_compareTexts _ _ _).negate,
      unmarked_compareTexts _ _ _, unmarked_compareTexts _ _ _, (unmarked_compareTexts _ _ _).negate,
      unmarked_matchTexts _ _, unmarked_matchTexts _ _, (unmarked_matchTexts _ _).negate, unmarked_fieldExists,
      unmarked_testTexts _ _, unmarked_testTexts _ _, unmarked_testTexts _ _, unmarked_fieldIsEmpty,
      unmarked_compareNumbers _ _, unmarked_compareNumbers _ _, List.forall_mem_nil _⟩
  exact hall (name, c) h

end Conditional

section

variable {loose : Prop} {letGo : FixError → Prop}

/-- Actions that leave the session as it is. -/
theorem follows_unchanged {α : Type} {f : Session → Except FixError α}
    (hf : ∀ s t : Session, s.Near loose t → f s = f t) :
    Follows loose letGo Eq (fun s => (f s, s)) (fun s => (f s, s)) := by
  intro s t hst
  have heq := hf s t hst
  refine Or.inr ⟨?_, hst⟩
  show Agree Eq (f s) (f t)
  rw [heq]
  exact .refl _

theorem follows_evaluate (c : Condition) :
    Follows loose letGo Eq (evaluate Registry.builtin c) (evaluate Registry.builtin c) := by
  refine follows_unchanged fun s t hst => ?_
  rw [hst.env]
  cases hfound : findCommand .conditional Registry.builtin.conditionals c.name with
  | error e => rfl
  | ok test =>
    have htest := Conditional.unmarked_of_mem (mem_of_findCommand hfound)
    have hsame : ∀ params, test s.record params [] = test t.record params [] := by
      intro params
      rw [hst.record.eq_marked, htest]
    show (do test s.record (← Variables.resolveAll t.env.vars c.params) []) =
      (do test t.record (← Variables.resolveAll t.env.vars c.params) [])
    simp only [hsame]

theorem follows_resolveArguments (params : List String) (options : Options) :
    Follows loose letGo Eq (resolveArguments params options) (resolveArguments params options) := by
  refine follows_unchanged fun s t hst => ?_
  rw [hst.env]

/-! ### Expressions -/

variable {first second : Strictness}

theorem congruence_follows (hguard : ∀ {a b : Action Unit}, Follows loose letGo Eq a b →
    Follows loose letGo Eq (first.guard a) (second.guard b)) :
    Congruence first second (Follows loose letGo Eq) where
  plain := Plain.follows
  andThen h h' := follows_bind h fun _ _ _ => h'
  guard := hguard
  condition c h h' := follows_bind (follows_evaluate c) fun holds _ hholds => by
    subst hholds
    split
    · exact h
    · exact h'
  arguments params options h := follows_bind (follows_resolveArguments params options) fun arguments _ hsame => by
    subst hsame
    exact h arguments
  includeFix := Method.follows_includeFix
  list := Bind.follows_list

theorem follows_runAt (hguard : ∀ {a b : Action Unit}, Follows loose letGo Eq a b →
    Follows loose letGo Eq (first.guard a) (second.guard b)) (depth : Nat) :
    ∀ es : List Expression, Follows loose letGo Eq (runAt Registry.builtin first depth es)
      (runAt Registry.builtin second depth es) :=
  (congruence_follows hguard).runAt depth

end

end RecordFix
