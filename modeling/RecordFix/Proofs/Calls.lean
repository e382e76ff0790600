import RecordFix.Proofs.Running

/-!
# Runs by the syntax of expressions

The calls in an expression, at any depth, may be restricted to a kind (`Expression.AllCalls`). If a relation between
actions is respected by calls of that kind and by all else that expressions are put together from (`Respects`), then the
runs of expressions with such calls are related, under two strictnesses and with two ways to run included fixes
(`Respects.process`). A property of actions is the relation that has nothing to do with the second one.
-/

namespace RecordFix

open RecordFix.Action

/-! ### Kinds of calls -/

section

variable (kind : String → List String → Prop)

mutual

/-- Whether all calls in an expression, at any depth, are of a kind. -/
def Expression.AllCalls : Expression → Prop
  | .call name params _ => kind name params
  | .ifThen _ body branches otherwise => AllCallsIn body ∧ AllCallsInBranches branches ∧ AllCallsInElse otherwise
  | .unlessThen _ body => AllCallsIn body
  | .doBlock _ _ _ body => AllCallsIn body

def AllCallsInBranches : List (Condition × List Expression) → Prop
  | [] => True
  | (_, body) :: rest => AllCallsIn body ∧ AllCallsInBranches rest

def AllCallsInElse : Option (List Expression) → Prop
  | none => True
  | some body => AllCallsIn body

def AllCallsIn : List Expression → Prop
  | [] => True
  | e :: es => e.AllCalls ∧ AllCallsIn es

end

end

section

variable {kind : String → List String → Prop}

theorem allCallsIn_append {es es' : List Expression} :
    AllCallsIn kind (es ++ es') ↔ AllCallsIn kind es ∧ AllCallsIn kind es' := by
  induction es with
  | nil => exact ⟨fun h => ⟨trivial, h⟩, And.right⟩
  | cons e es ih =>
    rw [List.cons_append, AllCallsIn, AllCallsIn, ih, and_assoc]

mutual

/-- A kind that asks for nothing is that of all calls. -/
theorem Expression.allCalls_of_forall (h : ∀ name params, kind name params) : ∀ e : Expression, e.AllCalls kind
  | .call name params _ => h name params
  | .ifThen _ body branches otherwise =>
    ⟨allCallsIn_of_forall h body, allCallsInBranches_of_forall h branches, allCallsInElse_of_forall h otherwise⟩
  | .unlessThen _ body => allCallsIn_of_forall h body
  | .doBlock _ _ _ body => allCallsIn_of_forall h body

theorem allCallsInBranches_of_forall (h : ∀ name params, kind name params) :
    ∀ branches, AllCallsInBranches kind branches
  | [] => trivial
  | (_, body) :: rest => ⟨allCallsIn_of_forall h body, allCallsInBranches_of_forall h rest⟩

theorem allCallsInElse_of_forall (h : ∀ name params, kind name params) : ∀ otherwise, AllCallsInElse kind otherwise
  | none => trivial
  | some body => allCallsIn_of_forall h body

theorem allCallsIn_of_forall (h : ∀ name params, kind name params) : ∀ es, AllCallsIn kind es
  | [] => trivial
  | e :: es => ⟨e.allCalls_of_forall h, allCallsIn_of_forall h es⟩

end

end

/-! ### Related runs -/

/-- Whether a relation between actions is respected by calls of a kind and by all else that expressions are put together
from. -/
structure Respects (kind : String → List String → Prop) (first second : Strictness)
    (included included' : List Expression → Action Unit) (R : Action Unit → Action Unit → Prop) : Prop where
  pure : R (pure ()) (pure ())
  fail : ∀ e, R (fail e) (fail e)
  andThen : ∀ {a b a' b' : Action Unit}, R a b → R a' b' → R (a >>= fun _ => a') (b >>= fun _ => b')
  guard : ∀ {a b : Action Unit}, R a b → R (first.guard a) (second.guard b)
  condition : ∀ {a b a' b' : Action Unit} (c : Condition), R a b → R a' b' →
    R (evaluate Registry.builtin c >>= fun holds => if holds then a else a')
      (evaluate Registry.builtin c >>= fun holds => if holds then b else b')
  call : ∀ {name : String} {m : Method} (params : List String) (options : Options), (name, m) ∈ Method.all →
    kind name params →
    R (resolveArguments params options >>= fun x => m included x.1 x.2)
      (resolveArguments params options >>= fun x => m included' x.1 x.2)
  list : ∀ {block block' : Action Unit} (params : List String) (options : Options), R block block' →
    R (resolveArguments params options >>= fun x => Bind.list block x.1 x.2)
      (resolveArguments params options >>= fun x => Bind.list block' x.1 x.2)

namespace Respects

variable {kind : String → List String → Prop} {first second : Strictness}
  {included included' : List Expression → Action Unit} {R : Action Unit → Action Unit → Prop}

/-- A command is looked up before the arguments are, and an unknown one is the same error for both. -/
private theorem command (h : Respects kind first second included included' R) {α : Type} {k : CommandKind}
    {commands : List (String × α)} {name : String} {f g : α → Action Unit}
    (hfg : ∀ command, (name, command) ∈ commands → R (f command) (g command)) :
    R (need (findCommand k commands name) >>= f) (need (findCommand k commands name) >>= g) := by
  cases hfound : findCommand k commands name with
  | error e => exact h.fail e
  | ok command => exact hfg command (mem_of_findCommand hfound)

mutual

private theorem execute (h : Respects kind first second included included' R) :
    ∀ e : Expression, e.AllCalls kind →
      R (RecordFix.execute Registry.builtin first included e) (RecordFix.execute Registry.builtin second included' e)
  | .call name params options, hkind => by
    rw [RecordFix.execute, RecordFix.execute]
    exact h.command fun m hm => h.call params options hm hkind
  | .ifThen c body branches otherwise, ⟨hbody, hbranches, helse⟩ => by
    rw [RecordFix.execute, RecordFix.execute]
    exact h.condition c (process h body hbody) (executeBranches h branches hbranches (processElse h otherwise helse))
  | .unlessThen c body, hkind => by
    rw [RecordFix.execute, RecordFix.execute]
    exact h.condition c h.pure (process h body hkind)
  | .doBlock name params options body, hkind => by
    rw [RecordFix.execute, RecordFix.execute]
    refine h.command fun bind hbind => ?_
    -- the list bind is the only one
    cases (Prod.mk.inj (List.mem_singleton.1 hbind)).2
    exact h.list params options (process h body hkind)

private theorem executeBranches (h : Respects kind first second included included' R) :
    ∀ branches : List (Condition × List Expression), AllCallsInBranches kind branches →
      ∀ {otherwise otherwise' : Action Unit}, R otherwise otherwise' →
        R (RecordFix.executeBranches Registry.builtin first included branches otherwise)
          (RecordFix.executeBranches Registry.builtin second included' branches otherwise')
  | [], _, _, _, hotherwise => hotherwise
  | (c, body) :: rest, ⟨hbody, hrest⟩, _, _, hotherwise => by
    rw [RecordFix.executeBranches, RecordFix.executeBranches]
    exact h.condition c (process h body hbody) (executeBranches h rest hrest hotherwise)

private theorem processElse (h : Respects kind first second included included' R) :
    ∀ otherwise : Option (List Expression), AllCallsInElse kind otherwise →
      R (RecordFix.processElse Registry.builtin first included otherwise)
        (RecordFix.processElse Registry.builtin second included' otherwise)
  | none, _ => h.pure
  | some body, hkind => process h body hkind

/-- Expressions whose calls are of the kind have related runs. -/
theorem process (h : Respects kind first second included included' R) :
    ∀ es : List Expression, AllCallsIn kind es →
      R (RecordFix.process Registry.builtin first included es) (RecordFix.process Registry.builtin second included' es)
  | [], _ => h.pure
  | e :: es, ⟨he, hes⟩ => h.andThen (h.guard (execute h e he)) (process h es hes)

end

end Respects

end RecordFix
