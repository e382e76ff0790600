import RecordFix.Proofs.Running

/-!
# Tests with several branches

The branches of a test can be nested: the first of them becomes a test of its own in the else block, with the other
branches and the else block that there was (`process_nest`). What differs is where an execution error of a later
condition is handled, in the run of the new else block or in the one that the test is part of. It cannot be told which
of them did, since a handled error leaves nothing to handle (`Strictness.guard_guard`). So all branches of a fix, at any
depth, can be nested in else blocks (`runExpressions_nested`).
-/

namespace RecordFix

open RecordFix.Action

/-! ### Handling errors twice -/

namespace Strictness

variable {α : Type}

theorem guard_guard (strictness : Strictness) (a : Action Unit) :
    strictness.guard (strictness.guard a) = strictness.guard a :=
  funext fun _ => run_guard_settled fun _ _ hrun he => guard_settled hrun he

/-- Errors of what follows may be handled there as well. -/
theorem guard_bind_guard (strictness : Strictness) (x : Action α) (f : α → Action Unit) :
    strictness.guard (x >>= fun y => strictness.guard (f y)) = strictness.guard (x >>= f) := by
  funext s
  show (strictness.guard _).run s = (strictness.guard _).run s
  cases hx : x.run s with
  | mk outcome s' =>
    cases outcome with
    | error e => rw [run_guard, run_guard, run_bind, run_bind, hx]
    | ok y =>
      have hbind : ∀ g : α → Action Unit, (strictness.guard (x >>= g)).run s = (strictness.guard (g y)).run s' := by
        intro g
        rw [run_guard, run_guard, run_bind, hx]
      rw [hbind, hbind, guard_guard]

/-- Under a guard, what follows counts only with its errors handled. -/
theorem guard_bind_congr {strictness : Strictness} (x : Action α) {f g : α → Action Unit}
    (h : ∀ y, strictness.guard (f y) = strictness.guard (g y)) :
    strictness.guard (x >>= f) = strictness.guard (x >>= g) := by
  rw [← guard_bind_guard strictness x f, ← guard_bind_guard strictness x g, funext h]

end Strictness

/-! ### Branches in else blocks -/

mutual

/-- The expression with the branches of each test in it, at any depth, nested in else blocks. -/
def Expression.nested : Expression → Expression
  | .call name params options => .call name params options
  | .ifThen c body branches otherwise => .ifThen c (nestedAll body) [] (nestedBranches branches (nestedElse otherwise))
  | .unlessThen c body => .unlessThen c (nestedAll body)
  | .doBlock name params options body => .doBlock name params options (nestedAll body)

def nestedAll : List Expression → List Expression
  | [] => []
  | e :: es => e.nested :: nestedAll es

/-- The else block that stands for some branches in front of an else block. -/
def nestedBranches : List (Condition × List Expression) → Option (List Expression) → Option (List Expression)
  | [], otherwise => otherwise
  | (c, body) :: rest, otherwise => some [.ifThen c (nestedAll body) [] (nestedBranches rest otherwise)]

def nestedElse : Option (List Expression) → Option (List Expression)
  | none => none
  | some body => some (nestedAll body)

end

section

variable {registry : Registry} {strictness : Strictness} {included : List Expression → Action Unit}

/-- A test goes on to its branches or to its block. -/
private theorem guard_condition (c : Condition) {a b a' b' : Action Unit} (hab : strictness.guard a = strictness.guard b)
    (hab' : strictness.guard a' = strictness.guard b') :
    strictness.guard (evaluate registry c >>= fun holds => if holds then a else a') =
      strictness.guard (evaluate registry c >>= fun holds => if holds then b else b') := by
  refine Strictness.guard_bind_congr _ fun holds => ?_
  cases holds with
  | true => exact hab
  | false => exact hab'

/-- A block of one expression is that expression with its errors handled. -/
private theorem process_singleton (e : Expression) :
    process registry strictness included [e] = strictness.guard (execute registry strictness included e) := by
  rw [process, process]
  exact bind_pure_unit

/-- The first branch of a test may be a test in its else block. -/
private theorem guard_execute_nest (c c' : Condition) (body body' : List Expression)
    (rest : List (Condition × List Expression)) (otherwise : Option (List Expression)) :
    strictness.guard (execute registry strictness included (.ifThen c body ((c', body') :: rest) otherwise)) =
      strictness.guard
        (execute registry strictness included (.ifThen c body [] (some [.ifThen c' body' rest otherwise]))) := by
  rw [execute, execute, executeBranches, executeBranches, processElse, process_singleton, execute]
  exact guard_condition c rfl (Strictness.guard_guard strictness _).symm

theorem process_nest (c c' : Condition) (body body' : List Expression) (rest : List (Condition × List Expression))
    (otherwise : Option (List Expression)) (before after : List Expression) :
    process registry strictness included (before ++ .ifThen c body ((c', body') :: rest) otherwise :: after) =
      process registry strictness included
        (before ++ .ifThen c body [] (some [.ifThen c' body' rest otherwise]) :: after) := by
  rw [process_append, process_append, process, process, guard_execute_nest]

mutual

private theorem guard_execute_nested : ∀ e : Expression,
    strictness.guard (execute registry strictness included e.nested) =
      strictness.guard (execute registry strictness included e)
  | .call name params options => rfl
  | .ifThen c body branches otherwise => by
    rw [Expression.nested, execute, execute, executeBranches, process_nestedAll body]
    exact guard_condition c rfl (guard_nestedBranches branches (by rw [processElse_nestedElse otherwise]))
  | .unlessThen c body => by
    rw [Expression.nested, execute, execute, process_nestedAll body]
  | .doBlock name params options body => by
    rw [Expression.nested, execute, execute, process_nestedAll body]

private theorem guard_nestedBranches : ∀ (branches : List (Condition × List Expression))
    {otherwise : Option (List Expression)} {a : Action Unit},
    strictness.guard (processElse registry strictness included otherwise) = strictness.guard a →
      strictness.guard (processElse registry strictness included (nestedBranches branches otherwise)) =
        strictness.guard (executeBranches registry strictness included branches a)
  | [], _, _, h => h
  | (c, body) :: rest, _, _, h => by
    rw [nestedBranches, processElse, process_singleton, Strictness.guard_guard, execute, executeBranches,
      executeBranches, process_nestedAll body]
    exact guard_condition c rfl (guard_nestedBranches rest h)

private theorem processElse_nestedElse : ∀ otherwise : Option (List Expression),
    processElse registry strictness included (nestedElse otherwise) =
      processElse registry strictness included otherwise
  | none => rfl
  | some body => by
    rw [nestedElse, processElse, processElse, process_nestedAll body]

theorem process_nestedAll : ∀ es : List Expression,
    process registry strictness included (nestedAll es) = process registry strictness included es
  | [] => rfl
  | e :: es => by
    rw [nestedAll, process, process, guard_execute_nested e, process_nestedAll es]

end

end

/-- At every depth, a fix does what it does with all branches nested. -/
theorem runAt_nestedAll (registry : Registry) (strictness : Strictness) (depth : Nat) (es : List Expression) :
    runAt registry strictness depth (nestedAll es) = runAt registry strictness depth es := by
  cases depth with
  | zero => rfl
  | succ depth => exact process_nestedAll es

/-- A test with branches does what the test does whose else block is the test of the first branch, with the others as
its branches and the same else block, whatever stands before and after it: it ends in the same way and leaves the same
record and environment, also if a condition fails. So a fix does what it does with all branches nested. -/
theorem runExpressions_nested (registry : Registry) (strictness : Strictness) :
    (∀ (included : List Expression → Action Unit) (c c' : Condition) (body body' : List Expression)
        (rest : List (Condition × List Expression)) (otherwise : Option (List Expression))
        (before after : List Expression),
      process registry strictness included (before ++ .ifThen c body ((c', body') :: rest) otherwise :: after) =
        process registry strictness included
          (before ++ .ifThen c body [] (some [.ifThen c' body' rest otherwise]) :: after)) ∧
      ∀ es, runExpressions registry strictness (nestedAll es) = runExpressions registry strictness es :=
  ⟨fun _ => process_nest, runAt_nestedAll registry strictness (includeLimit + 1)⟩

end RecordFix
