import RecordFix.Proofs.Calls
import RecordFix.Proofs.Plain

/-!
# Relations that runs respect

A run of expressions is put together from plain actions, conditions, loops over the values at a path, included fixes
and the handling of errors. A relation between actions that all of these respect (`Congruence`) holds between the runs
of the same expressions under two strictnesses (`Congruence.runAt`), so that what is said of runs is shown of the
pieces only.
-/

namespace RecordFix

open RecordFix.Action

/-- Whether a relation between actions under a first strictness and under a second is respected by all that runs are put
together from. -/
structure Congruence (first second : Strictness) (R : Action Unit → Action Unit → Prop) : Prop where
  plain : ∀ {a : Action Unit}, a.Plain → R a a
  andThen : ∀ {a b a' b' : Action Unit}, R a b → R a' b' → R (a >>= fun _ => a') (b >>= fun _ => b')
  guard : ∀ {a b : Action Unit}, R a b → R (first.guard a) (second.guard b)
  condition : ∀ {a b a' b' : Action Unit} (c : Condition), R a b → R a' b' →
    R (evaluate Registry.builtin c >>= fun holds => if holds then a else a')
      (evaluate Registry.builtin c >>= fun holds => if holds then b else b')
  arguments : ∀ {f g : List String × Options → Action Unit} (params : List String) (options : Options),
    (∀ x, R (f x) (g x)) → R (resolveArguments params options >>= f) (resolveArguments params options >>= g)
  includeFix : ∀ {included included' : List Expression → Action Unit}, (∀ es, R (included es) (included' es)) →
    ∀ params options, R (Method.includeFix included params options) (Method.includeFix included' params options)
  list : ∀ {block block' : Action Unit}, R block block' →
    ∀ params options, R (Bind.list block params options) (Bind.list block' params options)

namespace Congruence

variable {first second : Strictness} {R : Action Unit → Action Unit → Prop}
  {included included' : List Expression → Action Unit}

private theorem method (h : Congruence first second R) (hincluded : ∀ es, R (included es) (included' es))
    {name : String} {m : Method} (hm : (name, m) ∈ Method.all) (params : List String) (options : Options) :
    R (m included params options) (m included' params options) := by
  rcases Method.isPlain_of_mem hm with ⟨-, rfl⟩ | ⟨a, ha, hplain⟩
  · exact h.includeFix hincluded params options
  · rw [ha, ha]
    exact h.plain (hplain params options)

private theorem respects (h : Congruence first second R) (hincluded : ∀ es, R (included es) (included' es)) :
    Respects (fun _ _ => True) first second included included' R where
  pure := h.plain (.pure ())
  fail e := h.plain (.fail e)
  andThen := h.andThen
  guard := h.guard
  condition := h.condition
  call params options hm _ := h.arguments params options fun _ => h.method hincluded hm _ _
  list params options hblock := h.arguments params options fun _ => h.list hblock _ _

/-- Expressions whose included fixes are related are related themselves. -/
theorem process (h : Congruence first second R) (hincluded : ∀ es, R (included es) (included' es))
    (es : List Expression) : R (RecordFix.process Registry.builtin first included es)
      (RecordFix.process Registry.builtin second included' es) :=
  (h.respects hincluded).process es (allCallsIn_of_forall (fun _ _ => trivial) es)

theorem runAt (h : Congruence first second R) (depth : Nat) : ∀ es : List Expression,
    R (RecordFix.runAt Registry.builtin first depth es) (RecordFix.runAt Registry.builtin second depth es) := by
  induction depth with
  | zero => exact fun _ => h.plain (.fail _)
  | succ depth ih => exact h.process ih

end Congruence

end RecordFix
