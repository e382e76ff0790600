import RecordFix.Proofs.Follows

/-!
# The depth of included fixes

A run at a depth ends in `FixError.includeTooDeep` where a fix is included below the last level. This is no execution
error, so that no strictness handles it and the whole run ends. A run that ends in anything else has not met the depth:
it is the same at all greater depths (`runAt_of_le`), and the limit of a run of expressions cannot be told from any
other one that is not met (`runAt_eq_runExpressions`).
-/

namespace RecordFix

open RecordFix.Action

/-- Errors that are let go are not handled. -/
theorem Strictness.follows_guard (strictness : Strictness) {letGo : FixError → Prop}
    (hletGo : ∀ e, letGo e → e.isExecution = false) {a b : Action Unit} (h : Follows False letGo Eq a b) :
    Follows False letGo Eq (strictness.guard a) (strictness.guard b) := by
  intro s t hst
  rw [run_guard, run_guard]
  rcases h s t hst with ⟨e, he, hgo⟩ | ⟨hagree, hnear⟩
  · refine Or.inl ⟨e, ?_, hgo⟩
    cases ha : a.run s with
    | mk outcome s' =>
      rw [ha] at he
      cases he
      simp only [hletGo e hgo, Bool.false_eq_true, ↓reduceIte]
  · rw [Prod.ext hagree.eq hnear.eq]
    exact Or.inr ⟨.refl _, .refl _⟩

variable {strictness : Strictness} {depth depth' : Nat} {es : List Expression} {s : Session}

/-- One level more shows only where the last level is met. -/
theorem follows_runAt_succ (strictness : Strictness) (depth : Nat) : ∀ es : List Expression,
    Follows False (· = .includeTooDeep) Eq (runAt Registry.builtin strictness depth es)
      (runAt Registry.builtin strictness (depth + 1) es) := by
  have hguard : ∀ {a b : Action Unit}, Follows False (· = .includeTooDeep) Eq a b →
      Follows False (· = .includeTooDeep) Eq (strictness.guard a) (strictness.guard b) :=
    fun h => strictness.follows_guard (fun e he => by rw [he]; rfl) h
  induction depth with
  | zero => exact fun _ _ _ _ => Or.inl ⟨.includeTooDeep, rfl, rfl⟩
  | succ depth ih => exact (congruence_follows hguard).process ih

/-- A run that does not meet the depth is the same at all greater depths. -/
theorem runAt_of_le (hle : depth ≤ depth')
    (hsettled : ((runAt Registry.builtin strictness depth es).run s).1 ≠ .error .includeTooDeep) :
    (runAt Registry.builtin strictness depth' es).run s = (runAt Registry.builtin strictness depth es).run s := by
  induction hle with
  | refl => rfl
  | @step depth' _ ih =>
    rw [← ih] at hsettled ⊢
    rcases follows_runAt_succ strictness depth' es s s (.refl s) with ⟨e, he, rfl⟩ | ⟨hagree, hnear⟩
    · exact absurd he hsettled
    · exact (Prod.ext hagree.eq hnear.eq).symm

/-- What a run does without meeting the depth is what it does as a run of expressions, unless this meets the limit. -/
theorem runAt_eq_runExpressions
    (hsettled : ((runAt Registry.builtin strictness depth es).run s).1 ≠ .error .includeTooDeep)
    (hlimit : ((runExpressions Registry.builtin strictness es).run s).1 ≠ .error .includeTooDeep) :
    (runAt Registry.builtin strictness depth es).run s = (runExpressions Registry.builtin strictness es).run s := by
  rcases Nat.le_total depth (includeLimit + 1) with hle | hle
  · exact (runAt_of_le hle hsettled).symm
  · exact runAt_of_le hle hlimit

end RecordFix
