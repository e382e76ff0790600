import RecordFix.Proofs.Follows

/-!
# What strictness decides

Whatever the strictness, a run goes the same way as long as no command fails on the data of the record. Rejecting the
record and skipping the expression differ in the mark of the record alone, and a run that is to end at such an error
either does or goes the way of the two others (`Strictness.runAt_agree`).
-/

namespace RecordFix

open RecordFix.Action

namespace Strictness

variable {a b : Action Unit}

/-- Where the one run rejects the record, the other goes on with the mark as it is. -/
theorem follows_guard_record (h : Follows True (fun _ => False) Eq a b) :
    Follows True (fun _ => False) Eq (record.guard a) (expression.guard b) := by
  intro s t hst
  rw [run_guard, run_guard]
  rcases h s t hst with ⟨-, -, hfalse⟩ | ⟨hagree, hnear⟩
  · exact hfalse.elim
  · cases ha : a.run s with
    | mk outcome s' =>
      cases hb : b.run t with
      | mk outcome' t' =>
        rw [ha, hb] at hagree hnear
        cases hagree.eq
        cases outcome with
        | ok u => exact Or.inr ⟨rfl, hnear⟩
        | error e =>
          dsimp only
          split
          · exact Or.inr ⟨rfl, ⟨hnear.record.fields, hnear.record.virtualFields, Or.inr ⟨trivial, rfl⟩⟩, hnear.env⟩
          · exact Or.inr ⟨rfl, hnear⟩

/-- A run that ends at an execution error is let go there, and until then no strictness shows. -/
theorem follows_guard_process (strictness : Strictness) (h : Follows False (fun e => e.isExecution = true) Eq a b) :
    Follows False (fun e => e.isExecution = true) Eq (process.guard a) (strictness.guard b) := by
  intro s t hst
  rw [run_guard, run_guard]
  rcases h s t hst with ⟨e, he, hexecution⟩ | ⟨hagree, hnear⟩
  · refine Or.inl ⟨e, ?_, hexecution⟩
    cases ha : a.run s with
    | mk outcome s' =>
      rw [ha] at he
      cases he
      simp only [hexecution, ↓reduceIte]
  · cases ha : a.run s with
    | mk outcome s' =>
      cases hb : b.run t with
      | mk outcome' t' =>
        rw [ha, hb] at hagree hnear
        cases hagree.eq
        cases outcome with
        | ok u => exact Or.inr ⟨rfl, hnear⟩
        | error e =>
          dsimp only
          split
          · rename_i hexecution
            exact Or.inl ⟨e, rfl, hexecution⟩
          · exact Or.inr ⟨rfl, hnear⟩

/-! ### Runs -/

/-- Rejecting the record and skipping the expression: only the marks may differ, and no error is let go. -/
private theorem runAt_near (depth : Nat) (es : List Expression) (s : Session) :
    Agree Eq ((runAt Registry.builtin record depth es).run s).1 ((runAt Registry.builtin expression depth es).run s).1 ∧
      ((runAt Registry.builtin record depth es).run s).2.Near True
        ((runAt Registry.builtin expression depth es).run s).2 := by
  rcases follows_runAt follows_guard_record depth es s s (.refl s) with ⟨-, -, hfalse⟩ | h
  · exact hfalse.elim
  · exact h

/-- A run that is to end at an execution error and does not is that of any strictness. -/
private theorem runAt_eq_process (strictness : Strictness) (depth : Nat) (es : List Expression) (s : Session)
    (hsettled : ∀ e, ((runAt Registry.builtin process depth es).run s).1 = .error e → e.isExecution = false) :
    (runAt Registry.builtin strictness depth es).run s = (runAt Registry.builtin process depth es).run s := by
  have hfollows := follows_runAt (follows_guard_process strictness) depth es
  rcases hfollows s s (.refl s) with ⟨e, he, hexecution⟩ | ⟨hagree, hnear⟩
  · rw [hsettled e he] at hexecution
    cases hexecution
  · exact (Prod.ext hagree.eq hnear.eq).symm

/-- At every depth, a run is one and the same under all strictnesses unless it ends in an execution error, and those
that reject the record and skip the expression differ in the mark alone. -/
theorem runAt_agree (depth : Nat) (es : List Expression) (s : Session) :
    let run (strictness : Strictness) := (runAt Registry.builtin strictness depth es).run s
    ((run record).1 = (run expression).1 ∧
      (run record).2.record.fields = (run expression).2.record.fields ∧
      (run record).2.record.virtualFields = (run expression).2.record.virtualFields ∧
      (run record).2.env = (run expression).2.env ∧
      ((run expression).2.record.rejected = true → (run record).2.record.rejected = true)) ∧
    ((run process).1 = .ok () → run record = run process ∧ run expression = run process) ∧
    ∀ e, (run process).1 = .error e → e.isExecution = false →
      run record = run process ∧ run expression = run process := by
  intro run
  obtain ⟨hagree, hnear⟩ := runAt_near depth es s
  have hboth : (∀ e, (run process).1 = .error e → e.isExecution = false) →
      run record = run process ∧ run expression = run process :=
    fun hsettled => ⟨runAt_eq_process record depth es s hsettled, runAt_eq_process expression depth es s hsettled⟩
  refine ⟨⟨hagree.eq, hnear.record.fields, hnear.record.virtualFields, hnear.env, ?_⟩, ?_, ?_⟩
  · intro hrejected
    rcases hnear.record.mark with hmark | ⟨-, hmark⟩
    · exact hmark.trans hrejected
    · exact hmark
  · intro hok
    refine hboth fun e he => ?_
    rw [hok] at he
    cases he
  · intro e he hexecution
    refine hboth fun e' he' => ?_
    rw [he] at he'
    cases he'
    exact hexecution

/-- The run of a list of expressions over the built-in commands is one and the same under all strictnesses if none of
its commands ends in an execution error, be it that it ends well or in another error. Rejecting the record and skipping
the expression always end alike, with the same fields, virtual fields and environment, and the former rejects the record
if the latter does. -/
theorem runs_agree (es : List Expression) (s : Session) :
    let run (strictness : Strictness) := (runExpressions Registry.builtin strictness es).run s
    ((run record).1 = (run expression).1 ∧
      (run record).2.record.fields = (run expression).2.record.fields ∧
      (run record).2.record.virtualFields = (run expression).2.record.virtualFields ∧
      (run record).2.env = (run expression).2.env ∧
      ((run expression).2.record.rejected = true → (run record).2.record.rejected = true)) ∧
    ((run process).1 = .ok () → run record = run process ∧ run expression = run process) ∧
    ∀ e, (run process).1 = .error e → e.isExecution = false →
      run record = run process ∧ run expression = run process :=
  runAt_agree (includeLimit + 1) es s

/-- A run that ends well, one that ends at an unknown command, and one whose execution error is handled in a block. -/
theorem runs_agree_instances :
    (runExpressions Registry.builtin record [.call "set_field" ["a", "1"] []]).run {} =
        (runExpressions Registry.builtin process [.call "set_field" ["a", "1"] []]).run {} ∧
      (runExpressions Registry.builtin expression [.call "reject" [] [], .call "unknown" [] []]).run {} =
        (runExpressions Registry.builtin process [.call "reject" [] [], .call "unknown" [] []]).run {} ∧
      ((runExpressions Registry.builtin record
          [.call "reject" [] [],
            .unlessThen ⟨"exists", ["a"]⟩ [.call "random" ["a", "0"] []]]).run {}).2.record.rejected = true :=
  ⟨((runs_agree [.call "set_field" ["a", "1"] []] {}).2.1 rfl).1,
    ((runs_agree [.call "reject" [] [], .call "unknown" [] []] {}).2.2 _ rfl rfl).2,
    (runs_agree [.call "reject" [] [], .unlessThen ⟨"exists", ["a"]⟩ [.call "random" ["a", "0"] []]] {}).1.2.2.2.2 rfl⟩

end Strictness

end RecordFix
