import Mathlib.Order.Defs.Unbundled
import RecordFix.Proofs.Limits

/-!
# What a run leaves of the environment

An action frames a relation between environments if the environment that it leaves is in this relation to the one that
it finds, also when it fails (`Action.Frames`). For a relation that is reflexive and transitive, actions in a row, blocks
on lists and handled errors frame what their parts frame.
-/

namespace RecordFix

open RecordFix.Action

/-- Whether an action leaves an environment that is related to the one before. -/
def Action.Frames (R : Environment → Environment → Prop) {α : Type} (a : Action α) : Prop :=
  ∀ s : Session, R s.env (a.run s).2.env

variable {R : Environment → Environment → Prop} [IsPreorder Environment R]

namespace Action

variable {α β : Type}

theorem frames_of_env {a : Action α} (h : ∀ s, (a.run s).2.env = s.env) : Frames R a := by
  intro s
  rw [h s]
  exact refl_of R s.env

theorem frames_pure (x : α) : Frames R (pure x : Action α) := frames_of_env fun _ => rfl

theorem frames_fail (e : FixError) : Frames R (fail e : Action α) := frames_of_env fun _ => rfl

theorem frames_getRecord : Frames R getRecord := frames_of_env fun _ => rfl

theorem frames_setRecord (r : Record) : Frames R (setRecord r) := frames_of_env fun _ => rfl

theorem frames_need (x : Except FixError α) : Frames R (need x) := by
  cases x with
  | ok a => exact frames_pure a
  | error e => exact frames_fail e

theorem frames_bind {a : Action α} {f : α → Action β} (ha : Frames R a) (hf : ∀ x, Frames R (f x)) :
    Frames R (a >>= f) := by
  intro s
  have hfirst := ha s
  rw [run_bind]
  cases hrun : a.run s with
  | mk outcome s' =>
    rw [hrun] at hfirst
    cases outcome with
    | error e => exact hfirst
    | ok x => exact trans_of R hfirst (hf x s')

omit [IsPreorder Environment R] in
/-- The environment that is read is the one that is found. -/
theorem frames_getEnv {f : Environment → Action β} (hf : ∀ s, R s.env ((f s.env).run s).2.env) :
    Frames R (getEnv >>= f) :=
  hf

/-- What comes after a value that is needed finds the environment as it was. -/
theorem env_needing {x : Except FixError α} {f : α → Action β} {s : Session}
    (h : ∀ a, R s.env ((f a).run s).2.env) : R s.env ((need x >>= f).run s).2.env := by
  cases x with
  | ok a => exact h a
  | error e => exact refl_of R s.env

theorem frames_settle (change : Record × Option FixError) : Frames R (settle change) := by
  refine frames_bind (frames_setRecord _) fun _ => ?_
  cases change.2 with
  | none => exact frames_pure ()
  | some e => exact frames_fail e

end Action

theorem closed_frames : Action.Closed fun a => Frames R a where
  pure := frames_pure
  fail := frames_fail
  bind := frames_bind
  getRecord := frames_getRecord

namespace Bind

variable {block : Action Unit}

private theorem frames_withScope (h : Frames R block) (v : Value) : Frames R (withScope v block) := by
  cases v with
  | string t o => exact frames_fail _
  | array items o => exact frames_fail _
  | hash fields o =>
    intro s
    have hblock := h { s with record := Record.ofFields ⟨fields, o⟩ }
    rw [run_withScope]
    cases hrun : block.run { s with record := Record.ofFields ⟨fields, o⟩ } with
    | mk outcome s' =>
      rw [hrun] at hblock
      cases outcome with
      | ok u => exact hblock
      | error e => exact hblock

omit [IsPreorder Environment R] in
private theorem frames_withVariable (h : Frames R block) (name : String) (v : Value) :
    Frames R (withVariable name v block) := by
  intro s
  rw [run_withVariable]
  exact h { s with record := s.record.put name v }

theorem frames_list (h : Frames R block) (params : List String) (options : Options) :
    Frames R (list block params options) :=
  closed_frames.list (frames_withScope h) (frames_withVariable h)
    (fun _ _ _ => frames_bind frames_getRecord fun _ => frames_setRecord _) params options

end Bind

omit [IsPreorder Environment R] in
theorem Strictness.frames_guard (strictness : Strictness) {a : Action Unit} (h : Frames R a) :
    Frames R (strictness.guard a) := by
  intro s
  have hframe := h s
  rw [run_guard]
  cases ha : a.run s with
  | mk outcome s' =>
    rw [ha] at hframe
    cases outcome with
    | ok u => exact hframe
    | error e =>
      dsimp only
      split
      · cases strictness <;> exact hframe
      · exact hframe

/-- A condition changes nothing, and decides which of two actions is run. -/
theorem frames_condition (c : Condition) {a b : Action Unit} (ha : Frames R a) (hb : Frames R b) :
    Frames R (evaluate Registry.builtin c >>= fun holds => if holds then a else b) := by
  refine frames_bind (frames_of_env fun _ => rfl) fun holds => ?_
  split
  · exact ha
  · exact hb

end RecordFix
