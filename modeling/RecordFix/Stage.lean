import RecordFix.Event.Builder
import RecordFix.Event.Emitter
import RecordFix.Fix.Builtin

/-!
# Stages

A stage folds events into a record and runs a fix over it at its end. The result is sent on unless the record was
rejected. Variables, maps and included fixes are shared by all records of a stage. What a stage sends does not depend
on what becomes of it, so `feed` can pass it to any receiver.
-/

namespace RecordFix

structure Stage where
  fix : Fix := ⟨[]⟩
  registry : Registry := Registry.builtin
  settings : Settings := {}
  env : Environment := {}
  builder : Builder := {}

namespace Stage

/-- A stage with nothing read yet. -/
def start (fix : Fix) (settings : Settings) (files : Files) (fixFile : Option String) : Stage where
  fix := fix
  settings := settings
  env := { vars := settings.vars, files := files, fixFile := fixFile }

/-- Runs the fix at the end of a record; the events to send on. -/
def finishRecord (s : Stage) : Except StreamError (List Event) × Stage :=
  match s.builder.openEntities with
  | _ :: _ => (.error .entitiesNotBalanced, s)
  | [] =>
    match (runExpressions s.registry s.settings.strictness s.fix.expressions).run ⟨s.builder.record, s.env⟩ with
    | (outcome, session) =>
      let after := { s with env := session.env, builder := { s.builder with record := session.record } }
      match outcome with
      | .error cause => (.error (.fix cause), after)
      | .ok () =>
        if session.record.rejected then (.ok [], after)
        else (.ok (session.record.fields.recordEvents s.settings s.builder.id), after)

/-- Puts a changed builder in place; a change that fails leaves the stage as it is. -/
def build (s : Stage) (change : Except StreamError Builder) : Except StreamError (List Event) × Stage :=
  match change with
  | .ok builder => (.ok [], { s with builder := builder })
  | .error cause => (.error cause, s)

/-- What an event does to a stage, and the events that the stage sends on. -/
def step (s : Stage) : Event → Except StreamError (List Event) × Stage
  | .startRecord id => (.ok [], { s with builder := Builder.start id })
  | .endRecord => s.finishRecord
  | .startEntity name => s.build (s.builder.openEntity name)
  | .endEntity => s.build s.builder.closeEntity
  | .literal name value => s.build (s.builder.addLiteral name value)
  | .resetStream => (.ok [.resetStream], { s with builder := {} })
  | .closeStream => (.ok [.closeStream], { s with env := s.env.close })

/-- Gives a stage an event and a receiver what the stage sends on. -/
def feed {σ : Type} (receive : Receiver σ) (e : Event) (s : Stage) (r : σ) : Option StreamError × Stage × σ :=
  match s.step e with
  | (.error cause, s) => (some cause, s, r)
  | (.ok sent, s) =>
    let (failure, r) := receive.sendAll sent r
    (failure, s, r)

/-- Gives a stage events in order, up to the first that fails. -/
def feedAll {σ : Type} (receive : Receiver σ) : List Event → Stage → σ → Option StreamError × Stage × σ
  | [], s, r => (none, s, r)
  | e :: es, s, r =>
    match s.feed receive e r with
    | (none, s, r) => feedAll receive es s r
    | failed => failed

end Stage

end RecordFix
