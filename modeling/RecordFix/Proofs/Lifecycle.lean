import RecordFix.Proofs.Blocks
import RecordFix.Proofs.Follows
import RecordFix.Proofs.OpenEntities

/-!
# The life of a record

A record starts, is read, and is sent at its end unless it is rejected. A rejected record stays rejected whatever is run
over it (`keepsMark_runAt`), so it is never sent. A stage does not know whether it has sent the record that it holds: it
sends it again for each further end (`Stage.not_sentAll_once`). If no record is ended that was not started or that was
sent already, then each record that is sent belongs to a start of its own (`Stage.startIds_sentAll_sublist`).
-/

namespace RecordFix

open RecordFix.Action

/-! ### Rejected records -/

/-- Whether an action leaves a rejected record rejected. -/
def Action.KeepsMark {α : Type} (a : Action α) : Prop :=
  ∀ s : Session, s.record.rejected = true → (a.run s).2.record.rejected = true

private theorem eq_marked_true {r : Record} (h : r.rejected = true) : r = r.marked true := by
  rw [← h]
  rfl

namespace Action

variable {α β : Type}

theorem keepsMark_of_record {a : Action α} (h : ∀ s, (a.run s).2.record = s.record) : KeepsMark a := by
  intro s hs
  rw [h s]
  exact hs

theorem keepsMark_bind {a : Action α} {f : α → Action β} (ha : KeepsMark a) (hf : ∀ x, KeepsMark (f x)) :
    KeepsMark (a >>= f) := by
  intro s hs
  have hfirst := ha s hs
  rw [run_bind]
  cases hrun : a.run s with
  | mk outcome s' =>
    rw [hrun] at hfirst
    cases outcome with
    | error e => exact hfirst
    | ok x => exact hf x s' hfirst

/-- The steps of commands either leave the mark alone or set it. -/
theorem Plain.keepsMark {a : Action α} (h : Plain a) : KeepsMark a := by
  induction h with
  | pure x => exact keepsMark_of_record fun _ => rfl
  | fail e => exact keepsMark_of_record fun _ => rfl
  | bind _ _ ih ih' => exact keepsMark_bind ih ih'
  | getEnv => exact keepsMark_of_record fun _ => rfl
  | setEnv env => exact keepsMark_of_record fun _ => rfl
  | read f _ => exact keepsMark_of_record fun _ => rfl
  | reject => exact fun _ _ => rfl
  | @change c hc =>
    intro s hs
    rw [run_settle]
    show (c s.record).1.rejected = true
    rw [eq_marked_true hs, hc.marked]
    rfl

end Action

theorem closed_keepsMark : Action.Closed fun a => KeepsMark a where
  pure _ := keepsMark_of_record fun _ => rfl
  fail _ := keepsMark_of_record fun _ => rfl
  bind := keepsMark_bind
  getRecord := keepsMark_of_record fun _ => rfl

namespace Bind

variable {block : Action Unit}

private theorem keepsMark_withScope (v : Value) : KeepsMark (withScope v block) := by
  cases v with
  | string t o => exact keepsMark_of_record fun _ => rfl
  | array items o => exact keepsMark_of_record fun _ => rfl
  | hash fields o =>
    intro s hs
    rw [run_withScope]
    cases block.run { s with record := Record.ofFields ⟨fields, o⟩ } with
    | mk outcome s' =>
      cases outcome with
      | error e => exact hs
      | ok u =>
        show (s'.record.rejected || s.record.rejected) = true
        rw [hs, Bool.or_true]

private theorem keepsMark_withVariable (h : KeepsMark block) (name : String) (v : Value) :
    KeepsMark (withVariable name v block) := by
  intro s hs
  have hblock := h { s with record := s.record.put name v } hs
  rw [run_withVariable]
  cases hrun : block.run { s with record := s.record.put name v } with
  | mk outcome s' =>
    rw [hrun] at hblock
    dsimp only
    unfold unbind
    split <;> exact hblock

private theorem keepsMark_writeBack (path : String) (position : Nat) (w : Value) :
    KeepsMark (getRecord >>= fun r => setRecord (writeBack r path position w)) := by
  intro s hs
  show (writeBack s.record path position w).rejected = true
  rw [eq_marked_true hs, writeBack_marked]
  rfl

private theorem keepsMark_list (h : KeepsMark block) (params : List String) (options : Options) :
    KeepsMark (list block params options) :=
  closed_keepsMark.list keepsMark_withScope (keepsMark_withVariable h) keepsMark_writeBack params options

end Bind

private theorem Method.keepsMark_includeFix {included : List Expression → Action Unit}
    (h : ∀ es, KeepsMark (included es)) (params : List String) (options : Options) :
    KeepsMark (includeFix included params options) := by
  have hwith : ∀ path es, KeepsMark (withFixFile path (included es)) := fun path es s hs =>
    h es { s with env := { s.env with fixFile := some path } } hs
  refine keepsMark_bind (Plain.need _).keepsMark fun file => ?_
  refine keepsMark_bind Plain.getEnv.keepsMark fun env => keepsMark_bind Plain.getEnv.keepsMark fun env' => ?_
  refine keepsMark_bind (Plain.need _).keepsMark fun found => ?_
  exact keepsMark_bind (Plain.setEnv _).keepsMark fun _ => hwith _ _

private theorem Strictness.keepsMark_guard (strictness : Strictness) {a : Action Unit} (h : KeepsMark a) :
    KeepsMark (strictness.guard a) := by
  intro s hs
  have hmark := h s hs
  rw [run_guard]
  cases hrun : a.run s with
  | mk outcome s' =>
    rw [hrun] at hmark
    cases outcome with
    | ok u => exact hmark
    | error e =>
      dsimp only
      split
      · cases strictness with
        | process => exact hmark
        | record => rfl
        | expression => exact hmark
      · exact hmark

theorem congruence_keepsMark (strictness : Strictness) :
    Congruence strictness strictness fun a _ => KeepsMark a where
  plain h := h.keepsMark
  andThen h h' := keepsMark_bind h fun _ => h'
  guard h := strictness.keepsMark_guard h
  condition c h h' := keepsMark_bind (keepsMark_of_record fun _ => rfl) fun holds => by
    split
    · exact h
    · exact h'
  arguments params options h := keepsMark_bind (keepsMark_of_record fun _ => rfl) h
  includeFix := Method.keepsMark_includeFix
  list := Bind.keepsMark_list

/-- Nothing that is run takes the mark from a rejected record. -/
theorem keepsMark_runAt (strictness : Strictness) (depth : Nat) (es : List Expression) :
    KeepsMark (runAt Registry.builtin strictness depth es) :=
  (congruence_keepsMark strictness).runAt depth es

/-! ### Starts among events -/

/-- The ids of the records that start among some events. -/
def startIds (es : List Event) : List String :=
  es.filterMap fun
    | .startRecord id => some id
    | _ => none

theorem startIds_append (es fs : List Event) : startIds (es ++ fs) = startIds es ++ startIds fs :=
  List.filterMap_append

theorem startIds_of_balanced {n : Nat} {es : List Event} (h : balanced n es = true) : startIds es = [] := by
  induction es generalizing n with
  | nil => rfl
  | cons e es ih =>
    cases e with
    | literal name text => exact ih h
    | startEntity name => exact ih h
    | endEntity =>
      cases n with
      | zero => cases h
      | succ n => exact ih h
    | _ => cases h

/-- A record that is sent starts once. -/
theorem startIds_recordEvents (settings : Settings) (id : String) (h : Hash) :
    startIds (h.recordEvents settings id) = [id] := by
  have hfields : balanced 0 (Value.fieldEvents settings h.fields) = true := by
    rw [← Value.events_fieldEntries, ← List.append_nil (Forest.events _), balanced_forest]
    rfl
  show id :: startIds (Value.fieldEvents settings h.fields ++ [.endRecord]) = [id]
  rw [startIds_append, startIds_of_balanced hfields]
  rfl

/-! ### Builders -/

namespace Builder

variable {b b' : Builder} {name text : String}

/-- Whether a builder reads the same record on: it has the id of another one, and its record has the mark. -/
structure Continues (b b' : Builder) : Prop where
  id : b'.id = b.id
  rejected : b'.record.rejected = b.record.rejected

private theorem continues_add {v : Value} {place : List Step} (h : b.add name v = .ok (b', place)) : b.Continues b' := by
  unfold add at h
  dsimp only at h
  split at h
  · cases h
    exact ⟨rfl, rfl⟩
  · cases h

theorem continues_openEntity (h : b.openEntity name = .ok b') : b.Continues b' := by
  obtain ⟨⟨grown, place⟩, hadd, h⟩ := exists_of_bind_eq_ok h
  cases h
  exact ⟨(continues_add hadd).id, (continues_add hadd).rejected⟩

theorem continues_closeEntity (h : b.closeEntity = .ok b') : b.Continues b' := by
  unfold closeEntity at h
  split at h <;> cases h
  exact ⟨rfl, rfl⟩

theorem continues_addLiteral (h : b.addLiteral name text = .ok b') : b.Continues b' := by
  obtain ⟨⟨grown, place⟩, hadd, h⟩ := exists_of_bind_eq_ok h
  cases h
  exact continues_add hadd

end Builder

/-! ### Stages -/

namespace Stage

variable {s : Stage}

/-- What a stage sends for an event; nothing if the event fails. -/
def sent (s : Stage) (e : Event) : List Event :=
  match (s.step e).1 with
  | .ok es => es
  | .error _ => []

/-- What a stage sends for events in order, going on after those that fail. -/
def sentAll (s : Stage) : List Event → List Event
  | [] => []
  | e :: es => s.sent e ++ (s.step e).2.sentAll es

/-- Whether a record is open after an event. It is open from its start until it is sent or the stream is reset; an end
that fails leaves it open, and so does one that rejects it. -/
def openAfter (isOpen : Bool) (s : Stage) (e : Event) : Bool :=
  match e with
  | .startRecord _ => true
  | .resetStream => false
  | .endRecord => isOpen && (s.sent e).isEmpty
  | .startEntity _ | .endEntity | .literal .. | .closeStream => isOpen

/-- Whether each end of a record finds a record open. -/
def endsOpen (isOpen : Bool) (s : Stage) : List Event → Bool
  | [] => true
  | e :: es => (isOpen || e != .endRecord) && (s.step e).2.endsOpen (s.openAfter isOpen e) es

/-- The start of the record that is open, if one is. -/
def openIds (isOpen : Bool) (s : Stage) : List String := if isOpen then [s.builder.id] else []

/-- The events that read a record on send nothing, and the record keeps its id and its mark. -/
private theorem sent_of_build {e : Event} {change : Except StreamError Builder} (hstep : s.step e = s.build change)
    (h : ∀ b, change = .ok b → s.builder.Continues b) :
    s.sent e = [] ∧ s.builder.Continues (s.step e).2.builder := by
  unfold sent
  rw [hstep]
  cases change with
  | error cause => exact ⟨rfl, rfl, rfl⟩
  | ok b => exact ⟨rfl, h b rfl⟩

/-- The end of a record sends nothing or the record, which keeps its id. -/
theorem sent_endRecord (s : Stage) :
    (s.step .endRecord).2.builder.id = s.builder.id ∧
      (s.sent .endRecord = [] ∨ ∃ h : Hash, s.sent .endRecord = h.recordEvents s.settings s.builder.id) := by
  have hstep : s.step .endRecord = s.finishRecord := rfl
  rw [sent, hstep]
  cases hfinish : s.finishRecord with
  | mk outcome t =>
    cases finishes hfinish with
    | unbalanced hopen => exact ⟨rfl, Or.inl rfl⟩
    | failed hopen hrun => exact ⟨rfl, Or.inl rfl⟩
    | rejected hopen hrun hrejected => exact ⟨rfl, Or.inl rfl⟩
    | @sent session hopen hrun hkept => exact ⟨rfl, Or.inr ⟨session.record.fields, rfl⟩⟩

/-- The starts that an event sends on are that of the open record or its own; what is left is still open. -/
theorem startIds_sent_sublist {isOpen : Bool} {e : Event} (h : (isOpen || e != .endRecord) = true) :
    (startIds (s.sent e) ++ (s.step e).2.openIds (s.openAfter isOpen e)).Sublist
      (s.openIds isOpen ++ startIds [e]) := by
  have hread : ∀ {change : Except StreamError Builder}, s.step e = s.build change →
      (∀ b, change = .ok b → s.builder.Continues b) →
        startIds (s.sent e) ++ (s.step e).2.openIds isOpen = s.openIds isOpen := by
    intro change hstep hchange
    obtain ⟨hsent, hcontinues⟩ := sent_of_build hstep hchange
    rw [hsent, openIds, hcontinues.id]
    rfl
  cases e with
  | startRecord id => exact List.sublist_append_right _ _
  | resetStream => exact List.nil_sublist _
  | closeStream => exact List.sublist_append_left _ _
  | startEntity name =>
    have hopen := hread rfl fun b hb => Builder.continues_openEntity hb
    exact hopen ▸ List.sublist_append_left _ _
  | endEntity =>
    have hopen := hread rfl fun b hb => Builder.continues_closeEntity hb
    exact hopen ▸ List.sublist_append_left _ _
  | literal name text =>
    have hopen := hread rfl fun b hb => Builder.continues_addLiteral hb
    exact hopen ▸ List.sublist_append_left _ _
  | endRecord =>
    obtain rfl : isOpen = true := by simpa using h
    obtain ⟨hid, hsent⟩ := s.sent_endRecord
    rcases hsent with hsent | ⟨fields, hsent⟩
    · rw [openAfter, hsent, openIds, hid]
      exact List.Sublist.refl _
    · rw [openAfter, hsent, startIds_recordEvents]
      exact List.Sublist.refl _

theorem startIds_sentAll_openIds {isOpen : Bool} {es : List Event} (h : s.endsOpen isOpen es = true) :
    (startIds (s.sentAll es)).Sublist (s.openIds isOpen ++ startIds es) := by
  induction es generalizing s isOpen with
  | nil => exact List.nil_sublist _
  | cons e es ih =>
    obtain ⟨hfound, hrest⟩ := Bool.and_eq_true_iff.1 h
    have hstep := startIds_sent_sublist (s := s) hfound
    have hlater := (ih hrest).append_left (startIds (s.sent e))
    rw [sentAll, startIds_append, ← List.singleton_append, startIds_append, ← List.append_assoc]
    rw [← List.append_assoc] at hlater
    exact hlater.trans (hstep.append_right (startIds es))

/-- A rejected record is not sent at its end, and stays rejected. -/
private theorem sent_endRecord_of_rejected (hregistry : s.registry = Registry.builtin)
    (hrejected : s.builder.record.rejected = true) :
    s.sent .endRecord = [] ∧ (s.step .endRecord).2.builder.record.rejected = true := by
  have hrun : s.runFix.2.record.rejected = true := by
    unfold runFix
    rw [hregistry]
    exact keepsMark_runAt s.settings.strictness (includeLimit + 1) s.fix.expressions ⟨s.builder.record, s.env⟩ hrejected
  have hstep : s.step .endRecord = s.finishRecord := rfl
  rw [sent, hstep]
  cases hfinish : s.finishRecord with
  | mk outcome t =>
    cases finishes hfinish with
    | unbalanced hopen => exact ⟨rfl, hrejected⟩
    | failed hopen hran =>
      rw [hran] at hrun
      exact ⟨rfl, hrun⟩
    | rejected hopen hran hmark => exact ⟨rfl, hmark⟩
    | sent hopen hran hkept =>
      rw [hran, hkept] at hrun
      cases hrun

/-- Only the start of another record and a reset take a rejected record away. -/
private theorem startIds_sent_of_rejected (hregistry : s.registry = Registry.builtin)
    (hrejected : s.builder.record.rejected = true) {e : Event} (hstart : startIds [e] = []) (hreset : e ≠ .resetStream) :
    startIds (s.sent e) = [] ∧ (s.step e).2.builder.record.rejected = true := by
  have hread : ∀ {change : Except StreamError Builder}, s.step e = s.build change →
      (∀ b, change = .ok b → s.builder.Continues b) →
        startIds (s.sent e) = [] ∧ (s.step e).2.builder.record.rejected = true := by
    intro change hstep hchange
    obtain ⟨hsent, hcontinues⟩ := sent_of_build hstep hchange
    rw [hsent, hcontinues.rejected]
    exact ⟨rfl, hrejected⟩
  cases e with
  | startRecord id => cases hstart
  | resetStream => exact absurd rfl hreset
  | closeStream => exact ⟨rfl, hrejected⟩
  | startEntity name => exact hread rfl fun b hb => Builder.continues_openEntity hb
  | endEntity => exact hread rfl fun b hb => Builder.continues_closeEntity hb
  | literal name text => exact hread rfl fun b hb => Builder.continues_addLiteral hb
  | endRecord =>
    obtain ⟨hsent, hafter⟩ := sent_endRecord_of_rejected hregistry hrejected
    rw [hsent]
    exact ⟨rfl, hafter⟩

theorem startIds_sentAll_of_rejected (h : s.Placed) (hrejected : s.builder.record.rejected = true) {es : List Event}
    (hstart : startIds es = []) (hreset : Event.resetStream ∉ es) : startIds (s.sentAll es) = [] := by
  induction es generalizing s with
  | nil => rfl
  | cons e es ih =>
    rw [← List.singleton_append, startIds_append, List.append_eq_nil_iff] at hstart
    obtain ⟨hfirst, hothers⟩ := not_or.1 (List.mem_cons.not.1 hreset)
    obtain ⟨hsent, hafter⟩ := startIds_sent_of_rejected h.registry hrejected hstart.1 (Ne.symm hfirst)
    rw [sentAll, startIds_append, hsent, ih (h.step e) hafter hstart.2 hothers]
    rfl

/-- Events of any kind and order are given to a new stage, going on after those that fail. If each end of a record
finds a record open, then the starts that are sent are among those that are received, in their order, so that each
record that is sent has a start of its own. After an end that rejects its record no record is sent before the next
start or reset, whatever the events were. -/
theorem startIds_sentAll_sublist (fix : Fix) (settings : Settings) (files : Files) (fixFile : Option String)
    (es : List Event) :
    let s := start fix settings files fixFile
    (s.endsOpen false es = true → (startIds (s.sentAll es)).Sublist (startIds es)) ∧
      ∀ later, ((s.afterAll es).step .endRecord).1 = .ok [] → startIds later = [] → Event.resetStream ∉ later →
        startIds (((s.afterAll es).step .endRecord).2.sentAll later) = [] := by
  intro s
  refine ⟨fun h => startIds_sentAll_openIds h, fun later hend hstart hreset => ?_⟩
  have hplaced : ((s.afterAll es).step .endRecord).2.Placed :=
    ((placed_start fix settings files fixFile).afterAll es).step .endRecord
  refine startIds_sentAll_of_rejected hplaced ?_ hstart hreset
  -- an outcome without events is that of a rejected record
  cases hfinish : (s.afterAll es).step .endRecord with
  | mk outcome t =>
    rw [hfinish] at hend
    cases hend
    cases finishes hfinish with
    | rejected hopen hrun hrejected => exact hrejected

/-- A record that is ended twice, first within an entity, and one that the fix rejects. -/
theorem startIds_sentAll_sublist_reject :
    let fix : Fix := ⟨[.ifThen ⟨"exists", ["x"]⟩ [.call "reject" [] []] [] none]⟩
    let es : List Event := [.startRecord "1", .startEntity "a", .endRecord, .endEntity, .endRecord, .startRecord "2",
      .literal "x" "b"]
    let later : List Event := [.literal "c" "d", .endRecord, .closeStream, .endRecord]
    let s := start fix {} Files.empty none
    s.endsOpen false es = true ∧ ((s.afterAll es).step .endRecord).1 = .ok [] ∧ startIds later = [] ∧
      Event.resetStream ∉ later ∧ startIds (s.sentAll es) = ["1"] ∧
        (startIds (s.sentAll es)).Sublist (startIds es) ∧
          startIds (((s.afterAll es).step .endRecord).2.sentAll later) = [] := by
  intro fix es later s
  have hopen : s.endsOpen false es = true := by decide
  have hend : ((s.afterAll es).step .endRecord).1 = .ok [] := by decide
  have hreset : Event.resetStream ∉ later := by decide
  have hsent : startIds (s.sentAll es) = ["1"] := by decide
  obtain ⟨hsublist, hrejected⟩ := startIds_sentAll_sublist fix {} Files.empty none es
  exact ⟨hopen, hend, rfl, hreset, hsent, hsublist hopen, hrejected later hend rfl hreset⟩

/-- A record whose end comes twice is sent twice. -/
theorem not_sentAll_once :
    ¬ ∀ (fix : Fix) (settings : Settings) (files : Files) (fixFile : Option String) (es : List Event),
      (startIds ((start fix settings files fixFile).sentAll es)).length ≤ (startIds es).length := by
  intro h
  have htwice := h ⟨[]⟩ {} Files.empty none [.startRecord "1", .literal "a" "b", .endRecord, .endRecord]
  revert htwice
  decide

end Stage

end RecordFix
