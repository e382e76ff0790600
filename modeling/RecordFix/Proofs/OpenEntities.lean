import RecordFix.Proofs.Origins

/-!
# Open entities

The steps that a builder keeps for an open entity lead to a container, and they go on from the steps of the entity
around it (`Builder.Located`). What is added to the innermost container leaves a container wherever there was one
(`Builder.Located.exists_add`), and at the end of a record no entity is open. So events of any kind and order never find
an open entity gone, and the entities that are open are those that were opened and not closed
(`Stage.step_afterAll_balanced`).
-/

namespace RecordFix

namespace Value

variable {c d v w : Value} {p q : List Step}

private theorem kind_replaceAt_cons (w : Value) (step : Step) (p : List Step) (c : Value) :
    (replaceAt w (step :: p) c).kind = c.kind := by
  cases step <;> cases c <;> simp only [replaceAt] <;> split <;> rfl

/-- A container that is put further down leaves a container wherever there was one on the way. -/
theorem exists_nodeAt?_replaceAt (hc : nodeAt? q v = some c) (hkind : c.kind ≠ .string) (hw : w.kind ≠ .string)
    (hqp : q <+: p) : ∃ c', nodeAt? q (replaceAt w p v) = some c' ∧ c'.kind ≠ .string := by
  obtain ⟨rest, rfl⟩ := hqp
  refine ⟨replaceAt w rest c, ?_, ?_⟩
  · rw [replaceAt_append hc]
    exact nodeAt?_replaceAt hc
  · cases rest with
    | nil => exact hw
    | cons step rest =>
      rw [kind_replaceAt_cons]
      exact hkind

end Value

namespace Builder

variable {b : Builder}

/-- Whether the steps of each open entity lead to a container and go on from those of the entities around it. -/
structure Located (b : Builder) : Prop where
  container : ∀ p ∈ b.openEntities, ∃ c, Value.nodeAt? p b.root = some c ∧ c.kind ≠ .string
  nested : b.openEntities.Pairwise fun inner outer => outer <+: inner

theorem located_of_nil (h : b.openEntities = []) : b.Located := by
  constructor
  · rw [h]
    intro p hp
    cases hp
  · rw [h]
    exact .nil

namespace Located

/-- There is a container to which the next value is added. -/
theorem exists_place (h : b.Located) : ∃ c, Value.nodeAt? b.place b.root = some c ∧ c.kind ≠ .string := by
  cases hopen : b.openEntities with
  | nil =>
    refine ⟨b.root, ?_, ?_⟩
    · rw [place, hopen]
      rfl
    · simp [root, Hash.toValue, Value.kind]
  | cons p outer =>
    have hp : b.place = p := by rw [place, hopen]; rfl
    rw [hp]
    exact h.container p (by simp [hopen])

/-- The steps to all open entities are on the way to the innermost. -/
theorem prefix_place (h : b.Located) : ∀ p ∈ b.openEntities, p <+: b.place := by
  intro p hp
  have hnested := h.nested
  cases hopen : b.openEntities with
  | nil => simp [hopen] at hp
  | cons inner outer =>
    have hinner : b.place = inner := by rw [place, hopen]; rfl
    rw [hopen] at hp hnested
    rw [hinner]
    rcases List.mem_cons.1 hp with rfl | hp
    · exact List.prefix_refl p
    · exact (List.pairwise_cons.1 hnested).1 p hp

/-- A value is added below the innermost open entity, and the containers on the way to it stay. -/
theorem exists_add (h : b.Located) (name : String) (v : Value) :
    ∃ (fields : Hash) (relative : List Step) (o : Option String),
      b.add name v = .ok (b.withFields fields, b.place ++ relative) ∧ (b.withFields fields).Located ∧
        Value.nodeAt? (b.place ++ relative) fields.toValue = some (v.rebase o) := by
  obtain ⟨c, hc, hkind⟩ := h.exists_place
  obtain ⟨fields, hroot, hadd⟩ := b.exists_add name v hc hkind
  obtain ⟨o, hnode, -⟩ := Value.exists_replaceAt_addChild name v hkind
  have hgrown : (c.addChild name v).kind ≠ .string := by rw [Value.kind_addChild]; exact hkind
  refine ⟨fields, c.childSteps name v, o, hadd, ⟨?_, h.nested⟩, ?_⟩
  · intro p hp
    obtain ⟨d, hd, hdkind⟩ := h.container p hp
    show ∃ c', Value.nodeAt? p fields.toValue = some c' ∧ c'.kind ≠ .string
    rw [hroot]
    exact Value.exists_nodeAt?_replaceAt hd hdkind hgrown (h.prefix_place p hp)
  · rw [hroot, Value.nodeAt?_append, Value.nodeAt?_replaceAt hc]
    exact hnode

/-- A literal is always taken. -/
theorem exists_addLiteral (h : b.Located) (name text : String) :
    ∃ b', b.addLiteral name text = .ok b' ∧ b'.Located ∧ b'.openEntities = b.openEntities := by
  obtain ⟨fields, relative, o, hadd, hlocated, -⟩ := h.exists_add name (Value.ofString text)
  refine ⟨b.withFields fields, ?_, hlocated, rfl⟩
  rw [addLiteral, hadd]
  rfl

/-- So is the start of an entity, which is open then. -/
theorem exists_openEntity (h : b.Located) (name : String) :
    ∃ b', b.openEntity name = .ok b' ∧ b'.Located ∧ b'.openEntities.length = b.openEntities.length + 1 := by
  obtain ⟨fields, relative, o, hadd, hlocated, hnode⟩ := h.exists_add name (emptyEntity name)
  let steps := b.place ++ relative
  refine ⟨{ b.withFields fields with openEntities := steps :: b.openEntities }, ?_, ⟨?_, ?_⟩, rfl⟩
  · rw [openEntity, hadd]
    rfl
  · intro p hp
    rcases List.mem_cons.1 hp with rfl | hp
    · refine ⟨_, hnode, ?_⟩
      rw [Value.kind_rebase]
      exact Stage.kind_emptyEntity name
    · exact hlocated.container p hp
  · refine List.pairwise_cons.2 ⟨fun p hp => ?_, h.nested⟩
    exact (h.prefix_place p hp).trans (List.prefix_append b.place relative)

/-- The entities around the innermost are located when it is closed. -/
theorem closeEntity {inner : List Step} {outer : List (List Step)} (h : b.Located)
    (hopen : b.openEntities = inner :: outer) :
    b.closeEntity = .ok { b with openEntities := outer } ∧ ({ b with openEntities := outer } : Builder).Located := by
  have hnested := h.nested
  rw [hopen] at hnested
  refine ⟨?_, fun p hp => h.container p ?_, (List.pairwise_cons.1 hnested).2⟩
  · rw [Builder.closeEntity, hopen]
  · rw [hopen]
    exact List.mem_cons_of_mem inner hp

end Located

end Builder

/-! ### Counting -/

/-- How many entities were opened, and how many of them were closed. -/
structure Tally where
  opened : Nat := 0
  closed : Nat := 0

namespace Tally

/-- What an event adds. The start of a record and a reset begin anew, and an end that finds no entity open closes
none. -/
def after (t : Tally) : Event → Tally
  | .startRecord _ | .resetStream => {}
  | .startEntity _ => { t with opened := t.opened + 1 }
  | .endEntity => if t.closed < t.opened then { t with closed := t.closed + 1 } else t
  | .literal .. | .endRecord | .closeStream => t

/-- The entities since the last start of a record or reset, or since the first event. -/
def ofEvents (es : List Event) : Tally := es.foldl after {}

end Tally

namespace Stage

variable {s : Stage} {t : Tally}

/-- Whether the open entities of a stage are located, and as many as were opened and not closed. -/
structure Balanced (t : Tally) (s : Stage) : Prop where
  located : s.builder.Located
  count : s.builder.openEntities.length + t.closed = t.opened

/-- The end of a record leaves open what was open, and then does nothing else. -/
theorem finishRecord_of_open (h : s.builder.openEntities ≠ []) : s.finishRecord = (.error .entitiesNotBalanced, s) := by
  cases hfinish : s.finishRecord with
  | mk outcome t =>
    cases finishes hfinish with
    | unbalanced hopen => rfl
    | failed hopen hrun => exact absurd hopen h
    | rejected hopen hrun hrejected => exact absurd hopen h
    | sent hopen hrun hkept => exact absurd hopen h

/-- Where no entity is open, the end of a record may fail as the fix does, and opens none. -/
theorem finishRecord_of_closed (h : s.builder.openEntities = []) :
    s.finishRecord.2.builder.openEntities = [] ∧
      ∀ cause, s.finishRecord.1 = .error cause → ∃ e, cause = .fix e := by
  cases hfinish : s.finishRecord with
  | mk outcome t =>
    cases finishes hfinish with
    | unbalanced hopen => exact absurd h hopen
    | @failed e session hopen hrun =>
      refine ⟨h, fun cause hcause => ⟨e, ?_⟩⟩
      cases hcause
      rfl
    | rejected hopen hrun hrejected => exact ⟨h, fun _ hcause => nomatch hcause⟩
    | sent hopen hrun hkept => exact ⟨h, fun _ hcause => nomatch hcause⟩

namespace Balanced

theorem openEntities_eq_nil_iff (h : s.Balanced t) : s.builder.openEntities = [] ↔ t.closed = t.opened := by
  have hcount := h.count
  rw [← List.length_eq_zero_iff]
  omega

/-- What an event does to the entities that are open, whether it fails or not. -/
theorem step (h : s.Balanced t) (e : Event) : (s.step e).2.Balanced (t.after e) := by
  have hcount := h.count
  cases e with
  | startRecord id => exact ⟨Builder.located_of_nil rfl, rfl⟩
  | resetStream => exact ⟨Builder.located_of_nil rfl, rfl⟩
  | closeStream => exact ⟨h.located, h.count⟩
  | literal name text =>
    obtain ⟨b, hadd, hlocated, hopen⟩ := h.located.exists_addLiteral name text
    show (s.build (s.builder.addLiteral name text)).2.Balanced t
    rw [hadd]
    refine ⟨hlocated, ?_⟩
    show b.openEntities.length + t.closed = t.opened
    rw [hopen]
    exact hcount
  | startEntity name =>
    obtain ⟨b, hopened, hlocated, hlength⟩ := h.located.exists_openEntity name
    show (s.build (s.builder.openEntity name)).2.Balanced { t with opened := t.opened + 1 }
    rw [hopened]
    refine ⟨hlocated, ?_⟩
    show b.openEntities.length + t.closed = t.opened + 1
    omega
  | endEntity =>
    show (s.build s.builder.closeEntity).2.Balanced (t.after .endEntity)
    cases hopen : s.builder.openEntities with
    | nil =>
      rw [hopen, List.length_nil] at hcount
      have hafter : t.after .endEntity = t := if_neg (by omega)
      rw [Builder.closeEntity, hopen, hafter]
      exact h
    | cons inner outer =>
      obtain ⟨hclose, hlocated⟩ := h.located.closeEntity hopen
      rw [hopen, List.length_cons] at hcount
      have hafter : t.after .endEntity = { t with closed := t.closed + 1 } := if_pos (by omega)
      rw [hclose, hafter]
      refine ⟨hlocated, ?_⟩
      show outer.length + (t.closed + 1) = t.opened
      omega
  | endRecord =>
    show s.finishRecord.2.Balanced t
    by_cases hopen : s.builder.openEntities = []
    · have hafter := (finishRecord_of_closed hopen).1
      refine ⟨Builder.located_of_nil hafter, ?_⟩
      rw [hafter]
      rw [hopen] at hcount
      exact hcount
    · rw [finishRecord_of_open hopen]
      exact h

theorem afterAll (h : s.Balanced t) (es : List Event) : (s.afterAll es).Balanced (es.foldl Tally.after t) := by
  induction es generalizing s t with
  | nil => exact h
  | cons e es ih => exact ih (h.step e)

/-- An event that fails is an end: of an entity where none is open, or of a record. -/
theorem cases_of_failure (h : s.Balanced t) {e : Event} {cause : StreamError} (hfail : (s.step e).1 = .error cause) :
    (e = .endEntity ∧ cause = .entitiesNotBalanced ∧ t.closed = t.opened ∧ (s.step e).2 = s) ∨
      (e = .endRecord ∧ cause = .entitiesNotBalanced ∧ t.closed < t.opened ∧ (s.step e).2 = s) ∨
        ∃ failure, e = .endRecord ∧ cause = .fix failure ∧ t.closed = t.opened := by
  have hcount := h.count
  have hnil := h.openEntities_eq_nil_iff
  cases e with
  | startRecord id => cases hfail
  | resetStream => cases hfail
  | closeStream => cases hfail
  | literal name text =>
    obtain ⟨b, hadd, -⟩ := h.located.exists_addLiteral name text
    have hstep : s.step (.literal name text) = s.build (s.builder.addLiteral name text) := rfl
    rw [hstep, hadd] at hfail
    cases hfail
  | startEntity name =>
    obtain ⟨b, hopened, -⟩ := h.located.exists_openEntity name
    have hstep : s.step (.startEntity name) = s.build (s.builder.openEntity name) := rfl
    rw [hstep, hopened] at hfail
    cases hfail
  | endEntity =>
    have hstep : s.step .endEntity = s.build s.builder.closeEntity := rfl
    cases hopen : s.builder.openEntities with
    | nil =>
      rw [hstep, Builder.closeEntity, hopen] at hfail ⊢
      cases hfail
      exact Or.inl ⟨rfl, rfl, hnil.1 hopen, rfl⟩
    | cons inner outer =>
      rw [hstep, (h.located.closeEntity hopen).1] at hfail
      cases hfail
  | endRecord =>
    have hstep : s.step .endRecord = s.finishRecord := rfl
    rw [hstep] at hfail ⊢
    by_cases hopen : s.builder.openEntities = []
    · obtain ⟨failure, rfl⟩ := (finishRecord_of_closed hopen).2 cause hfail
      exact Or.inr (Or.inr ⟨failure, rfl, rfl, hnil.1 hopen⟩)
    · have hne : t.closed ≠ t.opened := fun hall => hopen (hnil.2 hall)
      rw [finishRecord_of_open hopen] at hfail ⊢
      cases hfail
      exact Or.inr (Or.inl ⟨rfl, rfl, by omega, rfl⟩)

end Balanced

/-- Events of any kind and order are given to a new stage with any commands and any fix, going on after those that fail.
No event finds an open entity gone. The end of an entity fails as unbalanced if none is open, and the end of a record if
more entities were opened than closed since its start; such an event leaves the stage as it is, and a receiver with what
it had. -/
theorem step_afterAll_balanced (registry : Registry) (fix : Fix) (settings : Settings) (files : Files)
    (fixFile : Option String) (es : List Event) :
    let s := ({ start fix settings files fixFile with registry := registry } : Stage).afterAll es
    let t := Tally.ofEvents es
    (∀ e place, (s.step e).1 ≠ .error (.entityNotFound place)) ∧
      ((s.step .endEntity).1 = .error .entitiesNotBalanced ↔ s.builder.openEntities = []) ∧
      (s.builder.openEntities = [] ↔ t.closed = t.opened) ∧
      ((s.step .endRecord).1 = .error .entitiesNotBalanced ↔ t.closed < t.opened) ∧
      ∀ e, (s.step e).1 = .error .entitiesNotBalanced →
        (s.step e).2 = s ∧ ∀ {σ : Type} (receive : Receiver σ) (r : σ),
          s.feed receive e r = (some .entitiesNotBalanced, s, r) := by
  intro s t
  have hnew : ({ start fix settings files fixFile with registry := registry } : Stage).Balanced {} :=
    ⟨Builder.located_of_nil rfl, rfl⟩
  have h : s.Balanced t := hnew.afterAll es
  have hnil := h.openEntities_eq_nil_iff
  refine ⟨?_, ?_, hnil, ?_, ?_⟩
  · intro e place hfail
    rcases h.cases_of_failure hfail with ⟨-, hcause, -⟩ | ⟨-, hcause, -⟩ | ⟨failure, -, hcause, -⟩
    all_goals cases hcause
  · constructor
    · intro hfail
      rcases h.cases_of_failure hfail with ⟨-, -, hall, -⟩ | ⟨he, -⟩ | ⟨failure, he, -⟩
      · exact hnil.2 hall
      · cases he
      · cases he
    · intro hopen
      show (s.build s.builder.closeEntity).1 = _
      rw [Builder.closeEntity, hopen]
      rfl
  · constructor
    · intro hfail
      rcases h.cases_of_failure hfail with ⟨he, -⟩ | ⟨-, -, hmore, -⟩ | ⟨failure, -, hcause, -⟩
      · cases he
      · exact hmore
      · cases hcause
    · intro hmore
      have hopen : s.builder.openEntities ≠ [] := fun hnone => by
        have := hnil.1 hnone
        omega
      show s.finishRecord.1 = _
      rw [finishRecord_of_open hopen]
  · intro e hfail
    have hsame : (s.step e).2 = s := by
      rcases h.cases_of_failure hfail with ⟨-, -, -, hsame⟩ | ⟨-, -, -, hsame⟩ | ⟨failure, -, hcause, -⟩
      · exact hsame
      · exact hsame
      · cases hcause
    refine ⟨hsame, fun receive r => ?_⟩
    have hstep : s.step e = (.error .entitiesNotBalanced, s) := Prod.ext hfail hsame
    rw [feed, hstep]

end Stage

end RecordFix
