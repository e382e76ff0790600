import RecordFix.Proofs.Forest
import RecordFix.Proofs.Node
import RecordFix.Stage

/-!
# Folding events into a record

A builder attaches an empty container where an entity starts and fills it in place. The steps that it keeps for an
open entity lead to this container, since the containers around it do not change before it is closed
(`Builder.exists_add`). A container that was attached empty and filled in place is the filled container attached
(`Value.exists_replaceAt_addChild`), so the events of a forest add its fields one after the other
(`Stage.feedAll_forest`). What the end of a record then comes to is stated once, case by case (`Stage.Finishes`).
-/

namespace RecordFix

/-! ### Attaching to a container -/

/-- A container with one more child. -/
def Value.addChild (c : Value) (name : String) (v : Value) : Value :=
  match c with
  | .hash fields o => ((⟨fields, o⟩ : Hash).add name v).toValue
  | .array items o => .array (Value.pushItem o items v) o
  | .string t o => .string t o

/-- The step or two from a container to the child that is added. -/
def Value.childSteps (c : Value) (name : String) (v : Value) : List Step :=
  match c with
  | .hash fields o => (Builder.attachField name v ⟨fields, o⟩).2
  | .array items _ => [.item items.length]
  | .string .. => []

/-- A container with several more children. -/
def Value.addChildren (c : Value) (fs : List (String × Value)) : Value := fs.foldl (fun c f => c.addChild f.1 f.2) c

namespace Value

variable {v w c root : Value} {name : String} {p : List Step}

theorem kind_addChild (c : Value) (name : String) (v : Value) : (c.addChild name v).kind = c.kind := by
  cases c <;> rfl

theorem addChildren_hash (fs : List (String × Value)) (h : Hash) :
    h.toValue.addChildren fs = (h.addAll fs).toValue := by
  induction fs generalizing h with
  | nil => rfl
  | cons f fs ih => exact ih (h.add f.1 f.2)

theorem addChildren_array (o : Option String) (fs : List (String × Value)) :
    (array [] o).addChildren fs = array (rebaseItems o 1 (fs.map (·.2))) o := by
  induction fs using List.reverseRecOn with
  | nil => rfl
  | append_singleton fs f ih =>
    have happ : (array [] o).addChildren (fs ++ [f]) = ((array [] o).addChildren fs).addChild f.1 f.2 := by
      simp only [addChildren, List.foldl_append, List.foldl_cons, List.foldl_nil]
    rw [happ, ih, List.map_append, List.map_cons, List.map_nil, rebaseItems_concat]
    rfl

/-- Appending to a value adds an item at the end of an array that does not depend on it. -/
private theorem exists_append_eq (w : Value) : ∃ items o, ∀ v, w.append v = array (pushItem o items v) o := by
  cases w with
  | array xs o => exact ⟨xs, o, fun _ => rfl⟩
  | string t o => exact ⟨pushItem o [] (string t o), o, fun _ => rfl⟩
  | hash fs o => exact ⟨pushItem o [] (hash fs o), o, fun _ => rfl⟩

private theorem getElem?_pushItem (o : Option String) (items : List Value) (v : Value) :
    (pushItem o items v)[items.length]? = some (v.rebase (some (itemOrigin o (items.length + 1)))) := by
  simp [pushItem]

private theorem set_pushItem (o : Option String) (items : List Value) (v u : Value) :
    (pushItem o items v).set items.length (u.rebase (some (itemOrigin o (items.length + 1)))) = pushItem o items u := by
  simp [pushItem]

private theorem attachField_of_some {fields : List (String × Value)} {o : Option String} {old : Value}
    (hold : fields.lookup name = some old) {items : List Value} {o' : Option String}
    (happ : old.append v = array (pushItem o' items v) o') :
    ((⟨fields, o⟩ : Hash).add name v).toValue = hash (Hash.putEntry name (array (pushItem o' items v) o') fields) o ∧
      (Builder.attachField name v ⟨fields, o⟩).2 = [.field name, .item items.length] := by
  have hadd : (⟨fields, o⟩ : Hash).add name v = ⟨Hash.putEntry name (array (pushItem o' items v) o') fields, o⟩ := by
    simp only [Hash.add, Hash.get?, hold, Hash.putRaw, happ]
  refine ⟨by rw [hadd]; rfl, ?_⟩
  have hcont : (⟨fields, o⟩ : Hash).contains name = true := by
    rw [Hash.contains_eq_isSome_get?, Hash.get?, hold]
    rfl
  simp only [Builder.attachField, hcont, hadd, Hash.get?, Hash.lookup_putEntry_self]
  simp [pushItem]

private theorem attachField_of_none {fields : List (String × Value)} {o : Option String}
    (hnone : fields.lookup name = none) :
    ((⟨fields, o⟩ : Hash).add name v).toValue =
        hash (Hash.putEntry name (v.rebase (some (childOrigin o name))) fields) o ∧
      (Builder.attachField name v ⟨fields, o⟩).2 = [.field name] := by
  refine ⟨by simp only [Hash.add, Hash.get?, hnone, Hash.put]; rfl, ?_⟩
  have hcont : (⟨fields, o⟩ : Hash).contains name = false := by
    rw [Hash.contains_eq_isSome_get?, Hash.get?, hnone]
    rfl
  simp only [Builder.attachField, hcont]

/-- The child that was added stands, rebased, at the end of its steps; and a child that is put there instead might as
well have been added. -/
theorem exists_replaceAt_addChild (name : String) (v : Value) (hc : c.kind ≠ .string) :
    ∃ o, nodeAt? (c.childSteps name v) (c.addChild name v) = some (v.rebase o) ∧
      ∀ u, replaceAt (u.rebase o) (c.childSteps name v) (c.addChild name v) = c.addChild name u := by
  cases c with
  | string t o => exact absurd rfl hc
  | array items o =>
    refine ⟨some (itemOrigin o (items.length + 1)), ?_, fun u => ?_⟩
    · simp only [childSteps, addChild, nodeAt?, getElem?_pushItem, Option.bind_some]
    · simp only [childSteps, addChild, replaceAt, getElem?_pushItem, set_pushItem]
  | hash fields o =>
    cases hl : fields.lookup name with
    | none =>
      refine ⟨some (childOrigin o name), ?_, fun u => ?_⟩
      · rw [childSteps, addChild, (attachField_of_none hl).1, (attachField_of_none hl).2]
        simp only [nodeAt?, Hash.lookup_putEntry_self, Option.bind_some]
      · rw [childSteps, addChild, addChild, (attachField_of_none hl).1, (attachField_of_none hl).2,
          (attachField_of_none hl).1]
        simp only [replaceAt, Hash.lookup_putEntry_self, Hash.putEntry_putEntry]
    | some old =>
      -- the name is there already, so the child is an item of the array that its value becomes
      obtain ⟨items, o', happ⟩ := exists_append_eq old
      obtain ⟨hv, hsteps⟩ := attachField_of_some (o := o) hl (happ v)
      refine ⟨some (itemOrigin o' (items.length + 1)), ?_, fun u => ?_⟩
      · rw [childSteps, addChild, hv, hsteps]
        simp only [nodeAt?, Hash.lookup_putEntry_self, Option.bind_some, getElem?_pushItem]
      · rw [childSteps, addChild, addChild, hv, hsteps, (attachField_of_some hl (happ u)).1]
        simp only [replaceAt, Hash.lookup_putEntry_self, getElem?_pushItem, set_pushItem, Hash.putEntry_putEntry]

end Value

namespace Builder

variable {c top : Value} {p : List Step}

theorem attachField_fst (name : String) (v : Value) (h : Hash) : (attachField name v h).1 = h.add name v := by
  unfold attachField
  simp only
  split <;> rfl

/-- Attaching to the container that some steps lead to. -/
theorem attach_eq (name : String) (v : Value) (hp : Value.nodeAt? p top = some c) (hc : c.kind ≠ .string) :
    attach name v p top = some (Value.replaceAt (c.addChild name v) p top, p ++ c.childSteps name v) := by
  induction p generalizing top with
  | nil =>
    cases hp
    cases c with
    | string t o => exact absurd rfl hc
    | array items o => rfl
    | hash fields o =>
      simp only [attach, attachField_fst]
      rfl
  | cons s p ih =>
    cases s with
    | field k =>
      obtain ⟨fields, o, child, rfl, hl, hc'⟩ := Value.nodeAt?_field_eq_some hp
      simp only [attach, Value.replaceAt, hl, Option.bind_eq_bind, Option.bind_some, ih hc', Option.pure_def,
        List.cons_append]
    | item i =>
      obtain ⟨items, o, child, rfl, hl, hc'⟩ := Value.nodeAt?_item_eq_some hp
      simp only [attach, Value.replaceAt, hl, Option.bind_eq_bind, Option.bind_some, ih hc', Option.pure_def,
        List.cons_append]

/-- The root of the record that is built. -/
def root (b : Builder) : Value := b.record.fields.toValue

/-- The builder with other fields in its record. -/
def withFields (b : Builder) (h : Hash) : Builder := { b with record := { b.record with fields := h } }

/-- Where the innermost open entity stands. -/
def place (b : Builder) : List Step := b.openEntities.headD []

/-- A value is added to the container of the innermost open entity. -/
theorem exists_add (b : Builder) (name : String) (v : Value) (hp : Value.nodeAt? b.place b.root = some c)
    (hc : c.kind ≠ .string) :
    ∃ h : Hash, h.toValue = Value.replaceAt (c.addChild name v) b.place b.root ∧
      b.add name v = .ok (b.withFields h, b.place ++ c.childSteps name v) := by
  -- the root stays a hash, which `add` asks for
  have hhash : ∃ fs o, Value.replaceAt (c.addChild name v) b.place b.root = .hash fs o := by
    apply Value.exists_replaceAt_hash
    intro hnil
    rw [hnil] at hp
    cases hp
    exact ⟨_, _, rfl⟩
  obtain ⟨fs, o, heq⟩ := hhash
  refine ⟨⟨fs, o⟩, heq.symm, ?_⟩
  have hatt := attach_eq name v hp hc
  rw [heq] at hatt
  unfold add
  simp only [place, root] at hatt
  simp only [hatt]
  rfl

end Builder

/-! ### The events of a forest -/

namespace Stage

/-! ### The end of a record -/

/-- What the fix of a stage comes to on the record that the stage holds. -/
def runFix (s : Stage) : Except FixError Unit × Session :=
  (runExpressions s.registry s.settings.strictness s.fix.expressions).run ⟨s.builder.record, s.env⟩

/-- The stage with what a session leaves. -/
def leaving (s : Stage) (session : Session) : Stage :=
  { s with env := session.env, builder := { s.builder with record := session.record } }

/-- What the end of a record comes to. It fails while an entity is open, and else as the fix does; a record that the fix
rejects is dropped, and others are sent. -/
inductive Finishes (s : Stage) : Except StreamError (List Event) → Stage → Prop
  | unbalanced (hopen : s.builder.openEntities ≠ []) : s.Finishes (.error .entitiesNotBalanced) s
  | failed {cause : FixError} {session : Session} (hopen : s.builder.openEntities = [])
      (hrun : s.runFix = (.error cause, session)) : s.Finishes (.error (.fix cause)) (s.leaving session)
  | rejected {session : Session} (hopen : s.builder.openEntities = []) (hrun : s.runFix = (.ok (), session))
      (hrejected : session.record.rejected = true) : s.Finishes (.ok []) (s.leaving session)
  | sent {session : Session} (hopen : s.builder.openEntities = []) (hrun : s.runFix = (.ok (), session))
      (hkept : session.record.rejected = false) :
      s.Finishes (.ok (session.record.fields.recordEvents s.settings s.builder.id)) (s.leaving session)

theorem finishes_finishRecord (s : Stage) : s.Finishes s.finishRecord.1 s.finishRecord.2 := by
  unfold finishRecord
  cases hopen : s.builder.openEntities with
  | cons inner outer => exact .unbalanced (by simp [hopen])
  | nil =>
    dsimp only
    cases hrun : (runExpressions s.registry s.settings.strictness s.fix.expressions).run ⟨s.builder.record, s.env⟩ with
    | mk outcome session =>
      cases outcome with
      | error cause => exact .failed hopen hrun
      | ok u =>
        dsimp only
        split
        · rename_i hrejected
          exact .rejected hopen hrun hrejected
        · rename_i hkept
          exact .sent hopen hrun (Bool.eq_false_iff.2 hkept)

theorem finishes {s t : Stage} {outcome : Except StreamError (List Event)} (h : s.finishRecord = (outcome, t)) :
    s.Finishes outcome t := by
  have hfinishes := s.finishes_finishRecord
  rw [h] at hfinishes
  exact hfinishes

/-- The end of a record leaves the stage as it is, or with what the run of its fix leaves. -/
theorem finishRecord_eq_or_leaving (s : Stage) :
    s.finishRecord.2 = s ∨ s.finishRecord.2 = s.leaving s.runFix.2 := by
  cases hfinish : s.finishRecord with
  | mk outcome t =>
    cases finishes hfinish with
    | unbalanced hopen => exact Or.inl rfl
    | failed hopen hrun => rw [hrun]; exact Or.inr rfl
    | rejected hopen hrun hrejected => rw [hrun]; exact Or.inr rfl
    | sent hopen hrun hkept => rw [hrun]; exact Or.inr rfl

/-! ### Forests -/

variable {σ : Type} {receive : Receiver σ} {c : Value}

/-- The stage with other fields in its record. -/
def withFields (s : Stage) (h : Hash) : Stage := { s with builder := s.builder.withFields h }

theorem feedAll_cons {s t : Stage} {e : Event} (h : s.step e = (.ok [], t)) (es : List Event) (r : σ) :
    feedAll receive (e :: es) s r = feedAll receive es t r := by
  simp only [feedAll, feed, h, Receiver.sendAll]

/-- An empty container, filled with what the entries of an entity stand for, is what the entity stands for. -/
private theorem addChildren_emptyEntity (o : Option String) (name : String) (entries : Forest) :
    ((Builder.emptyEntity name).rebase o).addChildren entries.fields = (Entry.entity name entries).value.rebase o := by
  unfold Builder.emptyEntity Entry.value
  split
  · exact Value.addChildren_array o entries.fields
  · show (⟨[], o⟩ : Hash).toValue.addChildren entries.fields = _
    rw [Value.addChildren_hash, Hash.addAll_nil]
    rfl

theorem kind_emptyEntity (name : String) : (Builder.emptyEntity name).kind ≠ .string := by
  unfold Builder.emptyEntity
  split <;> simp [Value.kind]

mutual

/-- An entry is added to the container of the innermost open entity, and leaves open what was open. -/
theorem feedAll_entry : ∀ (e : Entry) (s : Stage) (r : σ) (rest : List Event) (c : Value),
    Value.nodeAt? s.builder.place s.builder.root = some c → c.kind ≠ .string →
    ∃ h : Hash, h.toValue = Value.replaceAt (c.addChild e.name e.value) s.builder.place s.builder.root ∧
      feedAll receive (e.events ++ rest) s r = feedAll receive rest (s.withFields h) r
  | .literal name text, s, r, rest, c, hp, hc => by
    obtain ⟨h, hroot, hadd⟩ := s.builder.exists_add name (Value.ofString text) hp hc
    refine ⟨h, hroot, feedAll_cons ?_ rest r⟩
    simp only [step, build, Builder.addLiteral, hadd]
    rfl
  | .entity name entries, s, r, rest, c, hp, hc => by
    obtain ⟨h₁, hroot₁, hadd⟩ := s.builder.exists_add name (Builder.emptyEntity name) hp hc
    obtain ⟨o, hnode, hfill⟩ := Value.exists_replaceAt_addChild name (Builder.emptyEntity name) hc
    -- the stage after the start of the entity
    let inner := s.builder.place ++ c.childSteps name (Builder.emptyEntity name)
    let s₁ : Stage := { s with builder :=
      { s.builder.withFields h₁ with openEntities := inner :: s.builder.openEntities } }
    have hopen : s.step (.startEntity name) = (.ok [], s₁) := by
      simp only [step, build, Builder.openEntity, hadd]
      rfl
    have hat : Value.nodeAt? s.builder.place h₁.toValue = some (c.addChild name (Builder.emptyEntity name)) := by
      rw [hroot₁]
      exact Value.nodeAt?_replaceAt hp
    have hp₁ : Value.nodeAt? s₁.builder.place s₁.builder.root = some ((Builder.emptyEntity name).rebase o) := by
      show Value.nodeAt? (s.builder.place ++ _) h₁.toValue = _
      rw [Value.nodeAt?_append, hat]
      exact hnode
    obtain ⟨h₂, hroot₂, hfed⟩ := feedAll_forest entries s₁ r (.endEntity :: rest) _ hp₁
      (by rw [Value.kind_rebase]; exact kind_emptyEntity name)
    refine ⟨h₂, ?_, ?_⟩
    -- the container that was filled in place might as well have been added when it was full
    · rw [hroot₂, addChildren_emptyEntity]
      show Value.replaceAt _ (s.builder.place ++ _) h₁.toValue = _
      rw [Value.replaceAt_append hat, hfill, hroot₁, Value.replaceAt_replaceAt hp]
      rfl
    · rw [Entry.events, List.cons_append, List.append_assoc, feedAll_cons hopen]
      exact hfed.trans (feedAll_cons rfl rest r)

/-- A forest is added to the container of the innermost open entity, entry by entry. -/
theorem feedAll_forest : ∀ (es : Forest) (s : Stage) (r : σ) (rest : List Event) (c : Value),
    Value.nodeAt? s.builder.place s.builder.root = some c → c.kind ≠ .string →
    ∃ h : Hash, h.toValue = Value.replaceAt (c.addChildren es.fields) s.builder.place s.builder.root ∧
      feedAll receive (es.events ++ rest) s r = feedAll receive rest (s.withFields h) r
  | [], s, r, rest, c, hp, _ => ⟨s.builder.record.fields, (Value.replaceAt_self hp).symm, rfl⟩
  | e :: es, s, r, rest, c, hp, hc => by
    obtain ⟨h₁, hroot₁, hfed₁⟩ := feedAll_entry e s r (Forest.events es ++ rest) c hp hc
    have hp₁ : Value.nodeAt? (s.withFields h₁).builder.place (s.withFields h₁).builder.root =
        some (c.addChild e.name e.value) := by
      show Value.nodeAt? s.builder.place h₁.toValue = _
      rw [hroot₁]
      exact Value.nodeAt?_replaceAt hp
    obtain ⟨h₂, hroot₂, hfed₂⟩ := feedAll_forest es (s.withFields h₁) r rest _ hp₁
      (by rw [Value.kind_addChild]; exact hc)
    refine ⟨h₂, ?_, ?_⟩
    · rw [hroot₂]
      show Value.replaceAt _ s.builder.place h₁.toValue = _
      rw [hroot₁, Value.replaceAt_replaceAt hp]
      rfl
    · rw [Forest.events, List.append_assoc, hfed₁, hfed₂]
      rfl

end

/-- A record that has only started is filled with the fields of the forest that follows. -/
theorem feedAll_start_forest (s : Stage) (id : String) (forest : Forest) (rest : List Event) (r : σ) :
    feedAll receive (.startRecord id :: (forest.events ++ rest)) s r =
      feedAll receive rest { s with builder := (Builder.start id).withFields forest.build } r := by
  let s₁ : Stage := { s with builder := Builder.start id }
  obtain ⟨h, hroot, hfed⟩ := feedAll_forest forest s₁ r rest (.hash [] none) rfl (by simp [Value.kind])
  have hh : h = forest.build := by
    apply Hash.toValue_injective
    rw [hroot]
    show (⟨[], none⟩ : Hash).toValue.addChildren forest.fields = _
    rw [Value.addChildren_hash, Hash.addAll_nil]
    rfl
  rw [feedAll_cons (t := s₁) rfl, hfed, hh]
  rfl

/-- The balanced sequences of events are those of forests. Every event of one is accepted after the start of a record
and sends nothing on, and the record then has the fields that the forest stands for. -/
theorem fold_forest_eq_build (receive : Receiver σ) (s : Stage) (id : String) (r : σ) :
    (∀ es : List Event, balanced 0 es = true ↔ ∃ forest : Forest, forest.events = es) ∧
      ∀ forest : Forest, ∃ t : Stage, feedAll receive (.startRecord id :: forest.events) s r = (none, t, r) ∧
        t.builder.record.fields = forest.build ∧ t.builder.openEntities = [] := by
  refine ⟨balanced_iff_exists_forest, ?_⟩
  intro forest
  have hfed : feedAll receive (.startRecord id :: (forest.events ++ [])) s r = _ :=
    feedAll_start_forest s id forest [] r
  rw [List.append_nil] at hfed
  refine ⟨{ s with builder := (Builder.start id).withFields forest.build }, ?_, rfl, rfl⟩
  rw [hfed]
  rfl

end Stage

/-- The second value of a name takes the first into an array, at the place of the name. -/
example : Forest.build [.literal "a" "1", .entity "b" [.literal "c" "2"], .literal "a" "3"] =
    Hash.ofList [("a", .ofList [.ofString "1", .ofString "3"]),
      ("b", (Hash.ofList [("c", .ofString "2")]).toValue)] := by
  rfl

end RecordFix
