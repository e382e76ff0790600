import RecordFix.Proofs.Folding
import RecordFix.Proofs.Keeps

/-!
# Origins of nodes

The origin of a node is the path that leads to it, in every record that comes about: when events are folded into it,
also if some of them fail, when expressions are run over it, whatever they end in, and while a block of theirs runs on a
field or on a record of its own (`origins_of_runs`).
-/

namespace RecordFix

open RecordFix.Action

/-- The path that some steps lead to from an origin. -/
def originAt (o : Option String) (steps : List Step) : Option String :=
  steps.foldl (fun p step => some (childOrigin p step.text)) o

/-- Whether the origin of each node is the path that leads to it, and no hash in it has a name twice. -/
def Hash.Rooted (o : Option String) (h : Hash) : Prop :=
  ∀ (steps : List Step) (v : Value), Value.nodeAt? steps h.toValue = some v →
    v.origin = originAt o steps ∧ ∀ fields p, v = .hash fields p → (fields.map (·.1)).Nodup

theorem Value.Placed.nodeAt? {o : Option String} {v w : Value} {steps : List Step} (h : v.Placed o)
    (hw : Value.nodeAt? steps v = some w) : w.Placed (originAt o steps) := by
  induction steps generalizing o v with
  | nil =>
    cases hw
    exact h
  | cons step steps ih =>
    cases step with
    | field k =>
      obtain ⟨fields, p, child, rfl, hchild, hw⟩ := nodeAt?_field_eq_some hw
      exact ih (h.2.2.lookup hchild) hw
    | item i =>
      obtain ⟨items, p, child, rfl, hchild, hw⟩ := nodeAt?_item_eq_some hw
      have hplaced := placedItems_iff.1 h.2 i child hchild
      -- the items are placed at positions from one
      rw [Nat.add_comm] at hplaced
      exact ih hplaced hw

theorem Hash.Placed.rooted {o : Option String} {h : Hash} (hp : h.Placed o) : h.Rooted o := by
  intro steps v hv
  have hplaced := Value.Placed.nodeAt? hp hv
  refine ⟨hplaced.origin, ?_⟩
  rintro fields p rfl
  exact hplaced.2.1

/-! ### Events -/

namespace Builder

variable {o : Option String} {name : String} {v : Value} {b b' : Builder}

theorem placed_attach (hv : v.Distinct) (steps : List Step) {o : Option String} {top : Value} (h : top.Placed o)
    {grown : Value} {place : List Step} (hattach : attach name v steps top = some (grown, place)) : grown.Placed o := by
  induction steps generalizing o top grown place with
  | nil =>
    cases top with
    | string t p => cases hattach
    | array items p =>
      cases hattach
      obtain ⟨rfl, hitems⟩ := h
      exact ⟨rfl, Value.placedItems_pushItem hitems hv⟩
    | hash fields p =>
      have hgrown : (attachField name v ⟨fields, p⟩).1.toValue = grown := congrArg Prod.fst (Option.some.inj hattach)
      rw [← hgrown, attachField_fst]
      exact Hash.Placed.add (h := ⟨fields, p⟩) h hv
  | cons step steps ih =>
    cases step with
    | field k =>
      cases top with
      | hash fields p =>
        obtain ⟨child, hchild, hattach⟩ := Option.bind_eq_some_iff.1 hattach
        obtain ⟨⟨grownChild, relative⟩, hinner, hattach⟩ := Option.bind_eq_some_iff.1 hattach
        cases hattach
        exact ⟨h.1, Hash.nodup_keys_putEntry h.2.1,
          Value.placedFields_putEntry h.2.2 (ih (h.2.2.lookup hchild) hinner)⟩
      | string t p => cases hattach
      | array items p => cases hattach
    | item i =>
      cases top with
      | array items p =>
        obtain ⟨child, hchild, hattach⟩ := Option.bind_eq_some_iff.1 hattach
        obtain ⟨⟨grownChild, relative⟩, hinner, hattach⟩ := Option.bind_eq_some_iff.1 hattach
        cases hattach
        have hplaced := ih (Value.placedItems_iff.1 h.2 i child hchild) hinner
        rw [Nat.add_comm] at hplaced
        exact ⟨h.1, Value.placedItems_set h.2 hplaced⟩
      | string t p => cases hattach
      | hash fields p => cases hattach

theorem placed_add (h : b.record.Placed o) (hv : v.Distinct) {place : List Step}
    (hadd : b.add name v = .ok (b', place)) : b'.record.Placed o := by
  unfold add at hadd
  dsimp only at hadd
  split at hadd
  · rename_i hattach
    cases hadd
    exact ⟨placed_attach hv _ h.fields hattach, h.virtualFields⟩
  · cases hadd

theorem placed_openEntity (h : b.record.Placed o) (hopen : b.openEntity name = .ok b') : b'.record.Placed o := by
  obtain ⟨⟨grown, place⟩, hadd, hopen⟩ := exists_of_bind_eq_ok hopen
  cases hopen
  have hempty : (emptyEntity name).Distinct := by
    unfold emptyEntity
    split
    · trivial
    · exact ⟨List.nodup_nil, trivial⟩
  have hgrown : grown.record.Placed o := placed_add h hempty hadd
  exact hgrown

theorem placed_closeEntity (h : b.record.Placed o) (hclose : b.closeEntity = .ok b') : b'.record.Placed o := by
  unfold closeEntity at hclose
  split at hclose <;> cases hclose
  exact h

theorem placed_addLiteral {text : String} (h : b.record.Placed o) (hadd : b.addLiteral name text = .ok b') :
    b'.record.Placed o := by
  obtain ⟨⟨grown, place⟩, hadd', hadd⟩ := exists_of_bind_eq_ok hadd
  cases hadd
  exact placed_add h (v := Value.ofString text) trivial hadd'

end Builder

namespace Stage

/-- A stage with the built-in commands whose record is placed. -/
structure Placed (s : Stage) : Prop where
  registry : s.registry = Registry.builtin
  record : s.builder.record.Placed none

theorem placed_empty : Record.Placed none {} := Record.placed_ofFields (Hash.placed_nil none)

theorem placed_start (fix : Fix) (settings : Settings) (files : Files) (fixFile : Option String) :
    (start fix settings files fixFile).Placed :=
  ⟨rfl, placed_empty⟩

private theorem Placed.build {s : Stage} (h : s.Placed) {change : Except StreamError Builder}
    (hchange : ∀ b, change = .ok b → b.record.Placed none) : (s.build change).2.Placed := by
  unfold Stage.build
  split
  · exact ⟨h.registry, hchange _ rfl⟩
  · exact h

private theorem Placed.finishRecord {s : Stage} (h : s.Placed) : s.finishRecord.2.Placed := by
  have hrun : s.runFix.2.record.Placed none := by
    unfold runFix
    rw [h.registry]
    exact (keeps_runAt s.settings.strictness (includeLimit + 1) s.fix.expressions none ⟨s.builder.record, s.env⟩
      h.record).1
  rcases s.finishRecord_eq_or_leaving with hfinish | hfinish
  · rw [hfinish]
    exact h
  · rw [hfinish]
    exact ⟨h.registry, hrun⟩

/-- What an event leaves, whether it fails or not. -/
theorem Placed.step {s : Stage} (h : s.Placed) (e : Event) : (s.step e).2.Placed := by
  cases e with
  | startRecord id => exact ⟨h.registry, placed_empty.fields, Hash.Placed.put (Hash.placed_nil none) trivial⟩
  | endRecord => exact h.finishRecord
  | startEntity name => exact h.build fun b hb => Builder.placed_openEntity h.record hb
  | endEntity => exact h.build fun b hb => Builder.placed_closeEntity h.record hb
  | literal name text => exact h.build fun b hb => Builder.placed_addLiteral h.record hb
  | resetStream => exact ⟨h.registry, placed_empty⟩
  | closeStream => exact ⟨h.registry, h.record⟩

/-- The stage after events, going on after those that fail. -/
def afterAll (events : List Event) (s : Stage) : Stage := events.foldl (fun s e => (s.step e).2) s

theorem Placed.afterAll {s : Stage} (h : s.Placed) (events : List Event) : (s.afterAll events).Placed := by
  induction events generalizing s with
  | nil => exact h
  | cons e events ih => exact ih (h.step e)

end Stage

/-! ### Runs -/

/-- The records that there are while the built-in commands run, with the origins of their roots: records into which
events were folded and those that expressions leave, the hashes in the array at a path that a block works on as records,
and records in which a block finds its variable and from which it is taken again, which a block rejects, or to which the
outcome of a block is written back. -/
inductive Worked : Option String → Record → Prop
  | folded (fix : Fix) (settings : Settings) (files : Files) (fixFile : Option String) (events : List Event) :
      Worked none ((Stage.start fix settings files fixFile).afterAll events).builder.record
  | ran {o : Option String} {r : Record} (strictness : Strictness) (depth : Nat) (es : List Expression)
      (env : Environment) : Worked o r → Worked o ((runAt Registry.builtin strictness depth es).run ⟨r, env⟩).2.record
  | inner {o p : Option String} {r : Record} {path : String} {v : Value} {fields : List (String × Value)} :
      Worked o r → r.get path = .ok (some v) → .hash fields p ∈ v.asArray.toList → Worked p (.ofFields ⟨fields, p⟩)
  | bound {o p : Option String} {r r' : Record} {path : String} {v item : Value} (name : String) :
      Worked o r → Worked p r' → r'.get path = .ok (some v) → item ∈ v.asArray.toList → Worked o (r.put name item)
  | unbound {o p : Option String} {r r' : Record} (name : String) :
      Worked o r → Worked p r' → Worked o (Bind.unbind name (r'.fields.get? name) r).2
  | marked {o : Option String} {r : Record} (rejected : Bool) : Worked o r → Worked o (r.marked rejected)
  | written {o p : Option String} {r r' : Record} (path : String) (position : Nat) :
      Worked o r → Worked p r' → Worked o (Bind.writeBack r path position r'.fields.toValue)
  | writtenVariable {o p : Option String} {r r' : Record} {name : String} {v : Value} (path : String) (position : Nat) :
      Worked o r → Worked p r' → r'.fields.get? name = some v → Worked o (Bind.writeBack r path position v)

namespace Worked

theorem placed {o : Option String} {r : Record} (h : Worked o r) : r.Placed o := by
  induction h with
  | folded fix settings files fixFile events =>
    exact ((Stage.placed_start fix settings files fixFile).afterAll events).record
  | ran strictness depth es env _ ih => exact (keeps_runAt strictness depth es _ ⟨_, env⟩ ih).1
  | inner _ hv hitem ih => exact Record.placed_ofFields ((ih.get hv).asArray.toList _ hitem)
  | bound name _ _ hv hitem ih ih' => exact ih.put name ((ih'.get hv).asArray.toList _ hitem).distinct
  | unbound name _ _ ih ih' => exact ih.unbind name ih'.distinct_get?
  | marked rejected _ ih => exact ⟨ih.fields, ih.virtualFields⟩
  | written path position _ _ ih ih' => exact ih.writeBack path position ih'.fields.distinct
  | writtenVariable path position _ _ hv ih ih' => exact ih.writeBack path position (ih'.distinct_get? _ hv)

variable {block block' : Action Unit} {o p : Option String} {r : Record} {source path : String} {v : Value}

/-- Blocks that are run alike wherever they can be run, in a loop over values at a path. -/
private theorem forEach_congr (hsame : ∀ o (s : Session), Worked o s.record → block.run s = block'.run s)
    (hkept : ∀ o (s : Session), Worked o s.record → Worked o (block'.run s).2.record) (hr : Worked p r)
    (hv : r.get source = .ok (some v)) (var? : Option String) {items : List Value}
    (hitems : ∀ w ∈ items, w ∈ v.asArray.toList) (position : Nat) {s : Session} (hs : Worked o s.record) :
    (Bind.forEach path var? block position items).run s = (Bind.forEach path var? block' position items).run s := by
  induction items generalizing position s with
  | nil => rfl
  | cons item items ih =>
    rw [List.forall_mem_cons] at hitems
    cases var? with
    | some name =>
      have hbound : Worked o (s.record.put name item) := .bound name hs hr hv hitems.1
      have hblock := hkept o { s with record := s.record.put name item } hbound
      rw [Bind.forEach_variable, Bind.forEach_variable, run_bind, run_bind, Bind.run_withVariable,
        Bind.run_withVariable, hsame o _ hbound]
      cases hrun : block'.run { s with record := s.record.put name item } with
      | mk outcome s' =>
        rw [hrun] at hblock
        have hunbound := Worked.unbound name hblock hs
        cases outcome with
        | error e => rfl
        | ok u =>
          dsimp only [Except.map]
          cases hw : s'.record.fields.get? name with
          | none => exact ih hitems.2 _ hunbound
          | some w => exact ih hitems.2 _ (.writtenVariable path position hunbound hblock hw)
    | none =>
      rw [Bind.forEach_scope, Bind.forEach_scope, run_bind, run_bind]
      cases item with
      | string t q => rfl
      | array items q => rfl
      | hash fields q =>
        have hinner : Worked q (.ofFields ⟨fields, q⟩) := .inner hr hv hitems.1
        have hblock := hkept q { s with record := .ofFields ⟨fields, q⟩ } hinner
        rw [Bind.run_withScope, Bind.run_withScope, hsame q _ hinner]
        cases hrun : block'.run { s with record := .ofFields ⟨fields, q⟩ } with
        | mk outcome s' =>
          rw [hrun] at hblock
          cases outcome with
          | error e => rfl
          | ok u => exact ih hitems.2 _ (.written path position (.marked _ hs) hblock)

/-- A list bind runs its block only on such records: it does not tell apart blocks that do the same on all of them. -/
theorem list_congr (hsame : ∀ o (s : Session), Worked o s.record → block.run s = block'.run s)
    (hkept : ∀ o (s : Session), Worked o s.record → Worked o (block'.run s).2.record) (params : List String)
    (options : Options) {s : Session} (hs : Worked o s.record) :
    (Bind.list block params options).run s = (Bind.list block' params options).run s := by
  unfold Bind.list
  split
  · rfl
  · rename_i path _
    have hrecord : getRecord.run s = (.ok s.record, s) := rfl
    rw [run_bind, run_bind, hrecord]
    dsimp only
    cases hv : s.record.get path with
    | error e => rfl
    | ok found =>
      cases found with
      | none => rfl
      | some v => exact forEach_congr hsame hkept hs hv _ (fun _ hw => hw) 0 hs

end Worked

/-- Events of any kind and order are folded into a record, going on after those that fail, and expressions are run over
it, under any strictness and whatever they end in. Afterwards the origin of each node is the path that leads to it from
the root, which has none, and no hash has a name twice. While blocks run, the same holds of the records that they work
on, from the origin of their root. This is where a hash stands in the outer record if it is one of an array there, and
`1` if it was put into an array for the block. -/
theorem origins_of_runs (fix : Fix) (settings : Settings) (files : Files) (fixFile : Option String)
    (events : List Event) (strictness : Strictness) (es : List Expression) (env : Environment) :
    ((runExpressions Registry.builtin strictness es).run
      ⟨((Stage.start fix settings files fixFile).afterAll events).builder.record, env⟩).2.record.fields.Rooted none ∧
    ∀ (o : Option String) (r : Record), Worked o r → r.fields.Rooted o := by
  have hworked : ∀ (o : Option String) (r : Record), Worked o r → r.fields.Rooted o :=
    fun _ _ h => h.placed.fields.rooted
  refine ⟨hworked none _ ?_, hworked⟩
  exact .ran strictness (includeLimit + 1) es env (.folded fix settings files fixFile events)

/-- A block for a hash in an array that was folded, and in it one for a hash that stands by itself: the origins are
those of the place in the first record, and those of an array of one item in the second. -/
theorem origins_of_runs_inner :
    (⟨[("c", .hash [("d", .string "x" (some "a[].1.c.d"))] (some "a[].1.c"))], some "a[].1"⟩ : Hash).Rooted
        (some "a[].1") ∧
      (⟨[("d", .string "x" (some "1.d"))], some "1"⟩ : Hash).Rooted (some "1") := by
  let events : List Event :=
    [.startRecord "1", .startEntity "a[]", .startEntity "b", .startEntity "c", .literal "d" "x", .endEntity, .endEntity,
      .endEntity]
  let outer : Hash := ⟨[("c", .hash [("d", .string "x" (some "a[].1.c.d"))] (some "a[].1.c"))], some "a[].1"⟩
  have hlist : ((Stage.start ⟨[]⟩ {} Files.empty none).afterAll events).builder.record.get "a[]" =
      .ok (some (.array [outer.toValue] (some "a[]"))) := rfl
  have hitself : (Record.ofFields outer).get "c" =
      .ok (some (.hash [("d", .string "x" (some "a[].1.c.d"))] (some "a[].1.c"))) := rfl
  have houter : Worked (some "a[].1") (.ofFields outer) :=
    .inner (.folded ⟨[]⟩ {} Files.empty none events) hlist (List.mem_singleton_self _)
  have hinner : Worked (some "1") (.ofFields ⟨[("d", .string "x" (some "1.d"))], some "1"⟩) :=
    .inner houter hitself (List.mem_singleton_self _)
  have hrooted := (origins_of_runs ⟨[]⟩ {} Files.empty none events .process [] {}).2
  exact ⟨hrooted _ _ houter, hrooted _ _ hinner⟩

end RecordFix
