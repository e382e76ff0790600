import RecordFix.Proofs.PlacedPaths
import RecordFix.Record

/-!
# Changes of the fields of a record

The commands change a record by functions that neither read nor set the mark of a rejected record and that keep its
fields placed, also when they fail (`FieldChange`). Inserting, copying, removing, retaining, cleaning and transforming
are of this kind.
-/

namespace RecordFix

namespace Record

/-- The record with this mark. -/
def marked (r : Record) (rejected : Bool) : Record := { r with rejected := rejected }

/-- Whether the fields are placed for a root of this origin, and the virtual fields for one of their own. -/
structure Placed (o : Option String) (r : Record) : Prop where
  fields : r.fields.Placed o
  virtualFields : r.virtualFields.Placed none

variable {o : Option String} {r : Record} {field : String} {v : Value}

theorem placed_ofFields {h : Hash} (hp : h.Placed o) : (ofFields h).Placed o := ⟨hp, Hash.placed_nil none⟩

/-! ### Looking up -/

private theorem placed_findAll {h : Hash} (hp : h.Placed o) {paths : List Path} {found : List Value}
    (hf : findAll h paths = .ok found) : ∀ v ∈ found, v.Placed v.origin := by
  induction paths generalizing found with
  | nil =>
    cases hf
    intro v hv
    cases hv
  | cons p ps ih =>
    obtain ⟨first, hfirst, hf⟩ := exists_of_bind_eq_ok hf
    obtain ⟨more, hmore, hf⟩ := exists_of_bind_eq_ok hf
    cases hf
    intro v hv
    rcases List.mem_append.1 hv with hv | hv
    · exact Value.Placed.findIn hp hfirst v (Option.mem_toList.1 hv)
    · exact ih hmore v hv

private theorem placed_getMatching {h : Hash} (hp : h.Placed o) (pattern : String) :
    ∀ v ∈ h.getMatching pattern, v.Placed v.origin := by
  refine Value.placed_merge fun v hv => ?_
  obtain ⟨f, hf, rfl⟩ := List.mem_map.1 hv
  have hplaced := Value.placedFields_iff.1 hp.2.2 f (List.mem_filter.1 hf).1
  rw [hplaced.origin]
  exact hplaced

/-- The value of a field is placed for its own origin. -/
theorem Placed.get (hp : r.Placed o) (hv : r.get field = .ok (some v)) : v.Placed v.origin := by
  unfold Record.get at hv
  split at hv
  · rename_i w hw
    cases hv
    have hplaced := hp.fields.get? hw
    rw [hplaced.origin]
    exact hplaced
  · obtain ⟨found, hfound, hv⟩ := exists_of_bind_eq_ok hv
    split at hv
    · rename_i w hw
      cases hv
      exact Value.placed_merge (placed_findAll hp.fields hfound) v hw
    · split at hv
      · cases hv
      · exact placed_getMatching hp.virtualFields field v (Except.ok.inj hv)

/-! ### Changing -/

variable {ε δ : Type}

/-- A change that has nothing to do with the mark, and keeps what is placed placed. -/
structure FieldChange (c : Record → Record × Option ε) : Prop where
  marked : ∀ (r : Record) (b : Bool), c (r.marked b) = ((c r).1.marked b, (c r).2)
  placed : ∀ {o : Option String} {r : Record}, r.Placed o → (c r).1.Placed o

namespace FieldChange

variable {c d : Record → Record × Option ε}

theorem keep (failure : Option ε) : FieldChange fun r => (r, failure) :=
  ⟨fun _ _ => rfl, fun hp => hp⟩

theorem mapFailure (h : FieldChange c) (f : ε → δ) : FieldChange fun r => ((c r).1, (c r).2.map f) :=
  ⟨fun r b => by rw [h.marked], fun hp => h.placed hp⟩

theorem insert (mode : InsertMode) (field : String) (hv : v.Distinct) :
    FieldChange fun r => r.insert mode field v :=
  ⟨fun _ _ => rfl, fun hp => ⟨hp.fields.insert mode _ hv, hp.virtualFields⟩⟩

theorem set (field : String) (hv : v.Distinct) : FieldChange fun r => r.set field v := insert .replace field hv

theorem append (field : String) (hv : v.Distinct) : FieldChange fun r => r.append field v := insert .append field hv

private theorem appendAll_marked (field : String) (vs : List Value) (r : Record) (b : Bool) :
    (r.marked b).appendAll field vs = ((r.appendAll field vs).1.marked b, (r.appendAll field vs).2) := by
  induction vs generalizing r with
  | nil => rfl
  | cons v vs ih =>
    have hfirst : (r.marked b).append field v = ((r.append field v).1.marked b, (r.append field v).2) := rfl
    simp only [Record.appendAll, hfirst]
    cases r.append field v with
    | mk r failure =>
      cases failure with
      | none => exact ih r
      | some e => rfl

theorem appendAll (field : String) {vs : List Value} (h : ∀ v ∈ vs, v.Distinct) :
    FieldChange fun r => r.appendAll field vs := by
  refine ⟨appendAll_marked field vs, ?_⟩
  intro o r hp
  induction vs generalizing r with
  | nil => exact hp
  | cons v vs ih =>
    rw [List.forall_mem_cons] at h
    have hfirst := (append field h.1).placed hp
    simp only [Record.appendAll]
    cases hr : r.append field v with
    | mk r₁ failure =>
      rw [hr] at hfirst
      cases failure with
      | none => exact ih h.2 hfirst
      | some e => exact hfirst

theorem copyField (source target : String) : FieldChange fun r => r.copyField source target := by
  constructor
  · intro r b
    have hget : (r.marked b).get source = r.get source := rfl
    simp only [Record.copyField, hget]
    split
    · exact appendAll_marked target _ r b
    · rfl
    · rfl
  · intro o r hp
    simp only [Record.copyField]
    split
    · rename_i v hv
      exact (appendAll target (hp.get hv).distinct.toList).placed hp
    · exact hp
    · exact hp

private theorem remove_marked (field : String) (r : Record) (b : Bool) :
    (r.marked b).remove field = (r.remove field).marked b := by
  have hfields : (r.marked b).fields = r.fields := rfl
  simp only [Record.remove, hfields]
  split <;> rfl

private theorem placed_remove (hp : r.Placed o) (field : String) : (r.remove field).Placed o := by
  unfold Record.remove
  split
  · exact ⟨hp.fields.erase, hp.virtualFields⟩
  · refine ⟨?_, hp.virtualFields⟩
    generalize Path.alternatives field = paths
    have key : ∀ h : Hash, h.Placed o → (paths.foldl Hash.remove h).Placed o := by
      induction paths with
      | nil => exact fun h hh => hh
      | cons p ps ih => exact fun h hh => ih _ (hh.remove p)
    exact key _ hp.fields

theorem remove (field : String) : FieldChange fun r => (r.remove field, (none : Option ε)) :=
  ⟨fun r b => by rw [remove_marked], fun hp => placed_remove hp field⟩

theorem removeAll (fields : List String) : FieldChange fun r => (fields.foldl Record.remove r, (none : Option ε)) := by
  constructor
  · intro r b
    induction fields generalizing r with
    | nil => rfl
    | cons field fields ih => rw [List.foldl_cons, List.foldl_cons, remove_marked, ih]
  · intro o r hp
    induction fields generalizing r with
    | nil => exact hp
    | cons field fields ih => exact ih (placed_remove hp field)

theorem vacuum : FieldChange fun r => (r.vacuum, (none : Option ε)) :=
  ⟨fun _ _ => rfl, fun hp => ⟨hp.fields.vacuum, hp.virtualFields⟩⟩

/-- Virtual fields that become real are rebased. -/
theorem retain (names : List String) : FieldChange fun r => (r.retain names, (none : Option ε)) := by
  refine ⟨fun _ _ => rfl, fun {o r} hp => ?_⟩
  let keep := names.map fun n => (Path.ofText n).headD ""
  have hfields : (r.fields.retainFields keep).Placed o := hp.fields.filter _
  have hvirtual : (r.virtualFields.retainFields keep).Placed none := hp.virtualFields.filter _
  exact ⟨hfields.putAll fun f hf =>
    (Value.placedFields_iff.1 hvirtual.2.2 f (List.mem_filter.1 hf).1).distinct, hvirtual⟩

/-! ### Transforming -/

variable {σ : Type} (fail : ValueError → ε)

private theorem placed_editAll (edit : TextEdit σ ε) (paths : List Path) {h : Hash} (hp : h.Placed o) (s : σ) :
    (editAll fail edit h s paths).node.Placed o := by
  induction paths generalizing h s with
  | nil => exact hp
  | cons p ps ih =>
    have hfirst := hp.edit fail edit p s
    unfold editAll
    dsimp only
    split
    · exact hfirst
    · exact ih hfirst _

theorem transform (edit : TextEdit σ ε) (field : String) (s : σ) :
    FieldChange fun r => ((r.transform fail edit field s).node, (r.transform fail edit field s).failure) :=
  ⟨fun _ _ => rfl, fun hp => ⟨placed_editAll fail edit _ hp.fields s, hp.virtualFields⟩⟩

variable {change : Value → Except ε (Option Value)}

private theorem placed_transformFields (hchange : ∀ v w, v.Distinct → change v = .ok (some w) → w.Distinct)
    (names : List String) {h : Hash} (hp : h.Placed o) : (transformFields change h names).1.Placed o := by
  induction names generalizing h with
  | nil => exact hp
  | cons name names ih =>
    unfold transformFields
    split
    · exact ih hp
    · rename_i v hv
      split
      · rename_i w hw
        exact ih (hp.put (hchange v w (hp.get? hv).distinct hw))
      · exact ih hp.erase
      · exact hp

/-- The new value takes the place of the old one, whose origin it gets. -/
theorem transformValue (hchange : ∀ v w, v.Distinct → change v = .ok (some w) → w.Distinct) (field : String) :
    FieldChange fun r => r.transformValue fail change field := by
  constructor
  · intro r b
    have hfields : (r.marked b).fields = r.fields := rfl
    have hget : (r.marked b).get field = r.get field := rfl
    simp only [Record.transformValue, hfields, hget, remove_marked]
    split
    · rfl
    · split
      · split <;> rfl
      · split
        · rfl
        · rfl
        · split <;> rfl
  · intro o r hp
    simp only [Record.transformValue]
    split
    -- all fields of the root that match
    · exact ⟨placed_transformFields hchange _ hp.fields, hp.virtualFields⟩
    · split
      -- a single place below, which is filled
      · rename_i v hv
        have hplaced := hp.fields.slot? hv
        split
        · rename_i w hw
          refine ⟨hp.fields.fillSlot fun u hu => ?_, hp.virtualFields⟩
          rw [hv, Option.some.injEq] at hu
          rw [← hu]
          exact (hchange v w hplaced.distinct hw).placed_rebase _
        · exact placed_remove hp field
        · exact hp
      · split
        · exact hp
        · exact hp
        -- no single place, but something is found
        · rename_i v hv
          split
          · rename_i w hw
            exact (set field (hchange v w (hp.get hv).distinct hw)).placed hp
          · exact placed_remove hp field
          · exact hp

end FieldChange

end Record

end RecordFix
