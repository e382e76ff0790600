import RecordFix.Proofs.Slots

/-!
# Slots and lookups

A lookup reads more into a path than a slot does: a marker stands for the name of a field in a hash, and a name for what
it leads to in all the items of an array. Where markers do not meet hashes, what a slot holds is found, and where names
do not meet arrays, what is found is held by a slot (`Value.exists_reaches_of_findIn`). So a node that is written into a
slot is found there, and nothing changes for a path to another slot, unless one of the two is below the other
(`Hash.find_slot`).
-/

namespace RecordFix

namespace Value

variable {path q rest : Path} {here there steps : List Step} {t u v w child : Value} {segment : String}
  {fields : List (String × Value)} {items : List Value} {o : Option String} {i : Nat}

/-- The steps by which a path comes to its slot, if there is one. -/
def slotSteps? : Path → Value → Option (List Step)
  | [], _ => some []
  | segment :: rest, v =>
    match v with
    | hash fields _ => (fields.lookup segment).bind fun child => (slotSteps? rest child).map (.field segment :: ·)
    | array items _ =>
      (slotPosition? items.length segment).bind fun i =>
        items[i]?.bind fun child => (slotSteps? rest child).map (.item i :: ·)
    | string .. => none

theorem Reaches.slotSteps? (h : Reaches path steps t v) : slotSteps? path t = some steps := by
  induction h with
  | here v => rfl
  | field hfound _ ih => rw [Value.slotSteps?, hfound, Option.bind_some, ih, Option.map_some]
  | item hposition hfound _ ih =>
    rw [Value.slotSteps?, hposition, Option.bind_some, hfound, Option.bind_some, ih, Option.map_some]

/-! ### Segments and the nodes that they meet -/

/-- The segments of a path with the nodes that they meet, on the way to the slot. -/
def meetings : Path → Value → List (String × Value)
  | [], _ => []
  | segment :: rest, v =>
    (segment, v) ::
      match v with
      | hash fields _ => ((fields.lookup segment).map (meetings rest)).getD []
      | array items _ =>
        ((slotPosition? items.length segment).bind fun i => items[i]?.map (meetings rest)).getD []
      | string .. => []

theorem meetings_field (hfound : fields.lookup segment = some child) :
    meetings (segment :: rest) (hash fields o) = (segment, hash fields o) :: meetings rest child := by
  rw [meetings, hfound]
  rfl

theorem meetings_item (hposition : slotPosition? items.length segment = some i) (hfound : items[i]? = some child) :
    meetings (segment :: rest) (array items o) = (segment, array items o) :: meetings rest child := by
  rw [meetings, hposition, Option.bind_some, hfound]
  rfl

/-- Whether a path is one of plain names, indices and the markers of the first and the last item, and no marker of it
meets a hash. -/
structure IsSlotPath (path : Path) (t : Value) : Prop where
  segments : ∀ s ∈ path, IsPlain s ∨ Marker.ofSegment? s = some .first ∨ Marker.ofSegment? s = some .last
  markers : ∀ m ∈ meetings path t, m.2.kind = .hash → Marker.ofSegment? m.1 = none

/-- Whether only indices and markers of a path meet arrays. -/
def NoNameMeetsArray (path : Path) (t : Value) : Prop :=
  ∀ m ∈ meetings path t, m.2.kind = .array → (Marker.ofSegment? m.1).isSome ∨ (parseIndex? m.1).isSome

instance (path : Path) (t : Value) : Decidable (IsSlotPath path t) :=
  decidable_of_iff
    ((∀ s ∈ path, IsPlain s ∨ Marker.ofSegment? s = some .first ∨ Marker.ofSegment? s = some .last) ∧
      ∀ m ∈ meetings path t, m.2.kind = .hash → Marker.ofSegment? m.1 = none)
    ⟨fun ⟨hsegments, hmarkers⟩ => ⟨hsegments, hmarkers⟩, fun h => ⟨h.segments, h.markers⟩⟩

instance (path : Path) (t : Value) : Decidable (NoNameMeetsArray path t) :=
  inferInstanceAs (Decidable (∀ m ∈ meetings path t, m.2.kind = .array → _))

namespace IsSlotPath

theorem ne_wildcard (h : IsSlotPath (segment :: rest) t) : segment ≠ wildcard := by
  rcases h.segments segment List.mem_cons_self with hplain | hm | hm
  · exact hplain.wildcard
  · exact ne_wildcard_of_marker hm
  · exact ne_wildcard_of_marker hm

/-- A segment that meets a hash is the name of a field. -/
theorem isPlain (h : IsSlotPath (segment :: rest) (hash fields o)) : IsPlain segment := by
  have hm := h.markers (segment, hash fields o) List.mem_cons_self rfl
  refine (h.segments segment List.mem_cons_self).resolve_right ?_
  rw [hm]
  rintro (h | h) <;> cases h

theorem field (h : IsSlotPath (segment :: rest) (hash fields o)) (hfound : fields.lookup segment = some child) :
    IsSlotPath rest child := by
  have hmarkers := h.markers
  rw [meetings_field hfound, List.forall_mem_cons] at hmarkers
  exact ⟨fun s hs => h.segments s (List.mem_cons_of_mem _ hs), hmarkers.2⟩

theorem item (h : IsSlotPath (segment :: rest) (array items o))
    (hposition : slotPosition? items.length segment = some i) (hfound : items[i]? = some child) :
    IsSlotPath rest child := by
  have hmarkers := h.markers
  rw [meetings_item hposition hfound, List.forall_mem_cons] at hmarkers
  exact ⟨fun s hs => h.segments s (List.mem_cons_of_mem _ hs), hmarkers.2⟩

theorem plain_steps (hpath : IsSlotPath path t) (h : Reaches path steps t v) : PlainSteps steps := by
  induction h with
  | here v => exact plainSteps_nil
  | field hfound _ ih => exact plainSteps_field.2 ⟨hpath.isPlain, ih (hpath.field hfound)⟩
  | item hposition hfound _ ih => exact plainSteps_item.2 (ih (hpath.item hposition hfound))

end IsSlotPath

/-! ### What is found -/

private theorem of_all {size : Nat} (h : ItemChoice.ofSegment size segment = .all) : segment = wildcard := by
  unfold ItemChoice.ofSegment at h
  split at h
  · rename_i hw
    exact eq_of_beq hw
  · split at h
    · cases h
    · cases h
    · split at h <;> cases h
    · split at h <;> cases h

private theorem of_through {size : Nat} (h : ItemChoice.ofSegment size segment = .through) :
    Marker.ofSegment? segment = none ∧ parseIndex? segment = none := by
  unfold ItemChoice.ofSegment at h
  split at h
  · cases h
  · split at h
    · cases h
    · cases h
    · split at h <;> cases h
    · rename_i hm
      split at h
      · cases h
      · cases h
      · exact ⟨hm, ‹_›⟩

/-- Where no marker meets a hash and no name an array, a lookup takes the steps to the slot. -/
theorem exists_reaches_of_findIn (hd : t.Distinct) (hpath : IsSlotPath path t) (hnames : NoNameMeetsArray path t)
    (h : t.findIn path = .ok (some v)) : ∃ steps, Reaches path steps t v := by
  induction path generalizing t with
  | nil =>
    rw [findIn_nil] at h
    cases h
    exact ⟨[], .here _⟩
  | cons segment rest ih =>
    cases t with
    | string t o => cases h
    | hash fields o =>
      rw [findIn_plain hpath.isPlain hd.1] at h
      cases hfound : fields.lookup segment with
      | none =>
        rw [hfound] at h
        cases h
      | some child =>
        rw [hfound] at h
        dsimp only at h
        split at h
        · cases h
        · have hchild : child.Distinct := distinctFields_iff.1 hd.2 _ (Hash.mem_of_lookup hfound)
          rw [NoNameMeetsArray, meetings_field hfound, List.forall_mem_cons] at hnames
          obtain ⟨steps, hsteps⟩ := ih hchild (hpath.field hfound) hnames.2 h
          exact ⟨_, .field hfound hsteps⟩
    | array items o =>
      cases hchoice : ItemChoice.ofSegment items.length segment with
      | all => exact absurd (of_all hchoice) hpath.ne_wildcard
      | nothing =>
        rw [findIn, hchoice] at h
        cases h
      | through =>
        obtain ⟨hm, hindex⟩ := of_through hchoice
        have hmet := hnames (segment, array items o) List.mem_cons_self rfl
        rw [hm, hindex] at hmet
        simp at hmet
      | position i =>
        rw [findIn_choice hchoice] at h
        cases hfound : items[i]? with
        | none =>
          rw [hfound] at h
          cases h
        | some child =>
          rw [hfound] at h
          obtain ⟨hlt, -⟩ := List.getElem?_eq_some_iff.1 hfound
          have hposition := slotPosition?_eq_some_iff.2 ⟨hchoice, hlt⟩
          have hchild : child.Distinct := distinctItems_iff.1 hd _ (List.mem_of_getElem? hfound)
          rw [NoNameMeetsArray, meetings_item hposition hfound, List.forall_mem_cons] at hnames
          obtain ⟨steps, hsteps⟩ := ih hchild (hpath.item hposition hfound) hnames.2 h
          exact ⟨_, .item hposition hfound hsteps⟩

end Value

namespace Hash

variable {h : Hash} {path : Path} {steps : List Step} {v w : Value}

theorem slot?_eq_some_iff : h.slot? path = some v ↔ path ≠ [] ∧ h.toValue.slot? path = some v := by
  rw [slot?]
  cases path with
  | nil => simp
  | cons segment rest => simp

theorem toValue_fillSlot (hne : path ≠ []) (hreach : Value.Reaches path steps h.toValue v) (w : Value) :
    (h.fillSlot path w).toValue = Value.replaceAt w steps h.toValue := by
  have hpath : path.isEmpty = false := by simpa using hne
  rw [← toValue_replaceAt (hreach.steps_ne_nil hne), fillSlot, hpath, if_neg Bool.false_ne_true, hreach.fillSlot]
  rfl

/-- What the slot at a path holds is found at the path, and what is found is held by the slot unless a name meets an
array. What is written into the slot is found, and what is found at another slot stays, unless one of the two is the
other or is below it. -/
theorem find_slot (hd : h.toValue.Distinct) (hne : path ≠ []) (hpath : Value.IsSlotPath path h.toValue) :
    (∀ v, h.slot? path = some v → h.find path = .ok (some v)) ∧
      (Value.NoNameMeetsArray path h.toValue → ∀ v, h.find path = .ok (some v) → h.slot? path = some v) ∧
      ∀ v w, h.slot? path = some v →
        (h.fillSlot path w).find path = .ok (some w) ∧
          ∀ q u here there, Value.IsSlotPath q h.toValue → h.slot? q = some u →
            Value.slotSteps? path h.toValue = some here → Value.slotSteps? q h.toValue = some there →
            ¬ here <+: there → ¬ there <+: here → (h.fillSlot path w).find q = h.find q := by
  refine ⟨fun v hv => ?_, fun hnames v hv => ?_, fun v w hv => ⟨?_, ?_⟩⟩
  · obtain ⟨steps, hsteps⟩ := Value.exists_reaches (slot?_eq_some_iff.1 hv).2
    exact hsteps.findIn hd (hpath.plain_steps hsteps)
  · obtain ⟨steps, hsteps⟩ := Value.exists_reaches_of_findIn hd hpath hnames hv
    exact slot?_eq_some_iff.2 ⟨hne, hsteps.slot?⟩
  · obtain ⟨steps, hsteps⟩ := Value.exists_reaches (slot?_eq_some_iff.1 hv).2
    rw [find, toValue_fillSlot hne hsteps]
    exact hsteps.findIn_replaceAt hd (hpath.plain_steps hsteps) w
  · intro q u here there hq hu hhere hthere hbelow habove
    obtain ⟨steps, hsteps⟩ := Value.exists_reaches (slot?_eq_some_iff.1 hv).2
    obtain ⟨steps', hsteps'⟩ := Value.exists_reaches (slot?_eq_some_iff.1 hu).2
    cases hhere.symm.trans hsteps.slotSteps?
    cases hthere.symm.trans hsteps'.slotSteps?
    have hplain := hq.plain_steps hsteps'
    rw [find, toValue_fillSlot hne hsteps, hsteps.findIn_replaceAt_elsewhere hsteps' hd hplain hbelow habove w, find,
      hsteps'.findIn hd hplain]

/-- A text is written below the first item, and the last item stays; the name `1` is a field of a hash here. -/
theorem find_slot_first :
    let h : Hash := ⟨[("a", .array [.hash [("1", .ofString "x")] none, .ofString "y"] none)], none⟩
    let path := ["a", "$first", "1"]
    let h' := h.fillSlot path (.ofString "z")
    h.find path = .ok (some (.ofString "x")) ∧ h.slot? path = some (.ofString "x") ∧
      h'.find path = .ok (some (.ofString "z")) ∧ h'.find ["a", "$last"] = h.find ["a", "$last"] := by
  intro h path h'
  have hd : h.toValue.Distinct :=
    ⟨by decide, ⟨⟨by decide, trivial, trivial⟩, trivial, trivial⟩, trivial⟩
  have hpath : Value.IsSlotPath path h.toValue := by decide +kernel
  have hother : Value.IsSlotPath ["a", "$last"] h.toValue := by decide +kernel
  have hnames : Value.NoNameMeetsArray path h.toValue := by decide +kernel
  obtain ⟨hfind, hslot, hwrite⟩ := find_slot hd (List.cons_ne_nil _ _) hpath
  have hfound := hfind (.ofString "x") rfl
  have hheld := hslot hnames _ hfound
  obtain ⟨hwritten, helsewhere⟩ := hwrite _ (.ofString "z") hheld
  exact ⟨hfound, hheld, hwritten, helsewhere _ (.ofString "y") [.field "a", .item 0, .field "1"]
    [.field "a", .item 1] hother rfl rfl rfl (by decide) (by decide)⟩

end Hash

end RecordFix
