import RecordFix.Value.Hash

/-!
# Fields by name

Reading and writing a list of named fields. Writing overwrites the first field of the name or adds one at the end, so
the names of a list without repetitions stay so (`nodup_keys_putEntry`), and what was written is read
(`lookup_putEntry_self`) while the other names keep what they have (`lookup_putEntry_of_ne`).
-/

namespace RecordFix.Hash

variable {k l : String} {v w : Value} {fs : List (String × Value)}

theorem any_eq_isSome_lookup : fs.any (·.1 == k) = (fs.lookup k).isSome := by
  induction fs with
  | nil => rfl
  | cons f fs ih =>
    obtain ⟨k', w⟩ := f
    simp only [List.any_cons, List.lookup_cons, ih]
    rw [BEq.comm]
    cases h : k == k' <;> simp

theorem contains_eq_isSome_get? (h : Hash) (field : String) : h.contains field = (h.get? field).isSome :=
  any_eq_isSome_lookup

theorem mem_of_lookup {α : Type} {fs : List (String × α)} {v : α} (h : fs.lookup k = some v) : (k, v) ∈ fs := by
  induction fs with
  | nil => cases h
  | cons f fs ih =>
    obtain ⟨k', w⟩ := f
    rw [List.lookup_cons] at h
    split at h
    · rename_i hk
      rw [eq_of_beq hk, Option.some.inj h]
      exact List.mem_cons_self
    · exact List.mem_cons_of_mem _ (ih h)

/-- Of distinct names, each is read as what stands under it. -/
theorem lookup_of_mem (hnd : (fs.map (·.1)).Nodup) (h : (k, v) ∈ fs) : fs.lookup k = some v := by
  induction fs with
  | nil => cases h
  | cons f fs ih =>
    obtain ⟨k', w⟩ := f
    rw [List.map_cons, List.nodup_cons] at hnd
    rcases List.mem_cons.1 h with h | h
    · cases h
      exact List.lookup_cons_self
    · have hne : k ≠ k' := fun hk => hnd.1 (hk ▸ List.mem_map.2 ⟨_, h, rfl⟩)
      have hk : (k == k') = false := by simpa using hne
      simp only [List.lookup_cons, hk, ih hnd.2 h]

theorem lookup_putEntry_self : (putEntry k v fs).lookup k = some v := by
  induction fs with
  | nil => simp [putEntry]
  | cons f fs ih =>
    obtain ⟨k', w⟩ := f
    unfold putEntry
    split
    · rename_i h
      rw [List.lookup_cons, BEq.comm, h]
    · rename_i h
      rw [List.lookup_cons, BEq.comm, Bool.eq_false_iff.2 h]
      exact ih

theorem lookup_putEntry_of_ne (hne : l ≠ k) : (putEntry k v fs).lookup l = fs.lookup l := by
  induction fs with
  | nil =>
    have hl : (l == k) = false := by simpa using hne
    simp only [putEntry, List.lookup_cons, hl]
  | cons f fs ih =>
    obtain ⟨k', w⟩ := f
    unfold putEntry
    split
    · rename_i h
      have hl : (l == k') = false := by rw [eq_of_beq h]; simpa using hne
      simp only [List.lookup_cons, hl]
    · simp only [List.lookup_cons, ih]

/-- Fields that are taken away are not those of another name. -/
theorem lookup_filter_of_ne {α : Type} (hne : l ≠ k) (fs : List (String × α)) :
    (fs.filter (·.1 != k)).lookup l = fs.lookup l := by
  induction fs with
  | nil => rfl
  | cons f fs ih =>
    obtain ⟨k', v⟩ := f
    by_cases hk : k' = k
    · have hl : (l == k') = false := by simpa [hk] using hne
      have hdropped : (k' != k) = false := by simpa using hk
      rw [List.filter_cons, hdropped, List.lookup_cons, hl]
      exact ih
    · have hkept : (k' != k) = true := by simpa using hk
      rw [List.filter_cons, hkept, if_pos rfl, List.lookup_cons, List.lookup_cons, ih]

/-- A field that is taken away is not there. -/
theorem lookup_filter_self {α : Type} (k : String) (fs : List (String × α)) :
    (fs.filter (·.1 != k)).lookup k = none := by
  rw [List.lookup_eq_none_iff]
  intro f hf
  have hne : f.1 ≠ k := by simpa using (List.mem_filter.1 hf).2
  simpa using hne.symm

@[simp] theorem putEntry_putEntry : putEntry k v (putEntry k w fs) = putEntry k v fs := by
  induction fs with
  | nil => simp [putEntry]
  | cons f fs ih =>
    obtain ⟨k', u⟩ := f
    by_cases h : (k' == k) = true
    · simp only [putEntry, h, ↓reduceIte]
    · simp only [putEntry, h, ih, Bool.false_eq_true, ↓reduceIte]

/-- A field that was written is taken away as the one was that stood there. -/
theorem eraseEntry_putEntry : eraseEntry k (putEntry k v fs) = eraseEntry k fs := by
  induction fs with
  | nil => simp [putEntry, eraseEntry]
  | cons f fs ih =>
    obtain ⟨k', w⟩ := f
    unfold eraseEntry at ih ⊢
    by_cases hk : k' = k
    · simp [putEntry, hk]
    · simp [putEntry, hk, ih]

/-- Taking away what is not there changes nothing. -/
theorem eraseEntry_of_lookup_none {fs : List (String × Value)} (hl : fs.lookup k = none) : eraseEntry k fs = fs := by
  refine List.filter_eq_self.2 fun f hf => ?_
  have hne := List.lookup_eq_none_iff.1 hl f hf
  rw [bne_comm]
  simpa using hne

/-- Writing what is there changes nothing. -/
theorem putEntry_of_lookup (h : fs.lookup k = some v) : putEntry k v fs = fs := by
  induction fs with
  | nil => cases h
  | cons f fs ih =>
    obtain ⟨k', w⟩ := f
    rw [List.lookup_cons, BEq.comm] at h
    unfold putEntry
    split
    · rename_i hk
      rw [hk] at h
      rw [Option.some.inj h]
    · rename_i hk
      rw [Bool.eq_false_iff.2 hk] at h
      rw [ih h]

/-! ### Names -/

theorem keys_putEntry_of_mem (h : k ∈ fs.map (·.1)) : (putEntry k v fs).map (·.1) = fs.map (·.1) := by
  induction fs with
  | nil => cases h
  | cons f fs ih =>
    obtain ⟨k', w⟩ := f
    unfold putEntry
    split
    · rfl
    · rename_i hk
      have : k ∈ fs.map (·.1) := by
        rcases List.mem_cons.1 h with h | h
        · exact absurd (beq_iff_eq.2 h.symm) hk
        · exact h
      rw [List.map_cons, List.map_cons, ih this]

theorem putEntry_of_not_mem (h : k ∉ fs.map (·.1)) : putEntry k v fs = fs ++ [(k, v)] := by
  induction fs with
  | nil => rfl
  | cons f fs ih =>
    obtain ⟨k', w⟩ := f
    rw [List.map_cons, List.mem_cons, not_or] at h
    have hk : ¬ (k' == k) = true := fun hk => h.1 (eq_of_beq hk).symm
    rw [putEntry, if_neg hk, ih h.2, List.cons_append]

theorem keys_putEntry_prefix : fs.map (·.1) <+: (putEntry k v fs).map (·.1) := by
  by_cases hk : k ∈ fs.map (·.1)
  · exact ⟨[], by rw [List.append_nil, keys_putEntry_of_mem hk]⟩
  · rw [putEntry_of_not_mem hk, List.map_append]
    exact List.prefix_append _ _

theorem nodup_keys_putEntry (h : (fs.map (·.1)).Nodup) : ((putEntry k v fs).map (·.1)).Nodup := by
  by_cases hk : k ∈ fs.map (·.1)
  · rw [keys_putEntry_of_mem hk]
    exact h
  · rw [putEntry_of_not_mem hk, List.map_append, List.nodup_append]
    refine ⟨h, by simp, ?_⟩
    intro a ha b hb hab
    rw [List.map_cons, List.map_nil, List.mem_singleton] at hb
    rw [hab, hb] at ha
    exact hk ha

/-- A field after a write: what was written, or one that was there. -/
theorem mem_putEntry {f : String × Value} (h : f ∈ putEntry k v fs) : f = (k, v) ∨ f ∈ fs := by
  induction fs with
  | nil => exact Or.inl (List.mem_singleton.1 h)
  | cons g fs ih =>
    obtain ⟨k', w⟩ := g
    unfold putEntry at h
    split at h
    · rename_i hk
      rw [eq_of_beq hk] at h
      rcases List.mem_cons.1 h with h | h
      · exact Or.inl h
      · exact Or.inr (List.mem_cons_of_mem _ h)
    · rcases List.mem_cons.1 h with h | h
      · exact Or.inr (h ▸ List.mem_cons_self)
      · exact (ih h).imp_right (List.mem_cons_of_mem _)

/-- Fields of new names come at the end, in order. -/
theorem foldl_put_of_new {h : Hash} (hnd : (fs.map (·.1)).Nodup) (hnew : ∀ f ∈ fs, f.1 ∉ h.keys) :
    fs.foldl (fun h f => h.put f.1 f.2) h =
      { h with fields := h.fields ++ fs.map fun f => (f.1, f.2.rebase (some (childOrigin h.origin f.1))) } := by
  induction fs generalizing h with
  | nil => simp
  | cons f fs ih =>
    rw [List.map_cons, List.nodup_cons] at hnd
    rw [List.forall_mem_cons] at hnew
    have hput : h.put f.1 f.2 =
        { h with fields := h.fields ++ [(f.1, f.2.rebase (some (childOrigin h.origin f.1)))] } := by
      rw [put, putEntry_of_not_mem hnew.1]
    rw [List.foldl_cons, hput, ih hnd.2]
    · simp
    · intro g hg hmem
      rw [keys, List.map_append, List.mem_append, List.map_cons, List.map_nil, List.mem_singleton] at hmem
      rcases hmem with hmem | hmem
      · exact hnew.2 g hg hmem
      · exact hnd.1 (List.mem_map.2 ⟨g, hg, hmem⟩)

theorem nodup_keys_ofList (fs : List (String × Value)) : (ofList fs).keys.Nodup := by
  unfold ofList
  refine List.foldlRecOn (motive := fun h : Hash => h.keys.Nodup) fs _ List.nodup_nil fun h hnd f _ => ?_
  exact nodup_keys_putEntry hnd

end RecordFix.Hash
