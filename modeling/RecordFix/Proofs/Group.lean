import Mathlib.Data.List.Induction
import RecordFix.Value

/-!
# Grouping by name

`group` collects what a list has under each name, in the order in which the names first come. It is what is made by
filing the elements one after the other, each under its name and on top of what is there already (`foldl_file`). Where
the elements of each name stand together, they are gathered where they stand (`group_flatMap_spread`); so where no name
comes twice, nothing is changed (`group_of_nodup`).
-/

namespace RecordFix

variable {α : Type}

/-- What a list has under a name. -/
def underName (name : String) (fs : List (String × α)) : List α :=
  (fs.filter (·.1 == name)).map (·.2)

/-- Each name once, at the place where it first comes, with what is gathered from all that is under it. -/
def group (gather : List α → α) (fs : List (String × α)) : List (String × α) :=
  (fs.map (·.1)).eraseDups.map fun name => (name, gather (underName name fs))

/-- Files a value under a name, on top of what is there. -/
def fileUnder (add : α → α → α) (name : String) (v : α) : List (String × α) → List (String × α)
  | [] => [(name, v)]
  | (k, w) :: fs => if k == name then (k, add w v) :: fs else (k, w) :: fileUnder add name v fs

theorem eraseDups_concat (names : List String) (name : String) :
    (names ++ [name]).eraseDups = if name ∈ names then names.eraseDups else names.eraseDups ++ [name] := by
  rw [List.eraseDups_append]
  split
  · rename_i h
    simp [List.removeAll, h]
  · rename_i h
    simp [List.removeAll, h, List.eraseDups_cons]

theorem nodup_eraseDups (names : List String) : names.eraseDups.Nodup := by
  induction names using List.reverseRecOn with
  | nil => exact List.nodup_nil
  | append_singleton names name ih =>
    rw [eraseDups_concat]
    split
    · exact ih
    · rename_i h
      rw [List.nodup_append]
      refine ⟨ih, by simp, ?_⟩
      intro a ha b hb hab
      rw [List.mem_singleton] at hb
      rw [hab, hb, List.mem_eraseDups] at ha
      exact h ha

theorem underName_concat (name k : String) (v : α) (fs : List (String × α)) :
    underName name (fs ++ [(k, v)]) = if k = name then underName name fs ++ [v] else underName name fs := by
  unfold underName
  by_cases h : k = name
  · simp [List.filter_append, h]
  · simp [List.filter_append, h]

theorem underName_of_not_mem {name : String} {fs : List (String × α)} (h : name ∉ fs.map (·.1)) :
    underName name fs = [] := by
  unfold underName
  rw [List.filter_eq_nil_iff.2, List.map_nil]
  intro f hf hn
  exact h (List.mem_map.2 ⟨f, hf, eq_of_beq hn⟩)

theorem underName_ne_nil {name : String} {fs : List (String × α)} (h : name ∈ fs.map (·.1)) :
    underName name fs ≠ [] := by
  obtain ⟨f, hf, rfl⟩ := List.mem_map.1 h
  unfold underName
  intro hnil
  rw [List.map_eq_nil_iff, List.filter_eq_nil_iff] at hnil
  exact hnil f hf (beq_self_eq_true _)

variable {add : α → α → α} {gather : List α → α}

/-- Filing in a list with one entry for each of some names. -/
theorem fileUnder_map (f : String → α) (name : String) (v : α) {names : List String} (hnd : names.Nodup) :
    fileUnder add name v (names.map fun k => (k, f k)) =
      if name ∈ names then names.map fun k => (k, if k = name then add (f k) v else f k)
      else (names.map fun k => (k, f k)) ++ [(name, v)] := by
  induction names with
  | nil => rfl
  | cons k names ih =>
    rw [List.nodup_cons] at hnd
    simp only [List.map_cons, fileUnder]
    -- the name comes first, and then not again
    by_cases hk : k = name
    · subst hk
      have hrest : (names.map fun l => (l, if l = k then add (f l) v else f l)) = names.map fun l => (l, f l) := by
        apply List.map_congr_left
        intro l hl
        rw [if_neg (fun he : l = k => hnd.1 (he ▸ hl))]
      simp only [beq_self_eq_true, ↓reduceIte, List.mem_cons, true_or, hrest]
    · have hb : (k == name) = false := by simpa using hk
      simp only [hb, Bool.false_eq_true, ↓reduceIte, ih hnd.2, List.mem_cons, Ne.symm hk, false_or, hk]
      split <;> rfl

/-- One more element is filed under its name in the groups of those before. -/
theorem group_concat (hone : ∀ v, gather [v] = v) (hadd : ∀ vs v, vs ≠ [] → gather (vs ++ [v]) = add (gather vs) v)
    (fs : List (String × α)) (name : String) (v : α) :
    group gather (fs ++ [(name, v)]) = fileUnder add name v (group gather fs) := by
  unfold group
  rw [fileUnder_map _ _ _ (nodup_eraseDups _), List.map_append, List.map_cons, List.map_nil, eraseDups_concat]
  simp only [List.mem_eraseDups]
  split
  · rename_i hmem
    apply List.map_congr_left
    intro k _
    rw [underName_concat]
    by_cases hk : k = name
    · subst hk
      rw [if_pos rfl, if_pos rfl, hadd _ _ (underName_ne_nil hmem)]
    · rw [if_neg (Ne.symm hk), if_neg hk]
  · rename_i hmem
    rw [List.map_append]
    congr 1
    · apply List.map_congr_left
      intro k hk
      rw [List.mem_eraseDups] at hk
      rw [underName_concat, if_neg (fun he : name = k => hmem (he ▸ hk))]
    · rw [List.map_cons, List.map_nil, underName_concat, if_pos rfl, underName_of_not_mem hmem, List.nil_append, hone]

/-- Filing elements one after the other groups them. -/
theorem foldl_file (hone : ∀ v, gather [v] = v) (hadd : ∀ vs v, vs ≠ [] → gather (vs ++ [v]) = add (gather vs) v)
    (fs : List (String × α)) : fs.foldl (fun acc f => fileUnder add f.1 f.2 acc) [] = group gather fs := by
  induction fs using List.reverseRecOn with
  | nil => rfl
  | append_singleton fs f ih =>
    rw [List.foldl_append, ih, List.foldl_cons, List.foldl_nil, group_concat hone hadd]

/-! ### Elements that stand together -/

theorem underName_append (name : String) (fs gs : List (String × α)) :
    underName name (fs ++ gs) = underName name fs ++ underName name gs := by
  simp [underName]

/-- A name with some elements as a list with the name before each. -/
def spread (b : String × List α) : List (String × α) := b.2.map fun v => (b.1, v)

theorem underName_spread (name : String) (b : String × List α) :
    underName name (spread b) = if b.1 = name then b.2 else [] := by
  obtain ⟨k, vs⟩ := b
  unfold underName spread
  by_cases h : k = name
  · subst h
    simp [List.filter_map, Function.comp_def]
  · simp [h]

private theorem mem_keys_of_mem_keys_spread {blocks : List (String × List α)} {name : String}
    (h : name ∈ (blocks.flatMap spread).map (·.1)) : name ∈ blocks.map (·.1) := by
  obtain ⟨f, hf, rfl⟩ := List.mem_map.1 h
  obtain ⟨b, hb, hf⟩ := List.mem_flatMap.1 hf
  obtain ⟨v, -, rfl⟩ := List.mem_map.1 hf
  exact List.mem_map_of_mem hb

theorem underName_flatMap_spread {blocks : List (String × List α)} (hnd : (blocks.map (·.1)).Nodup)
    {b : String × List α} (hb : b ∈ blocks) : underName b.1 (blocks.flatMap spread) = b.2 := by
  induction blocks with
  | nil => cases hb
  | cons c blocks ih =>
    rw [List.map_cons, List.nodup_cons] at hnd
    rw [List.flatMap_cons, underName_append, underName_spread]
    rcases List.mem_cons.1 hb with rfl | hb'
    · have hrest : underName b.1 (blocks.flatMap spread) = [] :=
        underName_of_not_mem fun hm => hnd.1 (mem_keys_of_mem_keys_spread hm)
      rw [if_pos rfl, hrest, List.append_nil]
    · have hne : c.1 ≠ b.1 := fun h => hnd.1 (h ▸ List.mem_map_of_mem hb')
      rw [if_neg hne, ih hnd.2 hb', List.nil_append]

private theorem eraseDups_keys_spread {b : String × List α} (hne : b.2 ≠ []) :
    ((spread b).map (·.1)).eraseDups = [b.1] := by
  obtain ⟨k, vs⟩ := b
  obtain ⟨v, vs, rfl⟩ := List.exists_cons_of_ne_nil hne
  have hkeys : (spread (k, v :: vs)).map (·.1) = k :: vs.map fun _ => k := by
    simp only [spread, List.map_map, List.map_cons, Function.comp_def]
  have hrest : (vs.map fun _ => k).filter (fun l => !l == k) = [] := by
    rw [List.filter_eq_nil_iff]
    simp
  rw [hkeys, List.eraseDups_cons, hrest, List.eraseDups_nil]

theorem eraseDups_keys_flatMap_spread {blocks : List (String × List α)} (hnd : (blocks.map (·.1)).Nodup)
    (hne : ∀ b ∈ blocks, b.2 ≠ []) : ((blocks.flatMap spread).map (·.1)).eraseDups = blocks.map (·.1) := by
  induction blocks using List.reverseRecOn with
  | nil => rfl
  | append_singleton blocks b ih =>
    rw [List.map_append, List.nodup_append] at hnd
    -- the name of the last block is new
    have hnew : ((spread b).map (·.1)).removeAll ((blocks.flatMap spread).map (·.1)) = (spread b).map (·.1) := by
      unfold List.removeAll
      rw [List.filter_eq_self]
      intro k hk
      obtain ⟨f, hf, rfl⟩ := List.mem_map.1 hk
      obtain ⟨v, -, rfl⟩ := List.mem_map.1 hf
      have hnot : b.1 ∉ (blocks.flatMap spread).map (·.1) := fun hm =>
        hnd.2.2 b.1 (mem_keys_of_mem_keys_spread hm) b.1 (by simp) rfl
      simpa using hnot
    have hblocks := ih hnd.1 fun c hc => hne c (by simp [hc])
    rw [List.flatMap_append, List.flatMap_singleton, List.map_append, List.eraseDups_append, hnew,
      eraseDups_keys_spread (hne b (by simp)), hblocks, List.map_append, List.map_cons, List.map_nil]

/-- Where all that has a name stands together, it is gathered at its place. -/
theorem group_flatMap_spread {blocks : List (String × List α)} (hnd : (blocks.map (·.1)).Nodup)
    (hne : ∀ b ∈ blocks, b.2 ≠ []) :
    group gather (blocks.flatMap spread) = blocks.map fun b => (b.1, gather b.2) := by
  unfold group
  rw [eraseDups_keys_flatMap_spread hnd hne, List.map_map]
  apply List.map_congr_left
  intro b hb
  rw [Function.comp_apply, underName_flatMap_spread hnd hb]

/-- Elements of different names are grouped as they stand. -/
theorem group_of_nodup (hone : ∀ v, gather [v] = v) {fs : List (String × α)} (hnd : (fs.map (·.1)).Nodup) :
    group gather fs = fs := by
  have hspread : (fs.map fun f => (f.1, [f.2])).flatMap spread = fs := by
    simp [List.flatMap_map, spread]
  have hkeys : ((fs.map fun f => (f.1, [f.2])).map (·.1)).Nodup := by
    simpa [Function.comp_def] using hnd
  have hne : ∀ b ∈ fs.map fun f => (f.1, [f.2]), b.2 ≠ [] := by
    intro b hb
    obtain ⟨f, -, rfl⟩ := List.mem_map.1 hb
    exact List.cons_ne_nil _ _
  calc
    group gather fs = group gather ((fs.map fun f => (f.1, [f.2])).flatMap spread) := by rw [hspread]
    _ = (fs.map fun f => (f.1, [f.2])).map fun b => (b.1, gather b.2) := group_flatMap_spread hkeys hne
    _ = fs := by simp [Function.comp_def, hone]

end RecordFix
