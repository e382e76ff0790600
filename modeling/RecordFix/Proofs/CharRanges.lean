import RecordFix.Text.Ranges

/-!
# The members of character sets

The search for a member and the union of sets rely on the order of the ranges. On sets whose lower ends ascend, the
search finds the members of the ranges (`Ranges.search_iff`), and a union has the members of its parts
(`Ranges.contains_unionAll`) and ascends again.
-/

namespace RecordFix.Text.Ranges

variable {bounds : List (Nat × Nat)} {n : Nat} {c d : Char} {r s : Ranges}

/-- The lower ends are in order. -/
def Ascends (bounds : List (Nat × Nat)) : Prop := bounds.Pairwise fun x y => x.1 ≤ y.1

/-- A code is in one of the ranges. -/
def Covers (bounds : List (Nat × Nat)) (n : Nat) : Prop := ∃ x ∈ bounds, x.1 ≤ n ∧ n ≤ x.2

theorem covers_cons {lo hi : Nat} : Covers ((lo, hi) :: bounds) n ↔ lo ≤ n ∧ n ≤ hi ∨ Covers bounds n := by
  simp only [Covers, List.mem_cons, exists_eq_or_imp]

theorem covers_append {second : List (Nat × Nat)} :
    Covers (bounds ++ second) n ↔ Covers bounds n ∨ Covers second n := by
  simp only [Covers, List.mem_append, or_and_right, exists_or]

theorem search_iff (h : Ascends bounds) : search n bounds = true ↔ Covers bounds n := by
  induction bounds with
  | nil => simp [search, Covers]
  | cons x bounds ih =>
    obtain ⟨lo, hi⟩ := x
    rw [Ascends, List.pairwise_cons] at h
    rw [covers_cons, search]
    split
    · rename_i hlt
      -- what is below the first range is below all of them
      have hbelow : ¬ Covers bounds n := by
        rintro ⟨y, hy, hlo, -⟩
        have := h.1 y hy
        omega
      simp only [Bool.false_eq_true, hbelow, or_false, false_iff]
      omega
    · rename_i hle
      rw [Bool.or_eq_true, decide_eq_true_iff, ih h.2]
      exact or_congr_left ⟨fun hn => ⟨by omega, hn⟩, And.right⟩

/-! ### Joining ranges -/

private theorem exists_of_mem_coalesce {x : Nat × Nat} (h : x ∈ coalesce bounds) : ∃ y ∈ bounds, x.1 = y.1 := by
  induction bounds using coalesce.induct with
  | case1 => simp [coalesce] at h
  | case2 r => exact ⟨x, by simpa [coalesce] using h, rfl⟩
  | case3 a b c d rest hle ih =>
    rw [coalesce, if_pos hle] at h
    obtain ⟨y, hy, hx⟩ := ih h
    rcases List.mem_cons.1 hy with rfl | hy
    · exact ⟨(a, b), List.mem_cons_self, hx⟩
    · exact ⟨y, List.mem_cons_of_mem _ (List.mem_cons_of_mem _ hy), hx⟩
  | case4 a b c d rest hlt ih =>
    rw [coalesce, if_neg hlt] at h
    rcases List.mem_cons.1 h with rfl | h
    · exact ⟨(a, b), List.mem_cons_self, rfl⟩
    · obtain ⟨y, hy, hx⟩ := ih h
      exact ⟨y, List.mem_cons_of_mem _ hy, hx⟩

private theorem ascends_joined {a b c d : Nat} {rest : List (Nat × Nat)}
    (h : Ascends ((a, b) :: (c, d) :: rest)) : Ascends ((a, max b d) :: rest) := by
  rw [Ascends, List.pairwise_cons, List.pairwise_cons] at h
  exact List.pairwise_cons.2 ⟨fun y hy => h.1 y (List.mem_cons_of_mem _ hy), h.2.2⟩

theorem ascends_coalesce (h : Ascends bounds) : Ascends (coalesce bounds) := by
  induction bounds using coalesce.induct with
  | case1 => rw [coalesce]; exact h
  | case2 r => rw [coalesce]; exact h
  | case3 a b c d rest hle ih =>
    rw [coalesce, if_pos hle]
    exact ih (ascends_joined h)
  | case4 a b c d rest hlt ih =>
    rw [Ascends, List.pairwise_cons] at h
    rw [coalesce, if_neg hlt, Ascends, List.pairwise_cons]
    refine ⟨?_, ih h.2⟩
    intro y hy
    obtain ⟨z, hz, hyz⟩ := exists_of_mem_coalesce hy
    rw [hyz]
    exact h.1 z hz

theorem covers_coalesce (h : Ascends bounds) : Covers (coalesce bounds) n ↔ Covers bounds n := by
  induction bounds using coalesce.induct with
  | case1 => rw [coalesce]
  | case2 r => rw [coalesce]
  | case3 a b c d rest hle ih =>
    have hac : a ≤ c := (List.pairwise_cons.1 h).1 (c, d) List.mem_cons_self
    rw [coalesce, if_pos hle, ih (ascends_joined h), covers_cons, covers_cons, covers_cons, ← or_assoc]
    exact or_congr_left (by omega)
  | case4 a b c d rest hlt ih =>
    rw [coalesce, if_neg hlt, covers_cons, covers_cons, ih (List.pairwise_cons.1 h).2]

/-! ### Sets -/

theorem contains_iff (h : Ascends r.bounds) : r.contains c = true ↔ Covers r.bounds c.toNat := search_iff h

theorem ascends_single (c : Char) : Ascends (single c).bounds := List.pairwise_singleton _ _

private theorem eq_iff_toNat : d = c ↔ d.toNat = c.toNat := by
  rw [Char.ext_iff, ← UInt32.toNat_inj]
  rfl

theorem contains_single : (single c).contains d = true ↔ d = c := by
  rw [contains_iff (ascends_single c), eq_iff_toNat]
  simp only [Covers, single, between, List.mem_singleton, exists_eq_left]
  omega

private theorem ascends_merge {first second : List (Nat × Nat)} (hfirst : Ascends first) (hsecond : Ascends second) :
    Ascends (first.merge second fun x y => x.1 ≤ y.1) := by
  have h := @List.pairwise_merge _ (fun x y : Nat × Nat => decide (x.1 ≤ y.1))
    (fun x y z hxy hyz => by simp only [decide_eq_true_eq] at *; omega)
    (fun x y => by simp only [Bool.or_eq_true, decide_eq_true_eq]; omega) first second
  simp only [decide_eq_true_eq] at h
  exact h hfirst hsecond

theorem ascends_union (hr : Ascends r.bounds) (hs : Ascends s.bounds) : Ascends (r.union s).bounds :=
  ascends_coalesce (ascends_merge hr hs)

theorem contains_union (hr : Ascends r.bounds) (hs : Ascends s.bounds) :
    (r.union s).contains c = true ↔ r.contains c = true ∨ s.contains c = true := by
  rw [contains_iff (ascends_union hr hs), contains_iff hr, contains_iff hs, union,
    covers_coalesce (ascends_merge hr hs)]
  simp only [Covers, List.mem_merge, or_and_right, exists_or]

theorem ascends_unionAll {sets : List Ranges} (h : ∀ s ∈ sets, Ascends s.bounds) : Ascends (unionAll sets).bounds := by
  induction sets with
  | nil => exact List.Pairwise.nil
  | cons s sets ih =>
    exact ascends_union (h s List.mem_cons_self) (ih fun t ht => h t (List.mem_cons_of_mem _ ht))

theorem contains_unionAll {sets : List Ranges} (h : ∀ s ∈ sets, Ascends s.bounds) :
    (unionAll sets).contains c = true ↔ ∃ s ∈ sets, s.contains c = true := by
  induction sets with
  | nil => simp [unionAll, empty, contains, containsCode, search]
  | cons s sets ih =>
    have hsets : ∀ t ∈ sets, Ascends t.bounds := fun t ht => h t (List.mem_cons_of_mem _ ht)
    rw [show unionAll (s :: sets) = s.union (unionAll sets) from rfl,
      contains_union (h s List.mem_cons_self) (ascends_unionAll hsets), ih hsets]
    simp only [List.mem_cons, exists_eq_or_imp]

theorem compl_single (c : Char) :
    (single c).compl.bounds = (if 0 < c.toNat then [(0, c.toNat - 1)] else []) ++
      if c.toNat + 1 ≤ lastCode then [(c.toNat + 1, lastCode)] else [] := by
  simp only [compl, single, between, gaps]
  split
  · rfl
  · rfl

theorem ascends_compl_single (c : Char) : Ascends (single c).compl.bounds := by
  rw [compl_single]
  split
  · split
    · exact List.pairwise_pair.2 (Nat.zero_le _)
    · exact List.pairwise_singleton _ _
  · split
    · exact List.pairwise_singleton _ _
    · exact List.Pairwise.nil

private theorem covers_if {p : Prop} [Decidable p] {lo hi : Nat} :
    Covers (if p then [(lo, hi)] else []) n ↔ p ∧ lo ≤ n ∧ n ≤ hi := by
  split
  · rename_i hp
    simp [Covers, hp]
  · rename_i hp
    simp [Covers, hp]

private theorem toNat_le_lastCode (c : Char) : c.toNat ≤ lastCode := by
  have hlast : lastCode = 0x10FFFF := rfl
  rcases c.valid with h | ⟨-, h⟩
  · exact Nat.le_trans (Nat.le_of_lt h) (by omega)
  · exact Nat.le_of_lt_succ h

theorem contains_compl_single : (single c).compl.contains d = true ↔ d ≠ c := by
  have hlast := toNat_le_lastCode d
  rw [contains_iff (ascends_compl_single c), compl_single, covers_append, covers_if, covers_if, ne_eq, eq_iff_toNat]
  omega

end RecordFix.Text.Ranges
