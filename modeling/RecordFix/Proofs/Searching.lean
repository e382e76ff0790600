import Mathlib.Data.Finset.Prod
import RecordFix.Pattern.Replace
import RecordFix.Proofs.Programs

/-!
# The search finds what the expression spans

Threads are dropped where one was before. What was seen is settled once no thread waits any more: no instruction that
was seen accepts, and the threads that go on from it were seen, too (`Program.Settled`). So a run that finds nothing
has seen all that can be reached, a run that finds something has reached it (`Program.accepts_of_runThreads`), and the
bound for the steps suffices (`Program.settled_of_runThreads`). A search finds the first place from which the
expression spans something (`Regex.spans_of_search?`), unless there is none (`Regex.not_spans_of_search?`).
-/

namespace RecordFix.Pattern

open RecordFix.Text

/-- Where a thread is. -/
def Thread.node (t : Thread) : Nat × Nat := (t.label, t.place)

namespace Program

variable {p : Program} {text : Array Char} {seen seen' : Seen} {waiting : List Thread} {t : Thread}
  {fuel label place i j : Nat}

/-! ### One step -/

section Successors

variable {instruction : Instruction}

private theorem node_successors (t : Thread) (instruction : Instruction) :
    (successors text t instruction).map Thread.node =
      (successors text ⟨t.label, t.place, []⟩ instruction).map Thread.node := by
  cases instruction with
  | one s next =>
    simp only [successors]
    split
    · rfl
    · rfl
  | look l next =>
    simp only [successors]
    split
    · rfl
    · rfl
  | _ => rfl

private theorem length_successors_le (t : Thread) (instruction : Instruction) :
    (successors text t instruction).length ≤ 2 := by
  cases instruction with
  | one s next =>
    simp only [successors]
    split <;> simp
  | look l next =>
    simp only [successors]
    split <;> simp
  | _ => simp [successors]

private theorem place_le_of_mem_successors {u : Thread} (h : t.place ≤ text.size)
    (hu : u ∈ successors text t instruction) : u.place ≤ text.size := by
  cases instruction with
  | accept => cases hu
  | one s next =>
    simp only [successors, List.mem_ite_nil_right, List.mem_singleton] at hu
    obtain ⟨hc, rfl⟩ := hu
    -- a character was read, so the text goes on there
    by_contra hlt
    rw [Array.getElem?_eq_none (Nat.le_of_lt_succ (Nat.lt_of_not_le hlt))] at hc
    cases hc
  | look l next =>
    simp only [successors, List.mem_ite_nil_right, List.mem_singleton] at hu
    rw [hu.2]
    exact h
  | fork first second =>
    simp only [successors, List.mem_cons, List.not_mem_nil, or_false] at hu
    rcases hu with rfl | rfl
    · exact h
    · exact h
  | mark slot next =>
    rw [List.mem_singleton.1 hu]
    exact h

end Successors

/-- The threads that go on from a thread. -/
def advance (p : Program) (text : Array Char) (t : Thread) : List Thread :=
  match p.code[t.label]? with
  | some instruction => successors text t instruction
  | none => []

theorem node_advance (p : Program) (text : Array Char) (t : Thread) :
    (p.advance text t).map Thread.node = (p.advance text ⟨t.label, t.place, []⟩).map Thread.node := by
  simp only [advance]
  cases p.code[t.label]? with
  | none => rfl
  | some instruction => exact node_successors t instruction

theorem length_advance_le (p : Program) (text : Array Char) (t : Thread) : (p.advance text t).length ≤ 2 := by
  unfold advance
  split
  · exact length_successors_le t _
  · exact Nat.zero_le 2

/-- Threads stay within the text. -/
theorem place_le_of_mem_advance {u : Thread} (h : t.place ≤ text.size) (hu : u ∈ p.advance text t) :
    u.place ≤ text.size := by
  unfold advance at hu
  split at hu
  · exact place_le_of_mem_successors h hu
  · cases hu

theorem acceptsIn_succ_iff {n : Nat} :
    AcceptsIn p.code text (n + 1) label i j ↔
      ∃ u ∈ p.advance text ⟨label, i, []⟩, AcceptsIn p.code text n u.label u.place j := by
  unfold advance
  rw [AcceptsIn]
  cases p.code[label]? with
  | none => simp
  | some instruction => simp

/-- What a thread that goes on from another accepts, the other accepts. -/
theorem accepts_of_mem_advance {u : Thread} (hu : u ∈ p.advance text t)
    (h : Accepts p.code text u.label u.place j) : Accepts p.code text t.label t.place j := by
  obtain ⟨n, hn⟩ := h
  have hmem : u.node ∈ (p.advance text ⟨t.label, t.place, []⟩).map Thread.node := by
    rw [← node_advance]
    exact List.mem_map_of_mem hu
  obtain ⟨v, hv, hnode⟩ := List.mem_map.1 hmem
  obtain ⟨hlabel, hplace⟩ := Prod.mk.inj hnode
  rw [← hlabel, ← hplace] at hn
  exact ⟨n + 1, acceptsIn_succ_iff.2 ⟨v, hv, hn⟩⟩

theorem runThreads_of_seen (h : t.node ∈ seen) :
    p.runThreads text (fuel + 1) (t :: waiting) seen = p.runThreads text fuel waiting seen := by
  have hcontains : seen.contains (t.label, t.place) = true := h
  rw [runThreads, if_pos hcontains]

theorem runThreads_of_accept (hseen : t.node ∉ seen) (h : p.code[t.label]? = some .accept) :
    p.runThreads text (fuel + 1) (t :: waiting) seen = (some t, seen.insert t.node) := by
  have hcontains : ¬ seen.contains (t.label, t.place) = true := hseen
  rw [runThreads, if_neg hcontains]
  simp only [h, Thread.node]

theorem runThreads_of_not_accept (hseen : t.node ∉ seen) (h : p.code[t.label]? ≠ some .accept) :
    p.runThreads text (fuel + 1) (t :: waiting) seen =
      p.runThreads text fuel (p.advance text t ++ waiting) (seen.insert t.node) := by
  have hcontains : ¬ seen.contains (t.label, t.place) = true := hseen
  rw [runThreads, if_neg hcontains]
  unfold advance
  cases hi : p.code[t.label]? with
  | none => rfl
  | some instruction =>
    cases instruction with
    | accept => exact absurd hi h
    | _ => rfl

/-! ### Runs -/

/-- A thread that is found comes from one that waited. -/
theorem accepts_of_runThreads (h : p.runThreads text fuel waiting seen = (some t, seen')) :
    ∃ w ∈ waiting, Accepts p.code text w.label w.place t.place := by
  induction fuel generalizing waiting seen with
  | zero => cases h
  | succ fuel ih =>
    cases waiting with
    | nil => cases h
    | cons w waiting =>
      by_cases hseen : w.node ∈ seen
      · rw [runThreads_of_seen hseen] at h
        obtain ⟨v, hv, haccepts⟩ := ih h
        exact ⟨v, List.mem_cons_of_mem _ hv, haccepts⟩
      by_cases haccept : p.code[w.label]? = some .accept
      · rw [runThreads_of_accept hseen haccept] at h
        cases h
        exact ⟨t, List.mem_cons_self, 0, haccept, rfl⟩
      · rw [runThreads_of_not_accept hseen haccept] at h
        obtain ⟨v, hv, haccepts⟩ := ih h
        rcases List.mem_append.1 hv with hv | hv
        · exact ⟨w, List.mem_cons_self, accepts_of_mem_advance hv haccepts⟩
        · exact ⟨v, List.mem_cons_of_mem _ hv, haccepts⟩

/-- No instruction that was seen accepts, and the threads that go on from it were seen or wait. -/
def Settled (p : Program) (text : Array Char) (seen : Seen) (waiting : List Thread) : Prop :=
  ∀ label place, (label, place) ∈ seen → p.code[label]? ≠ some .accept ∧
    ∀ node ∈ (p.advance text ⟨label, place, []⟩).map Thread.node, node ∈ seen ∨ node ∈ waiting.map Thread.node

/-- Nothing that was seen leads to an accepting instruction. -/
theorem not_accepts_of_settled (h : p.Settled text seen []) (hseen : (label, place) ∈ seen) :
    ¬ Accepts p.code text label place j := by
  rintro ⟨n, hn⟩
  induction n generalizing label place with
  | zero => exact (h label place hseen).1 hn.1
  | succ n ih =>
    obtain ⟨t, ht, hrest⟩ := acceptsIn_succ_iff.1 hn
    rcases (h label place hseen).2 t.node (List.mem_map_of_mem ht) with hnode | hnode
    · exact ih hnode hrest
    · cases hnode

theorem mem_insert_iff {node other : Nat × Nat} : other ∈ seen.insert node ↔ other = node ∨ other ∈ seen := by
  rw [Std.TreeSet.mem_insert, Std.LawfulEqCmp.compare_eq_iff_eq, eq_comm]

theorem Settled.drop (h : p.Settled text seen (t :: waiting)) (ht : t.node ∈ seen) : p.Settled text seen waiting := by
  intro label place hseen
  refine ⟨(h label place hseen).1, fun node hnode => ?_⟩
  rcases (h label place hseen).2 node hnode with hnode | hnode
  · exact .inl hnode
  · rcases List.mem_cons.1 hnode with rfl | hnode
    · exact .inl ht
    · exact .inr hnode

/-- The thread on top is seen, and those that go on from it wait instead of it. -/
theorem Settled.insert (h : p.Settled text seen (t :: waiting)) (ht : p.code[t.label]? ≠ some .accept) :
    p.Settled text (seen.insert t.node) (p.advance text t ++ waiting) := by
  intro label place hseen
  rw [List.map_append, node_advance p text t]
  rcases mem_insert_iff.1 hseen with heq | hseen
  · obtain ⟨rfl, rfl⟩ := Prod.mk.inj heq
    exact ⟨ht, fun node hnode => .inr (List.mem_append_left _ hnode)⟩
  · refine ⟨(h label place hseen).1, fun node hnode => ?_⟩
    rcases (h label place hseen).2 node hnode with hnode | hnode
    · exact .inl (mem_insert_iff.2 (.inr hnode))
    · rcases List.mem_cons.1 hnode with rfl | hnode
      · exact .inl (mem_insert_iff.2 (.inl rfl))
      · exact .inr (List.mem_append_right _ hnode)

/-! ### Enough steps -/

/-- The pairs of an instruction and a place that were not seen. -/
def unseen (p : Program) (text : Array Char) (seen : Seen) : Finset (Nat × Nat) :=
  (Finset.range p.code.size ×ˢ Finset.range (text.size + 1)).filter (· ∉ seen)

theorem unseen_insert_subset (node : Nat × Nat) : p.unseen text (seen.insert node) ⊆ p.unseen text seen := by
  intro other hother
  rw [unseen, Finset.mem_filter] at hother ⊢
  exact ⟨hother.1, fun h => hother.2 (mem_insert_iff.2 (.inr h))⟩

theorem card_unseen_insert_lt (hlabel : t.label < p.code.size) (hplace : t.place ≤ text.size)
    (hseen : t.node ∉ seen) : (p.unseen text (seen.insert t.node)).card < (p.unseen text seen).card := by
  apply Finset.card_lt_card
  rw [Finset.ssubset_iff_of_subset (unseen_insert_subset t.node)]
  refine ⟨t.node, Finset.mem_filter.2 ⟨?_, hseen⟩, fun h => (Finset.mem_filter.1 h).2 (mem_insert_iff.2 (.inl rfl))⟩
  exact Finset.mem_product.2 ⟨Finset.mem_range.2 hlabel, Finset.mem_range.2 (Nat.lt_succ_of_le hplace)⟩

/-- A bound for the steps that are left: each waiting thread takes one, and each pair that was not seen lets one thread
more wait after its step. -/
def stepsLeft (p : Program) (text : Array Char) (waiting : List Thread) (seen : Seen) : Nat :=
  waiting.length + 2 * (p.unseen text seen).card

theorem stepsLeft_advance_lt (hseen : t.node ∉ seen) (hplace : t.place ≤ text.size) :
    p.stepsLeft text (p.advance text t ++ waiting) (seen.insert t.node) < p.stepsLeft text (t :: waiting) seen := by
  rw [stepsLeft, stepsLeft, List.length_append, List.length_cons]
  by_cases hlabel : t.label < p.code.size
  · have hlength := length_advance_le p text t
    have hcard := card_unseen_insert_lt hlabel hplace hseen
    omega
  · have hnone : p.advance text t = [] := by
      rw [advance, Array.getElem?_eq_none (Nat.le_of_not_lt hlabel)]
    have hcard : (p.unseen text (seen.insert t.node)).card ≤ (p.unseen text seen).card :=
      Finset.card_le_card (unseen_insert_subset t.node)
    rw [hnone, List.length_nil]
    omega

/-- A run that has enough steps and finds nothing settles what was seen, which is all that waited. -/
theorem settled_of_runThreads (hfuel : p.stepsLeft text waiting seen ≤ fuel)
    (hplaces : ∀ w ∈ waiting, w.place ≤ text.size) (hsettled : p.Settled text seen waiting)
    (h : p.runThreads text fuel waiting seen = (none, seen')) :
    p.Settled text seen' [] ∧ (∀ node ∈ seen, node ∈ seen') ∧ ∀ w ∈ waiting, w.node ∈ seen' := by
  induction fuel generalizing waiting seen with
  | zero =>
    have hnil : waiting = [] := by
      rw [stepsLeft] at hfuel
      exact List.length_eq_zero_iff.1 (by omega)
    cases h
    rw [hnil] at hsettled ⊢
    exact ⟨hsettled, fun _ hnode => hnode, fun w hw => nomatch hw⟩
  | succ fuel ih =>
    cases waiting with
    | nil =>
      cases h
      exact ⟨hsettled, fun _ hnode => hnode, fun w hw => nomatch hw⟩
    | cons w waiting =>
      obtain ⟨hplace, hrest⟩ := List.forall_mem_cons.1 hplaces
      by_cases hseen : w.node ∈ seen
      · rw [runThreads_of_seen hseen] at h
        rw [stepsLeft, List.length_cons] at hfuel
        obtain ⟨hend, hkept, hwaiting⟩ := ih (by rw [stepsLeft]; omega) hrest (hsettled.drop hseen) h
        exact ⟨hend, hkept, List.forall_mem_cons.2 ⟨hkept w.node hseen, hwaiting⟩⟩
      by_cases haccept : p.code[w.label]? = some .accept
      · rw [runThreads_of_accept hseen haccept] at h
        cases h
      · rw [runThreads_of_not_accept hseen haccept] at h
        have hfewer : p.stepsLeft text (p.advance text w ++ waiting) (seen.insert w.node) <
            p.stepsLeft text (w :: waiting) seen := stepsLeft_advance_lt hseen hplace
        have hwithin : ∀ v ∈ p.advance text w ++ waiting, v.place ≤ text.size := by
          intro v hv
          rcases List.mem_append.1 hv with hv | hv
          · exact place_le_of_mem_advance hplace hv
          · exact hrest v hv
        obtain ⟨hend, hkept, hwaiting⟩ := ih (by omega) hwithin (hsettled.insert haccept) h
        refine ⟨hend, fun node hnode => hkept node (mem_insert_iff.2 (.inr hnode)), List.forall_mem_cons.2 ⟨?_, ?_⟩⟩
        · exact hkept w.node (mem_insert_iff.2 (.inl rfl))
        · exact fun v hv => hwaiting v (List.mem_append_right _ hv)

/-! ### Searches -/

theorem settled_empty (p : Program) (text : Array Char) : p.Settled text ∅ [] :=
  fun _ _ hseen => absurd hseen Std.TreeSet.not_mem_emptyc

theorem stepsLeft_le_steps : p.stepsLeft text [t] seen ≤ p.steps text := by
  have hcard : (p.unseen text seen).card ≤ p.code.size * (text.size + 1) := by
    have h := Finset.card_filter_le (Finset.range p.code.size ×ˢ Finset.range (text.size + 1)) (· ∉ seen)
    rw [Finset.card_product, Finset.card_range, Finset.card_range] at h
    exact h
  have hmore : p.code.size * (text.size + 1) ≤ (p.code.size + 1) * (text.size + 1) :=
    Nat.mul_le_mul_right _ (Nat.le_succ _)
  rw [stepsLeft, steps, List.length_singleton, Nat.mul_assoc]
  omega

/-- A run at a place that finds nothing, where what was seen before is settled, leaves it settled, and the program
accepts from this place nowhere. -/
theorem settled_of_run (hplace : place ≤ text.size) (hsettled : p.Settled text seen [])
    (h : p.runThreads text (p.steps text) [⟨p.start, place, []⟩] seen = (none, seen')) :
    p.Settled text seen' [] ∧ ∀ j, ¬ Accepts p.code text p.start place j := by
  have hwaiting : p.Settled text seen [⟨p.start, place, []⟩] := by
    intro label place' hseen
    refine ⟨(hsettled label place' hseen).1, fun node hnode => ?_⟩
    rcases (hsettled label place' hseen).2 node hnode with hnode | hnode
    · exact .inl hnode
    · cases hnode
  obtain ⟨hend, -, hseen⟩ := settled_of_runThreads stepsLeft_le_steps (List.forall_mem_singleton.2 hplace) hwaiting h
  exact ⟨hend, fun j => not_accepts_of_settled hend (hseen _ List.mem_cons_self)⟩

theorem searchPlaces_eq_none {count : Nat} (hcount : place + count ≤ text.size + 1)
    (hsettled : p.Settled text seen []) (h : p.searchPlaces text count place seen = none) (hi : place ≤ i)
    (hlt : i < place + count) : ¬ Accepts p.code text p.start i j := by
  induction count generalizing place seen with
  | zero => omega
  | succ count ih =>
    rw [searchPlaces] at h
    split at h
    · cases h
    · rename_i hrun
      obtain ⟨hend, hnone⟩ := settled_of_run (by omega) hsettled hrun
      rcases Nat.eq_or_lt_of_le hi with rfl | hi
      · exact hnone j
      · exact ih (by omega) hend h hi (by omega)

theorem searchPlaces_eq_some {count : Nat} {m : Match} (hcount : place + count ≤ text.size + 1)
    (hsettled : p.Settled text seen []) (h : p.searchPlaces text count place seen = some m) :
    m.text = text ∧ place ≤ m.start ∧ m.start < place + count ∧ Accepts p.code text p.start m.start m.stop ∧
      ∀ i, place ≤ i → i < m.start → ∀ j, ¬ Accepts p.code text p.start i j := by
  induction count generalizing place seen with
  | zero => cases h
  | succ count ih =>
    rw [searchPlaces] at h
    split at h
    · rename_i hrun
      cases h
      obtain ⟨w, hw, haccepts⟩ := accepts_of_runThreads hrun
      rw [List.mem_singleton.1 hw] at haccepts
      exact ⟨rfl, Nat.le_refl _, by dsimp only; omega, haccepts, fun i hi hlt => by dsimp only at hlt; omega⟩
    · rename_i hrun
      obtain ⟨hend, hnone⟩ := settled_of_run (by omega) hsettled hrun
      obtain ⟨htext, hstart, hlt, haccepts, hfirst⟩ := ih (by omega) hend h
      refine ⟨htext, by omega, by omega, haccepts, fun i hi hbefore => ?_⟩
      rcases Nat.eq_or_lt_of_le hi with rfl | hi
      · exact hnone
      · exact hfirst i hi hbefore

end Program

namespace Regex

variable {r : Regex} {text : Array Char} {place i j : Nat}

/-- If the search finds nothing, the expression spans nothing from there on. -/
theorem not_spans_of_search? (h : r.program.search? text place = none) (hi : place ≤ i) (hsize : i ≤ text.size) :
    ¬ r.Spans text i j := by
  rw [← accepts_program]
  exact Program.searchPlaces_eq_none (by omega) (Program.settled_empty _ _) h hi (by omega)

/-- What the search finds is spanned by the expression, which spans nothing from an earlier place on. -/
theorem spans_of_search? {m : Match} (hplace : place ≤ text.size) (h : r.program.search? text place = some m) :
    m.text = text ∧ place ≤ m.start ∧ m.start ≤ text.size ∧ r.Spans text m.start m.stop ∧
      ∀ i, place ≤ i → i < m.start → ∀ j, ¬ r.Spans text i j := by
  obtain ⟨htext, hstart, hlt, haccepts, hfirst⟩ :=
    Program.searchPlaces_eq_some (by omega) (Program.settled_empty _ _) h
  refine ⟨htext, hstart, by omega, accepts_program.1 haccepts, fun i hi hbefore j => ?_⟩
  rw [← accepts_program]
  exact hfirst i hi hbefore j

/-- A text matches exactly if the expression spans something in it. -/
theorem isMatch_program {names : List (Option String)} {name : String} :
    Pattern.isMatch ⟨r.program, names⟩ name = true ↔
      ∃ i j, i ≤ name.toList.length ∧ r.Spans name.toList.toArray i j := by
  have hsize : name.toList.toArray.size = name.toList.length := List.size_toArray
  rw [Pattern.isMatch, Pattern.firstMatch?]
  cases hsearch : r.program.search? name.toList.toArray 0 with
  | none =>
    simp only [Option.isSome_none, Bool.false_eq_true, false_iff]
    rintro ⟨i, j, hi, hspans⟩
    exact not_spans_of_search? hsearch (Nat.zero_le i) (hsize ▸ hi) hspans
  | some m =>
    obtain ⟨-, -, hstart, hspans, -⟩ := spans_of_search? (Nat.zero_le _) hsearch
    simp only [Option.isSome_some, true_iff]
    exact ⟨m.start, m.stop, hsize ▸ hstart, hspans⟩

end Regex

end RecordFix.Pattern
