import RecordFix.Proofs.Spans

/-!
# Programs carry out their expressions

A part of a program stands in front of another if its threads come to the other one after what the part is for
(`Fronts`). The instructions that are put in front of others for an expression are such a part, whatever else is put
in front of them later, and what they are for is what the expression spans (`Regex.builds_prepend`). So a program
accepts between two places exactly if its expression spans them (`Regex.accepts_program`).
-/

namespace RecordFix.Pattern

open RecordFix.Text

variable {code full : Array Instruction} {text : Array Char} {n i j k : Nat} {label start next : Nat}

/-- From an instruction at a place, some thread comes in a number of steps to an accepting one at another place. -/
def AcceptsIn (code : Array Instruction) (text : Array Char) : Nat → Nat → Nat → Nat → Prop
  | 0, label, i, j => code[label]? = some .accept ∧ i = j
  | n + 1, label, i, j => ∃ instruction, code[label]? = some instruction ∧
      ∃ t ∈ Program.successors text ⟨label, i, []⟩ instruction, AcceptsIn code text n t.label t.place j

def Accepts (code : Array Instruction) (text : Array Char) (label i j : Nat) : Prop :=
  ∃ n, AcceptsIn code text n label i j

theorem acceptsIn_accept (h : code[label]? = some .accept) :
    AcceptsIn code text n label i j ↔ n = 0 ∧ i = j := by
  cases n with
  | zero => simp [AcceptsIn, h]
  | succ n => simp [AcceptsIn, h, Program.successors]

theorem acceptsIn_iff {instruction : Instruction} (h : code[label]? = some instruction) (hne : instruction ≠ .accept) :
    AcceptsIn code text n label i j ↔ ∃ m, n = m + 1 ∧
      ∃ t ∈ Program.successors text ⟨label, i, []⟩ instruction, AcceptsIn code text m t.label t.place j := by
  cases n with
  | zero => simp [AcceptsIn, h, hne]
  | succ n => simp [AcceptsIn, h]

theorem acceptsIn_prefer {greedy : Bool} {body : Nat} (h : code[label]? = some (Regex.prefer greedy body next)) :
    AcceptsIn code text n label i j ↔
      ∃ m, n = m + 1 ∧ (AcceptsIn code text m body i j ∨ AcceptsIn code text m next i j) := by
  cases greedy with
  | true => simp [acceptsIn_iff h, Regex.prefer, Program.successors]
  | false => simp [acceptsIn_iff h, Regex.prefer, Program.successors, or_comm]

/-! ### Parts of programs -/

/-- Threads that begin at `start` come by `next` before they accept, at one of the places to which `step` leads, and
they come to all of these. The number of steps tells rounds of a loop apart that take no character. -/
structure Fronts (full : Array Instruction) (text : Array Char) (step : Nat → Nat → Prop) (start next : Nat) :
    Prop where
  split : ∀ {n i j}, AcceptsIn full text n start i j →
    ∃ k m, m ≤ n ∧ step i k ∧ AcceptsIn full text m next k j
  join : ∀ {i k j}, step i k → Accepts full text next k j → Accepts full text start i j

namespace Fronts

variable {first second step : Nat → Nat → Prop} {middle : Nat}

theorem refl (full : Array Instruction) (text : Array Char) (next : Nat) : Fronts full text (· = ·) next next where
  split h := ⟨_, _, Nat.le_refl _, rfl, h⟩
  join h haccepts := h ▸ haccepts

theorem congr (h : Fronts full text first start next) (hiff : ∀ i j, first i j ↔ second i j) :
    Fronts full text second start next where
  split haccepts := by
    obtain ⟨k, m, hm, hstep, hrest⟩ := h.split haccepts
    exact ⟨k, m, hm, (hiff _ _).1 hstep, hrest⟩
  join hstep := h.join ((hiff _ _).2 hstep)

theorem trans (hfirst : Fronts full text first start middle) (hsecond : Fronts full text second middle next) :
    Fronts full text (fun i j => ∃ k, first i k ∧ second k j) start next where
  split haccepts := by
    obtain ⟨k, m, hm, hi, hmiddle⟩ := hfirst.split haccepts
    obtain ⟨l, p, hp, hk, hnext⟩ := hsecond.split hmiddle
    exact ⟨l, p, Nat.le_trans hp hm, ⟨k, hi, hk⟩, hnext⟩
  join hstep haccepts := by
    obtain ⟨k, hi, hk⟩ := hstep
    exact hfirst.join hi (hsecond.join hk haccepts)

/-- An instruction after which there is but one. -/
theorem single {instruction : Instruction} (h : full[label]? = some instruction) (hne : instruction ≠ .accept)
    (hlabel : ∀ {i t}, t ∈ Program.successors text ⟨label, i, []⟩ instruction → t.label = next ∧ step i t.place)
    (hplace : ∀ {i k}, step i k → ∃ t ∈ Program.successors text ⟨label, i, []⟩ instruction, t.place = k) :
    Fronts full text step label next where
  split haccepts := by
    obtain ⟨m, rfl, t, ht, hrest⟩ := (acceptsIn_iff h hne).1 haccepts
    obtain ⟨rfl, hstep⟩ := hlabel ht
    exact ⟨t.place, m, Nat.le_succ m, hstep, hrest⟩
  join := by
    rintro i k j hstep ⟨m, hrest⟩
    obtain ⟨t, ht, rfl⟩ := hplace hstep
    rw [← (hlabel ht).1] at hrest
    exact ⟨m + 1, (acceptsIn_iff h hne).2 ⟨m, rfl, t, ht, hrest⟩⟩

theorem one {s : Ranges} (h : full[label]? = some (.one s next)) :
    Fronts full text ((Regex.one s).Spans text) label next := by
  refine single h (by simp) ?_ ?_
  · simp only [Program.successors, List.mem_ite_nil_right, List.mem_singleton]
    rintro i t ⟨hc, rfl⟩
    exact ⟨rfl, hc, rfl⟩
  · simp only [Program.successors, List.mem_ite_nil_right, List.mem_singleton]
    rintro i k ⟨hc, rfl⟩
    exact ⟨_, ⟨hc, rfl⟩, rfl⟩

theorem look {l : Look} (h : full[label]? = some (.look l next)) :
    Fronts full text ((Regex.look l).Spans text) label next := by
  refine single h (by simp) ?_ ?_
  · simp only [Program.successors, List.mem_ite_nil_right, List.mem_singleton]
    rintro i t ⟨hl, rfl⟩
    exact ⟨rfl, hl, rfl⟩
  · simp only [Program.successors, List.mem_ite_nil_right, List.mem_singleton]
    rintro i k ⟨hl, rfl⟩
    exact ⟨_, ⟨hl, rfl⟩, rfl⟩

theorem mark {slot : Nat} (h : full[label]? = some (.mark slot next)) : Fronts full text (· = ·) label next := by
  refine single h (by simp) ?_ ?_
  · simp [Program.successors]
  · simp [Program.successors]

/-- Two ways to the same instruction. -/
theorem fork {greedy : Bool} {a b : Nat} (h : full[label]? = some (Regex.prefer greedy a b))
    (hfirst : Fronts full text first a next) (hsecond : Fronts full text second b next) :
    Fronts full text (fun i j => first i j ∨ second i j) label next where
  split haccepts := by
    obtain ⟨m, rfl, hrest⟩ := (acceptsIn_prefer h).1 haccepts
    rcases hrest with hrest | hrest
    · obtain ⟨k, p, hp, hstep, hnext⟩ := hfirst.split hrest
      exact ⟨k, p, Nat.le_succ_of_le hp, .inl hstep, hnext⟩
    · obtain ⟨k, p, hp, hstep, hnext⟩ := hsecond.split hrest
      exact ⟨k, p, Nat.le_succ_of_le hp, .inr hstep, hnext⟩
  join := by
    rintro i k j (hstep | hstep) haccepts
    · obtain ⟨m, hrest⟩ := hfirst.join hstep haccepts
      exact ⟨m + 1, (acceptsIn_prefer h).2 ⟨m, rfl, .inl hrest⟩⟩
    · obtain ⟨m, hrest⟩ := hsecond.join hstep haccepts
      exact ⟨m + 1, (acceptsIn_prefer h).2 ⟨m, rfl, .inr hrest⟩⟩

/-- A loop: the turn, which its body is in front of, leads back to the body or on. -/
theorem loop {greedy : Bool} {turn : Nat} (h : full[turn]? = some (Regex.prefer greedy start next))
    (hbody : Fronts full text step start turn) :
    Fronts full text (fun i j => ∃ n, Regex.Times step (n + 1) i j) start next where
  split {n i j} haccepts := by
    -- each round costs a step at the turn
    induction n using Nat.strongRecOn generalizing i with
    | ind n ih =>
      obtain ⟨k, m, hm, hstep, hturn⟩ := hbody.split haccepts
      obtain ⟨p, rfl, hrest⟩ := (acceptsIn_prefer h).1 hturn
      rcases hrest with hrest | hrest
      · obtain ⟨l, q, hq, ⟨rounds, htimes⟩, hnext⟩ := ih p (by omega) hrest
        exact ⟨l, q, by omega, ⟨rounds + 1, k, hstep, htimes⟩, hnext⟩
      · exact ⟨k, p, by omega, ⟨0, k, hstep, rfl⟩, hrest⟩
  join := by
    rintro i k j ⟨rounds, htimes⟩ haccepts
    induction rounds generalizing i with
    | zero =>
      obtain ⟨l, hstep, rfl⟩ := htimes
      obtain ⟨m, hnext⟩ := haccepts
      exact hbody.join hstep ⟨m + 1, (acceptsIn_prefer h).2 ⟨m, rfl, .inr hnext⟩⟩
    | succ rounds ih =>
      obtain ⟨l, hstep, htimes⟩ := htimes
      obtain ⟨m, hnext⟩ := ih htimes
      exact hbody.join hstep ⟨m + 1, (acceptsIn_prefer h).2 ⟨m, rfl, .inl hnext⟩⟩

end Fronts

/-! ### Putting instructions in front -/

/-- A program has the instructions of a part of it from a number on. -/
def Holds (full code : Array Instruction) (first : Nat) : Prop :=
  ∀ l, first ≤ l → l < code.size → full[l]? = code[l]?

theorem Holds.from {first second : Nat} (h : Holds full code first) (hle : first ≤ second) :
    Holds full code second :=
  fun l hl => h l (Nat.le_trans hle hl)

namespace Regex

/-- What is put in front of instructions leaves them as they are. -/
structure Grows (build : Array Instruction → Nat × Array Instruction) : Prop where
  size_le : ∀ code, code.size ≤ (build code).2.size
  keeps : ∀ code l, l < code.size → (build code).2[l]? = code[l]?

namespace Grows

variable {build : Array Instruction → Nat × Array Instruction}

theorem pure (label : Nat) : Grows fun code => (label, code) where
  size_le code := Nat.le_refl code.size
  keeps _ _ _ := rfl

theorem emit (i : Instruction) : Grows (emit i) where
  size_le code := by
    rw [Regex.emit, Array.size_push]
    exact Nat.le_succ _
  keeps code l hl := by rw [Regex.emit, Array.getElem?_push_lt hl, Array.getElem?_eq_getElem hl]

theorem bind (h : Grows build) {rest : Prepend} (hrest : ∀ label, Grows (rest label)) :
    Grows fun code => rest (build code).1 (build code).2 where
  size_le code := Nat.le_trans (h.size_le code) ((hrest _).size_le _)
  keeps code l hl := by rw [(hrest _).keeps _ l (Nat.lt_of_lt_of_le hl (h.size_le code)), h.keeps code l hl]

theorem upTo {body : Prepend} (greedy : Bool) (h : ∀ next, Grows (body next)) (done n next : Nat) :
    Grows (upTo greedy body done n next) := by
  induction n generalizing next with
  | zero => exact pure next
  | succ n ih => exact (h next).bind fun start => (emit (prefer greedy start done)).bind ih

/-- A program that has what was built also has what it was built on. -/
theorem holds (h : Grows build) {l : Nat} (hfull : Holds full (build code).2 l) : Holds full code l := by
  intro m hm hlt
  rw [hfull m hm (Nat.lt_of_lt_of_le hlt (h.size_le code)), h.keeps code m hlt]

end Grows

theorem emitted {i : Instruction} (h : Holds full (emit i code).2 code.size) : full[code.size]? = some i := by
  rw [h code.size (Nat.le_refl _) (by rw [emit, Array.size_push]; omega), emit, Array.getElem?_push_size]

/-- What is put in front of other instructions leads to them as `step` says, in every program that has it. -/
structure Builds (text : Array Char) (p : Prepend) (step : Nat → Nat → Prop) : Prop where
  grows : ∀ next, Grows (p next)
  fronts : ∀ next code full, Holds full (p next code).2 code.size → Fronts full text step (p next code).1 next

namespace Builds

variable {first second step : Nat → Nat → Prop} {a b body : Prepend}

theorem congr (h : Builds text a first) (hiff : ∀ i j, first i j ↔ second i j) : Builds text a second where
  grows := h.grows
  fronts next code full hfull := (h.fronts next code full hfull).congr hiff

theorem nothing (text : Array Char) : Builds text (fun next code => (next, code)) (· = ·) where
  grows := Grows.pure
  fronts next _ full _ := Fronts.refl full text next

/-- A single instruction. -/
theorem emit {instruction : Nat → Instruction}
    (h : ∀ {full : Array Instruction} {label next}, full[label]? = some (instruction next) →
      Fronts full text step label next) :
    Builds text (fun next => emit (instruction next)) step where
  grows next := Grows.emit (instruction next)
  fronts _ _ _ hfull := h (emitted hfull)

/-- One part after the other; the later one is put there first. -/
theorem append (ha : Builds text a first) (hb : Builds text b second) :
    Builds text (fun next code => a (b next code).1 (b next code).2) (fun i j => ∃ k, first i k ∧ second k j) where
  grows next := (hb.grows next).bind ha.grows
  fronts next code full hfull :=
    (ha.fronts _ _ full (hfull.from ((hb.grows next).size_le code))).trans
      (hb.fronts next code full ((ha.grows _).holds hfull))

/-- One part or the other. -/
theorem fork (greedy : Bool) (ha : Builds text a first) (hb : Builds text b second) :
    Builds text (fun next code => Regex.emit (prefer greedy (a next (b next code).2).1 (b next code).1)
      (a next (b next code).2).2) (fun i j => first i j ∨ second i j) where
  grows next := (hb.grows next).bind fun way => (ha.grows next).bind fun start => Grows.emit (prefer greedy start way)
  fronts next code full hfull := by
    have hsize := (hb.grows next).size_le code
    have hways : Holds full (a next (b next code).2).2 code.size := (Grows.emit _).holds hfull
    have hfork := emitted (hfull.from (Nat.le_trans hsize ((ha.grows next).size_le _)))
    exact Fronts.fork hfork (ha.fronts next _ full (hways.from hsize))
      (hb.fronts next code full ((ha.grows next).holds hways))

/-! ### Repetition -/

/-- Once or more. -/
theorem loop (greedy : Bool) (h : Builds text body step) :
    Builds text (loop greedy body) (fun i j => ∃ n, Times step (n + 1) i j) := by
  have hset : ∀ next code, (Regex.loop greedy body next code) =
      ((body code.size (code.push .accept)).1, (body code.size (code.push .accept)).2.setIfInBounds code.size
        (prefer greedy (body code.size (code.push .accept)).1 next)) := fun _ _ => rfl
  have hsize : ∀ code : Array Instruction, code.size < (body code.size (code.push .accept)).2.size := by
    intro code
    have := (h.grows code.size).size_le (code.push .accept)
    rw [Array.size_push] at this
    exact this
  refine ⟨fun next => ⟨?_, ?_⟩, ?_⟩
  · intro code
    rw [hset, Array.size_setIfInBounds]
    exact Nat.le_of_lt (hsize code)
  · intro code l hl
    rw [hset, Array.getElem?_setIfInBounds_ne (Nat.ne_of_gt hl),
      (h.grows _).keeps _ l (by rw [Array.size_push]; omega), Array.getElem?_push_lt hl, Array.getElem?_eq_getElem hl]
  · intro next code full hfull
    rw [hset] at hfull ⊢
    have hturn : full[code.size]? = some (prefer greedy (body code.size (code.push .accept)).1 next) := by
      rw [hfull code.size (Nat.le_refl _) (by rw [Array.size_setIfInBounds]; exact hsize code),
        Array.getElem?_setIfInBounds_self_of_lt (hsize code)]
    refine Fronts.loop hturn (h.fronts _ _ full ?_)
    intro l hl hlt
    rw [Array.size_push] at hl
    rw [hfull l (by omega) (by rw [Array.size_setIfInBounds]; exact hlt),
      Array.getElem?_setIfInBounds_ne (by omega)]

theorem exactly (h : Builds text body step) (n : Nat) : Builds text (exactly body n) (Times step n) := by
  induction n with
  | zero => exact nothing text
  | succ n ih => exact (ih.append h).congr fun i j => by rw [times_add]; simp [Times]

private theorem atMost_succ :
    ((∃ k, step i k ∧ ∃ m, m ≤ n ∧ Times step m k j) ∨ i = j) ↔ ∃ m, m ≤ n + 1 ∧ Times step m i j := by
  constructor
  · rintro (⟨k, hstep, m, hm, htimes⟩ | rfl)
    · exact ⟨m + 1, Nat.succ_le_succ hm, k, hstep, htimes⟩
    · exact ⟨0, Nat.zero_le _, rfl⟩
  · rintro ⟨m, hm, htimes⟩
    cases m with
    | zero => exact .inr htimes
    | succ m =>
      obtain ⟨k, hstep, htimes⟩ := htimes
      exact .inl ⟨k, hstep, m, Nat.le_of_succ_le_succ hm, htimes⟩

/-- Each of the rounds can be the last, and leads to the end then; `count` rounds are there before. -/
private theorem fronts_upTo {greedy : Bool} {done count : Nat} (h : Builds text body step)
    (hfull : Holds full (upTo greedy body done n next code).2 code.size)
    (hnext : Fronts full text (fun i j => ∃ m, m ≤ count ∧ Times step m i j) next done) :
    Fronts full text (fun i j => ∃ m, m ≤ count + n ∧ Times step m i j) (upTo greedy body done n next code).1 done := by
  induction n generalizing next code count with
  | zero => exact hnext
  | succ n ih =>
    have hsize := (h.grows next).size_le code
    have hround := (Grows.upTo greedy h.grows done n _).holds hfull
    have hbody := h.fronts next code full ((Grows.emit _).holds hround)
    have hfork : full[(body next code).2.size]? = some (prefer greedy (body next code).1 done) :=
      emitted (hround.from hsize)
    have hlonger := (Fronts.fork hfork (hbody.trans hnext) (Fronts.refl full text done)).congr fun _ _ => atMost_succ
    have hrest := ih (hfull.from (Nat.le_trans hsize ((Grows.emit _).size_le _))) hlonger
    rw [show count + 1 + n = count + (n + 1) by omega] at hrest
    exact hrest

/-- Up to `n` times. -/
theorem upTo (greedy : Bool) (h : Builds text body step) (n : Nat) :
    Builds text (fun next code => upTo greedy body next n next code) (fun i j => ∃ m, m ≤ n ∧ Times step m i j) where
  grows next := Grows.upTo greedy h.grows next n next
  fronts next code full hfull := by
    have hend : Fronts full text (fun i j => ∃ m, m ≤ 0 ∧ Times step m i j) next next :=
      (Fronts.refl full text next).congr fun i j => by simp [Times]
    have hfronts := fronts_upTo h hfull hend
    rw [Nat.zero_add] at hfronts
    exact hfronts

end Builds

/-! ### Expressions -/

private theorem builds_iterate (greedy : Bool) (max : Option Nat) {r : Regex}
    (h : Builds text r.prepend (r.Spans text)) :
    Builds text (iterate n max greedy r).prepend ((iterate n max greedy r).Spans text) := by
  cases max with
  | some m =>
    have hprepend : (iterate n (some m) greedy r).prepend = fun next code =>
        exactly r.prepend n (upTo greedy r.prepend next (m - n) next code).1
          (upTo greedy r.prepend next (m - n) next code).2 := by
      cases n <;> rfl
    rw [hprepend]
    refine ((h.exactly n).append (h.upTo greedy (m - n))).congr fun i j => ?_
    simp only [Spans, Option.some.injEq, forall_eq', times_add]
    constructor
    · rintro ⟨k, hleast, more, hmore, hrest⟩
      exact ⟨more, hmore, k, hleast, hrest⟩
    · rintro ⟨more, hmore, k, hleast, hrest⟩
      exact ⟨k, hleast, more, hmore, hrest⟩
  | none =>
    cases n with
    | zero =>
      refine (Builds.fork greedy (h.loop greedy) (Builds.nothing text)).congr fun i j => ?_
      simp only [Spans, reduceCtorEq, false_implies, implies_true, true_and, Nat.zero_add]
      constructor
      · rintro (⟨rounds, htimes⟩ | rfl)
        · exact ⟨rounds + 1, htimes⟩
        · exact ⟨0, rfl⟩
      · rintro ⟨rounds, htimes⟩
        cases rounds with
        | zero => exact .inr htimes
        | succ rounds => exact .inl ⟨rounds, htimes⟩
    | succ n =>
      refine ((h.exactly n).append (h.loop greedy)).congr fun i j => ?_
      have hsum : ∀ rounds, n + 1 + rounds = n + (rounds + 1) := fun rounds => by omega
      simp only [Spans, reduceCtorEq, false_implies, implies_true, true_and, hsum, times_add (m := n)]
      constructor
      · rintro ⟨k, hleast, rounds, htimes⟩
        exact ⟨rounds, k, hleast, htimes⟩
      · rintro ⟨rounds, k, hleast, htimes⟩
        exact ⟨k, hleast, rounds, htimes⟩

/-- The instructions of an expression lead to what it is put in front of as it spans. -/
theorem builds_prepend (text : Array Char) (r : Regex) : Builds text r.prepend (r.Spans text) := by
  induction r with
  | empty => exact Builds.nothing text
  | one s => exact Builds.emit Fronts.one
  | look l => exact Builds.emit Fronts.look
  | seq a b iha ihb => exact iha.append ihb
  | alt a b iha ihb => exact Builds.fork true iha ihb
  | iterate min max greedy r ih => exact builds_iterate greedy max ih
  | capture index r ih =>
    refine ((Builds.emit Fronts.mark).append (ih.append (Builds.emit Fronts.mark))).congr fun i j => ?_
    simp [Spans]

/-- The program of an expression accepts between the places that the expression spans. -/
theorem accepts_program {r : Regex} : Accepts r.program.code text r.program.start i j ↔ r.Spans text i j := by
  have hbuilds := builds_prepend text r
  have hfronts : Fronts r.program.code text (r.Spans text) r.program.start 0 :=
    hbuilds.fronts 0 #[.accept] r.program.code fun _ _ _ => rfl
  have haccept : r.program.code[0]? = some .accept := (hbuilds.grows 0).keeps #[.accept] 0 Nat.zero_lt_one
  constructor
  · rintro ⟨n, hn⟩
    obtain ⟨k, m, -, hspans, hend⟩ := hfronts.split hn
    rw [← ((acceptsIn_accept haccept).1 hend).2]
    exact hspans
  · intro hspans
    exact hfronts.join hspans ⟨0, haccept, rfl⟩

end Regex

end RecordFix.Pattern
