import RecordFix.Proofs.Blocks
import RecordFix.Proofs.Calls
import RecordFix.Proofs.Frame
import RecordFix.Proofs.Matchers

/-!
# Records apart from each other

A fix is isolated if none of its calls, at any depth, changes what the records of a stage share. Its runs keep the
environment (`keepsEnv_process`), and the start of a record replaces all else that a stage holds. So what a stage sends
for some records is what a stage of its own would send for each (`Stage.sending_flatMap_blocks`).
-/

namespace RecordFix

open RecordFix.Action

/-! ### Isolated fixes -/

/-- The methods that change what the records of a run share. -/
def Method.sharing : List String := ["include", "put_filemap", "put_map", "random"]

/-- Whether a call leaves alone what the records of a run share. A lookup that names a map does not. -/
def isolatedCall (name : String) (params : List String) : Bool :=
  !Method.sharing.contains name && (name != "lookup" || params.length ≤ 1)

mutual

/-- Whether all calls in an expression are isolated. -/
def Expression.isolated : Expression → Bool
  | .call name params _ => isolatedCall name params
  | .ifThen _ body branches otherwise => isolatedAll body && isolatedBranches branches && isolatedElse otherwise
  | .unlessThen _ body => isolatedAll body
  | .doBlock _ _ _ body => isolatedAll body

def isolatedBranches : List (Condition × List Expression) → Bool
  | [] => true
  | (_, body) :: rest => isolatedAll body && isolatedBranches rest

def isolatedElse : Option (List Expression) → Bool
  | none => true
  | some body => isolatedAll body

def isolatedAll : List Expression → Bool
  | [] => true
  | e :: es => e.isolated && isolatedAll es

end

def Fix.isolated (fix : Fix) : Bool := isolatedAll fix.expressions

mutual

/-- Isolated expressions are those whose calls are isolated, at any depth. -/
theorem Expression.allCalls_of_isolated : ∀ e : Expression, e.isolated = true → e.AllCalls (isolatedCall · · = true)
  | .call _ _ _, h => h
  | .ifThen _ body branches otherwise, h => by
    rw [Expression.isolated, Bool.and_eq_true, Bool.and_eq_true] at h
    exact ⟨allCallsIn_of_isolated body h.1.1, allCallsInBranches_of_isolated branches h.1.2,
      allCallsInElse_of_isolated otherwise h.2⟩
  | .unlessThen _ body, h => allCallsIn_of_isolated body h
  | .doBlock _ _ _ body, h => allCallsIn_of_isolated body h

theorem allCallsInBranches_of_isolated :
    ∀ branches, isolatedBranches branches = true → AllCallsInBranches (isolatedCall · · = true) branches
  | [], _ => trivial
  | (_, body) :: rest, h => by
    rw [isolatedBranches, Bool.and_eq_true] at h
    exact ⟨allCallsIn_of_isolated body h.1, allCallsInBranches_of_isolated rest h.2⟩

theorem allCallsInElse_of_isolated :
    ∀ otherwise, isolatedElse otherwise = true → AllCallsInElse (isolatedCall · · = true) otherwise
  | none, _ => trivial
  | some body, h => allCallsIn_of_isolated body h

theorem allCallsIn_of_isolated : ∀ es, isolatedAll es = true → AllCallsIn (isolatedCall · · = true) es
  | [], _ => trivial
  | e :: es, h => by
    rw [isolatedAll, Bool.and_eq_true] at h
    exact ⟨e.allCalls_of_isolated h.1, allCallsIn_of_isolated es h.2⟩

end

/-! ### Runs that keep the environment -/

/-- Whether an action leaves the environment as it is. -/
abbrev Action.KeepsEnv {α : Type} (a : Action α) : Prop := Limited (fun _ => True) True a

namespace Action

variable {α : Type}

theorem keepsEnv_of {a : Action α} (h : ∀ s, (a.run s).2.env = s.env) : KeepsEnv a := ⟨fun _ => trivial, fun _ => h⟩

theorem keepsEnv_of_frames {a : Action α} (h : Frames Eq a) : KeepsEnv a := keepsEnv_of fun s => (h s).symm

theorem KeepsEnv.frames {a : Action α} (h : KeepsEnv a) : Frames Eq a := fun s => (h.env trivial s).symm

theorem Tame.keepsEnv {a : Action α} (h : Tame a) : KeepsEnv a := h.mono (fun _ _ => trivial) id

theorem keepsEnv_need (x : Except FixError α) : KeepsEnv (need x) := limited_need fun _ _ => trivial

end Action

namespace Method

variable {included : List Expression → Action Unit} {params : List String} {options : Options}

private theorem keepsEnv_changeValue (change : Value → Except FixError Value) (field : String) :
    KeepsEnv (changeValue field change) :=
  limited_changeValue (fun _ => trivial) (fun _ _ _ => trivial) field

private theorem keepsEnv_substring : KeepsEnv (substring included params options) :=
  limited_bind (keepsEnv_need _) fun _ => limited_bind (keepsEnv_need _) fun _ => (tame_mapTexts _ params _).keepsEnv

private theorem keepsEnv_splitField : KeepsEnv (splitField included params options) :=
  limited_bind (keepsEnv_need _) fun field => limited_bind (keepsEnv_need _) fun _ => keepsEnv_changeValue _ field

/-- An isolated call keeps the environment. -/
theorem keepsEnv_of_isolatedCall {name : String} {m : Method} (hm : (name, m) ∈ all)
    (h : isolatedCall name params = true) : KeepsEnv (m included params options) := by
  have hchange : ∀ (command : String) (change : Value → Except FixError Value),
      KeepsEnv (need (param command params 0) >>= fun field => changeValue field change) :=
    fun _ change => limited_bind (keepsEnv_need _) fun field => keepsEnv_changeValue change field
  rcases tame_or_mem_untamed hm with htame | hm
  · exact (htame _ _ _).keepsEnv
  · simp only [untamed, List.mem_cons, Prod.mk.injEq, List.not_mem_nil, or_false] at hm
    rcases hm with ⟨rfl, -⟩ | ⟨rfl, -⟩ | ⟨rfl, -⟩ | ⟨rfl, -⟩ | ⟨rfl, rfl⟩ | ⟨-, rfl⟩ | ⟨-, rfl⟩ | ⟨-, rfl⟩ |
      ⟨-, rfl⟩ | ⟨-, rfl⟩
    -- the four that share
    · cases h
    · cases h
    · cases h
    · cases h
    · have hlength : params.length ≤ 1 := of_decide_eq_true h
      exact (tame_lookupInline hlength included options).keepsEnv
    · exact hchange _ _
    · exact hchange _ _
    · exact keepsEnv_splitField
    · exact keepsEnv_substring
    · exact hchange _ _

end Method

/-! ### Expressions -/

private theorem keepsEnv_list {block : Action Unit} (h : KeepsEnv block) (params : List String) (options : Options) :
    KeepsEnv (Bind.list block params options) :=
  keepsEnv_of_frames (Bind.frames_list h.frames params options)

private theorem keepsEnv_condition (c : Condition) {a b : Action Unit} (ha : KeepsEnv a) (hb : KeepsEnv b) :
    KeepsEnv (evaluate Registry.builtin c >>= fun holds => if holds then a else b) :=
  keepsEnv_of_frames (frames_condition c ha.frames hb.frames)

/-- Isolated calls keep the environment, and their arguments are as many as those that are written. -/
private theorem respects_keepsEnv (strictness : Strictness) (included : List Expression → Action Unit) :
    Respects (isolatedCall · · = true) strictness strictness included included (fun a _ => KeepsEnv a) where
  pure := limited_pure ()
  fail _ := limited_fail trivial
  andThen ha ha' := limited_bind ha fun _ => ha'
  guard h := keepsEnv_of_frames (strictness.frames_guard h.frames)
  condition c ha hb := keepsEnv_condition c ha hb
  call params options hm hcall := by
    refine limited_bind_of_ok (keepsEnv_of fun _ => rfl) fun x s t hx => Method.keepsEnv_of_isolatedCall hm ?_
    unfold isolatedCall at hcall ⊢
    rw [length_resolveArguments hx]
    exact hcall
  list _ _ hblock := limited_bind (keepsEnv_of fun _ => rfl) fun _ => keepsEnv_list hblock _ _

/-- A run of isolated expressions keeps the environment, whatever becomes of it. -/
theorem keepsEnv_process (strictness : Strictness) (included : List Expression → Action Unit) (es : List Expression)
    (h : isolatedAll es = true) : KeepsEnv (process Registry.builtin strictness included es) :=
  (respects_keepsEnv strictness included).process es (allCallsIn_of_isolated es h)

/-! ### Stages -/

namespace Stage

/-- The error that ends the reading of some events, and what was sent until then. -/
def sending (s : Stage) (es : List Event) : Option StreamError × List Event :=
  let (failure, _, sent) := feedAll Receiver.collector es s #[]
  (failure, sent.toList)

/-- The same for blocks that are given to a stage of their own each, up to the first that fails. -/
def sendingApart (s : Stage) : List Block → Option StreamError × List Event
  | [] => (none, [])
  | b :: bs =>
    match s.sending b.events with
    | (none, sent) =>
      let (failure, more) := s.sendingApart bs
      (failure, sent ++ more)
    | failed => failed

/-- Whether a stage is another one but for the record that it reads. -/
def Alike (s t : Stage) : Prop := ∃ builder, t = { s with builder := builder }

theorem Alike.reading {s t : Stage} (h : s.Alike t) (b : Block) : t.reading b = s.reading b := by
  obtain ⟨builder, rfl⟩ := h
  rfl

/-- At the end of a record an isolated fix leaves all else as it was. -/
theorem alike_finishRecord {s : Stage} (hregistry : s.registry = Registry.builtin) (h : s.fix.isolated = true) :
    s.Alike s.finishRecord.2 := by
  have henv : s.runFix.2.env = s.env := by
    unfold runFix
    rw [hregistry]
    exact (keepsEnv_process s.settings.strictness _ s.fix.expressions h).env trivial ⟨s.builder.record, s.env⟩
  rcases s.finishRecord_eq_or_leaving with hfinish | hfinish
  · exact ⟨s.builder, hfinish⟩
  · refine ⟨{ s.builder with record := s.runFix.2.record }, ?_⟩
    rw [hfinish, leaving, henv]

/-- What was collected before stays in front. -/
theorem feedAll_collector (es : List Event) (s : Stage) (kept : Array Event) :
    feedAll Receiver.collector es s kept =
      ((s.sending es).1, (feedAll Receiver.collector es s #[]).2.1, kept ++ (s.sending es).2.toArray) := by
  induction es generalizing s kept with
  | nil => simp [feedAll, sending]
  | cons e es ih =>
    unfold sending
    simp only [feedAll, feed]
    cases s.step e with
    | mk outcome t =>
      cases outcome with
      | error cause => simp
      | ok sent =>
        dsimp only
        rw [Receiver.sendAll_collector, Receiver.sendAll_collector]
        dsimp only
        rw [ih t (kept ++ sent.toArray), ih t (#[] ++ sent.toArray)]
        simp

/-- What a block does is done at the end of its record, and then come the events behind it. -/
private theorem feedAll_collector_block (s : Stage) (b : Block) (rest : List Event) :
    feedAll Receiver.collector (b.events ++ rest) s #[] =
      match (s.reading b).finishRecord with
      | (.error cause, t) => (some cause, t, #[])
      | (.ok sent, t) => feedAll Receiver.collector rest t sent.toArray := by
  have hstep : (s.reading b).step .endRecord = (s.reading b).finishRecord := rfl
  rw [feedAll_block, feedAll, feed, hstep]
  cases (s.reading b).finishRecord with
  | mk outcome t =>
    cases outcome with
    | error cause => rfl
    | ok sent =>
      dsimp only
      rw [Receiver.sendAll_collector, Array.empty_append]

theorem sending_block_append (s : Stage) (b : Block) (rest : List Event) :
    s.sending (b.events ++ rest) =
      match (s.reading b).finishRecord with
      | (.error cause, _) => (some cause, [])
      | (.ok sent, t) => ((t.sending rest).1, sent ++ (t.sending rest).2) := by
  rw [sending, feedAll_collector_block]
  cases (s.reading b).finishRecord with
  | mk outcome t =>
    cases outcome with
    | error cause => rfl
    | ok sent =>
      dsimp only
      rw [feedAll_collector rest t]
      simp

theorem sending_block (s : Stage) (b : Block) :
    s.sending b.events =
      match (s.reading b).finishRecord with
      | (.error cause, _) => (some cause, [])
      | (.ok sent, _) => (none, sent) := by
  have hblock := sending_block_append s b []
  rw [List.append_nil] at hblock
  rw [hblock]
  cases (s.reading b).finishRecord with
  | mk outcome t =>
    cases outcome with
    | error cause => rfl
    | ok sent => exact congrArg (Prod.mk none) (List.append_nil sent)

private theorem sending_flatMap_of_alike {s : Stage} (hregistry : s.registry = Registry.builtin)
    (hfix : s.fix.isolated = true) {t : Stage} (halike : s.Alike t) (blocks : List Block) :
    t.sending (blocks.flatMap Block.events) = s.sendingApart blocks := by
  induction blocks generalizing t with
  | nil => rfl
  | cons b blocks ih =>
    have hafter : (s.reading b).Alike (s.reading b).finishRecord.2 := alike_finishRecord hregistry hfix
    rw [List.flatMap_cons, sending_block_append, halike.reading, sendingApart, sending_block]
    cases hfinish : (s.reading b).finishRecord with
    | mk outcome u =>
      rw [hfinish] at hafter
      cases outcome with
      | error cause => rfl
      | ok sent =>
        obtain ⟨builder, hu⟩ := hafter
        dsimp only
        rw [ih ⟨builder, hu⟩]

/-- A block that fails, and one whose record is rejected, sends nothing. -/
private theorem sending_block_eq_nil (s : Stage) (b : Block)
    (h : (s.sending b.events).1 ≠ none ∨
      (feedAll Receiver.collector b.events s #[]).2.1.builder.record.rejected = true) :
    (s.sending b.events).2 = [] := by
  have hfed := feedAll_collector_block s b []
  rw [List.append_nil] at hfed
  rw [hfed, sending_block] at h
  rw [sending_block]
  cases hfinish : (s.reading b).finishRecord with
  | mk outcome t =>
    rw [hfinish] at h
    cases outcome with
    | error cause => rfl
    | ok sent =>
      rcases h with h | h
      · exact absurd rfl h
      · exact (finishRecord_sent hfinish).2 h

/-- With an isolated fix, the records of a stage do not influence each other: blocks send what each would send to a
fresh stage of its own, one after the other, up to the first that fails, and they fail with its error. A block that
fails or whose record is rejected sends nothing. A matcher that keeps the globs of earlier records answers as if it had
kept none. -/
theorem sending_flatMap_blocks (fix : Fix) (h : fix.isolated = true) (settings : Settings) (files : Files)
    (fixFile : Option String) :
    let fresh := start fix settings files fixFile
    (∀ blocks : List Block, fresh.sending (blocks.flatMap Block.events) = fresh.sendingApart blocks) ∧
      (∀ b : Block, (fresh.sending b.events).1 ≠ none ∨
          (feedAll Receiver.collector b.events fresh #[]).2.1.builder.record.rejected = true →
        (fresh.sending b.events).2 = []) ∧
      ∀ questions : List (String × String),
        Matcher.answers {} questions = questions.map fun q => Glob.matchesName q.1 q.2 := by
  intro fresh
  have halike : fresh.Alike fresh := ⟨fresh.builder, rfl⟩
  exact ⟨fun blocks => sending_flatMap_of_alike rfl h halike blocks, sending_block_eq_nil fresh,
    Matcher.sound_empty.answers⟩

/-- Two records under a fix that adds up a list: what the first has become is sent, and the second fails. -/
theorem sending_flatMap_blocks_sum :
    let fix : Fix := ⟨[
      .doBlock "list" [] [("path", "n[]"), ("var", "$i")] [.call "lookup" ["$i"] [("one", "1"), ("__default", "x")]],
      .call "sum" ["n[]"] []]⟩
    let blocks : List Block := [
      ⟨"1", [.entity "n[]" [.literal "1" "one", .literal "2" "one"]]⟩,
      ⟨"2", [.entity "n[]" [.literal "1" "two"]]⟩]
    let fresh := start fix {} Files.empty none
    fix.isolated = true ∧ fresh.sending (blocks.flatMap Block.events) = fresh.sendingApart blocks ∧
      (fresh.sendingApart blocks).1.isSome = true ∧
      (fresh.sendingApart blocks).2 = [.startRecord "1", .literal "n[]" "2", .endRecord] := by
  intro fix blocks fresh
  have hfix : fix.isolated = true := rfl
  exact ⟨hfix, (sending_flatMap_blocks fix hfix {} Files.empty none).1 blocks, by decide +kernel, by decide +kernel⟩

end Stage

end RecordFix
