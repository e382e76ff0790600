import RecordFix.Proofs.Decoding
import RecordFix.Proofs.Emission
import RecordFix.Proofs.Encoding
import RecordFix.Proofs.Folding
import RecordFix.Transformation

/-!
# Blocks of events

A record in a stream is a block: its start, a forest and its end. A stage reads blocks and sends blocks, at most one
for each that it reads (`Stage.feedAll_blocks`), and what it sends does not depend on the receiver as long as this takes
all blocks. The encoder does. So the events of a transformation and its records are two views of the same blocks
(`collectEvents_transformJson`).
-/

namespace RecordFix

/-- A record in a stream, with its id and what stands between its start and its end. -/
structure Block where
  id : String
  content : Forest

namespace Block

def events (b : Block) : List Event := .startRecord b.id :: (b.content.events ++ [.endRecord])

/-- The object that a block is encoded as. -/
def json (b : Block) : Json := .object (group Json.gather b.content.members)

theorem events_append (b : Block) (rest : List Event) :
    b.events ++ rest = .startRecord b.id :: (b.content.events ++ .endRecord :: rest) := by
  rw [events, List.cons_append, List.append_assoc]
  rfl

end Block

/-! ### Receivers of blocks -/

namespace Receiver

variable {σ : Type} {receive : Receiver σ}

theorem sendAll_append {es : List Event} {s t : σ} (h : receive.sendAll es s = (none, t)) (rest : List Event) :
    receive.sendAll (es ++ rest) s = receive.sendAll rest t := by
  induction es generalizing s with
  | nil =>
    cases h
    rfl
  | cons e es ih =>
    rw [List.cons_append, sendAll]
    rw [sendAll] at h
    cases hs : receive e s with
    | ok s' =>
      rw [hs] at h
      exact ih h
    | error cause =>
      rw [hs] at h
      cases h

/-- Whether a receiver takes each block and the end of the stream, whatever came before. -/
structure TakesBlocks (receive : Receiver σ) : Prop where
  block : ∀ (b : Block) (r : σ), ∃ r', receive.sendAll b.events r = (none, r')
  close : ∀ r : σ, ∃ r', receive .closeStream r = .ok r'

/-- The state of a receiver after some blocks. -/
def afterBlocks (receive : Receiver σ) (blocks : List Block) (r : σ) : σ :=
  (receive.sendAll (blocks.flatMap Block.events) r).2

theorem sendAll_blocks (h : receive.TakesBlocks) (blocks : List Block) (r : σ) :
    receive.sendAll (blocks.flatMap Block.events) r = (none, receive.afterBlocks blocks r) := by
  refine Prod.ext ?_ rfl
  induction blocks generalizing r with
  | nil => rfl
  | cons b blocks ih =>
    obtain ⟨r', hr'⟩ := h.block b r
    rw [List.flatMap_cons, sendAll_append hr']
    exact ih r'

theorem afterBlocks_append (h : receive.TakesBlocks) (first second : List Block) (r : σ) :
    receive.afterBlocks (first ++ second) r = receive.afterBlocks second (receive.afterBlocks first r) := by
  unfold afterBlocks
  rw [List.flatMap_append, sendAll_append (sendAll_blocks h first r)]
  rfl

theorem sendAll_collector (es : List Event) (kept : Array Event) :
    collector.sendAll es kept = (none, kept ++ es.toArray) := by
  induction es generalizing kept with
  | nil => simp [sendAll]
  | cons e es ih =>
    show collector.sendAll es (kept.push e) = _
    rw [ih]
    simp

theorem takesBlocks_collector : TakesBlocks collector :=
  ⟨fun b kept => ⟨_, sendAll_collector b.events kept⟩, fun _ => ⟨_, rfl⟩⟩

end Receiver

namespace Encoder

theorem sendAll_block (b : Block) (s : Encoder) :
    Receiver.sendAll receive b.events s = (none, ⟨[], s.records.push b.json⟩) :=
  sendAll_record b.id b.content [] s

theorem takesBlocks : Receiver.TakesBlocks receive := ⟨fun b s => ⟨_, sendAll_block b s⟩, fun _ => ⟨_, rfl⟩⟩

/-- The encoder has one record for each block. -/
theorem records_afterBlocks (blocks : List Block) (s : Encoder) :
    (Receiver.afterBlocks receive blocks s).records.toList = s.records.toList ++ blocks.map Block.json := by
  induction blocks generalizing s with
  | nil => rw [List.map_nil, List.append_nil]; rfl
  | cons b blocks ih =>
    rw [← List.singleton_append, Receiver.afterBlocks_append takesBlocks, ih, List.map_append, ← List.append_assoc]
    have hfirst : Receiver.afterBlocks receive [b] s = ⟨[], s.records.push b.json⟩ := by
      unfold Receiver.afterBlocks
      rw [List.flatMap_singleton, sendAll_block]
    rw [hfirst, Array.toList_push]
    rfl

end Encoder

/-! ### Stages -/

namespace Stage

variable {σ : Type} {receive : Receiver σ}

/-- The stage at the end of a block, with the record that was built. -/
def reading (s : Stage) (b : Block) : Stage :=
  { s with builder := (Builder.start b.id).withFields b.content.build }

theorem feedAll_block (s : Stage) (b : Block) (rest : List Event) (r : σ) :
    feedAll receive (b.events ++ rest) s r = feedAll receive (.endRecord :: rest) (s.reading b) r := by
  rw [Block.events_append]
  exact feedAll_start_forest s b.id b.content (.endRecord :: rest) r

/-- What is sent at the end of a record is nothing or a block, and nothing if the record is rejected. -/
theorem finishRecord_sent {s t : Stage} {sent : List Event} (h : s.finishRecord = (.ok sent, t)) :
    (sent = [] ∨ ∃ b : Block, sent = b.events) ∧ (t.builder.record.rejected = true → sent = []) := by
  cases finishes h with
  | rejected hopen hrun hrejected => exact ⟨Or.inl rfl, fun _ => rfl⟩
  | @sent session hopen hrun hkept =>
    let b : Block := ⟨s.builder.id, Value.fieldEntries s.settings session.record.fields.fields⟩
    refine ⟨Or.inr ⟨b, ?_⟩, fun hrejected => absurd hrejected (Bool.eq_false_iff.1 hkept)⟩
    rw [Block.events, Value.events_fieldEntries]
    rfl

/-- A stage that reads blocks sends blocks, at most one for each, whoever receives them. -/
theorem feedAll_blocks (blocks : List Block) (s : Stage) :
    ∃ (failure : Option StreamError) (t : Stage) (sent : List Block), sent.length ≤ blocks.length ∧
      ∀ {σ : Type} {receive : Receiver σ}, receive.TakesBlocks → ∀ r,
        feedAll receive (blocks.flatMap Block.events) s r = (failure, t, receive.afterBlocks sent r) := by
  induction blocks generalizing s with
  | nil => exact ⟨none, s, [], Nat.le_refl 0, fun _ _ => rfl⟩
  | cons b blocks ih =>
    cases hstep : (s.reading b).step .endRecord with
    | mk outcome t =>
      cases outcome with
      | error cause =>
        refine ⟨some cause, t, [], Nat.zero_le _, fun _ r => ?_⟩
        rw [List.flatMap_cons, feedAll_block]
        simp only [feedAll, feed, hstep]
        rfl
      | ok sent =>
        obtain ⟨failure, t', more, hlength, hrest⟩ := ih t
        have hfinish : (s.reading b).finishRecord = (.ok sent, t) := hstep
        have hsent := (finishRecord_sent hfinish).1
        obtain ⟨first, hfirst, rfl⟩ : ∃ first : List Block, first.length ≤ 1 ∧ sent = first.flatMap Block.events := by
          rcases hsent with rfl | ⟨b', rfl⟩
          · exact ⟨[], Nat.zero_le 1, rfl⟩
          · exact ⟨[b'], Nat.le_refl 1, by rw [List.flatMap_singleton]⟩
        refine ⟨failure, t', first ++ more, ?_, fun htakes r => ?_⟩
        · rw [List.length_append, List.length_cons]
          omega
        · rw [List.flatMap_cons, feedAll_block, Receiver.afterBlocks_append htakes, ← hrest htakes]
          simp only [feedAll, feed, hstep, Receiver.sendAll_blocks htakes]

end Stage

/-! ### Inputs -/

/-- The records of an input are blocks, one for each object before the first item that is none. -/
theorem Decoder.exists_blocks (d : Decoder) (items : List Json) :
    ∃ blocks : List Block, (d.decodeItems items).events = blocks.flatMap Block.events ∧
      blocks.length ≤ items.length := by
  induction items generalizing d with
  | nil => exact ⟨[], rfl, Nat.le_refl 0⟩
  | cons item items ih =>
    cases item with
    | object members =>
      obtain ⟨blocks, hevents, hlength⟩ := ih { d with count := d.count + 1 }
      refine ⟨⟨d.nextId members, Json.memberEntries members⟩ :: blocks, ?_, Nat.succ_le_succ hlength⟩
      rw [List.flatMap_cons, ← hevents, Block.events, Json.events_memberEntries]
      rfl
    | _ => exact ⟨[], rfl, Nat.zero_le _⟩

theorem Decoder.exists_blocks_of_recordCount (d : Decoder) {input : Json} {count : Nat}
    (hcount : recordCount input = .ok count) :
    ∃ blocks : List Block, (d.decode input).events = blocks.flatMap Block.events ∧ blocks.length ≤ count := by
  cases input with
  | object members =>
    cases hcount
    exact d.exists_blocks [.object members]
  | array items =>
    cases hcount
    exact d.exists_blocks items
  | _ => cases hcount

/-- What becomes of an input: an error, whoever receives the events, or blocks, at most one for each record of it, and
the end of the stream. -/
theorem exists_of_runInto (files : Files) (script : Script) (settings : Settings) {input : Json} {count : Nat}
    (hcount : recordCount input = .ok count) :
    (∃ e, ∀ {σ : Type} {receive : Receiver σ}, receive.TakesBlocks → ∀ r,
        runInto receive r files script settings input = .error e) ∨
      ∃ sent : List Block, sent.length ≤ count ∧
        ∀ {σ : Type} {receive : Receiver σ}, receive.TakesBlocks → ∀ r, ∃ r',
          receive .closeStream (receive.afterBlocks sent r) = .ok r' ∧
            runInto receive r files script settings input = .ok r' := by
  obtain ⟨blocks, hevents, hblocks⟩ := Decoder.exists_blocks_of_recordCount { idField := settings.idField } hcount
  obtain ⟨failure, t, sent, hsent, hfed⟩ :=
    Stage.feedAll_blocks blocks (Stage.start script.fix settings files script.path)
  cases failure with
  | some cause =>
    refine Or.inl ⟨.stream cause, fun htakes r => ?_⟩
    simp only [runInto, hcount, hevents, hfed htakes]
    rfl
  | none =>
    cases hdecoded : (Decoder.decode { idField := settings.idField } input).failure with
    | some cause =>
      refine Or.inl ⟨.stream cause, fun htakes r => ?_⟩
      simp only [runInto, hcount, hevents, hfed htakes, hdecoded]
      rfl
    | none =>
      refine Or.inr ⟨sent, Nat.le_trans hsent hblocks, fun {σ receive} htakes r => ?_⟩
      obtain ⟨r', hclose⟩ := htakes.close (receive.afterBlocks sent r)
      refine ⟨r', hclose, ?_⟩
      simp only [runInto, hcount, hevents, hfed htakes, hdecoded, Stage.feed, Stage.step, Receiver.sendAll, hclose]
      rfl

/-- Collecting the events of a transformation and encoding its records go together: either both fail with the same
error, or the events are blocks and the end of the stream, a new encoder takes them all, and what it then holds are the
records. There are as many as blocks, and they and the rejected ones are as many as the input has. -/
theorem collectEvents_transformJson (files : Files) (script : Script) (settings : Settings) (input : Json) :
    (∃ e, collectEvents files script settings input = .error e ∧ transformJson files script settings input = .error e) ∨
      ∃ (blocks : List Block) (result : Transformed) (encoder : Encoder),
        collectEvents files script settings input = .ok (blocks.flatMap Block.events ++ [.closeStream]) ∧
        (∀ b ∈ blocks, balanced 0 b.content.events = true) ∧
        transformJson files script settings input = .ok result ∧
        Receiver.sendAll Encoder.receive (blocks.flatMap Block.events ++ [.closeStream]) {} = (none, encoder) ∧
        encoder.records.toList = result.records ∧
        result.emittedCount = blocks.length ∧
        result.emittedCount + result.rejectedCount = result.inputCount ∧
        recordCount input = .ok result.inputCount := by
  cases hcount : recordCount input with
  | error e =>
    refine Or.inl ⟨e, ?_, ?_⟩
    · simp only [collectEvents, runInto, hcount]
      rfl
    · simp only [transformJson, hcount]
      rfl
  | ok count =>
    rcases exists_of_runInto files script settings hcount with ⟨e, hrun⟩ | ⟨blocks, hlength, hrun⟩
    · refine Or.inl ⟨e, ?_, ?_⟩
      · simp only [collectEvents, hrun Receiver.takesBlocks_collector]
        rfl
      · simp only [transformJson, hcount, hrun Encoder.takesBlocks]
        rfl
    · obtain ⟨kept, hkept, hcollected⟩ := hrun Receiver.takesBlocks_collector #[]
      obtain ⟨encoder, hencoder, htransformed⟩ := hrun Encoder.takesBlocks {}
      have hencoded : Receiver.sendAll Encoder.receive (blocks.flatMap Block.events ++ [.closeStream]) {} =
          (none, encoder) := by
        rw [Receiver.sendAll_append (Receiver.sendAll_blocks Encoder.takesBlocks blocks {}), Receiver.sendAll, hencoder]
        rfl
      have hrecords : encoder.records.toList = blocks.map Block.json := by
        cases hencoder
        exact Encoder.records_afterBlocks blocks {}
      have hevents : kept.toList = blocks.flatMap Block.events ++ [.closeStream] := by
        cases hkept
        unfold Receiver.afterBlocks
        rw [Receiver.sendAll_collector]
        simp
      refine Or.inr ⟨blocks, ⟨encoder.records.toList, count, encoder.records.toList.length,
        count - encoder.records.toList.length, none⟩, encoder, ?_, ?_, ?_, hencoded, rfl, ?_, ?_, rfl⟩
      · simp only [collectEvents, hcollected]
        rw [← hevents]
        rfl
      · exact fun b _ => (balanced_iff_exists_forest b.content.events).2 ⟨b.content, rfl⟩
      · simp only [transformJson, hcount, htransformed]
        rfl
      · rw [hrecords, List.length_map]
      · rw [hrecords, List.length_map]
        exact Nat.add_sub_cancel' hlength

end RecordFix
