import SnapcastSync.Player.PcmRing

/-! What is in the PCM ring, whatever the order in which decoder and player run: the unread rest
of the record in hand, the chunks of the queued records and what of one chunk is written. -/

namespace Player

/-- The bytes of the chunk in hand of `emit_pcm_` that are in the ring. -/
def EmitPoint.laid : EmitPoint → Nat
  | .writing _ written => written
  | .counting _ written => written
  | .posting chunk => chunk.data.length
  | _ => 0

/-- Those of them that are not in `pcm_in_bytes_` yet. -/
def EmitPoint.uncounted : EmitPoint → Nat
  | .writing _ written => written
  | .counting _ written => written
  | _ => 0

namespace PlayPoint

def record : PlayPoint → Option PcmRecord
  | .idle => none
  | .deciding record => some record
  | .discarding record _ => some record
  | .countingDiscard record _ _ => some record
  | .slicing record _ _ _ => some record
  | .reading record _ _ _ _ => some record
  | .countingRead record _ _ _ _ _ => some record
  | .writing record _ _ _ _ _ _ => some record
  | .stopped => none

def unread : PlayPoint → Nat
  | .idle => 0
  | .deciding record => record.bytes
  | .discarding _ bytes => bytes
  | .countingDiscard _ bytes _ => bytes
  | .slicing _ remaining _ _ => remaining
  | .reading _ remaining _ _ slice => remaining - slice.length
  | .countingRead _ remaining _ _ slice _ => remaining - slice.length
  | .writing _ remaining _ _ _ _ _ => remaining
  | .stopped => 0

def uncounted : PlayPoint → Nat
  | .countingDiscard _ _ n => n
  | .countingRead _ _ _ _ _ n => n
  | _ => 0

end PlayPoint

namespace PcmRing

def queuedBytes (state : PcmRing) : Nat := (state.queue.map fun record => record.bytes).sum

/-- The ring holds just what the records account for. -/
def Accounted (state : PcmRing) : Prop :=
  state.ring.length = state.play.unread + state.queuedBytes + state.emit.laid

/-- The counters balance, up to the bytes that the two tasks have moved and not counted. -/
def Balanced (state : PcmRing) : Prop :=
  state.pcmInBytes + state.emit.uncounted =
    state.pcmOutBytes + state.pcmDiscardBytes + state.play.uncounted + state.ring.length

structure Conserved (state : PcmRing) : Prop where
  accounted : state.shutdown = false → state.Accounted
  balanced : state.Balanced
  /-- Every record is finished, in hand or queued, in the order of their emission. -/
  ordered : state.shutdown = false → state.emitted.map Prod.fst =
    state.finished.map Prod.fst ++ state.play.record.toList ++ state.queue
  /-- A finished record has removed the bytes of its chunk. -/
  exactly : state.finished <+: state.emitted ∧
    ∀ entry ∈ state.finished, entry.2.length = entry.1.bytes
  /-- The bytes that a record still needs are at the front of the ring, and they are its own. -/
  available : ∀ record ∈ state.play.record, state.play.unread ≤ state.ring.length ∧
    (record, state.removed ++ state.ring.take state.play.unread) ∈ state.emitted
  /-- An audio write takes its bytes from where its tag says. -/
  tagged : ∀ write ∈ state.audio, ∃ data, (write.record, data) ∈ state.emitted ∧
    (data.drop write.position).take write.bytes.length = write.bytes

structure Stored (state : PcmRing) : Prop where
  stream : state.ring = state.belt.stream
  lengths : state.queue.map (fun record => record.bytes) = state.belt.queued.map List.length
  account : state.emitted = state.finished ++
    state.hand.toList.map (fun record => (record, state.belt.frame)) ++
      state.queue.zip state.belt.queued
  sized : ∀ entry ∈ state.emitted, entry.2.length = entry.1.bytes
  removed : state.removed = state.belt.gone
  emptied : state.hand = none → state.belt.rest = []
  tagged : ∀ write ∈ state.audio, ∃ data, (write.record, data) ∈ state.emitted ∧
    (data.drop write.position).take write.bytes.length = write.bytes

/-- What is laid into the ring without a record, at each point of `emit_pcm_`. After a shutdown
that may be a chunk cut off before; nothing more is written then. -/
def EmitStands (point : EmitPoint) (pending : List UInt8) (shutdown : Bool) : Prop :=
  match point with
  | .idle => pending = [] ∨ shutdown = true
  | .room chunk => chunk.data ≠ [] ∧ (pending = [] ∨ shutdown = true)
  | .writing chunk written => chunk.data ≠ [] ∧ written ≤ chunk.data.length ∧
      (pending = chunk.data.take written ∨ shutdown = true ∧ written = 0)
  | .counting chunk written => chunk.data ≠ [] ∧ written ≤ chunk.data.length ∧
      (written < chunk.data.length → shutdown = true) ∧
      (pending = chunk.data.take written ∨ shutdown = true ∧ written = 0)
  | .posting chunk => pending = chunk.data

def PlayStands (point : PlayPoint) (hand : Option PcmRecord) (belt : Conveyor UInt8)
    (shutdown : Bool) : Prop :=
  match point with
  | .idle => hand = none ∨ shutdown = true
  | .deciding record => hand = some record ∧ belt.rest.length = record.bytes ∧ belt.gone = []
  | .discarding record bytes => hand = some record ∧ belt.rest.length = bytes
  | .countingDiscard record bytes _ => hand = some record ∧ belt.rest.length = bytes
  | .slicing record remaining _ done =>
      hand = some record ∧ belt.rest.length = remaining ∧ belt.gone.length = done
  | .reading record remaining _ done slice =>
      hand = some record ∧ belt.rest.length + slice.length = remaining ∧
        done ≤ belt.gone.length ∧ belt.gone.drop done = slice
  | .countingRead record remaining _ done slice _ =>
      hand = some record ∧ belt.rest.length + slice.length = remaining ∧
        done ≤ belt.gone.length ∧ belt.gone.drop done = slice
  | .writing record remaining _ done slice _ _ =>
      hand = some record ∧ belt.rest.length = remaining ∧
        done ≤ belt.gone.length ∧ belt.gone.drop done = slice
  | .stopped => shutdown = true

structure Laid (state : PcmRing) : Prop where
  stored : state.Stored
  emit : EmitStands state.emit state.belt.pending state.shutdown
  play : PlayStands state.play state.hand state.belt state.shutdown
  balanced : state.Balanced

theorem Stored.of_fields {before after : PcmRing} (stored : before.Stored)
    (ring : after.ring = before.ring) (queue : after.queue = before.queue)
    (belt : after.belt = before.belt) (hand : after.hand = before.hand)
    (removed : after.removed = before.removed) (emitted : after.emitted = before.emitted)
    (finished : after.finished = before.finished) (audio : after.audio = before.audio) :
    after.Stored := by
  constructor
  · rw [ring, belt]
    exact stored.stream
  · rw [queue, belt]
    exact stored.lengths
  · rw [emitted, finished, hand, belt, queue]
    exact stored.account
  · rw [emitted]
    exact stored.sized
  · rw [removed, belt]
    exact stored.removed
  · rw [hand, belt]
    exact stored.emptied
  · rw [audio, emitted]
    exact stored.tagged

theorem Stored.ringWrite {state : PcmRing} (stored : state.Stored) (items : List UInt8) :
    (state.ringWrite items).Stored := by
  constructor
  · simp [PcmRing.ringWrite, stored.stream]
  · exact stored.lengths
  · exact stored.account
  · exact stored.sized
  · exact stored.removed
  · exact stored.emptied
  · exact stored.tagged

theorem Stored.ringRead {state : PcmRing} (stored : state.Stored) (count : Nat)
    (within : count ≤ state.belt.rest.length) : (state.ringRead count).Stored := by
  constructor
  · rw [PcmRing.ringRead, stored.stream]
    exact (state.belt.stream_read count within).symm
  · exact stored.lengths
  · have account := stored.account
    rw [← state.belt.frame_read count] at account
    exact account
  · exact stored.sized
  · rw [PcmRing.ringRead, stored.removed, stored.stream]
    dsimp only
    rw [state.belt.take_stream count within]
    rfl
  · intro none
    simp [PcmRing.ringRead, Conveyor.read, stored.emptied none]
  · exact stored.tagged

theorem Stored.zip_length {state : PcmRing} (stored : state.Stored) :
    state.queue.length = state.belt.queued.length := by
  have lengths := congrArg List.length stored.lengths
  simpa using lengths

theorem Stored.tagged_of_prefix {state : PcmRing} (stored : state.Stored)
    (entry : PcmRecord × List UInt8) : ∀ write ∈ state.audio,
      ∃ data, (write.record, data) ∈ state.emitted ++ [entry] ∧
        (data.drop write.position).take write.bytes.length = write.bytes := by
  intro write member
  obtain ⟨data, listed, bytes⟩ := stored.tagged write member
  exact ⟨data, List.mem_append_left _ listed, bytes⟩

theorem Stored.postRecord {state : PcmRing} (stored : state.Stored) (chunk : PcmChunk)
    (whole : state.belt.pending = chunk.data) : (state.postRecord chunk).Stored := by
  constructor
  · rw [PcmRing.postRecord, stored.stream]
    exact state.belt.stream_post.symm
  · simp [PcmRing.postRecord, Conveyor.post, PcmChunk.record, stored.lengths, whole]
  · simp only [PcmRing.postRecord, Conveyor.post]
    rw [List.zip_append stored.zip_length, whole, stored.account]
    simp [Conveyor.frame]
  · intro entry member
    rcases List.mem_append.mp member with earlier | last
    · exact stored.sized entry earlier
    · rw [List.mem_singleton.mp last]
      rfl
  · exact stored.removed
  · exact stored.emptied
  · exact stored.tagged_of_prefix (chunk.record, chunk.data)

theorem Stored.takeRecord {state : PcmRing} (stored : state.Stored) (record : PcmRecord)
    (later : List PcmRecord) (queued : state.queue = record :: later)
    (free : state.hand = none) :
    (state.takeRecord record later).Stored ∧
      (state.takeRecord record later).belt.rest.length = record.bytes ∧
      (state.takeRecord record later).belt.gone = [] := by
  have lengths := stored.lengths
  have account := stored.account
  rw [queued] at lengths
  rw [queued, free] at account
  cases behind : state.belt.queued with
  | nil =>
      rw [behind] at lengths
      cases lengths
  | cons frame frames =>
      rw [behind, List.map_cons, List.map_cons, List.cons_eq_cons] at lengths
      have taken : state.belt.take = { state.belt with
          gone := []
          rest := frame
          queued := frames } := by
        rw [Conveyor.take, behind]
      refine ⟨?_, ?_, ?_⟩
      · constructor
        · rw [PcmRing.takeRecord, stored.stream]
          exact (state.belt.stream_take (stored.emptied free)).symm
        · simp only [PcmRing.takeRecord, taken]
          exact lengths.2
        · simp only [PcmRing.takeRecord, taken, Conveyor.frame]
          rw [account, behind]
          simp
        · exact stored.sized
        · simp only [PcmRing.takeRecord, taken]
        · intro none
          cases none
        · exact stored.tagged
      · simp only [PcmRing.takeRecord, taken]
        exact lengths.1.symm
      · simp only [PcmRing.takeRecord, taken]

theorem Stored.finish {state : PcmRing} (stored : state.Stored) (record : PcmRecord)
    (bytes : Nat) (held : state.hand = some record) (left : state.belt.rest.length = bytes) :
    (state.finish record bytes).Stored := by
  rw [PcmRing.finish]
  by_cases done : bytes = 0
  · rw [if_pos done]
    have used : state.belt.rest = [] := List.length_eq_zero_iff.mp (left.trans done)
    have whole : state.belt.frame = state.removed := by
      rw [Conveyor.frame, used, List.append_nil, stored.removed]
    constructor
    · exact stored.stream
    · exact stored.lengths
    · have account := stored.account
      rw [held, whole] at account
      simpa using account
    · exact stored.sized
    · exact stored.removed
    · intro _
      exact used
    · exact stored.tagged
  · rw [if_neg done]
    exact stored.of_fields rfl rfl rfl rfl rfl rfl rfl rfl

theorem Stored.emitted_frame {state : PcmRing} (stored : state.Stored) (record : PcmRecord)
    (held : state.hand = some record) : (record, state.belt.frame) ∈ state.emitted := by
  rw [stored.account, held]
  simp

theorem Stored.audioWrite {state : PcmRing} (stored : state.Stored) (record : PcmRecord)
    (held : state.hand = some record) (done offset written : Nat) (moved : 0 < written)
    (within : offset + written ≤ (state.belt.gone.drop done).length) :
    { state with
      audio := state.audio ++
        [⟨record, done + offset, ((state.belt.gone.drop done).drop offset).take written⟩]
      : PcmRing }.Stored := by
  constructor
  · exact stored.stream
  · exact stored.lengths
  · exact stored.account
  · exact stored.sized
  · exact stored.removed
  · exact stored.emptied
  · intro write member
    rcases List.mem_append.mp member with earlier | last
    · exact stored.tagged write earlier
    · rw [List.mem_singleton.mp last]
      refine ⟨state.belt.frame, stored.emitted_frame record held, ?_⟩
      rw [List.length_drop] at within
      have taken : (((state.belt.gone.drop done).drop offset).take written).length = written := by
        rw [List.length_take, List.length_drop, List.length_drop]
        omega
      dsimp only
      rw [taken, Conveyor.frame, List.drop_append_of_le_length (by omega),
        List.take_append_of_le_length (by rw [List.length_drop]; omega), List.drop_drop]

theorem PlayStands.of_frame {point : PlayPoint} {hand : Option PcmRecord}
    {before after : Conveyor UInt8} {shutdown : Bool}
    (stands : PlayStands point hand before shutdown) (gone : after.gone = before.gone)
    (rest : after.rest = before.rest) : PlayStands point hand after shutdown := by
  cases point <;> simpa [PlayStands, gone, rest] using stands

theorem emitPcm_laid (state : PcmRing) (chunk : PcmChunk) (laid : state.Laid) :
    (state.emitPcm chunk).Laid := by
  rw [emitPcm]
  split
  · rename_i idle
    split
    · exact laid
    · rename_i some
      have emit := laid.emit
      rw [idle] at emit
      refine ⟨laid.stored.of_fields rfl rfl rfl rfl rfl rfl rfl rfl, ⟨?_, emit⟩, laid.play, ?_⟩
      · intro empty
        exact some (by rw [empty]; rfl)
      · have balanced := laid.balanced
        rw [Balanced, idle] at balanced
        exact balanced
  · exact laid

theorem Laid.emitAt {state : PcmRing} (laid : state.Laid) (next : EmitPoint)
    (stands : EmitStands next state.belt.pending state.shutdown)
    (counted : next.uncounted = state.emit.uncounted) :
    ({ state with emit := next } : PcmRing).Laid := by
  refine ⟨laid.stored.of_fields rfl rfl rfl rfl rfl rfl rfl rfl, stands, laid.play, ?_⟩
  have balanced := laid.balanced
  rw [Balanced, ← counted] at balanced
  exact balanced

theorem Laid.playAt {state : PcmRing} (laid : state.Laid) (next : PlayPoint)
    (stands : PlayStands next state.hand state.belt state.shutdown)
    (counted : next.uncounted = state.play.uncounted) :
    ({ state with play := next } : PcmRing).Laid := by
  refine ⟨laid.stored.of_fields rfl rfl rfl rfl rfl rfl rfl rfl, laid.emit, stands, ?_⟩
  have balanced := laid.balanced
  rw [Balanced, ← counted] at balanced
  exact balanced

theorem Laid.emitStands {state : PcmRing} (laid : state.Laid) {point : EmitPoint}
    (at_ : state.emit = point) : EmitStands point state.belt.pending state.shutdown := by
  rw [← at_]
  exact laid.emit

theorem Laid.playStands {state : PcmRing} (laid : state.Laid) {point : PlayPoint}
    (at_ : state.play = point) : PlayStands point state.hand state.belt state.shutdown := by
  rw [← at_]
  exact laid.play

theorem emitTurn_writing (state : PcmRing) (turn : EmitTurn) (laid : state.Laid)
    (chunk : PcmChunk) (written : Nat) (point : state.emit = .writing chunk written) :
    (state.emitTurn turn).Laid := by
  obtain ⟨some, within, part⟩ := laid.emitStands point
  rw [emitTurn, point]
  dsimp only
  split
  case isTrue more =>
    have pending : state.belt.pending = chunk.data.take written := by
      rcases part with same | down
      · exact same
      · exact absurd (down.1.symm.trans more.2) (by decide)
    have balanced := laid.balanced
    rw [Balanced, point] at balanced
    generalize room : min turn.accepted
      (min (chunk.data.length - written) (state.capacity - state.ring.length)) = n
    have fits : n ≤ chunk.data.length - written := by omega
    have moved : ((chunk.data.drop written).take n).length = n := by
      rw [List.length_take, List.length_drop]
      omega
    refine ⟨(laid.stored.ringWrite _).of_fields rfl rfl rfl rfl rfl rfl rfl rfl,
      ⟨some, by omega, Or.inl ?_⟩, laid.play.of_frame rfl rfl, ?_⟩
    · rw [List.take_add, ← pending]
      rfl
    · simp only [Balanced, ringWrite, EmitPoint.uncounted, List.length_append, moved]
        at balanced ⊢
      omega
  case isFalse ended =>
    refine laid.emitAt (.counting chunk written) ⟨some, within, ?_, part⟩ (by rw [point]; rfl)
    intro short
    cases down : state.shutdown with
    | true => rfl
    | false => exact absurd ⟨short, down⟩ ended

theorem emitTurn_counting (state : PcmRing) (turn : EmitTurn) (laid : state.Laid)
    (chunk : PcmChunk) (written : Nat) (point : state.emit = .counting chunk written) :
    (state.emitTurn turn).Laid := by
  obtain ⟨some, within, cut, part⟩ := laid.emitStands point
  have balanced := laid.balanced
  rw [Balanced, point] at balanced
  rw [emitTurn, point]
  dsimp only
  refine ⟨laid.stored.of_fields rfl rfl rfl rfl rfl rfl rfl rfl, ?_, laid.play, ?_⟩
  · by_cases short : written < chunk.data.length
    · rw [if_pos short]
      exact Or.inr (cut short)
    · rw [if_neg short]
      have filled : written = chunk.data.length := le_antisymm within (not_lt.mp short)
      rcases part with same | down
      · rw [filled, List.take_length] at same
        exact same
      · rw [down.2] at filled
        exact absurd (List.length_eq_zero_iff.mp filled.symm) some
  · have counted : (if written < chunk.data.length then EmitPoint.idle
        else EmitPoint.posting chunk).uncounted = 0 := by
      split <;> rfl
    rw [Balanced]
    dsimp only
    rw [counted]
    simp only [EmitPoint.uncounted] at balanced
    omega

theorem emitTurn_laid (state : PcmRing) (turn : EmitTurn) (laid : state.Laid) :
    (state.emitTurn turn).Laid := by
  cases point : state.emit with
  | idle =>
      rw [emitTurn, point]
      exact laid
  | room chunk =>
      obtain ⟨some, clean⟩ := laid.emitStands point
      rw [emitTurn, point]
      dsimp only
      split
      · split
        · exact laid.emitAt .idle clean (by rw [point]; rfl)
        · exact laid
      · refine laid.emitAt (.writing chunk 0) ⟨some, Nat.zero_le _, ?_⟩ (by rw [point]; rfl)
        rcases clean with empty | down
        · exact Or.inl (by rw [List.take_zero]; exact empty)
        · exact Or.inr ⟨down, rfl⟩
  | writing chunk written => exact emitTurn_writing state turn laid chunk written point
  | counting chunk written => exact emitTurn_counting state turn laid chunk written point
  | posting chunk =>
      have stands := laid.emitStands point
      have balanced := laid.balanced
      rw [Balanced, point] at balanced
      rw [emitTurn, point]
      dsimp only
      split
      · exact ⟨(laid.stored.postRecord chunk stands).of_fields rfl rfl rfl rfl rfl rfl rfl rfl,
          Or.inl rfl, laid.play.of_frame rfl rfl, balanced⟩
      · split
        · rename_i down
          exact laid.emitAt .idle (Or.inr down) (by rw [point]; rfl)
        · exact laid

theorem EmitStands.of_pending {point : EmitPoint} {before after : List UInt8} {shutdown : Bool}
    (stands : EmitStands point before shutdown) (same : after = before) :
    EmitStands point after shutdown := by
  rw [same]
  exact stands

theorem finish_laid (state : PcmRing) (record : PcmRecord) (bytes : Nat) (laid : state.Laid)
    (counted : state.play.uncounted = 0) (held : state.hand = some record)
    (left : state.belt.rest.length = bytes)
    (cut : ¬ (0 < bytes ∧ state.shutdown = false)) : (state.finish record bytes).Laid := by
  have stored := laid.stored.finish record bytes held left
  have balanced := laid.balanced
  rw [Balanced, counted] at balanced
  rw [PcmRing.finish] at stored ⊢
  by_cases done : bytes = 0
  · rw [if_pos done] at stored ⊢
    exact ⟨stored, laid.emit, Or.inl rfl, balanced⟩
  · rw [if_neg done] at stored ⊢
    refine ⟨stored, laid.emit, ?_, balanced⟩
    cases down : state.shutdown with
    | true => exact Or.inr rfl
    | false => exact absurd ⟨Nat.pos_of_ne_zero done, down⟩ cut

theorem playTurn_idle (state : PcmRing) (turn : PlayTurn) (laid : state.Laid)
    (point : state.play = .idle) : (state.playTurn turn).Laid := by
  have stands := laid.playStands point
  have balanced := laid.balanced
  rw [Balanced, point] at balanced
  rw [playTurn, point]
  dsimp only
  split
  case isTrue down => exact laid.playAt .stopped down (by rw [point]; rfl)
  case isFalse up =>
    split
    case h_1 => exact laid
    case h_2 record later queued =>
      obtain ⟨taken, rest, gone⟩ :=
        laid.stored.takeRecord record later queued (stands.resolve_right up)
      refine ⟨taken.of_fields rfl rfl rfl rfl rfl rfl rfl rfl, ?_, ⟨rfl, rest, gone⟩, balanced⟩
      apply laid.emit.of_pending
      rw [takeRecord, Conveyor.take]
      split <;> rfl

theorem playTurn_discarding (state : PcmRing) (turn : PlayTurn) (laid : state.Laid)
    (record : PcmRecord) (bytes : Nat) (point : state.play = .discarding record bytes) :
    (state.playTurn turn).Laid := by
  obtain ⟨held, rest⟩ := laid.playStands point
  have balanced := laid.balanced
  rw [Balanced, point] at balanced
  rw [playTurn, point]
  dsimp only
  split
  · generalize room : min turn.given (min (min bytes sliceBufferSize) state.ring.length) = n
    have fits : n ≤ state.belt.rest.length := by omega
    refine ⟨(laid.stored.ringRead n fits).of_fields rfl rfl rfl rfl rfl rfl rfl rfl, laid.emit,
      ⟨held, ?_⟩, ?_⟩
    · simp only [ringRead, Conveyor.read, List.length_drop]
      omega
    · simp only [Balanced, ringRead, PlayPoint.uncounted, List.length_drop] at balanced ⊢
      omega
  · rename_i ended
    exact finish_laid state record bytes laid (by rw [point]; rfl) held rest ended

theorem playTurn_reading (state : PcmRing) (turn : PlayTurn) (laid : state.Laid)
    (record : PcmRecord) (remaining skip done : Nat) (slice : List UInt8)
    (point : state.play = .reading record remaining skip done slice) :
    (state.playTurn turn).Laid := by
  obtain ⟨held, rest, within, read⟩ := laid.playStands point
  have balanced := laid.balanced
  rw [Balanced, point] at balanced
  rw [playTurn, point]
  dsimp only
  split
  · generalize room : min turn.given
      (min (min remaining sliceBufferSize - slice.length) state.ring.length) = n
    have fits : n ≤ state.belt.rest.length := by omega
    have own : state.ring.take n = state.belt.rest.take n := by
      rw [laid.stored.stream, state.belt.take_stream n fits]
    refine ⟨(laid.stored.ringRead n fits).of_fields rfl rfl rfl rfl rfl rfl rfl rfl, laid.emit,
      ⟨held, ?_, ?_, ?_⟩, ?_⟩
    · simp only [ringRead, Conveyor.read, List.length_drop, List.length_append, own,
        List.length_take]
      omega
    · simp only [ringRead, Conveyor.read, List.length_append]
      omega
    · simp only [ringRead, Conveyor.read]
      rw [List.drop_append_of_le_length within, read, own]
    · simp only [Balanced, ringRead, PlayPoint.uncounted, List.length_drop] at balanced ⊢
      omega
  · have left : state.belt.rest.length = remaining - slice.length := by omega
    exact laid.playAt (.writing record _ _ done slice _ 0) ⟨held, left, within, read⟩
      (by rw [point]; rfl)

theorem playTurn_writing (state : PcmRing) (turn : PlayTurn) (laid : state.Laid)
    (record : PcmRecord) (remaining skip done : Nat) (slice : List UInt8)
    (offset zeroWrites : Nat)
    (point : state.play = .writing record remaining skip done slice offset zeroWrites) :
    (state.playTurn turn).Laid := by
  obtain ⟨held, rest, within, read⟩ := laid.playStands point
  have discards : ({ state with play := .discarding record remaining } : PcmRing).Laid :=
    laid.playAt _ ⟨held, rest⟩ (by rw [point]; rfl)
  rw [playTurn, point]
  dsimp only
  split
  case isTrue more =>
    split
    case isTrue => exact discards
    case isFalse =>
      generalize room : min turn.accepted (slice.length - offset) = written
      split
      case isTrue moved =>
        have balanced := laid.balanced
        rw [Balanced, point] at balanced
        have wrote := laid.stored.audioWrite record held done offset written moved
          (by rw [read]; omega)
        rw [read] at wrote
        exact ⟨wrote.of_fields rfl rfl rfl rfl rfl rfl rfl rfl, laid.emit,
          ⟨held, rest, within, read⟩, balanced⟩
      case isFalse =>
        split
        · exact discards
        · exact laid.playAt (.writing record remaining skip done slice offset (zeroWrites + 1))
            ⟨held, rest, within, read⟩ (by rw [point]; rfl)
  case isFalse =>
    have passed : state.belt.gone.length = done + slice.length := by
      rw [← read, List.length_drop]
      omega
    exact laid.playAt (.slicing record remaining skip (done + slice.length))
      ⟨held, rest, passed⟩ (by rw [point]; rfl)

theorem playTurn_laid (state : PcmRing) (turn : PlayTurn) (laid : state.Laid) :
    (state.playTurn turn).Laid := by
  cases point : state.play with
  | idle => exact playTurn_idle state turn laid point
  | deciding record =>
      obtain ⟨held, rest, gone⟩ := laid.playStands point
      have discards : ({ state with play := .discarding record record.bytes } : PcmRing).Laid :=
        laid.playAt _ ⟨held, rest⟩ (by rw [point]; rfl)
      rw [playTurn, point]
      dsimp only
      split
      · exact discards
      · split
        · exact discards
        · exact laid.playAt (.slicing record record.bytes _ 0) ⟨held, rest, by rw [gone]; rfl⟩
            (by rw [point]; rfl)
  | discarding record bytes => exact playTurn_discarding state turn laid record bytes point
  | countingDiscard record bytes n =>
      have stands := laid.playStands point
      have balanced := laid.balanced
      rw [Balanced, point] at balanced
      rw [playTurn, point]
      refine ⟨laid.stored.of_fields rfl rfl rfl rfl rfl rfl rfl rfl, laid.emit, stands, ?_⟩
      simp only [Balanced, PlayPoint.uncounted] at balanced ⊢
      omega
  | slicing record remaining skip done =>
      obtain ⟨held, rest, gone⟩ := laid.playStands point
      rw [playTurn, point]
      dsimp only
      split
      · refine laid.playAt (.reading record remaining skip done [])
          ⟨held, rest, le_of_eq gone.symm, ?_⟩ (by rw [point]; rfl)
        rw [← gone, List.drop_length]
      · rename_i ended
        exact finish_laid state record remaining laid (by rw [point]; rfl) held rest ended
  | reading record remaining skip done slice =>
      exact playTurn_reading state turn laid record remaining skip done slice point
  | countingRead record remaining skip done slice n =>
      have stands := laid.playStands point
      have balanced := laid.balanced
      rw [Balanced, point] at balanced
      rw [playTurn, point]
      refine ⟨laid.stored.of_fields rfl rfl rfl rfl rfl rfl rfl rfl, laid.emit, stands, ?_⟩
      simp only [Balanced, PlayPoint.uncounted] at balanced ⊢
      omega
  | writing record remaining skip done slice offset zeroWrites =>
      exact playTurn_writing state turn laid record remaining skip done slice offset zeroWrites
        point
  | stopped =>
      rw [playTurn, point]
      exact laid

theorem EmitStands.shutdown {point : EmitPoint} {pending : List UInt8} {shutdown : Bool}
    (stands : EmitStands point pending shutdown) : EmitStands point pending true := by
  cases point with
  | idle => exact Or.inr rfl
  | room chunk => exact ⟨stands.1, Or.inr rfl⟩
  | writing chunk written =>
      exact ⟨stands.1, stands.2.1, stands.2.2.imp_right fun down => ⟨rfl, down.2⟩⟩
  | counting chunk written =>
      exact ⟨stands.1, stands.2.1, fun _ => rfl, stands.2.2.2.imp_right fun down => ⟨rfl, down.2⟩⟩
  | posting chunk => exact stands

theorem PlayStands.shutdown {point : PlayPoint} {hand : Option PcmRecord}
    {belt : Conveyor UInt8} {shutdown : Bool} (stands : PlayStands point hand belt shutdown) :
    PlayStands point hand belt true := by
  cases point with
  | idle => exact Or.inr rfl
  | stopped => exact rfl
  | _ => exact stands

theorem step_laid (state : PcmRing) (event : PcmEvent) (laid : state.Laid) :
    (state.step event).Laid := by
  cases event with
  | emitPcm chunk => exact emitPcm_laid state chunk laid
  | emitTurn turn => exact emitTurn_laid state turn laid
  | playTurn turn => exact playTurn_laid state turn laid
  | shutdown =>
      exact ⟨laid.stored.of_fields rfl rfl rfl rfl rfl rfl rfl rfl, laid.emit.shutdown,
        laid.play.shutdown, laid.balanced⟩

theorem start_laid (capacity : Nat) : (start capacity).Laid := by
  refine ⟨?_, Or.inl rfl, Or.inl rfl, rfl⟩
  constructor
  · rfl
  · rfl
  · rfl
  · intro entry member
    cases member
  · rfl
  · intro _
    rfl
  · intro write member
    cases member

theorem Laid.emit_length {state : PcmRing} (laid : state.Laid) (up : state.shutdown = false) :
    state.belt.pending.length = state.emit.laid := by
  have emit := laid.emit
  rw [up] at emit
  cases point : state.emit with
  | idle =>
      rw [point] at emit
      rcases emit with empty | down
      · rw [empty]
        rfl
      · cases down
  | room chunk =>
      rw [point] at emit
      rcases emit.2 with empty | down
      · rw [empty]
        rfl
      · cases down
  | writing chunk written =>
      rw [point] at emit
      obtain ⟨_, within, part | down⟩ := emit
      · rw [part, List.length_take, min_eq_left within]
        rfl
      · cases down.1
  | counting chunk written =>
      rw [point] at emit
      obtain ⟨_, within, _, part | down⟩ := emit
      · rw [part, List.length_take, min_eq_left within]
        rfl
      · cases down.1
  | posting chunk =>
      rw [point] at emit
      exact congrArg List.length emit

theorem Laid.in_hand {state : PcmRing} (laid : state.Laid) (record : PcmRecord)
    (taken : state.play.record = some record) :
    state.hand = some record ∧ state.belt.rest.length = state.play.unread := by
  have play := laid.play
  cases point : state.play with
  | idle =>
      rw [point] at taken
      cases taken
  | stopped =>
      rw [point] at taken
      cases taken
  | deciding other =>
      rw [point] at play taken
      rw [← Option.some.inj taken]
      exact ⟨play.1, play.2.1⟩
  | discarding other bytes =>
      rw [point] at play taken
      rw [← Option.some.inj taken]
      exact play
  | countingDiscard other bytes n =>
      rw [point] at play taken
      rw [← Option.some.inj taken]
      exact play
  | slicing other remaining skip done =>
      rw [point] at play taken
      rw [← Option.some.inj taken]
      exact ⟨play.1, play.2.1⟩
  | reading other remaining skip done slice =>
      rw [point] at play taken
      rw [← Option.some.inj taken]
      exact ⟨play.1, Nat.eq_sub_of_add_eq play.2.1⟩
  | countingRead other remaining skip done slice n =>
      rw [point] at play taken
      rw [← Option.some.inj taken]
      exact ⟨play.1, Nat.eq_sub_of_add_eq play.2.1⟩
  | writing other remaining skip done slice offset zeroWrites =>
      rw [point] at play taken
      rw [← Option.some.inj taken]
      exact ⟨play.1, play.2.1⟩

theorem Laid.empty_hand {state : PcmRing} (laid : state.Laid) (up : state.shutdown = false)
    (free : state.play.record = none) : state.hand = none ∧ state.play.unread = 0 := by
  have play := laid.play
  cases point : state.play with
  | idle =>
      rw [point] at play
      refine ⟨play.resolve_right ?_, rfl⟩
      rw [up]
      exact Bool.false_ne_true
  | stopped =>
      rw [point] at play
      rw [PlayStands, up] at play
      cases play
  | _ =>
      rw [point] at free
      cases free

theorem Laid.hand_eq {state : PcmRing} (laid : state.Laid) (up : state.shutdown = false) :
    state.hand = state.play.record ∧ state.belt.rest.length = state.play.unread := by
  cases taken : state.play.record with
  | some record => exact laid.in_hand record taken
  | none =>
      obtain ⟨free, unread⟩ := laid.empty_hand up taken
      refine ⟨free, ?_⟩
      rw [laid.stored.emptied free, unread]
      rfl

theorem Laid.conserved {state : PcmRing} (laid : state.Laid) : state.Conserved := by
  have stored := laid.stored
  constructor
  · intro up
    rw [Accounted, queuedBytes, stored.stream, Conveyor.stream_length, stored.lengths,
      (laid.hand_eq up).2, laid.emit_length up]
  · exact laid.balanced
  · intro up
    have lengths : state.queue.length ≤ state.belt.queued.length := le_of_eq stored.zip_length
    rw [stored.account, (laid.hand_eq up).1]
    cases state.play.record with
    | none => simp [List.map_fst_zip lengths]
    | some record => simp [List.map_fst_zip lengths]
  · have account := stored.account
    rw [List.append_assoc] at account
    refine ⟨⟨_, account.symm⟩, ?_⟩
    intro entry member
    apply stored.sized
    rw [account]
    exact List.mem_append_left _ member
  · intro record taken
    obtain ⟨held, rest⟩ := laid.in_hand record taken
    have within := state.belt.rest_le_stream
    rw [← rest, stored.stream]
    refine ⟨within, ?_⟩
    rw [state.belt.take_stream _ le_rfl, List.take_length, stored.removed]
    exact stored.emitted_frame record held
  · exact stored.tagged

/-- In every order of the decoder's and the player's turns, whatever the ring, the speaker and
the decisions of the player are, what is in the ring is accounted for. -/
theorem visits_conserved (capacity : Nat) (events : List PcmEvent) :
    Run.Visits step Conserved (start capacity) events := by
  apply Run.visits_of_invariant step Laid Conserved
  · intro state laid
    exact laid.conserved
  · exact step_laid
  · exact start_laid capacity

private def twoBytes : PcmChunk :=
  { data := [17, 34]
    serverTsUs := 1000000
    frameBytes := 2
    sampleRate := 48000
    arrivalUs := 900000 }

private def oneByteWritten : List PcmEvent :=
  [.emitPcm twoBytes, .emitTurn ⟨true, true, 0, 0⟩, .emitTurn ⟨true, true, 0, 1⟩]

/-- Bytes are counted after they have moved; and a shutdown cuts a chunk off in the ring. -/
theorem conserved_not_exactly :
    (¬ ∀ (capacity : Nat) (events : List PcmEvent), Run.Visits step
      (fun state => state.pcmInBytes =
        state.pcmOutBytes + state.pcmDiscardBytes + state.ring.length) (start capacity) events) ∧
    ¬ ∀ (capacity : Nat) (events : List PcmEvent),
      Run.Visits step Accounted (start capacity) events := by
  constructor
  · intro balanced
    have last := Run.visits_last _ _ _ _ (balanced 8 oneByteWritten)
    exact absurd last (by decide)
  · intro accounted
    have last := Run.visits_last _ _ _ _ (accounted 8 (oneByteWritten ++
      [.shutdown, .emitTurn ⟨true, true, 0, 0⟩, .emitTurn ⟨true, true, 0, 0⟩]))
    rw [Accounted] at last
    exact absurd last (by decide)

end PcmRing

end Player
