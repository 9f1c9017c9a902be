import Mathlib.Algebra.Order.Field.Basic
import Mathlib.Tactic.Linarith
import Mathlib.Tactic.Ring
import SnapcastSync.ClockSync.Mapping
import SnapcastSync.Player.PcmRing
import SnapcastSync.Protocol.CodecHeader

/-! The timestamps of the records that FLAC wire chunks become, against the timestamps of the
frames in them. The decoder returns the frames of the stream in order, in blocks of any size and
at any of its calls. -/

namespace Player

open Protocol ClockSync

structure WireChunk where
  timestampUs : Int
  payload : List UInt8
  arrivalUs : Int
  frames : Nat
deriving DecidableEq, Repr

def frameUs (rate : Nat) : ℚ := 1000000 / rate

/-- The server timestamp of a frame of the stream: its chunk's, and the duration of the frames
before it in that chunk. -/
def frameTsUs (rate : Nat) : List WireChunk → Nat → Option ℚ
  | [], _ => none
  | chunk :: rest, frame =>
      if frame < chunk.frames then some (chunk.timestampUs + frame * frameUs rate)
      else frameTsUs rate rest (frame - chunk.frames)

def GaplessFrom (rate : Nat) (startUs : ℚ) : List WireChunk → Prop
  | [] => True
  | chunk :: rest =>
      (chunk.timestampUs : ℚ) = startUs ∧
        GaplessFrom rate (startUs + chunk.frames * frameUs rate) rest

/-- A block that is handed to `emit_pcm_`, with the chunk that is being decoded and how many
frames of the stream came before that chunk. -/
structure Emission where
  chunk : WireChunk
  chunkStart : Nat
  block : Block

namespace Emission

def pcm (emission : Emission) : PcmChunk :=
  { data := emission.block.data
    serverTsUs := emission.block.serverTsUs
    frameBytes := emission.block.params.frameBytes.toNat
    sampleRate := emission.block.params.sampleRate.toNat
    arrivalUs := emission.chunk.arrivalUs }

/-- The record that `emit_pcm_` posts of the block, when it posts one. -/
def record (emission : Emission) : PcmRecord := emission.pcm.record

def frames (emission : Emission) : Nat := emission.record.frames

end Emission

/-- `handle_wire_chunk_` of a FLAC stream. -/
def handleFlacChunk {decoders : Decoders} (client : StreamDecoder decoders) (turns : Nat)
    (chunk : WireChunk) : StreamDecoder.FlacLoop decoders :=
  if client.codec = .flac && client.streamParams.valid then
    { client with flacInput := client.flacInput ++ chunk.payload }.decodeFlacInput turns
      chunk.timestampUs
  else ⟨client, 0, [], true⟩

/-- The blocks of a run over these chunks; one that is empty posts nothing. A chunk whose
decoding does not end is the last. -/
def emissions {decoders : Decoders} (turns : Nat) (client : StreamDecoder decoders)
    (chunkStart : Nat) : List WireChunk → List Emission
  | [] => []
  | chunk :: rest =>
      let decoded := handleFlacChunk client turns chunk
      (decoded.blocks.filter (fun block => block.data ≠ [])).map (Emission.mk chunk chunkStart) ++
        if decoded.finished then
          emissions turns decoded.client (chunkStart + chunk.frames) rest
        else []

def numbered (frame : Nat) : List Emission → List (Nat × Emission)
  | [] => []
  | emission :: rest => (frame, emission) :: numbered (frame + emission.frames) rest

/-- The decoder returns only frames of the chunks it has been given. -/
def Causal (blocks : List (Nat × Emission)) : Prop :=
  ∀ one ∈ blocks, one.1 + one.2.frames ≤ one.2.chunkStart + one.2.chunk.frames

def CarriesOwn (rate : Nat) (chunks : List WireChunk) (one : Nat × Emission) : Prop :=
  frameTsUs rate chunks one.1 = some (one.2.record.serverTsUs : ℚ)

def Emission.Of (chunks : List WireChunk) (emission : Emission) : Prop :=
  ∃ before after, chunks = before ++ emission.chunk :: after ∧
    emission.chunkStart = (before.map WireChunk.frames).sum

section Stamps

variable {decoders : Decoders}

theorem decodeFlacTurn_stamps (client : StreamDecoder decoders) (decoder : decoders.Flac)
    (serverTsUs : Int) (offset : Nat) :
    ∀ block ∈ (client.decodeFlacTurn decoder serverTsUs offset).blocks,
      block.serverTsUs = serverTsUs := by
  intro block member
  rw [StreamDecoder.decodeFlacTurn] at member
  dsimp only at member
  split at member
  · dsimp only at member
    split at member
    · rw [List.mem_singleton.mp member]
    · cases member
  all_goals cases member

theorem decodeFlacLoop_stamps (serverTsUs : Int) (turns : Nat)
    (client : StreamDecoder decoders) (offset : Nat) :
    ∀ block ∈ (StreamDecoder.decodeFlacLoop serverTsUs turns client offset).blocks,
      block.serverTsUs = serverTsUs := by
  induction turns generalizing client offset with
  | zero => exact fun block impossible => nomatch impossible
  | succ turns ih =>
      intro block member
      rw [StreamDecoder.decodeFlacLoop] at member
      split at member
      · cases member
      · rename_i decoder _
        have turn := decodeFlacTurn_stamps client decoder serverTsUs offset
        split at member
        · dsimp only at member
          split at member
          · exact turn block member
          · rcases List.mem_append.mp member with here | later
            · exact turn block here
            · exact ih _ _ block later
        · cases member

theorem decodeFlacInput_stamps (client : StreamDecoder decoders) (turns : Nat)
    (serverTsUs : Int) :
    ∀ block ∈ (client.decodeFlacInput turns serverTsUs).blocks,
      block.serverTsUs = serverTsUs := by
  have stamps := decodeFlacLoop_stamps serverTsUs turns client 0
  rw [StreamDecoder.decodeFlacInput]
  dsimp only
  split <;> exact stamps

theorem handleFlacChunk_stamps (client : StreamDecoder decoders) (turns : Nat)
    (chunk : WireChunk) :
    ∀ block ∈ (handleFlacChunk client turns chunk).blocks,
      block.serverTsUs = chunk.timestampUs := by
  rw [handleFlacChunk]
  split
  · exact decodeFlacInput_stamps _ turns chunk.timestampUs
  · exact fun block impossible => nomatch impossible

/-- Every block is stamped with the chunk in whose decoding it came out. -/
theorem emissions_stamps (turns : Nat) (client : StreamDecoder decoders) (chunkStart : Nat)
    (chunks : List WireChunk) :
    ∀ emission ∈ emissions turns client chunkStart chunks,
      emission.record.serverTsUs = emission.chunk.timestampUs ∧
        ∃ before after, chunks = before ++ emission.chunk :: after ∧
          emission.chunkStart = chunkStart + (before.map WireChunk.frames).sum := by
  induction chunks generalizing client chunkStart with
  | nil => exact fun emission impossible => nomatch impossible
  | cons chunk rest ih =>
      intro emission member
      rw [emissions] at member
      rcases List.mem_append.mp member with here | later
      · obtain ⟨block, kept, made⟩ := List.mem_map.mp here
        have stamp := handleFlacChunk_stamps client turns chunk block (List.mem_filter.mp kept).1
        rw [← made]
        exact ⟨stamp, [], rest, rfl, rfl⟩
      · split at later
        · obtain ⟨stamp, before, after, shape, start⟩ := ih _ _ emission later
          refine ⟨stamp, chunk :: before, after, ?_, ?_⟩
          · rw [List.cons_append, ← shape]
          · rw [start, List.map_cons, List.sum_cons, Nat.add_assoc]
        · cases later

end Stamps

theorem numbered_mem (frame : Nat) (blocks : List Emission) (one : Nat × Emission)
    (member : one ∈ numbered frame blocks) : one.2 ∈ blocks := by
  induction blocks generalizing frame with
  | nil => cases member
  | cons emission rest ih =>
      rcases List.mem_cons.mp member with here | later
      · rw [here]
        exact List.mem_cons_self
      · exact List.mem_cons_of_mem emission (ih _ later)

theorem numbered_next (frame : Nat) (blocks : List Emission) (before after : List (Nat × Emission))
    (one next : Nat × Emission)
    (shape : numbered frame blocks = before ++ one :: next :: after) :
    next.1 = one.1 + one.2.frames := by
  induction blocks generalizing frame before with
  | nil =>
      have lengths := congrArg List.length shape
      simp [numbered] at lengths
  | cons emission rest ih =>
      rw [numbered] at shape
      cases before with
      | cons first before =>
          rw [List.cons_append, List.cons.injEq] at shape
          exact ih _ before shape.2
      | nil =>
          rw [List.nil_append, List.cons.injEq] at shape
          cases rest with
          | nil => cases shape.2
          | cons second rest =>
              rw [numbered, List.cons.injEq] at shape
              rw [← shape.1, ← shape.2.1]

theorem frameTsUs_of_gapless (rate : Nat) (startUs : ℚ) (chunks : List WireChunk)
    (gapless : GaplessFrom rate startUs chunks) (frame : Nat) (ownUs : ℚ)
    (own : frameTsUs rate chunks frame = some ownUs) :
    ownUs = startUs + frame * frameUs rate := by
  induction chunks generalizing startUs frame with
  | nil => cases own
  | cons chunk rest ih =>
      obtain ⟨start, later⟩ := gapless
      rw [frameTsUs] at own
      by_cases within : frame < chunk.frames
      · rw [if_pos within, start] at own
        exact (Option.some_inj.mp own).symm
      · rw [if_neg within] at own
        have rest := ih _ later _ own
        rw [rest, Nat.cast_sub (Nat.le_of_not_lt within)]
        ring

theorem timestamp_of_gapless (rate : Nat) (startUs : ℚ) (before after : List WireChunk)
    (chunk : WireChunk) (gapless : GaplessFrom rate startUs (before ++ chunk :: after)) :
    (chunk.timestampUs : ℚ) = startUs + (before.map WireChunk.frames).sum * frameUs rate := by
  induction before generalizing startUs with
  | nil =>
      rw [List.map_nil, List.sum_nil, Nat.cast_zero, zero_mul, add_zero]
      exact gapless.1
  | cons first before ih =>
      have later := ih _ gapless.2
      rw [later, List.map_cons, List.sum_cons, Nat.cast_add]
      ring

theorem frameUs_pos (rate : Nat) (positive : 0 < rate) : 0 < frameUs rate :=
  div_pos (by norm_num) (Nat.cast_pos.mpr positive)

theorem chunkDeadline_eq_some (serverTsUs bufferUs offsetUs biasUs deadlineUs : Int)
    (haveOffset : Bool)
    (deadline : chunkDeadline serverTsUs bufferUs haveOffset offsetUs biasUs = some deadlineUs) :
    deadlineUs = serverTsUs + bufferUs - offsetUs + biasUs := by
  rw [chunkDeadline] at deadline
  split at deadline
  · exact (Option.some_inj.mp deadline).symm
  · cases deadline

/-- Each chunk decodes to one block of its own frames, as an encoder makes it that is flushed at
every chunk boundary. -/
def Flushed {decoders : Decoders} (turns : Nat) (client : StreamDecoder decoders) :
    List WireChunk → Prop
  | [] => True
  | chunk :: rest =>
      (∃ block, (handleFlacChunk client turns chunk).blocks = [block] ∧ block.data ≠ [] ∧
        (Emission.mk chunk 0 block).frames = chunk.frames) ∧
      (handleFlacChunk client turns chunk).finished = true ∧
      Flushed turns (handleFlacChunk client turns chunk).client rest

theorem numbered_of_flushed {decoders : Decoders} (turns : Nat)
    (client : StreamDecoder decoders) (chunkStart : Nat) (chunks : List WireChunk)
    (flushed : Flushed turns client chunks) :
    ∀ one ∈ numbered chunkStart (emissions turns client chunkStart chunks),
      one.1 = one.2.chunkStart := by
  induction chunks generalizing client chunkStart with
  | nil => exact fun one impossible => nomatch impossible
  | cons chunk rest ih =>
      obtain ⟨⟨block, only, filled, whole⟩, finished, later⟩ := flushed
      have shape : emissions turns client chunkStart (chunk :: rest) =
          ⟨chunk, chunkStart, block⟩ ::
            emissions turns (handleFlacChunk client turns chunk).client
              (chunkStart + chunk.frames) rest := by
        rw [emissions, only, finished, if_pos rfl]
        simp [filled]
      have frames : (Emission.mk chunk chunkStart block).frames = chunk.frames := whole
      intro one member
      rw [shape, numbered, frames] at member
      rcases List.mem_cons.mp member with here | rest
      · rw [here]
      · exact ih _ _ later one rest

/-- In a stream without gaps a record bears the server's time for its chunk's first frame. -/
theorem numbered_stamp {decoders : Decoders} (turns : Nat) (client : StreamDecoder decoders)
    (rate : Nat) (startUs : ℚ) (chunks : List WireChunk)
    (gapless : GaplessFrom rate startUs chunks) (one : Nat × Emission)
    (member : one ∈ numbered 0 (emissions turns client 0 chunks)) :
    (one.2.record.serverTsUs : ℚ) = startUs + one.2.chunkStart * frameUs rate := by
  obtain ⟨stamp, before, after, shape, start⟩ :=
    emissions_stamps turns client 0 chunks one.2 (numbered_mem _ _ _ member)
  rw [shape] at gapless
  rw [stamp, start, Nat.zero_add]
  exact timestamp_of_gapless rate startUs before after one.2.chunk gapless

/-- Every record carries the timestamp of the chunk that was being decoded. In a stream without
gaps that is its first frame's own just when the record begins with that chunk, as every record
does where the encoder is flushed at the chunk boundaries; and the deadlines of two consecutive
records that do are the duration of the first apart. -/
theorem record_timestamps {decoders : Decoders} (turns : Nat) (client : StreamDecoder decoders)
    (chunks : List WireChunk) :
    (∀ emission ∈ emissions turns client 0 chunks,
      emission.record.serverTsUs = emission.chunk.timestampUs ∧ emission.Of chunks) ∧
    (Flushed turns client chunks →
      ∀ one ∈ numbered 0 (emissions turns client 0 chunks), one.1 = one.2.chunkStart) ∧
    ∀ (rate : Nat) (startUs : ℚ), 0 < rate → GaplessFrom rate startUs chunks →
      (∀ one ∈ numbered 0 (emissions turns client 0 chunks), ∀ ownUs,
        frameTsUs rate chunks one.1 = some ownUs →
          (ownUs = one.2.record.serverTsUs ↔ one.1 = one.2.chunkStart)) ∧
      ∀ before one next after,
        numbered 0 (emissions turns client 0 chunks) = before ++ one :: next :: after →
        one.1 = one.2.chunkStart → next.1 = next.2.chunkStart →
        ∀ (bufferUs offsetUs biasUs oneUs nextUs : Int) (haveOffset : Bool),
          chunkDeadline one.2.record.serverTsUs bufferUs haveOffset offsetUs biasUs =
              some oneUs →
          chunkDeadline next.2.record.serverTsUs bufferUs haveOffset offsetUs biasUs =
              some nextUs →
          (nextUs : ℚ) = oneUs + one.2.frames * frameUs rate := by
  have stamps := emissions_stamps turns client 0 chunks
  refine ⟨?_, numbered_of_flushed turns client 0 chunks, ?_⟩
  · intro emission member
    obtain ⟨stamp, before, after, shape, start⟩ := stamps emission member
    exact ⟨stamp, before, after, shape, start.trans (Nat.zero_add _)⟩
  · intro rate startUs positive gapless
    have unit := frameUs_pos rate positive
    constructor
    · intro one member ownUs own
      rw [frameTsUs_of_gapless rate startUs chunks gapless one.1 ownUs own,
        numbered_stamp turns client rate startUs chunks gapless one member]
      constructor
      · intro same
        have scaled := mul_right_cancel₀ unit.ne' (add_left_cancel same)
        exact Nat.cast_injective scaled
      · intro begins
        rw [begins]
    · intro before one next after shape begins nextBegins bufferUs offsetUs biasUs oneUs nextUs
        haveOffset oneDeadline nextDeadline
      have member : one ∈ numbered 0 (emissions turns client 0 chunks) := by
        rw [shape]
        simp
      have nextMember : next ∈ numbered 0 (emissions turns client 0 chunks) := by
        rw [shape]
        simp
      have follows := numbered_next 0 _ before after one next shape
      have oneStamp := numbered_stamp turns client rate startUs chunks gapless one member
      have nextStamp := numbered_stamp turns client rate startUs chunks gapless next nextMember
      rw [chunkDeadline_eq_some _ _ _ _ _ _ oneDeadline,
        chunkDeadline_eq_some _ _ _ _ _ _ nextDeadline]
      push_cast
      rw [oneStamp, nextStamp, ← begins, ← nextBegins, follows, Nat.cast_add]
      ring

def storedBlocks : Decoders :=
  { noDecoders with
    Flac := Unit
    flacFresh := ()
    flacDecode := fun _ input _ =>
      if 8 ≤ input.length then
        { decoder := ()
          result := .success
          bytesConsumed := 8
          samplesDecoded := 4
          output := input.take 8 }
      else
        { decoder := ()
          result := .needMoreData
          bytesConsumed := 0
          samplesDecoded := 0
          output := [] }
    flacInfo := fun _ =>
      { sampleRate := 8000
        bitsPerSample := 16
        numChannels := 2
        bytesPerSample := 2 }
    flacBufferSamples := fun _ => 4 }

def storedClient : StreamDecoder storedBlocks :=
  { StreamDecoder.start with
    codec := .flac
    streamParams := { sampleRate := 8000, bitsPerSample := 16, channels := 2 }
    flacDecoder := some ()
    flacHeaderDone := true
    flacOutputSize := 8 }

def storedChunk (timestampUs : Int) (blocks : Nat) : WireChunk :=
  { timestampUs := timestampUs
    payload := List.replicate (8 * blocks) 1
    arrivalUs := 0
    frames := 2 * blocks }

theorem one_block_a_chunk :
    ∀ one ∈ numbered 0 (emissions 4 storedClient 0 [storedChunk 1000000 1, storedChunk 1000250 1]),
      ∀ ownUs, frameTsUs 8000 [storedChunk 1000000 1, storedChunk 1000250 1] one.1 = some ownUs →
        (ownUs = one.2.record.serverTsUs ↔ one.1 = one.2.chunkStart) :=
  ((record_timestamps 4 storedClient [storedChunk 1000000 1, storedChunk 1000250 1]).2.2 8000
    1000000 (by decide) ⟨by norm_num [storedChunk], by norm_num [storedChunk, frameUs], trivial⟩).1

theorem second_block_stamped_early :
    ¬ ∀ (decoders : Decoders) (turns : Nat) (client : StreamDecoder decoders)
        (chunks : List WireChunk) (rate : Nat) (startUs : ℚ),
      0 < rate → GaplessFrom rate startUs chunks →
        Causal (numbered 0 (emissions turns client 0 chunks)) →
          ∀ one ∈ numbered 0 (emissions turns client 0 chunks), CarriesOwn rate chunks one := by
  intro always
  let block : Block :=
    { data := List.replicate 8 1, serverTsUs := 1000000, params := storedClient.streamParams }
  let emission : Emission := { chunk := storedChunk 1000000 2, chunkStart := 0, block := block }
  have blocks : numbered 0 (emissions 4 storedClient 0 [storedChunk 1000000 2]) =
      [(0, emission), (2, emission)] := rfl
  have gapless : GaplessFrom 8000 1000000 [storedChunk 1000000 2] :=
    ⟨by norm_num [storedChunk], trivial⟩
  have causal : Causal [(0, emission), (2, emission)] := by
    unfold Causal
    decide
  have carries := always storedBlocks 4 storedClient [storedChunk 1000000 2] 8000 1000000
    (by decide) gapless
  rw [blocks] at carries
  have second := carries causal (2, emission) (by simp)
  have own := frameTsUs_of_gapless 8000 1000000 _ gapless 2 _ second
  have stamp : emission.record.serverTsUs = 1000000 := rfl
  rw [stamp, frameUs] at own
  norm_num at own

end Player
