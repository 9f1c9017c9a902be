import SnapcastSync.Protocol.Lifecycle

/-! A connect, or a codec header that is read, starts afresh: nothing that another connection or
another codec has left in the client reaches what is posted and emitted after it. -/

namespace Protocol

namespace StreamDecoder

variable {decoders : Decoders}

structure FlacAlike (first second : StreamDecoder decoders) : Prop where
  streamParams : first.streamParams = second.streamParams
  flacDecoder : first.flacDecoder = second.flacDecoder
  flacInput : first.flacInput = second.flacInput
  flacOutputSize : first.flacOutputSize = second.flacOutputSize

/-- What the codec in use reads is the same; what another codec has left behind may differ. -/
structure Alike (first second : StreamDecoder decoders) : Prop where
  codec : first.codec = second.codec
  streamParams : first.streamParams = second.streamParams
  flac : first.codec = .flac → FlacAlike first second
  opus : first.codec = .opus →
    first.opusDecoder = second.opusDecoder ∧ first.opusOutputSamples = second.opusOutputSamples

theorem Alike.refl (client : StreamDecoder decoders) : Alike client client :=
  ⟨rfl, rfl, fun _ => ⟨rfl, rfl, rfl, rfl⟩, fun _ => ⟨rfl, rfl⟩⟩

theorem alike_of_plain {first second : StreamDecoder decoders} (codec : first.codec = second.codec)
    (params : first.streamParams = second.streamParams)
    (plain : first.codec = .none ∨ first.codec = .pcm) : Alike first second := by
  refine ⟨codec, params, ?_, ?_⟩
  · intro flac
    rw [flac] at plain
    rcases plain with none_ | pcm
    · cases none_
    · cases pcm
  · intro opus
    rw [opus] at plain
    rcases plain with none_ | pcm
    · cases none_
    · cases pcm

structure LoopAlike (first second : FlacLoop decoders) : Prop where
  client : FlacAlike first.client second.client
  offset : first.offset = second.offset
  blocks : first.blocks = second.blocks
  finished : first.finished = second.finished

theorem decodeFlacTurn_alike {first second : StreamDecoder decoders}
    (alike : FlacAlike first second) (decoder : decoders.Flac) (serverTsUs : Int) (offset : Nat) :
    LoopAlike (first.decodeFlacTurn decoder serverTsUs offset)
      (second.decodeFlacTurn decoder serverTsUs offset) := by
  obtain ⟨params, -, input, size⟩ := alike
  rw [decodeFlacTurn, decodeFlacTurn, input, size, params]
  dsimp only
  generalize decoders.flacDecode decoder (second.flacInput.drop offset) second.flacOutputSize =
    decoded
  cases decoded.result <;> exact ⟨⟨rfl, rfl, rfl, rfl⟩, rfl, rfl, rfl⟩

theorem decodeFlacLoop_alike (serverTsUs : Int) (turns : Nat)
    {first second : StreamDecoder decoders} (alike : FlacAlike first second) (offset : Nat) :
    LoopAlike (decodeFlacLoop serverTsUs turns first offset)
      (decodeFlacLoop serverTsUs turns second offset) := by
  induction turns generalizing first second offset with
  | zero =>
      refine ⟨alike, rfl, rfl, ?_⟩
      rw [decodeFlacLoop, decodeFlacLoop, alike.flacInput]
  | succ turns ih =>
      rw [decodeFlacLoop, decodeFlacLoop, alike.flacDecoder]
      cases second.flacDecoder with
      | none => exact ⟨alike, rfl, rfl, rfl⟩
      | some decoder =>
          dsimp only
          rw [alike.flacInput]
          by_cases more : offset < second.flacInput.length
          · rw [if_pos more, if_pos more]
            have turn := decodeFlacTurn_alike alike decoder serverTsUs offset
            rw [turn.finished, turn.offset]
            by_cases done : (second.decodeFlacTurn decoder serverTsUs offset).finished = true
            · rw [if_pos done, if_pos done]
              exact turn
            · rw [if_neg done, if_neg done]
              have later := ih turn.client (second.decodeFlacTurn decoder serverTsUs offset).offset
              refine ⟨later.client, later.offset, ?_, later.finished⟩
              dsimp only
              rw [turn.blocks, later.blocks]
          · rw [if_neg more, if_neg more]
            exact ⟨alike, rfl, rfl, rfl⟩

theorem decodeFlacInput_alike {first second : StreamDecoder decoders}
    (alike : FlacAlike first second) (turns : Nat) (serverTsUs : Int) :
    LoopAlike (first.decodeFlacInput turns serverTsUs)
      (second.decodeFlacInput turns serverTsUs) := by
  have decoded := decodeFlacLoop_alike serverTsUs turns alike 0
  rw [decodeFlacInput, decodeFlacInput]
  dsimp only
  rw [decoded.finished]
  split
  · obtain ⟨⟨params, decoder, input, size⟩, offset, blocks, -⟩ := decoded
    refine ⟨⟨params, decoder, ?_, size⟩, offset, blocks, rfl⟩
    dsimp only
    rw [input, offset]
  · exact decoded

theorem flacOutputs_alike (serverTsUs : Int) (turns : Nat)
    {first second : StreamDecoder decoders} (alike : FlacAlike first second) (offset : Nat) :
    flacOutputs serverTsUs turns first offset = flacOutputs serverTsUs turns second offset := by
  induction turns generalizing first second offset with
  | zero => rfl
  | succ turns ih =>
      rw [flacOutputs, flacOutputs, alike.flacDecoder, alike.flacInput]
      cases second.flacDecoder with
      | none => rfl
      | some decoder =>
          have turn := decodeFlacTurn_alike alike decoder serverTsUs offset
          dsimp only
          rw [turn.finished, turn.offset, ih turn.client, flacTurnOutputs, flacTurnOutputs,
            turn.blocks, alike.flacInput, alike.flacOutputSize]

theorem decodeOpusPacket_alike {first second : StreamDecoder decoders}
    (opus : first.opusDecoder = second.opusDecoder ∧
      first.opusOutputSamples = second.opusOutputSamples)
    (params : first.streamParams = second.streamParams) (data : List UInt8) (serverTsUs : Int) :
    let decoded := first.decodeOpusPacket data serverTsUs
    let otherDecoded := second.decodeOpusPacket data serverTsUs
    decoded.2 = otherDecoded.2 ∧ decoded.1.opusDecoder = otherDecoded.1.opusDecoder ∧
      decoded.1.opusOutputSamples = otherDecoded.1.opusOutputSamples := by
  rw [decodeOpusPacket, decodeOpusPacket, opus.1, opus.2, params]
  cases found : second.opusDecoder with
  | none => exact ⟨rfl, opus⟩
  | some decoder =>
      dsimp only
      split
      · exact ⟨rfl, rfl, rfl⟩
      · exact ⟨rfl, rfl, rfl⟩

theorem pcmHeader_alike (first second : StreamDecoder decoders) (memory : Memory)
    (header : CodecHeaderView) (codec : first.codec = .none) (otherCodec : second.codec = .none)
    (params : first.streamParams = .none) (otherParams : second.streamParams = .none) :
    Alike (first.pcmHeader memory header) (second.pcmHeader memory header) := by
  rw [pcmHeader, pcmHeader]
  dsimp only
  split
  · exact alike_of_plain (codec.trans otherCodec.symm) (params.trans otherParams.symm)
      (Or.inl codec)
  · split
    · exact alike_of_plain (codec.trans otherCodec.symm) rfl (Or.inl codec)
    · exact alike_of_plain rfl rfl (Or.inr rfl)

theorem opusHeader_alike (first second : StreamDecoder decoders) (memory : Memory)
    (header : CodecHeaderView) (codec : first.codec = .none) (otherCodec : second.codec = .none)
    (params : first.streamParams = .none) (otherParams : second.streamParams = .none) :
    Alike (first.opusHeader memory header) (second.opusHeader memory header) := by
  have same := codec.trans otherCodec.symm
  have rejected : Alike first second :=
    alike_of_plain same (params.trans otherParams.symm) (Or.inl codec)
  rw [opusHeader, opusHeader]
  split
  · exact rejected
  · split
    · exact rejected
    · dsimp only
      split
      · exact rejected
      · split
        · exact alike_of_plain same rfl (Or.inl codec)
        · split
          · refine ⟨rfl, rfl, ?_, fun _ => ⟨rfl, rfl⟩⟩
            intro impossible
            cases impossible
          · exact alike_of_plain same rfl (Or.inl codec)

theorem decodeChunk_alike {first second : StreamDecoder decoders} (alike : Alike first second)
    (turns : Nat) (data : List UInt8) (serverTsUs : Int) :
    (first.decodeChunk turns data serverTsUs).2 = (second.decodeChunk turns data serverTsUs).2 ∧
      Alike (first.decodeChunk turns data serverTsUs).1
        (second.decodeChunk turns data serverTsUs).1 := by
  obtain ⟨codec, params, flac, opus⟩ := alike
  rw [decodeChunk, decodeChunk, codec]
  cases used : second.codec with
  | none => exact ⟨rfl, alike_of_plain codec params (Or.inl (codec.trans used))⟩
  | pcm =>
      rw [params]
      exact ⟨rfl, alike_of_plain codec params (Or.inr (codec.trans used))⟩
  | flac =>
      have before := flac (codec.trans used)
      have decoded : LoopAlike
          ({ first with
              codec := .flac
              flacInput := first.flacInput ++ data }.decodeFlacInput turns serverTsUs)
          ({ second with
              codec := .flac
              flacInput := second.flacInput ++ data }.decodeFlacInput turns serverTsUs) := by
        apply decodeFlacInput_alike
        exact ⟨params, before.flacDecoder, congrArg (· ++ data) before.flacInput,
          before.flacOutputSize⟩
      have kept := decodeFlacInput_codec
        { first with
          codec := .flac
          flacInput := first.flacInput ++ data } turns serverTsUs
      have otherKept := decodeFlacInput_codec
        { second with
          codec := .flac
          flacInput := second.flacInput ++ data } turns serverTsUs
      refine ⟨decoded.blocks, kept.trans otherKept.symm, decoded.client.streamParams,
        fun _ => decoded.client, ?_⟩
      intro impossible
      exact Codec.noConfusion (kept.symm.trans impossible)
  | opus =>
      have outcome := decodeOpusPacket_alike (opus (codec.trans used)) params data serverTsUs
      obtain ⟨kept, format, -⟩ := first.decodeOpusPacket_params data serverTsUs
      obtain ⟨otherKept, otherFormat, -⟩ := second.decodeOpusPacket_params data serverTsUs
      refine ⟨outcome.1, (kept.trans codec).trans otherKept.symm,
        (format.trans params).trans otherFormat.symm, ?_, fun _ => outcome.2⟩
      intro impossible
      exact Codec.noConfusion (((kept.trans codec).trans used).symm.trans impossible)

theorem chunkOutputs_alike {first second : StreamDecoder decoders} (alike : Alike first second)
    (turns : Nat) (data : List UInt8) (serverTsUs : Int) :
    first.chunkOutputs turns data serverTsUs = second.chunkOutputs turns data serverTsUs := by
  have blocks := (decodeChunk_alike alike turns data serverTsUs).1
  obtain ⟨codec, params, flac, -⟩ := alike
  rw [chunkOutputs, chunkOutputs, codec, blocks]
  split
  · rename_i used
    have before := flac (codec.trans used)
    apply flacOutputs_alike
    exact ⟨params, before.flacDecoder, congrArg (· ++ data) before.flacInput,
      before.flacOutputSize⟩
  · rfl

/-- A well-formed codec header leaves nothing to differ in, whatever was there. -/
theorem handleCodecHeader_alike (first second : StreamDecoder decoders) (turns : Nat)
    (memory : Memory) (payload len : UInt32)
    (wellFormed : (CodecHeaderView.parse memory payload len .start).1 = true) :
    Alike (first.handleCodecHeader turns memory payload len)
      (second.handleCodecHeader turns memory payload len) := by
  rw [handleCodecHeader, handleCodecHeader]
  dsimp only
  rw [if_pos wellFormed, if_pos wellFormed]
  split
  · exact pcmHeader_alike _ _ memory _ rfl rfl rfl rfl
  · split
    · exact Alike.refl _
    · split
      · exact opusHeader_alike _ _ memory _ rfl rfl rfl rfl
      · exact alike_of_plain rfl rfl (Or.inl rfl)

end StreamDecoder

def LinkEvent.Resets : LinkEvent → Prop
  | .connect => True
  | .received .codecHeader buffer _ => (buffer.parseCodecHeader .start).1 = true
  | _ => False

namespace Client

variable {decoders : Decoders}

structure Alike (first second : Client decoders) : Prop where
  decoder : first.decoder.Alike second.decoder
  connected : first.connected = second.connected
  streamActive : first.streamActive = second.streamActive
  lastChunkUs : first.streamActive = true → first.lastChunkUs = second.lastChunkUs

theorem end_alike {first second : Client decoders} (alike : Alike first second) :
    (first.setStreamActive false).2 = (second.setStreamActive false).2 ∧
      Alike (first.setStreamActive false).1 (second.setStreamActive false).1 := by
  rw [setStreamActive_false, setStreamActive_false, alike.streamActive]
  exact ⟨rfl, alike.decoder, alike.connected, rfl, fun active => Bool.noConfusion active⟩

theorem openStream_alike {first second : Client decoders} (alike : Alike first second)
    (arrived : first.lastChunkUs = second.lastChunkUs) :
    first.openStream.2 = second.openStream.2 ∧
      Alike first.openStream.1 second.openStream.1 := by
  rw [openStream_eq, openStream_eq, alike.streamActive, alike.decoder.streamParams]
  split
  · exact ⟨rfl, alike⟩
  · exact ⟨rfl, alike.decoder, alike.connected, rfl, fun _ => arrived⟩

theorem handleWireChunk_alike {first second : Client decoders} (alike : Alike first second)
    (turns : Nat) (buffer : Buffer) (nowUs : Int) :
    (first.handleWireChunk turns buffer nowUs).2 = (second.handleWireChunk turns buffer nowUs).2 ∧
      Alike (first.handleWireChunk turns buffer nowUs).1
        (second.handleWireChunk turns buffer nowUs).1 := by
  rw [handleWireChunk, handleWireChunk, alike.decoder.codec, alike.decoder.streamParams]
  dsimp only
  split
  · exact ⟨rfl, alike⟩
  · split
    · exact ⟨rfl, alike⟩
    · have arrived : Alike { first with lastChunkUs := nowUs }
          { second with lastChunkUs := nowUs } :=
        ⟨alike.decoder, alike.connected, alike.streamActive, fun _ => rfl⟩
      obtain ⟨outputs, opened⟩ := openStream_alike arrived rfl
      have decoded := StreamDecoder.decodeChunk_alike opened.decoder turns
        (readBytes buffer.memory (buffer.parseWireChunk .start).2.payload
          (buffer.parseWireChunk .start).2.payloadLen)
        (buffer.parseWireChunk .start).2.timestamp.toUs
      refine ⟨?_, decoded.2, opened.connected, opened.streamActive, opened.lastChunkUs⟩
      rw [outputs, StreamDecoder.chunkOutputs_alike opened.decoder]

theorem handleCodecHeader_alike {first second : Client decoders} (alike : Alike first second)
    (turns : Nat) (buffer : Buffer) :
    (first.handleCodecHeader turns buffer).2 = (second.handleCodecHeader turns buffer).2 ∧
      Alike (first.handleCodecHeader turns buffer).1
        (second.handleCodecHeader turns buffer).1 := by
  rw [handleCodecHeader, handleCodecHeader]
  split
  · rename_i wellFormed
    obtain ⟨outputs, ended⟩ := end_alike alike
    exact ⟨outputs, StreamDecoder.handleCodecHeader_alike _ _ turns _ _ _ wellFormed,
      ended.connected, ended.streamActive, ended.lastChunkUs⟩
  · exact ⟨rfl, alike⟩

theorem step_alike (setup : Setup) {first second : Client decoders} (alike : Alike first second)
    (event : LinkEvent) :
    (first.step setup event).2 = (second.step setup event).2 ∧
      Alike (first.step setup event).1 (second.step setup event).1 := by
  cases event with
  | connect =>
      exact ⟨rfl, StreamDecoder.alike_of_plain rfl rfl (Or.inl rfl), rfl, alike.streamActive,
        fun _ => rfl⟩
  | received handler buffer nowUs =>
      cases handler with
      | wireChunk => exact handleWireChunk_alike alike setup.turns buffer nowUs
      | time => exact ⟨rfl, alike⟩
      | codecHeader => exact handleCodecHeader_alike alike setup.turns buffer
      | serverSettings =>
          rw [step, step, receive, receive]
          cases setup.parseSettings buffer with
          | none => exact ⟨rfl, alike⟩
          | some settings => exact ⟨rfl, alike⟩
      | unhandled => exact ⟨rfl, alike⟩
  | serviceTx nowUs =>
      have limits : first.idleLimitUs setup = second.idleLimitUs setup := by
        rw [idleLimitUs, idleLimitUs, alike.connected]
      rw [step, step, serviceTx, serviceTx, limits]
      cases second.idleLimitUs setup with
      | none => exact ⟨rfl, alike⟩
      | some limitUs =>
          dsimp only
          by_cases active : first.streamActive = true
          · rw [← alike.streamActive, alike.lastChunkUs active]
            split
            · exact end_alike alike
            · exact ⟨rfl, alike⟩
          · rw [if_neg fun late => active late.1,
              if_neg fun late => active (alike.streamActive.trans late.1)]
            exact ⟨rfl, alike⟩
  | finish =>
      have left : Alike { first with connected := false } { second with connected := false } :=
        ⟨alike.decoder, rfl, alike.streamActive, alike.lastChunkUs⟩
      obtain ⟨outputs, ended⟩ := end_alike left
      rw [step, step, finish, finish]
      exact ⟨congrArg (· ++ _) outputs, ended⟩

theorem inactive_of_unconnected {client : Client decoders} {stage : Stage}
    (agreed : client.Agrees stage) (apart : client.connected = false) :
    client.streamActive = false := by
  cases stage with
  | offline => exact agreed.2
  | idle => exact agreed.2
  | streaming codec params => exact Bool.noConfusion (agreed.1.symm.trans apart)

/-- A reset that can come after two histories leaves nothing to differ in. -/
theorem reset_alike (setup : Setup) {first second : Client decoders} {stage otherStage : Stage}
    (agreed : first.Agrees stage) (otherAgreed : second.Agrees otherStage) (reset : LinkEvent)
    (resets : reset.Resets) (allowed : first.Allowed reset) (otherAllowed : second.Allowed reset) :
    Alike (first.step setup reset).1 (second.step setup reset).1 := by
  cases reset with
  | connect =>
      have inactive := inactive_of_unconnected agreed allowed
      have otherInactive := inactive_of_unconnected otherAgreed otherAllowed
      exact ⟨StreamDecoder.alike_of_plain rfl rfl (Or.inl rfl), rfl,
        inactive.trans otherInactive.symm, fun _ => rfl⟩
  | received handler buffer nowUs =>
      cases handler with
      | codecHeader =>
          have wellFormed : (buffer.parseCodecHeader .start).1 = true := resets
          have linked : first.connected = true := allowed
          have otherLinked : second.connected = true := otherAllowed
          have installed := StreamDecoder.handleCodecHeader_alike first.decoder second.decoder
            setup.turns buffer.memory buffer.data buffer.size resets
          rw [step, step, receive, receive, handleCodecHeader, handleCodecHeader,
            if_pos wellFormed, if_pos wellFormed, setStreamActive_false, setStreamActive_false]
          exact ⟨installed, linked.trans otherLinked.symm, rfl,
            fun active => Bool.noConfusion active⟩
      | wireChunk => exact resets.elim
      | time => exact resets.elim
      | serverSettings => exact resets.elim
      | unhandled => exact resets.elim
  | serviceTx nowUs => exact resets.elim
  | finish => exact resets.elim

/-- What is posted and emitted after a connect, or after a codec header that is read, does not
depend on anything before it. -/
theorem stream_isolated (setup : Setup) (history other : List LinkEvent) (reset : LinkEvent)
    (events : List LinkEvent) (resets : reset.Resets)
    (allowed : Run.Along (Unwinding.next (step setup)) Allowed (boot : Client decoders)
      (history ++ [reset]))
    (otherAllowed : Run.Along (Unwinding.next (step setup)) Allowed (boot : Client decoders)
      (other ++ [reset])) :
    (run setup (history ++ [reset]) : Client decoders).outputs setup events =
      (run setup (other ++ [reset]) : Client decoders).outputs setup events := by
  rw [Run.along_append] at allowed otherAllowed
  obtain ⟨stage, -, agreed⟩ := run_agrees setup history allowed.1
  obtain ⟨otherStage, -, otherAgreed⟩ := run_agrees setup other otherAllowed.1
  have alike := reset_alike setup agreed otherAgreed reset resets allowed.2.1 otherAllowed.2.1
  apply Conformance.trace_eq (step setup) Alike
  · exact fun first second event before => (step_alike setup before event).1
  · exact fun first second event before => (step_alike setup before event).2
  · rw [run, run, Conformance.run, Conformance.run, List.foldl_append, List.foldl_append]
    exact alike

theorem stream_isolated_resumed :
    (run plainSetup ([.connect, .received .codecHeader pcmStereo 10,
        .received .wireChunk oneFrame 20] ++ [.received .codecHeader pcmStereo 30]) :
        Client noDecoders).outputs plainSetup [.received .wireChunk oneFrame 40, .finish] =
      (run plainSetup ([.connect] ++ [.received .codecHeader pcmStereo 30]) :
        Client noDecoders).outputs plainSetup [.received .wireChunk oneFrame 40, .finish] :=
  stream_isolated plainSetup _ _ _ _ pcmStereo_read (by decide +kernel) (by decide +kernel)

end Client

end Protocol
