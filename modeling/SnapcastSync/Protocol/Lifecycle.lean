import SnapcastSync.Lib.Conformance
import SnapcastSync.Protocol.CodecHeader
import SnapcastSync.Protocol.Session

/-! The connections of the network task, one after another, and the streams in them: what
`connection_session_` and the handlers post to the main loop, and the audio they emit in between. -/

namespace Protocol

structure ServerSettings where
  bufferMs : Int32
  latency : Int32
  volume : UInt8
  muted : Bool
deriving DecidableEq, Repr

/-- An event that is handed to `post_event_`. -/
inductive Posted
  | connected
  | disconnected
  | serverSettings (settings : ServerSettings)
  | streamStart (params : StreamParams)
  | streamEnd
deriving DecidableEq, Repr

/-- What comes out of the client, and between the blocks the formats that its FLAC decoder
announces. -/
inductive Output
  | posted (event : Posted)
  | emitted (block : Block)
  | announced (params : StreamParams)
deriving DecidableEq, Repr

namespace Output

def block? : Output → Option Block
  | .emitted block => some block
  | _ => none

end Output

/-- The options for an idle stream, the turns that a FLAC loop has time for, and the reading of the
settings, which a library for JSON does. -/
structure Setup where
  streamIdleTimeoutMs : Nat
  keepaliveHoldMs : Nat
  turns : Nat
  parseSettings : Buffer → Option ServerSettings

/-- A received message comes with the buffer it was read into. -/
inductive LinkEvent
  | connect
  | received (handler : Handler) (buffer : Buffer) (nowUs : Int)
  | serviceTx (nowUs : Int)
  | finish

namespace StreamDecoder

variable {decoders : Decoders}

/-- The end of `handle_wire_chunk_`. -/
def decodeChunk (client : StreamDecoder decoders) (turns : Nat) (data : List UInt8)
    (serverTsUs : Int) : StreamDecoder decoders × List Block :=
  match client.codec with
  | .none => (client, [])
  | .pcm => (client, [⟨data, serverTsUs, client.streamParams⟩])
  | .flac =>
      let decoded :=
        { client with flacInput := client.flacInput ++ data }.decodeFlacInput turns serverTsUs
      (decoded.client, decoded.blocks)
  | .opus => client.decodeOpusPacket data serverTsUs

def flacTurnOutputs (client : StreamDecoder decoders) (decoder : decoders.Flac)
    (serverTsUs : Int) (offset : Nat) : List Output :=
  let decoded :=
    decoders.flacDecode decoder (client.flacInput.drop offset) client.flacOutputSize
  let info := decoders.flacInfo decoded.decoder
  match decoded.result with
  | .headerReady =>
      [.announced
        { sampleRate := info.sampleRate
          bitsPerSample := info.bitsPerSample.toUInt8
          channels := info.numChannels.toUInt8 }]
  | _ => (client.decodeFlacTurn decoder serverTsUs offset).blocks.map Output.emitted

def flacOutputs (serverTsUs : Int) : Nat → StreamDecoder decoders → Nat → List Output
  | 0, _, _ => []
  | turns + 1, client, offset =>
      match client.flacDecoder with
      | none => []
      | some decoder =>
          if offset < client.flacInput.length then
            let turn := client.decodeFlacTurn decoder serverTsUs offset
            client.flacTurnOutputs decoder serverTsUs offset ++
              if turn.finished then [] else flacOutputs serverTsUs turns turn.client turn.offset
          else []

def chunkOutputs (client : StreamDecoder decoders) (turns : Nat) (data : List UInt8)
    (serverTsUs : Int) : List Output :=
  match client.codec with
  | .flac =>
      flacOutputs serverTsUs turns { client with flacInput := client.flacInput ++ data } 0
  | _ => (client.decodeChunk turns data serverTsUs).2.map Output.emitted

theorem block?_emitted (blocks : List Block) :
    (blocks.map Output.emitted).filterMap Output.block? = blocks := by
  rw [List.filterMap_map]
  exact List.filterMap_some

theorem flacTurnOutputs_blocks (client : StreamDecoder decoders) (decoder : decoders.Flac)
    (serverTsUs : Int) (offset : Nat) :
    (client.flacTurnOutputs decoder serverTsUs offset).filterMap Output.block? =
      (client.decodeFlacTurn decoder serverTsUs offset).blocks := by
  rw [flacTurnOutputs]
  split
  · rename_i ready
    rw [decodeFlacTurn]
    dsimp only
    rw [ready]
    rfl
  · exact block?_emitted _

theorem flacOutputs_blocks (serverTsUs : Int) (turns : Nat) (client : StreamDecoder decoders)
    (offset : Nat) :
    (flacOutputs serverTsUs turns client offset).filterMap Output.block? =
      (decodeFlacLoop serverTsUs turns client offset).blocks := by
  induction turns generalizing client offset with
  | zero => rfl
  | succ turns ih =>
      rw [flacOutputs, decodeFlacLoop]
      cases client.flacDecoder with
      | none => rfl
      | some decoder =>
          dsimp only
          split
          · rw [List.filterMap_append, flacTurnOutputs_blocks]
            split
            · rw [List.filterMap_nil, List.append_nil]
            · rw [ih]
          · rfl

theorem emitted_unposted (blocks : List Block) :
    ∀ output ∈ blocks.map Output.emitted, ∀ event, output ≠ .posted event := by
  intro output member event posted
  obtain ⟨block, -, same⟩ := List.mem_map.mp member
  rw [← same] at posted
  cases posted

theorem flacOutputs_unposted (serverTsUs : Int) (turns : Nat) (client : StreamDecoder decoders)
    (offset : Nat) :
    ∀ output ∈ flacOutputs serverTsUs turns client offset, ∀ event, output ≠ .posted event := by
  induction turns generalizing client offset with
  | zero => exact fun _ absent => absurd absent List.not_mem_nil
  | succ turns ih =>
      rw [flacOutputs]
      intro output member event
      cases held : client.flacDecoder with
      | none =>
          rw [held] at member
          cases member
      | some decoder =>
          rw [held] at member
          dsimp only at member
          split at member
          · rcases List.mem_append.mp member with here | later
            · rw [flacTurnOutputs] at here
              split at here
              · rw [List.mem_singleton.mp here]
                exact fun posted => by cases posted
              · exact emitted_unposted _ output here event
            · split at later
              · cases later
              · exact ih _ _ output later event
          · cases member

theorem chunkOutputs_unposted (client : StreamDecoder decoders) (turns : Nat) (data : List UInt8)
    (serverTsUs : Int) :
    ∀ output ∈ client.chunkOutputs turns data serverTsUs, ∀ event, output ≠ .posted event := by
  rw [chunkOutputs]
  split
  · exact flacOutputs_unposted serverTsUs turns _ 0
  · exact emitted_unposted _

theorem chunkOutputs_blocks (client : StreamDecoder decoders) (turns : Nat) (data : List UInt8)
    (serverTsUs : Int) :
    (client.chunkOutputs turns data serverTsUs).filterMap Output.block? =
      (client.decodeChunk turns data serverTsUs).2 := by
  rw [chunkOutputs]
  cases codec : client.codec with
  | none => exact block?_emitted _
  | pcm => exact block?_emitted _
  | flac =>
      rw [decodeChunk, codec]
      dsimp only
      rw [flacOutputs_blocks, decodeFlacInput]
      dsimp only
      split
      · rfl
      · rfl
  | opus => exact block?_emitted _

end StreamDecoder

structure Client (decoders : Decoders) where
  decoder : StreamDecoder decoders
  connected : Bool
  streamActive : Bool
  sessionEpoch : UInt32
  lastChunkUs : Int

namespace Client

variable {decoders : Decoders}

def boot : Client decoders :=
  { decoder := .start
    connected := false
    streamActive := false
    sessionEpoch := 0
    lastChunkUs := 0 }

def setStreamActive (client : Client decoders) (active : Bool) :
    Client decoders × List Output :=
  if active = client.streamActive then (client, [])
  else
    ({ client with streamActive := active },
      [.posted (if active then .streamStart client.decoder.streamParams else .streamEnd)])

def connect (client : Client decoders) : Client decoders × List Output :=
  ({ client with
      decoder :=
        { client.decoder with
          codec := .none
          streamParams := .none }
      connected := true
      lastChunkUs := 0 },
    [.posted .connected])

def handleCodecHeader (client : Client decoders) (turns : Nat) (buffer : Buffer) :
    Client decoders × List Output :=
  if (buffer.parseCodecHeader .start).1 then
    let ended := client.setStreamActive false
    ({ ended.1 with
        decoder :=
          client.decoder.handleCodecHeader turns buffer.memory buffer.data buffer.size },
      ended.2)
  else (client, [])

def openStream (client : Client decoders) : Client decoders × List Output :=
  if client.streamActive then (client, [])
  else { client with sessionEpoch := client.sessionEpoch + 1 }.setStreamActive true

def handleWireChunk (client : Client decoders) (turns : Nat) (buffer : Buffer) (nowUs : Int) :
    Client decoders × List Output :=
  let chunk := buffer.parseWireChunk .start
  if !chunk.1 then (client, [])
  else if client.decoder.codec = .none || !client.decoder.streamParams.valid then (client, [])
  else
    let opened := { client with lastChunkUs := nowUs }.openStream
    let data := readBytes buffer.memory chunk.2.payload chunk.2.payloadLen
    let serverTsUs := chunk.2.timestamp.toUs
    ({ opened.1 with decoder := (opened.1.decoder.decodeChunk turns data serverTsUs).1 },
      opened.2 ++ opened.1.decoder.chunkOutputs turns data serverTsUs)

/-- How long a stream may be idle; a connected one may be so for ever where the hold is zero. -/
def idleLimitUs (client : Client decoders) (setup : Setup) : Option Int :=
  if client.connected = false then some (setup.streamIdleTimeoutMs * 1000)
  else if setup.keepaliveHoldMs = 0 then none
  else some (setup.keepaliveHoldMs * 1000)

/-- The part of `service_tx_` that ends an idle stream. -/
def serviceTx (client : Client decoders) (setup : Setup) (nowUs : Int) :
    Client decoders × List Output :=
  match client.idleLimitUs setup with
  | none => (client, [])
  | some limitUs =>
      if client.streamActive ∧ limitUs < nowUs - client.lastChunkUs then
        client.setStreamActive false
      else (client, [])

/-- The end of `connection_session_`. -/
def finish (client : Client decoders) : Client decoders × List Output :=
  let ended := { client with connected := false }.setStreamActive false
  (ended.1, ended.2 ++ [.posted .disconnected])

def receive (client : Client decoders) (setup : Setup) (handler : Handler) (buffer : Buffer)
    (nowUs : Int) : Client decoders × List Output :=
  match handler with
  | .wireChunk => client.handleWireChunk setup.turns buffer nowUs
  | .codecHeader => client.handleCodecHeader setup.turns buffer
  | .serverSettings =>
      match setup.parseSettings buffer with
      | some settings => (client, [.posted (.serverSettings settings)])
      | none => (client, [])
  | .time => (client, [])
  | .unhandled => (client, [])

def step (setup : Setup) (client : Client decoders) : LinkEvent → Client decoders × List Output
  | .connect => client.connect
  | .received handler buffer nowUs => client.receive setup handler buffer nowUs
  | .serviceTx nowUs => client.serviceTx setup nowUs
  | .finish => client.finish

/-- `connection_session_` connects first, and all else it does comes before it finishes. -/
def Allowed (client : Client decoders) : LinkEvent → Prop
  | .connect => client.connected = false
  | .received _ _ _ => client.connected = true
  | .serviceTx _ => client.connected = true
  | .finish => client.connected = true

instance (client : Client decoders) (event : LinkEvent) : Decidable (client.Allowed event) :=
  match event with
  | .connect => inferInstanceAs (Decidable (client.connected = false))
  | .received _ _ _ => inferInstanceAs (Decidable (client.connected = true))
  | .serviceTx _ => inferInstanceAs (Decidable (client.connected = true))
  | .finish => inferInstanceAs (Decidable (client.connected = true))

def run (setup : Setup) (events : List LinkEvent) : Client decoders :=
  Conformance.run (step setup) boot events

def outputs (setup : Setup) (client : Client decoders) (events : List LinkEvent) : List Output :=
  Conformance.trace (step setup) client events

end Client

/-- Where the main loop stands with what it was told, and the format of the audio it is given. -/
inductive Stage
  | offline
  | idle
  | streaming (codec : Codec) (params : StreamParams)

/-- What may come at each stage, and where it leads. Audio comes in a stream only, and in the format
of its start or, since the FLAC decoder of the stream has announced another one, in that. -/
inductive Move : Stage → Output → Stage → Prop
  | connected : Move .offline (.posted .connected) .idle
  | disconnected : Move .idle (.posted .disconnected) .offline
  | settings (settings : ServerSettings) :
      Move .idle (.posted (.serverSettings settings)) .idle
  | settingsStreaming (codec : Codec) (params : StreamParams) (settings : ServerSettings) :
      Move (.streaming codec params) (.posted (.serverSettings settings))
        (.streaming codec params)
  | streamStart (codec : Codec) (params : StreamParams) (decodes : codec ≠ .none)
      (valid : params.valid = true) :
      Move .idle (.posted (.streamStart params)) (.streaming codec params)
  | streamEnd (codec : Codec) (params : StreamParams) :
      Move (.streaming codec params) (.posted .streamEnd) .idle
  | announced (params later : StreamParams) :
      Move (.streaming .flac params) (.announced later) (.streaming .flac later)
  | emitted (codec : Codec) (block : Block) :
      Move (.streaming codec block.params) (.emitted block) (.streaming codec block.params)

namespace StreamDecoder

variable {decoders : Decoders}

theorem emitted_followed (codec : Codec) (params : StreamParams) (blocks : List Block)
    (same : ∀ block ∈ blocks, block.params = params) :
    Conformance.Follows Move (.streaming codec params) (blocks.map Output.emitted)
      (.streaming codec params) := by
  apply Conformance.follows_of_stays
  intro output member
  obtain ⟨block, emitted, rfl⟩ := List.mem_map.mp member
  rw [← same block emitted]
  exact .emitted codec block

theorem flacTurnOutputs_followed (client : StreamDecoder decoders) (decoder : decoders.Flac)
    (serverTsUs : Int) (offset : Nat) :
    Conformance.Follows Move (.streaming .flac client.streamParams)
      (client.flacTurnOutputs decoder serverTsUs offset)
      (.streaming .flac
        (client.decodeFlacTurn decoder serverTsUs offset).client.streamParams) := by
  rw [flacTurnOutputs, decodeFlacTurn]
  dsimp only
  split
  · rename_i ready
    rw [ready]
    exact Conformance.follows_single _ (.announced _ _)
  · rename_i other
    split
    · apply emitted_followed
      intro block member
      dsimp only at member
      split at member
      · rw [List.mem_singleton.mp member]
      · cases member
    · rename_i ready
      exact absurd ready other
    · rfl
    · rfl
    · rfl

theorem flacOutputs_followed (serverTsUs : Int) (turns : Nat) (client : StreamDecoder decoders)
    (offset : Nat) :
    Conformance.Follows Move (.streaming .flac client.streamParams)
      (flacOutputs serverTsUs turns client offset)
      (.streaming .flac (decodeFlacLoop serverTsUs turns client offset).client.streamParams) := by
  induction turns generalizing client offset with
  | zero => rfl
  | succ turns ih =>
      rw [flacOutputs, decodeFlacLoop]
      cases client.flacDecoder with
      | none => rfl
      | some decoder =>
          dsimp only
          split
          · apply Conformance.follows_append _
              (client.flacTurnOutputs_followed decoder serverTsUs offset)
            split
            · rfl
            · exact ih _ _
          · rfl

theorem decodeOpusPacket_params (client : StreamDecoder decoders) (data : List UInt8)
    (serverTsUs : Int) :
    let decoded := client.decodeOpusPacket data serverTsUs
    decoded.1.codec = client.codec ∧ decoded.1.streamParams = client.streamParams ∧
      ∀ block ∈ decoded.2, block.params = client.streamParams := by
  rw [decodeOpusPacket]
  cases client.opusDecoder with
  | none => exact ⟨rfl, rfl, fun block member => by cases member⟩
  | some decoder =>
      dsimp only
      split
      · exact ⟨rfl, rfl, fun block member => by cases member⟩
      · refine ⟨rfl, rfl, ?_⟩
        intro block member
        rw [List.mem_singleton.mp member]

/-- A chunk is decoded under the codec of the stream, and put out in its formats. -/
theorem chunkOutputs_followed (client : StreamDecoder decoders) (turns : Nat)
    (data : List UInt8) (serverTsUs : Int) :
    (client.decodeChunk turns data serverTsUs).1.codec = client.codec ∧
      Conformance.Follows Move (.streaming client.codec client.streamParams)
        (client.chunkOutputs turns data serverTsUs)
        (.streaming client.codec (client.decodeChunk turns data serverTsUs).1.streamParams) := by
  rw [chunkOutputs, decodeChunk]
  cases codec : client.codec with
  | none => exact ⟨codec, rfl⟩
  | pcm =>
      refine ⟨codec, emitted_followed .pcm client.streamParams _ ?_⟩
      intro block member
      rw [List.mem_singleton.mp member]
  | flac =>
      have followed := flacOutputs_followed serverTsUs turns
        { client with
          codec := .flac
          flacInput := client.flacInput ++ data } 0
      refine ⟨decodeFlacInput_codec _ turns serverTsUs, ?_⟩
      rw [decodeFlacInput]
      dsimp only
      split
      · exact followed
      · exact followed
  | opus =>
      obtain ⟨same, format, blocks⟩ := client.decodeOpusPacket_params data serverTsUs
      refine ⟨same.trans codec, ?_⟩
      rw [format]
      exact emitted_followed .opus client.streamParams _ blocks

end StreamDecoder

namespace Client

variable {decoders : Decoders}

def Agrees (client : Client decoders) : Stage → Prop
  | .offline => client.connected = false ∧ client.streamActive = false
  | .idle => client.connected = true ∧ client.streamActive = false
  | .streaming codec params =>
      client.connected = true ∧ client.streamActive = true ∧ codec ≠ .none ∧
        client.decoder.codec = codec ∧ client.decoder.streamParams = params

theorem setStreamActive_false (client : Client decoders) :
    client.setStreamActive false =
      ({ client with streamActive := false },
        if client.streamActive then [.posted .streamEnd] else []) := by
  rw [setStreamActive]
  cases active : client.streamActive with
  | false =>
      rw [if_pos rfl]
      have same : { client with streamActive := false } = client := by rw [← active]
      rw [same]
      rfl
  | true => rfl

theorem openStream_eq (client : Client decoders) :
    client.openStream =
      if client.streamActive then (client, [])
      else
        ({ client with
            streamActive := true
            sessionEpoch := client.sessionEpoch + 1 },
          [.posted (.streamStart client.decoder.streamParams)]) := by
  rw [openStream]
  cases active : client.streamActive with
  | false => rw [setStreamActive]; rfl
  | true => rfl

theorem end_followed (client : Client decoders) (stage : Stage) (agreed : client.Agrees stage)
    (linked : client.connected = true) :
    Conformance.Follows Move stage
      (if client.streamActive then [.posted .streamEnd] else []) .idle := by
  cases stage with
  | offline => exact Bool.noConfusion (agreed.1.symm.trans linked)
  | idle =>
      rw [agreed.2]
      rfl
  | streaming codec params =>
      rw [agreed.2.1]
      exact Conformance.follows_single _ (.streamEnd codec params)

theorem openStream_followed (client : Client decoders) (stage : Stage)
    (agreed : client.Agrees stage) (linked : client.connected = true)
    (decodes : client.decoder.codec ≠ .none) (valid : client.decoder.streamParams.valid = true) :
    Conformance.Follows Move stage client.openStream.2
      (.streaming client.decoder.codec client.decoder.streamParams) := by
  rw [openStream_eq]
  cases stage with
  | offline => exact Bool.noConfusion (agreed.1.symm.trans linked)
  | idle =>
      rw [agreed.2]
      exact Conformance.follows_single _ (.streamStart _ _ decodes valid)
  | streaming codec params =>
      obtain ⟨-, active, -, same, format⟩ := agreed
      rw [active, same, format]
      rfl

theorem openStream_decoder (client : Client decoders) :
    client.openStream.1.decoder = client.decoder ∧
      client.openStream.1.connected = client.connected ∧
      client.openStream.1.streamActive = true := by
  rw [openStream_eq]
  split
  · rename_i active
    exact ⟨rfl, rfl, active⟩
  · exact ⟨rfl, rfl, rfl⟩

theorem handleWireChunk_followed (client : Client decoders) (turns : Nat) (buffer : Buffer)
    (nowUs : Int) (stage : Stage) (agreed : client.Agrees stage)
    (linked : client.connected = true) :
    ∃ last, Conformance.Follows Move stage
        (client.handleWireChunk turns buffer nowUs).2 last ∧
      (client.handleWireChunk turns buffer nowUs).1.Agrees last := by
  rw [handleWireChunk]
  dsimp only
  split
  · exact ⟨stage, rfl, agreed⟩
  · split
    · exact ⟨stage, rfl, agreed⟩
    · rename_i ready
      rw [Bool.or_eq_true, not_or, decide_eq_true_iff] at ready
      obtain ⟨decodes, valid⟩ := ready
      rw [Bool.not_eq_true, Bool.not_eq_false'] at valid
      -- the arrival time is no part of what is followed
      have arrived : Agrees { client with lastChunkUs := nowUs } stage := agreed
      have opens := openStream_followed { client with lastChunkUs := nowUs } stage arrived linked
        decodes valid
      obtain ⟨decoder, connected, active⟩ :=
        openStream_decoder { client with lastChunkUs := nowUs }
      rw [decoder]
      obtain ⟨codec, followed⟩ := client.decoder.chunkOutputs_followed turns
        (readBytes buffer.memory (buffer.parseWireChunk .start).2.payload
          (buffer.parseWireChunk .start).2.payloadLen)
        (buffer.parseWireChunk .start).2.timestamp.toUs
      exact ⟨_, Conformance.follows_append _ opens followed, connected.trans linked, active,
        decodes, codec, rfl⟩

theorem step_followed (setup : Setup) (client : Client decoders) (stage : Stage)
    (event : LinkEvent) (agreed : client.Agrees stage) (allowed : client.Allowed event) :
    ∃ last, Conformance.Follows Move stage (client.step setup event).2 last ∧
      (client.step setup event).1.Agrees last := by
  cases event with
  | connect =>
      cases stage with
      | offline => exact ⟨.idle, Conformance.follows_single _ .connected, rfl, agreed.2⟩
      | idle => exact Bool.noConfusion (agreed.1.symm.trans allowed)
      | streaming codec params => exact Bool.noConfusion (agreed.1.symm.trans allowed)
  | received handler buffer nowUs =>
      have linked : client.connected = true := allowed
      cases handler with
      | wireChunk =>
          exact client.handleWireChunk_followed setup.turns buffer nowUs stage agreed linked
      | time => exact ⟨stage, rfl, agreed⟩
      | codecHeader =>
          rw [step, receive, handleCodecHeader]
          split
          · rw [setStreamActive_false]
            exact ⟨.idle, client.end_followed stage agreed linked, linked, rfl⟩
          · exact ⟨stage, rfl, agreed⟩
      | serverSettings =>
          rw [step, receive]
          cases setup.parseSettings buffer with
          | none => exact ⟨stage, rfl, agreed⟩
          | some settings =>
              refine ⟨stage, Conformance.follows_single _ ?_, agreed⟩
              cases stage with
              | offline => exact Bool.noConfusion (agreed.1.symm.trans linked)
              | idle => exact .settings settings
              | streaming codec params => exact .settingsStreaming codec params settings
      | unhandled => exact ⟨stage, rfl, agreed⟩
  | serviceTx nowUs =>
      have linked : client.connected = true := allowed
      rw [step, serviceTx]
      cases client.idleLimitUs setup with
      | none => exact ⟨stage, rfl, agreed⟩
      | some limitUs =>
          dsimp only
          split
          · rw [setStreamActive_false]
            exact ⟨.idle, client.end_followed stage agreed linked, linked, rfl⟩
          · exact ⟨stage, rfl, agreed⟩
  | finish =>
      have linked : client.connected = true := allowed
      rw [step, finish, setStreamActive_false]
      refine ⟨.offline, ?_, rfl, rfl⟩
      exact Conformance.follows_append _ (client.end_followed stage agreed linked)
        (Conformance.follows_single _ .disconnected)

def starts (outputs : List Output) : Nat :=
  outputs.countP fun output =>
    match output with
    | .posted (.streamStart _) => true
    | _ => false

theorem starts_ended (client : Client decoders) :
    starts (if client.streamActive then [.posted .streamEnd] else []) = 0 := by
  cases client.streamActive with
  | false => rfl
  | true => rfl

theorem starts_of_unposted (outputs : List Output)
    (unposted : ∀ output ∈ outputs, ∀ event, output ≠ .posted event) : starts outputs = 0 := by
  rw [starts, List.countP_eq_zero]
  intro output member
  cases output with
  | posted event => exact absurd rfl (unposted _ member event)
  | emitted block => exact Bool.false_ne_true
  | announced params => exact Bool.false_ne_true

theorem starts_append (first second : List Output) :
    starts (first ++ second) = starts first + starts second := List.countP_append

theorem openStream_epoch (client : Client decoders) :
    client.openStream.1.sessionEpoch =
      client.sessionEpoch + UInt32.ofNat (starts client.openStream.2) := by
  rw [openStream_eq]
  split
  · exact (UInt32.add_zero _).symm
  · rfl

theorem step_epoch (setup : Setup) (client : Client decoders) (event : LinkEvent) :
    (client.step setup event).1.sessionEpoch =
      client.sessionEpoch + UInt32.ofNat (starts (client.step setup event).2) := by
  have unchanged : client.sessionEpoch = client.sessionEpoch + UInt32.ofNat 0 :=
    (UInt32.add_zero _).symm
  cases event with
  | connect => exact unchanged
  | received handler buffer nowUs =>
      cases handler with
      | wireChunk =>
          rw [step, receive, handleWireChunk]
          dsimp only
          split
          · exact unchanged
          · split
            · exact unchanged
            · rw [starts_append, starts_of_unposted _ (StreamDecoder.chunkOutputs_unposted _ _ _ _),
                Nat.add_zero]
              exact openStream_epoch { client with lastChunkUs := nowUs }
      | time => exact unchanged
      | codecHeader =>
          rw [step, receive, handleCodecHeader]
          split
          · rw [setStreamActive_false]
            dsimp only
            rw [starts_ended]
            exact unchanged
          · exact unchanged
      | serverSettings =>
          rw [step, receive]
          cases setup.parseSettings buffer with
          | none => exact unchanged
          | some settings => exact unchanged
      | unhandled => exact unchanged
  | serviceTx nowUs =>
      rw [step, serviceTx]
      cases client.idleLimitUs setup with
      | none => exact unchanged
      | some limitUs =>
          dsimp only
          split
          · rw [setStreamActive_false]
            dsimp only
            rw [starts_ended]
            exact unchanged
          · exact unchanged
  | finish =>
      rw [step, finish, setStreamActive_false]
      dsimp only
      rw [starts_append, starts_ended]
      exact unchanged

theorem outputs_nil (setup : Setup) (client : Client decoders) :
    client.outputs setup [] = [] := rfl

theorem outputs_cons (setup : Setup) (client : Client decoders) (event : LinkEvent)
    (rest : List LinkEvent) :
    client.outputs setup (event :: rest) =
      (client.step setup event).2 ++ (client.step setup event).1.outputs setup rest := rfl

theorem run_epoch (setup : Setup) (client : Client decoders) (events : List LinkEvent) :
    (Conformance.run (step setup) client events).sessionEpoch =
      client.sessionEpoch + UInt32.ofNat (starts (client.outputs setup events)) := by
  induction events generalizing client with
  | nil => exact (UInt32.add_zero _).symm
  | cons event rest ih =>
      have later := ih (client.step setup event).1
      rw [step_epoch, UInt32.add_assoc, ← UInt32.ofNat_add] at later
      rw [outputs_cons, starts_append]
      exact later

theorem outputs_timeout (setup : Setup) (timeoutMs : Nat) (client : Client decoders)
    (events : List LinkEvent)
    (allowed : Run.Along (Unwinding.next (step setup)) Allowed client events) :
    client.outputs { setup with streamIdleTimeoutMs := timeoutMs } events =
      client.outputs setup events := by
  induction events generalizing client with
  | nil => rw [outputs_nil, outputs_nil]
  | cons event rest ih =>
      have same : client.step { setup with streamIdleTimeoutMs := timeoutMs } event =
          client.step setup event := by
        cases event with
        | connect => rfl
        | received handler buffer nowUs => rfl
        | serviceTx nowUs =>
            have linked : client.connected = true := allowed.1
            have connected : client.connected ≠ false := by
              rw [linked]
              exact Bool.noConfusion
            rw [step, step, serviceTx, serviceTx, idleLimitUs, idleLimitUs, if_neg connected,
              if_neg connected]
        | finish => rfl
      rw [outputs_cons, outputs_cons, same]
      exact congrArg _ (ih _ allowed.2)

theorem run_agrees (setup : Setup) (events : List LinkEvent)
    (allowed : Run.Along (Unwinding.next (step setup)) Allowed (boot : Client decoders) events) :
    ∃ stage, Conformance.Follows Move .offline
        ((boot : Client decoders).outputs setup events) stage ∧
      (run setup events : Client decoders).Agrees stage :=
  Conformance.trace_followed (step setup) Move Agrees Allowed
    (step_followed setup) boot .offline events ⟨rfl, rfl⟩ allowed

/-- Over any connections the main loop is told of them and of their streams properly nested, with
audio in streams of a valid format only; every start is a new epoch; and the idle timeout that is
meant for a disconnected client has no effect. -/
theorem stream_lifecycle (setup : Setup) (events : List LinkEvent)
    (allowed : Run.Along (Unwinding.next (step setup)) Allowed (boot : Client decoders) events) :
    let client : Client decoders := run setup events
    let outputs := (boot : Client decoders).outputs setup events
    (∃ stage, Conformance.Follows Move .offline outputs stage ∧
        client.Agrees stage) ∧
      client.sessionEpoch = UInt32.ofNat (starts outputs) ∧
      ∀ timeoutMs, (boot : Client decoders).outputs
        { setup with streamIdleTimeoutMs := timeoutMs } events = outputs := by
  intro client outputs
  refine ⟨run_agrees setup events allowed, ?_, ?_⟩
  · exact (run_epoch setup boot events).trans (UInt32.zero_add _)
  · intro timeoutMs
    exact outputs_timeout setup timeoutMs boot events allowed

def pcmStereo : Buffer :=
  { memory := memoryAt 4096 (pcmHeaderBytes 2 0)
    data := 4096
    size := 55
    fits := by decide }

theorem pcmStereo_read : (pcmStereo.parseCodecHeader .start).1 = true := by decide +kernel

def oneFrame : Buffer :=
  { memory := memoryAt 4096 ([1, 0, 0, 0, 0, 0, 0, 0, 4, 0, 0, 0] ++ [1, 2, 3, 4])
    data := 4096
    size := 16
    fits := by decide }

def plainSetup : Setup :=
  { streamIdleTimeoutMs := 3000
    keepaliveHoldMs := 60000
    turns := 0
    parseSettings := fun _ => none }

def heldThenResumed : List LinkEvent :=
  [.connect, .received .codecHeader pcmStereo 10, .received .wireChunk oneFrame 20,
    .serviceTx 60000021, .received .wireChunk oneFrame 60000030, .finish, .connect]

theorem stream_lifecycle_resumed :
    let client : Client noDecoders := run plainSetup heldThenResumed
    let outputs := (boot : Client noDecoders).outputs plainSetup heldThenResumed
    (∃ stage, Conformance.Follows Move .offline outputs stage ∧
        client.Agrees stage) ∧
      client.sessionEpoch = UInt32.ofNat (starts outputs) ∧
      ∀ timeoutMs, (boot : Client noDecoders).outputs
        { plainSetup with streamIdleTimeoutMs := timeoutMs } heldThenResumed = outputs :=
  stream_lifecycle plainSetup heldThenResumed (by decide +kernel)

example :
    (boot : Client noDecoders).outputs plainSetup heldThenResumed =
      [.posted .connected, .posted (.streamStart ⟨48000, 16, 2⟩),
        .emitted ⟨[1, 2, 3, 4], 1000000, ⟨48000, 16, 2⟩⟩, .posted .streamEnd,
        .posted (.streamStart ⟨48000, 16, 2⟩), .emitted ⟨[1, 2, 3, 4], 1000000, ⟨48000, 16, 2⟩⟩,
        .posted .streamEnd, .posted .disconnected, .posted .connected] := by
  decide +kernel

end Client

end Protocol
