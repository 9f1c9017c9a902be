import SnapcastSync.Protocol.Views

/-! The codec header and the decoding of the chunks after it. The decoders are libraries, and with
the allocator they are a parameter; `emit_pcm_` is left at what it is called with. -/

namespace Protocol

structure StreamParams where
  sampleRate : UInt32
  bitsPerSample : UInt8
  channels : UInt8
deriving DecidableEq, Repr

namespace StreamParams

def none : StreamParams :=
  { sampleRate := 0
    bitsPerSample := 0
    channels := 0 }

def frameBytes (params : StreamParams) : UInt32 :=
  params.channels.toUInt32 * (params.bitsPerSample / 8).toUInt32

def valid (params : StreamParams) : Bool :=
  params.sampleRate != 0 && params.bitsPerSample != 0 && params.channels != 0

end StreamParams

inductive Codec where
  | none
  | pcm
  | flac
  | opus
deriving DecidableEq, Repr

inductive FlacDecoderResult where
  | success
  | headerReady
  | outputTooSmall
  | needMoreData
  | failed
deriving DecidableEq, Repr

structure FlacDecoded (State : Type) where
  decoder : State
  result : FlacDecoderResult
  bytesConsumed : Nat
  samplesDecoded : Nat
  output : List UInt8

structure FlacInfo where
  sampleRate : UInt32
  bitsPerSample : UInt32
  numChannels : UInt32
  bytesPerSample : UInt32

/-- A call of either Opus function that reports an error is `none`. -/
structure Decoders where
  Flac : Type
  flacFresh : Flac
  flacDecode : Flac → List UInt8 → Nat → FlacDecoded Flac
  flacInfo : Flac → FlacInfo
  flacBufferSamples : Flac → Nat
  Opus : Type
  opusCreate : UInt32 → UInt16 → Option Opus
  opusDecode : Opus → List UInt8 → Nat → Opus × Option (Nat × List UInt8)
  allocates : Nat → Bool

/-- A call of `emit_pcm_`, with the format that it reads. -/
structure Block where
  data : List UInt8
  serverTsUs : Int
  params : StreamParams
deriving DecidableEq, Repr

structure StreamDecoder (decoders : Decoders) where
  codec : Codec
  streamParams : StreamParams
  flacDecoder : Option decoders.Flac
  flacHeaderDone : Bool
  flacInput : List UInt8
  flacOutputSize : Nat
  opusDecoder : Option decoders.Opus
  opusOutputSamples : Nat

def readBytes (memory : Memory) (address length : UInt32) : List UInt8 :=
  (List.range length.toNat).map fun offset => memory (address + UInt32.ofNat offset)

def ascii (name : String) : List UInt8 := name.toList.map fun char => UInt8.ofNat char.toNat

def CodecHeaderView.codecIs (memory : Memory) (header : CodecHeaderView) (name : String) : Bool :=
  decide ((ascii name).length = header.codecLen.toNat) &&
    decide (ascii name = readBytes memory header.codec header.codecLen)

def opusHeaderSize : UInt32 := 12
def opusHeaderMagic : UInt32 := 0x4F505553
def opusMaxPacketMs : Nat := 120

def opusRates : List UInt32 := [8000, 12000, 16000, 24000, 48000]

def pcmParams (memory : Memory) (p : UInt32) : StreamParams :=
  { sampleRate := readU32 memory (p + 24)
    bitsPerSample := (readU16 memory (p + 34)).toUInt8
    channels := (readU16 memory (p + 22)).toUInt8 }

namespace StreamDecoder

variable {decoders : Decoders}

def start : StreamDecoder decoders :=
  { codec := .none
    streamParams := .none
    flacDecoder := none
    flacHeaderDone := false
    flacInput := []
    flacOutputSize := 0
    opusDecoder := none
    opusOutputSamples := 0 }

/-- Where the loop of `decode_flac_input_` stands after a turn. -/
structure FlacLoop (decoders : Decoders) where
  client : StreamDecoder decoders
  offset : Nat
  blocks : List Block
  finished : Bool

def decodeFlacTurn (client : StreamDecoder decoders) (decoder : decoders.Flac)
    (serverTsUs : Int) (offset : Nat) : FlacLoop decoders :=
  let decoded :=
    decoders.flacDecode decoder (client.flacInput.drop offset) client.flacOutputSize
  let info := decoders.flacInfo decoded.decoder
  let outputSize := decoders.flacBufferSamples decoded.decoder * info.bytesPerSample.toNat
  let client := { client with flacDecoder := some decoded.decoder }
  match decoded.result with
  | .success =>
      let bytes := decoded.samplesDecoded * (client.streamParams.bitsPerSample / 8).toNat
      { client := client
        offset := offset + decoded.bytesConsumed
        blocks :=
          if 0 < decoded.samplesDecoded ∧ 0 ≤ serverTsUs then
            [⟨decoded.output.take bytes, serverTsUs, client.streamParams⟩]
          else []
        finished := false }
  | .headerReady =>
      { client :=
          { client with
            streamParams :=
              { sampleRate := info.sampleRate
                bitsPerSample := info.bitsPerSample.toUInt8
                channels := info.numChannels.toUInt8 }
            flacOutputSize := outputSize
            flacHeaderDone := true }
        offset := offset + decoded.bytesConsumed
        blocks := []
        finished := false }
  | .outputTooSmall =>
      { client := { client with flacOutputSize := outputSize }
        offset := offset
        blocks := []
        finished := false }
  | .needMoreData =>
      { client := client
        offset := offset + decoded.bytesConsumed
        blocks := []
        finished := true }
  | .failed =>
      { client := client
        offset := client.flacInput.length
        blocks := []
        finished := true }

/-- The first turns of the loop; it may take more of them than any bound. -/
def decodeFlacLoop (serverTsUs : Int) : Nat → StreamDecoder decoders → Nat → FlacLoop decoders
  | 0, client, offset => ⟨client, offset, [], decide (client.flacInput.length ≤ offset)⟩
  | turns + 1, client, offset =>
      match client.flacDecoder with
      | none => ⟨client, offset, [], true⟩
      | some decoder =>
          if offset < client.flacInput.length then
            let turn := client.decodeFlacTurn decoder serverTsUs offset
            if turn.finished then turn
            else
              let later := decodeFlacLoop serverTsUs turns turn.client turn.offset
              { later with blocks := turn.blocks ++ later.blocks }
          else ⟨client, offset, [], true⟩

def decodeFlacInput (client : StreamDecoder decoders) (turns : Nat) (serverTsUs : Int) :
    FlacLoop decoders :=
  let decoded := decodeFlacLoop serverTsUs turns client 0
  if decoded.finished then
    { decoded with
      client :=
        { decoded.client with flacInput := decoded.client.flacInput.drop decoded.offset } }
  else decoded

def decodeOpusPacket (client : StreamDecoder decoders) (data : List UInt8) (serverTsUs : Int) :
    StreamDecoder decoders × List Block :=
  match client.opusDecoder with
  | none => (client, [])
  | some decoder =>
      let maxFrames := client.opusOutputSamples / client.streamParams.channels.toNat
      let decoded := decoders.opusDecode decoder data maxFrames
      let client := { client with opusDecoder := some decoded.1 }
      match decoded.2 with
      | none => (client, [])
      | some (frames, output) =>
          let bytes := frames * client.streamParams.channels.toNat * 2
          (client, [⟨output.take bytes, serverTsUs, client.streamParams⟩])

def pcmHeader (client : StreamDecoder decoders) (memory : Memory) (header : CodecHeaderView) :
    StreamDecoder decoders :=
  if header.payloadLen < 44 then client
  else
    let client := { client with streamParams := pcmParams memory header.payload }
    if !client.streamParams.valid || client.streamParams.bitsPerSample != 16 then
      { client with streamParams := .none }
    else { client with codec := .pcm }

def flacHeader (client : StreamDecoder decoders) (turns : Nat) (memory : Memory)
    (header : CodecHeaderView) : StreamDecoder decoders :=
  let decoded :=
    { client with
      flacDecoder := some decoders.flacFresh
      flacHeaderDone := false
      flacInput := readBytes memory header.payload header.payloadLen
      flacOutputSize := 0 }.decodeFlacInput turns (-1)
  if !decoded.finished then decoded.client
  else if decoded.client.flacHeaderDone then { decoded.client with codec := .flac }
  else { decoded.client with flacDecoder := none }

def opusHeader (client : StreamDecoder decoders) (memory : Memory) (header : CodecHeaderView) :
    StreamDecoder decoders :=
  if header.payloadLen < opusHeaderSize then client
  else if readU32 memory header.payload ≠ opusHeaderMagic then client
  else
    let rate := readU32 memory (header.payload + 4)
    let bits := readU16 memory (header.payload + 8)
    let channels := readU16 memory (header.payload + 10)
    if rate ∉ opusRates ∨ bits ≠ 16 ∨ channels < 1 ∨ 2 < channels then client
    else
      let samples := rate.toNat / 1000 * opusMaxPacketMs * channels.toNat
      match decoders.opusCreate rate channels with
      | none => { client with streamParams := .none }
      | some decoder =>
          if decoders.allocates samples then
            { client with
              codec := .opus
              streamParams :=
                { sampleRate := rate
                  bitsPerSample := bits.toUInt8
                  channels := channels.toUInt8 }
              opusDecoder := some decoder
              opusOutputSamples := samples }
          else { client with streamParams := .none }

/-- `handle_codec_header_`, with both optional decoders built in. -/
def handleCodecHeader (client : StreamDecoder decoders) (turns : Nat) (memory : Memory)
    (payload len : UInt32) : StreamDecoder decoders :=
  let parsed := CodecHeaderView.parse memory payload len .start
  if parsed.1 then
    let client :=
      { client with
        codec := .none
        streamParams := .none
        opusDecoder := none
        opusOutputSamples := 0 }
    if parsed.2.codecIs memory "pcm" then client.pcmHeader memory parsed.2
    else if parsed.2.codecIs memory "flac" then client.flacHeader turns memory parsed.2
    else if parsed.2.codecIs memory "opus" then client.opusHeader memory parsed.2
    else client
  else client

end StreamDecoder

structure SampleFormat where
  sampleRate : Nat
  bitsPerSample : Nat
  channels : Nat
deriving DecidableEq, Repr

def StreamParams.format (params : StreamParams) : SampleFormat :=
  { sampleRate := params.sampleRate.toNat
    bitsPerSample := params.bitsPerSample.toNat
    channels := params.channels.toNat }

def memoryField (memory : Memory) (address length : UInt32) : Nat :=
  Words.littleEndian (readBytes memory address length)

def pcmFormat (memory : Memory) (p : UInt32) : SampleFormat :=
  { sampleRate := memoryField memory (p + 24) 4
    bitsPerSample := memoryField memory (p + 34) 2
    channels := memoryField memory (p + 22) 2 }

def opusFormat (memory : Memory) (p : UInt32) : SampleFormat :=
  { sampleRate := memoryField memory (p + 4) 4
    bitsPerSample := memoryField memory (p + 8) 2
    channels := memoryField memory (p + 10) 2 }

def SampleFormat.Fits (format : SampleFormat) : Prop :=
  format.bitsPerSample < 256 ∧ format.channels < 256

/-- What a header installs is what it writes, and that fits. -/
def StreamDecoder.TakesAtFaceValue {decoders : Decoders} (client : StreamDecoder decoders)
    (turns : Nat) (memory : Memory) (payload len : UInt32) : Prop :=
  let parsed := CodecHeaderView.parse memory payload len .start
  let after := client.handleCodecHeader turns memory payload len
  parsed.1 = true →
    (after.codec = .pcm →
        after.streamParams.format = pcmFormat memory parsed.2.payload ∧
          (pcmFormat memory parsed.2.payload).Fits) ∧
      (after.codec = .opus →
        after.streamParams.format = opusFormat memory parsed.2.payload ∧
          (opusFormat memory parsed.2.payload).Fits)

/-- A PCM header whose low bytes are a format that is taken, and whose high bytes are not all
zero. -/
def TruncatesIntoFormat (memory : Memory) (payload len : UInt32) : Prop :=
  let parsed := CodecHeaderView.parse memory payload len .start
  let format := pcmFormat memory parsed.2.payload
  parsed.1 = true ∧ parsed.2.codecIs memory "pcm" = true ∧ 44 ≤ parsed.2.payloadLen ∧
    format.sampleRate ≠ 0 ∧ format.bitsPerSample % 256 = 16 ∧ format.channels % 256 ≠ 0 ∧
    ¬ format.Fits

theorem memoryField_word (memory : Memory) (address : UInt32) :
    memoryField memory address 4 = (readU32 memory address).toNat := by
  rw [readU32, Words.word_toNat]
  simp [memoryField, readBytes, List.range_succ]

theorem memoryField_halfWord (memory : Memory) (address : UInt32) :
    memoryField memory address 2 = (readU16 memory address).toNat := by
  rw [readU16, Words.halfWord_toNat]
  simp [memoryField, readBytes, List.range_succ]

theorem pcmParams_format (memory : Memory) (p : UInt32) :
    (pcmParams memory p).format =
      { sampleRate := (pcmFormat memory p).sampleRate
        bitsPerSample := (pcmFormat memory p).bitsPerSample % 256
        channels := (pcmFormat memory p).channels % 256 } := by
  simp only [pcmParams, pcmFormat, StreamParams.format, memoryField_word, memoryField_halfWord,
    UInt16.toNat_toUInt8]

theorem pcmParams_accepted_iff (memory : Memory) (p : UInt32) :
    (!(pcmParams memory p).valid || (pcmParams memory p).bitsPerSample != 16) = false ↔
      (pcmFormat memory p).sampleRate ≠ 0 ∧ (pcmFormat memory p).bitsPerSample % 256 = 16 ∧
        (pcmFormat memory p).channels % 256 ≠ 0 := by
  have format := pcmParams_format memory p
  simp only [StreamParams.format, SampleFormat.mk.injEq] at format
  obtain ⟨rate, bits, channels⟩ := format
  rw [← rate, ← bits, ← channels]
  generalize pcmParams memory p = params
  simp only [StreamParams.valid, Bool.or_eq_false_iff, Bool.not_eq_false', Bool.and_eq_true,
    bne_iff_ne, ne_eq, bne_eq_false_iff_eq, ← UInt32.toNat_inj, ← UInt8.toNat_inj]
  change ((_ ∧ _) ∧ _) ∧ params.bitsPerSample.toNat = 16 ↔ _
  constructor
  · rintro ⟨⟨⟨rated, _⟩, channelled⟩, sixteen⟩
    exact ⟨rated, sixteen, channelled⟩
  · rintro ⟨rated, sixteen, channelled⟩
    refine ⟨⟨⟨rated, ?_⟩, channelled⟩, sixteen⟩
    rw [sixteen]
    decide

namespace StreamDecoder

variable {decoders : Decoders}

theorem decodeFlacTurn_codec (client : StreamDecoder decoders) (decoder : decoders.Flac)
    (serverTsUs : Int) (offset : Nat) :
    (client.decodeFlacTurn decoder serverTsUs offset).client.codec = client.codec := by
  rw [decodeFlacTurn]
  dsimp only
  split <;> rfl

theorem decodeFlacLoop_codec (serverTsUs : Int) (turns : Nat) (client : StreamDecoder decoders)
    (offset : Nat) : (decodeFlacLoop serverTsUs turns client offset).client.codec = client.codec := by
  induction turns generalizing client offset with
  | zero => rfl
  | succ turns ih =>
      rw [decodeFlacLoop]
      split
      · rfl
      · rename_i decoder found
        have turn := client.decodeFlacTurn_codec decoder serverTsUs offset
        by_cases more : offset < client.flacInput.length
        · rw [if_pos more]
          dsimp only
          split
          · exact turn
          · exact (ih _ _).trans turn
        · rw [if_neg more]

theorem decodeFlacInput_codec (client : StreamDecoder decoders) (turns : Nat)
    (serverTsUs : Int) : (client.decodeFlacInput turns serverTsUs).client.codec = client.codec := by
  rw [decodeFlacInput]
  dsimp only
  split
  · exact decodeFlacLoop_codec serverTsUs turns client 0
  · exact decodeFlacLoop_codec serverTsUs turns client 0

theorem flacHeader_codec (client : StreamDecoder decoders) (turns : Nat) (memory : Memory)
    (header : CodecHeaderView) (reset : client.codec = .none) :
    (client.flacHeader turns memory header).codec = .none ∨
      (client.flacHeader turns memory header).codec = .flac := by
  rw [flacHeader]
  dsimp only
  split
  · left
    rw [decodeFlacInput_codec]
    exact reset
  · split
    · exact Or.inr rfl
    · left
      dsimp only
      rw [decodeFlacInput_codec]
      exact reset

/-- Only a header of low bytes that are a format is taken as PCM. -/
theorem pcmHeader_spec (client : StreamDecoder decoders) (memory : Memory)
    (header : CodecHeaderView) (reset : client.codec = .none) :
    ((client.pcmHeader memory header).codec = .none ∧
        ¬ (44 ≤ header.payloadLen ∧ (pcmFormat memory header.payload).sampleRate ≠ 0 ∧
          (pcmFormat memory header.payload).bitsPerSample % 256 = 16 ∧
          (pcmFormat memory header.payload).channels % 256 ≠ 0)) ∨
      ((client.pcmHeader memory header).codec = .pcm ∧
        (client.pcmHeader memory header).streamParams = pcmParams memory header.payload ∧
        (44 ≤ header.payloadLen ∧ (pcmFormat memory header.payload).sampleRate ≠ 0 ∧
          (pcmFormat memory header.payload).bitsPerSample % 256 = 16 ∧
          (pcmFormat memory header.payload).channels % 256 ≠ 0)) := by
  have accepted := pcmParams_accepted_iff memory header.payload
  rw [pcmHeader]
  by_cases short : header.payloadLen < 44
  · rw [if_pos short]
    exact Or.inl ⟨reset, fun taken => absurd taken.1 (UInt32.not_le.mpr short)⟩
  · rw [if_neg short]
    dsimp only
    cases refused : (!(pcmParams memory header.payload).valid ||
        (pcmParams memory header.payload).bitsPerSample != 16) with
    | true =>
        rw [if_pos rfl]
        refine Or.inl ⟨reset, fun taken => ?_⟩
        rw [accepted.mpr taken.2] at refused
        cases refused
    | false =>
        rw [if_neg Bool.false_ne_true]
        exact Or.inr ⟨rfl, rfl, UInt32.not_lt.mp short, accepted.mp refused⟩

/-- An Opus format is checked before it is narrowed. -/
theorem opusHeader_spec (client : StreamDecoder decoders) (memory : Memory)
    (header : CodecHeaderView) (reset : client.codec = .none) :
    (client.opusHeader memory header).codec = .none ∨
      ((client.opusHeader memory header).codec = .opus ∧
        (client.opusHeader memory header).streamParams.format =
          opusFormat memory header.payload ∧
        (opusFormat memory header.payload).Fits) := by
  have rates := memoryField_word memory (header.payload + 4)
  have widths := memoryField_halfWord memory (header.payload + 8)
  have counts := memoryField_halfWord memory (header.payload + 10)
  rw [opusHeader]
  split
  · exact Or.inl reset
  · split
    · exact Or.inl reset
    · dsimp only
      split
      · exact Or.inl reset
      · rename_i understood
        simp only [not_or, not_not, UInt16.not_lt] at understood
        obtain ⟨_, sixteen, some_, two⟩ := understood
        have few : (readU16 memory (header.payload + 10)).toNat ≤ 2 :=
          UInt16.le_iff_toNat_le.mp two
        have width : (readU16 memory (header.payload + 8)).toNat = 16 := by
          rw [sixteen]
          rfl
        split
        · exact Or.inl reset
        · split
          · refine Or.inr ⟨rfl, ?_, ?_⟩
            · simp only [StreamParams.format, opusFormat, rates, widths, counts,
                UInt16.toNat_toUInt8]
              rw [Nat.mod_eq_of_lt (by omega), Nat.mod_eq_of_lt (by omega)]
            · rw [SampleFormat.Fits, opusFormat]
              dsimp only
              rw [widths, counts]
              omega
          · exact Or.inl reset

theorem takesAtFaceValue_iff (client : StreamDecoder decoders) (turns : Nat) (memory : Memory)
    (payload len : UInt32) :
    client.TakesAtFaceValue turns memory payload len ↔
      ¬ TruncatesIntoFormat memory payload len := by
  rw [TakesAtFaceValue, TruncatesIntoFormat, handleCodecHeader]
  generalize CodecHeaderView.parse memory payload len .start = parsed
  obtain ⟨accepted, header⟩ := parsed
  cases accepted with
  | false => simp
  | true =>
      rw [if_pos rfl]
      dsimp only
      generalize emptied : ({ client with
        codec := .none
        streamParams := .none
        opusDecoder := none
        opusOutputSamples := 0 } : StreamDecoder decoders) = fresh
      have reset : fresh.codec = .none := by rw [← emptied]
      cases named : header.codecIs memory "pcm" with
      | true =>
          rw [if_pos rfl]
          rcases fresh.pcmHeader_spec memory header reset with
            ⟨refused, unfit⟩ | ⟨taken, params, fit⟩
          · rw [refused]
            refine iff_of_true (fun _ => ⟨nofun, nofun⟩) ?_
            rintro ⟨_, _, long, rate, bits, channels, _⟩
            exact unfit ⟨long, rate, bits, channels⟩
          · rw [taken, params, pcmParams_format]
            constructor
            · rintro faced ⟨_, _, _, _, _, _, unfit⟩
              exact unfit ((faced rfl).1 rfl).2
            · intro untruncated _
              refine ⟨fun _ => ?_, nofun⟩
              have fits : (pcmFormat memory header.payload).Fits := by
                by_contra unfit
                exact untruncated ⟨rfl, rfl, fit.1, fit.2.1, fit.2.2.1, fit.2.2.2, unfit⟩
              refine ⟨?_, fits⟩
              rw [Nat.mod_eq_of_lt fits.1, Nat.mod_eq_of_lt fits.2]
      | false =>
          rw [if_neg Bool.false_ne_true]
          refine iff_of_true (fun _ => ?_) nofun
          split
          · rcases fresh.flacHeader_codec turns memory header reset with none_ | flac
            · rw [none_]
              exact ⟨nofun, nofun⟩
            · rw [flac]
              exact ⟨nofun, nofun⟩
          · split
            · rcases fresh.opusHeader_spec memory header reset with none_ | ⟨opus, taken⟩
              · rw [none_]
                exact ⟨nofun, nofun⟩
              · rw [opus]
                exact ⟨nofun, fun _ => taken⟩
            · rw [reset]
              exact ⟨nofun, nofun⟩

end StreamDecoder

def noDecoders : Decoders :=
  { Flac := Unit
    flacFresh := ()
    flacDecode := fun _ _ _ =>
      { decoder := ()
        result := .needMoreData
        bytesConsumed := 0
        samplesDecoded := 0
        output := [] }
    flacInfo := fun _ =>
      { sampleRate := 0
        bitsPerSample := 0
        numChannels := 0
        bytesPerSample := 0 }
    flacBufferSamples := fun _ => 0
    Opus := Unit
    opusCreate := fun _ _ => none
    opusDecode := fun _ _ _ => ((), none)
    allocates := fun _ => false }

def pcmHeaderBytes (channelsLow channelsHigh : UInt8) : List UInt8 :=
  [3, 0, 0, 0] ++ ascii "pcm" ++ [44, 0, 0, 0] ++ List.replicate 22 0 ++
    [channelsLow, channelsHigh, 0x80, 0xBB, 0, 0] ++ List.replicate 6 0 ++ [16, 0] ++
      List.replicate 8 0

def memoryAt (start : UInt32) (bytes : List UInt8) : Memory :=
  fun address => bytes.getD (address - start).toNat 0

/-- 258 channels are taken for two. -/
theorem high_channels_truncated :
    ¬ (StreamDecoder.start : StreamDecoder noDecoders).TakesAtFaceValue 0
      (memoryAt 4096 (pcmHeaderBytes 2 1)) 4096 55 := by
  intro faced
  have taken := (faced (by decide +kernel)).1 (by decide +kernel)
  have channels := congrArg SampleFormat.channels taken.1
  revert channels
  decide +kernel

end Protocol
