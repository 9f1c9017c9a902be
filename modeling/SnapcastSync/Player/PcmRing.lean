import SnapcastSync.Lib.Conveyor
import SnapcastSync.Player.Loop

/-! The PCM between the decoder and the player: `emit_pcm_` writes a chunk into the ring and then
posts its record, the player takes a record and then the bytes off the ring. The two tasks are
stepped in any order, each between two calls on the ring, the record queue or a counter. Of the
ring only that it is a byte queue is used: a call moves any number of bytes up to what is asked
for and what there is or fits. -/

namespace Player

def recordQueueLength : Nat := 160
def emitRoomWaitMaxUs : Int := 2000000

/-- `ChunkRecord` with what the record queue carries beside the format. -/
structure PcmRecord extends ChunkRecord where
  serverTsUs : Int
  arrivalUs : Int
deriving DecidableEq, Repr

/-- What the decoder hands to `emit_pcm_`, with the format and arrival it reads itself. -/
structure PcmChunk where
  data : List UInt8
  serverTsUs : Int
  frameBytes : Nat
  sampleRate : Nat
  arrivalUs : Int
deriving DecidableEq, Repr

def PcmChunk.record (chunk : PcmChunk) : PcmRecord :=
  { bytes := chunk.data.length
    frameBytes := chunk.frameBytes
    sampleRate := chunk.sampleRate
    serverTsUs := chunk.serverTsUs
    arrivalUs := chunk.arrivalUs }

/-- Where `emit_pcm_` stands. -/
inductive EmitPoint where
  | idle
  | room (chunk : PcmChunk)
  | writing (chunk : PcmChunk) (written : Nat)
  | counting (chunk : PcmChunk) (written : Nat)
  | posting (chunk : PcmChunk)
deriving DecidableEq, Repr

/-- Where the player stands: the record it has taken, the locals of `discard_ring_bytes_` and of
`push_chunk_` with the slice buffer as it was read. -/
inductive PlayPoint where
  | idle
  | deciding (record : PcmRecord)
  | discarding (record : PcmRecord) (bytes : Nat)
  | countingDiscard (record : PcmRecord) (bytes n : Nat)
  | slicing (record : PcmRecord) (remaining skip done : Nat)
  | reading (record : PcmRecord) (remaining skip done : Nat) (slice : List UInt8)
  | countingRead (record : PcmRecord) (remaining skip done : Nat) (slice : List UInt8) (n : Nat)
  | writing (record : PcmRecord) (remaining skip done : Nat) (slice : List UInt8)
      (offset zeroWrites : Nat)
  | stopped
deriving DecidableEq, Repr

structure AudioWrite where
  record : PcmRecord
  position : Nat
  bytes : List UInt8
deriving DecidableEq, Repr

/-- What a turn of `emit_pcm_` finds: the flags, the clock and how the ring takes a write. -/
structure EmitTurn where
  outputActive : Bool
  streamActive : Bool
  waitedUs : Int
  accepted : Nat
deriving DecidableEq, Repr

/-- What the player loop does with a record: the paths that give it up (no frame size, no output,
an injected starvation, no timebase, a first deadline that is past or too far off, a late hard
resync), and the pushes. -/
inductive Verdict where
  | discard
  | push (dropFrames : Nat)
deriving DecidableEq, Repr

/-- What a turn of the player finds: its decision on a record, how many bytes the ring gives,
whether a write goes out and how many bytes the speaker takes. -/
structure PlayTurn where
  verdict : Verdict
  given : Nat
  active : Bool
  accepted : Nat
deriving DecidableEq, Repr

/-- The ring, the record queue and the counters, with the two tasks. Beside them stand the chunks
as they were laid into the ring, the record in hand with the bytes removed for it, and what was
emitted, finished and written. -/
structure PcmRing where
  capacity : Nat
  ring : List UInt8
  queue : List PcmRecord
  emit : EmitPoint
  play : PlayPoint
  shutdown : Bool
  pcmInBytes : Nat
  pcmOutBytes : Nat
  pcmDiscardBytes : Nat
  belt : Conveyor UInt8
  hand : Option PcmRecord
  removed : List UInt8
  emitted : List (PcmRecord × List UInt8)
  finished : List (PcmRecord × List UInt8)
  audio : List AudioWrite

inductive PcmEvent where
  | emitPcm (chunk : PcmChunk)
  | emitTurn (turn : EmitTurn)
  | playTurn (turn : PlayTurn)
  | shutdown

namespace PcmRing

def start (capacity : Nat) : PcmRing :=
  { capacity := capacity
    ring := []
    queue := []
    emit := .idle
    play := .idle
    shutdown := false
    pcmInBytes := 0
    pcmOutBytes := 0
    pcmDiscardBytes := 0
    belt := Conveyor.empty
    hand := none
    removed := []
    emitted := []
    finished := []
    audio := [] }

/-- `write_without_replacement`. -/
def ringWrite (state : PcmRing) (items : List UInt8) : PcmRing :=
  { state with
    ring := state.ring ++ items
    belt := state.belt.write items }

/-- `read`. -/
def ringRead (state : PcmRing) (count : Nat) : PcmRing :=
  { state with
    ring := state.ring.drop count
    belt := state.belt.read count
    removed := state.removed ++ state.ring.take count }

def postRecord (state : PcmRing) (chunk : PcmChunk) : PcmRing :=
  { state with
    queue := state.queue ++ [chunk.record]
    belt := state.belt.post
    emitted := state.emitted ++ [(chunk.record, chunk.data)] }

def takeRecord (state : PcmRing) (record : PcmRecord) (later : List PcmRecord) : PcmRing :=
  { state with
    queue := later
    belt := state.belt.take
    hand := some record
    removed := [] }

def finish (state : PcmRing) (record : PcmRecord) (bytes : Nat) : PcmRing :=
  if bytes = 0 then
    { state with
      play := .idle
      hand := none
      finished := state.finished ++ [(record, state.removed)] }
  else { state with play := .idle }

/-- A call of `emit_pcm_`, up to its wait for room. -/
def emitPcm (state : PcmRing) (chunk : PcmChunk) : PcmRing :=
  match state.emit with
  | .idle => if chunk.data.length = 0 then state else { state with emit := .room chunk }
  | _ => state

def emitTurn (state : PcmRing) (turn : EmitTurn) : PcmRing :=
  match state.emit with
  | .idle => state
  | .room chunk =>
      if state.capacity - state.ring.length < chunk.data.length ∧ state.shutdown = false then
        if turn.outputActive = false ∧ turn.streamActive = false ∨
            emitRoomWaitMaxUs < turn.waitedUs then
          { state with emit := .idle }
        else state
      else { state with emit := .writing chunk 0 }
  | .writing chunk written =>
      if written < chunk.data.length ∧ state.shutdown = false then
        let n := min turn.accepted
          (min (chunk.data.length - written) (state.capacity - state.ring.length))
        { state.ringWrite ((chunk.data.drop written).take n) with
          emit := .writing chunk (written + n) }
      else { state with emit := .counting chunk written }
  | .counting chunk written =>
      { state with
        pcmInBytes := state.pcmInBytes + written
        emit := if written < chunk.data.length then .idle else .posting chunk }
  | .posting chunk =>
      if state.queue.length < recordQueueLength then
        { state.postRecord chunk with emit := .idle }
      else if state.shutdown then { state with emit := .idle }
      else state

def playTurn (state : PcmRing) (turn : PlayTurn) : PcmRing :=
  match state.play with
  | .idle =>
      if state.shutdown then { state with play := .stopped }
      else
        match state.queue with
        | [] => state
        | record :: later => { state.takeRecord record later with play := .deciding record }
  | .deciding record =>
      match turn.verdict with
      | .discard => { state with play := .discarding record record.bytes }
      | .push dropFrames =>
          if record.frameBytes = 0 then { state with play := .discarding record record.bytes }
          else
            { state with
              play := .slicing record record.bytes
                (min (dropFrames * record.frameBytes) record.bytes) 0 }
  | .discarding record bytes =>
      if 0 < bytes ∧ state.shutdown = false then
        let n := min turn.given (min (min bytes sliceBufferSize) state.ring.length)
        { state.ringRead n with play := .countingDiscard record (bytes - n) n }
      else state.finish record bytes
  | .countingDiscard record bytes n =>
      { state with
        pcmDiscardBytes := state.pcmDiscardBytes + n
        play := .discarding record bytes }
  | .slicing record remaining skip done =>
      if 0 < remaining ∧ state.shutdown = false then
        { state with play := .reading record remaining skip done [] }
      else state.finish record remaining
  | .reading record remaining skip done slice =>
      let want := min remaining sliceBufferSize
      if slice.length < want ∧ state.shutdown = false then
        let n := min turn.given (min (want - slice.length) state.ring.length)
        { state.ringRead n with
          play := .countingRead record remaining skip done (slice ++ state.ring.take n) n }
      else
        { state with
          play := .writing record (remaining - slice.length) (skip - min skip slice.length) done
            slice (min skip slice.length) 0 }
  | .countingRead record remaining skip done slice n =>
      { state with
        pcmOutBytes := state.pcmOutBytes + n
        play := .reading record remaining skip done slice }
  | .writing record remaining skip done slice offset zeroWrites =>
      if offset < slice.length then
        if turn.active = false ∨ state.shutdown = true then
          { state with play := .discarding record remaining }
        else
          let written := min turn.accepted (slice.length - offset)
          if 0 < written then
            { state with
              play := .writing record remaining skip done slice (offset + written) 0
              audio := state.audio ++ [⟨record, done + offset, (slice.drop offset).take written⟩] }
          else if refusedWrites ≤ zeroWrites + 1 then
            { state with play := .discarding record remaining }
          else { state with play := .writing record remaining skip done slice offset (zeroWrites + 1) }
      else { state with play := .slicing record remaining skip (done + slice.length) }
  | .stopped => state

def step (state : PcmRing) : PcmEvent → PcmRing
  | .emitPcm chunk => state.emitPcm chunk
  | .emitTurn turn => state.emitTurn turn
  | .playTurn turn => state.playTurn turn
  | .shutdown => { state with shutdown := true }

end PcmRing

end Player
