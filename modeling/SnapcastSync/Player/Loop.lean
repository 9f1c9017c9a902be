import SnapcastSync.Lib.Run
import SnapcastSync.Player.DepthMirror
import SnapcastSync.Player.Push
import SnapcastSync.Player.TimingStep

/-! The player loop from one chunk record to the next, as far as audio is moved: the error of
the chunk, the engine's decision, the hard resync, the frame command and the push. What is
measured elsewhere (the deadline, the prediction, the tags, the depths, the played frames)
comes in with the record, and one instant stands for the clock reads of a chunk. -/

namespace Player

open Rounding ClockSync Timing

def dlErrStaleUs : Int := 1000000

structure ChunkRecord where
  bytes : Nat
  frameBytes : Nat
  sampleRate : Nat
deriving DecidableEq, Repr

def ChunkRecord.frames (record : ChunkRecord) : Nat := record.bytes / record.frameBytes

/-- The tag error that `delay_measure_` keeps, and until when the tags are distrusted. -/
structure TagReading where
  dlHaveErr : Bool
  dlErrUs : Int
  dlErrAtUs : Int
  tagFaultUntilUs : Int
deriving DecidableEq, Repr

structure Config where
  bufferSize : Nat
  hardResyncThresholdMs : Nat
deriving DecidableEq, Repr

structure ChunkInput (K : Type) where
  record : ChunkRecord
  nowUs : Int
  outputActive : Bool
  starving : Bool
  deadlineUs : Option Int
  predictedUs : Option Int
  tags : TagReading
  resyncWindow : Bool
  blankUs : Int
  tuning : Tuning K
  depths : Depths
  playedFramesTotal : Int
  answer : Option DepthReading
  resyncTurns : List WriteTurn
  commandTurns : List WriteTurn
  chunkTurns : List WriteTurn

namespace ChunkInput

variable {K : Type}

def tagsFresh (input : ChunkInput K) : Bool :=
  input.tags.dlHaveErr && decide (input.nowUs - input.tags.dlErrAtUs < dlErrStaleUs)

def coarseOnTags (input : ChunkInput K) : Bool :=
  input.tagsFresh && decide (input.tags.tagFaultUntilUs ≤ input.nowUs)

def coarseErrUs (input : ChunkInput K) (errorUs : Int) : Int :=
  if input.coarseOnTags then input.tags.dlErrUs else errorUs

def pipelineUs (config : Config) (input : ChunkInput K) : Int :=
  let record := input.record
  let ringCapacityUs : Int :=
    if 0 < record.frameBytes ∧ 0 < record.sampleRate then
      Int.tdiv (config.bufferSize * 1000000) (record.frameBytes * record.sampleRate)
    else 0
  ringCapacityUs + input.depths.pipeDepthUs

def coarsePlausible (config : Config) (input : ChunkInput K) (errorUs : Int) : Bool :=
  let plausibleUs := 4 * pipelineUs config input
  decide (plausibleUs ≤ 0) || decide (|input.coarseErrUs errorUs| ≤ plausibleUs)

def timingInput (input : ChunkInput K) (errorUs : Int) : TimingInput K :=
  { nowUs := input.nowUs
    sampleRate := input.record.sampleRate
    errValid := input.tagsFresh
    errUs := input.coarseErrUs errorUs
    tuning := input.tuning
    depths := input.depths }

def fillFrames (input : ChunkInput K) (errorUs : Int) : Nat :=
  let gapFrames :=
    Int.tdiv (-input.coarseErrUs errorUs * input.record.sampleRate) 1000000
  (min gapFrames (input.record.sampleRate / 2 : Nat)).toNat

end ChunkInput

structure PlayerState (K : Type) where
  timing : TimingState K
  gate : ResyncGate
  recon : DepthRecon
  coarseActUs : Int
  pendingCorrectionId : Nat
  pendingCorrectionAtFrame : Int

/-- What became of a record: how the loop got past the measurement, and every move of audio
that was made for it. -/
structure ChunkMoves (K : Type) where
  command : Option (Command K)
  resync : Option Resync
  resyncSilence : SilencePush
  engineSilence : SilencePush
  chunk : Option SlicePush
  confirmed : Option Nat

/-- A record that leaves the loop before its error is known; its audio is discarded, or
pushed as silence before playback runs. -/
def ChunkMoves.unmeasured {K : Type} (chunk : Option SlicePush) : ChunkMoves K :=
  { command := none
    resync := none
    resyncSilence := SilencePush.none
    engineSilence := SilencePush.none
    chunk := chunk
    confirmed := none }

variable {K : Type} [Field K] [LinearOrder K] [FloorRing K]

namespace PlayerState

def create (tsfSync : Option (TsfSync K)) : PlayerState K :=
  { timing := TimingState.create tsfSync
    gate := ResyncGate.initial
    recon := DepthRecon.initial
    coarseActUs := 0
    pendingCorrectionId := 0
    pendingCorrectionAtFrame := 0 }

def evaluation (state : PlayerState K) (config : Config) (input : ChunkInput K)
    (errorUs : Int) : Evaluation :=
  let onTags := input.coarseOnTags
  { coarseErrUs := input.coarseErrUs errorUs
    coarseAtUs := if onTags then input.tags.dlErrAtUs else state.recon.depthAsOfUs
    hardUs := state.recon.hardUs (config.hardResyncThresholdMs * 1000)
    coarsePlausible := input.coarsePlausible config errorUs
    coarseOk :=
      !onTags || decide (state.coarseActUs = 0) ||
        (input.resyncWindow && decide (state.coarseActUs < input.tags.dlErrAtUs)) ||
        decide (state.coarseActUs + input.blankUs < input.tags.dlErrAtUs) }

def resync (state : PlayerState K) (config : Config) (input : ChunkInput K) (errorUs : Int) :
    Option Resync :=
  state.gate.decision (state.evaluation config input errorUs)

def landed (state : PlayerState K) (input : ChunkInput K) : Bool :=
  decide (state.pendingCorrectionId ≠ 0) &&
    decide (state.pendingCorrectionAtFrame ≤ input.playedFramesTotal)

/-- The part of the loop behind the hard resync: the confirmation, the frame command and
the push of the chunk. -/
def actuate (state : PlayerState K) (input : ChunkInput K) (command : Command K)
    (resync : Option Resync) (resyncSilence : SilencePush) :
    PlayerState K × ChunkMoves K :=
  let record := input.record
  let landed := state.landed input
  let engine := state.timing.engine
  ({ state with
      timing := { state.timing with
        engine :=
          if landed then engine.confirmPositionLanded state.pendingCorrectionId input.nowUs
          else engine }
      pendingCorrectionId :=
        if command.frames ≠ 0 then command.correctionId
        else if landed then 0
        else state.pendingCorrectionId
      pendingCorrectionAtFrame :=
        if command.frames ≠ 0 then
          input.playedFramesTotal + input.depths.pipeDepthFrames + (record.sampleRate / 20 : Nat)
        else state.pendingCorrectionAtFrame
      recon := state.recon.dbgEarlyRecon input.answer },
    { command := some command
      resync := resync
      resyncSilence := resyncSilence
      engineSilence :=
        if command.frames < 0 then
          pushSilence record.frameBytes (-command.frames).toNat input.commandTurns
        else SilencePush.none
      chunk :=
        some (pushChunk record.frameBytes record.bytes command.frames.toNat input.chunkTurns)
      confirmed := if landed then some state.pendingCorrectionId else none })

/-- A chunk whose error is known: the engine decides before the confirmation, a late resync
discards the record and leaves, everything else goes on to the actuators. -/
def playMeasured (state : PlayerState K) (libm : Libm K) (config : Config)
    (input : ChunkInput K) (errorUs : Int) : PlayerState K × ChunkMoves K :=
  let stepped := state.timing.timingStep libm (input.timingInput errorUs)
  let observed := { state with
    timing := stepped.1
    gate := state.gate.observe (state.evaluation config input errorUs) }
  let acted := { observed with
    coarseActUs := if input.coarseOnTags then input.nowUs else observed.coarseActUs }
  match state.resync config input errorUs with
  | some .late =>
      (acted,
        { command := some stepped.2
          resync := some .late
          resyncSilence := SilencePush.none
          engineSilence := SilencePush.none
          chunk := none
          confirmed := none })
  | some .early =>
      acted.actuate input stepped.2 (some .early)
        (pushSilence input.record.frameBytes (input.fillFrames errorUs) input.resyncTurns)
  | none => observed.actuate input stepped.2 none SilencePush.none

def playBoot (state : PlayerState K) (input : ChunkInput K) (deadlineUs : Int) :
    PlayerState K × ChunkMoves K :=
  let waitCapUs := input.depths.ringCapacityUs
  if deadlineUs < input.nowUs ∨ (0 < waitCapUs ∧ waitCapUs < deadlineUs - input.nowUs) then
    (state, ChunkMoves.unmeasured none)
  else
    ({ state with recon := state.recon.dbgEarlyRecon input.answer },
      ChunkMoves.unmeasured
        (some (pushChunk input.record.frameBytes input.record.bytes 0 input.chunkTurns)))

def measuredErrorUs (input : ChunkInput K) : Option Int :=
  if input.record.frameBytes = 0 ∨ input.outputActive = false ∨ input.starving = true then none
  else
    match input.deadlineUs, input.predictedUs with
    | some deadline, some predicted => some (predicted - deadline)
    | _, _ => none

def playChunk (state : PlayerState K) (libm : Libm K) (config : Config)
    (input : ChunkInput K) : PlayerState K × ChunkMoves K :=
  match measuredErrorUs input with
  | some errorUs => state.playMeasured libm config input errorUs
  | none =>
      if input.record.frameBytes = 0 ∨ input.outputActive = false ∨ input.starving = true then
        (state, ChunkMoves.unmeasured none)
      else
        match input.deadlineUs with
        | none => (state, ChunkMoves.unmeasured none)
        | some deadline => state.playBoot input deadline

theorem playChunk_of_measured (state : PlayerState K) (libm : Libm K) (config : Config)
    (input : ChunkInput K) (errorUs : Int) (measured : measuredErrorUs input = some errorUs) :
    state.playChunk libm config input = state.playMeasured libm config input errorUs := by
  unfold playChunk
  rw [measured]

theorem playChunk_unmeasured (state : PlayerState K) (libm : Libm K) (config : Config)
    (input : ChunkInput K) (unmeasured : measuredErrorUs input = none) :
    ∃ recon chunk, state.playChunk libm config input =
      ({ state with recon := recon }, ChunkMoves.unmeasured chunk) := by
  unfold playChunk
  rw [unmeasured]
  dsimp only
  split
  · exact ⟨state.recon, none, rfl⟩
  · split
    · exact ⟨state.recon, none, rfl⟩
    · unfold playBoot
      dsimp only
      split
      · exact ⟨state.recon, none, rfl⟩
      · exact ⟨_, _, rfl⟩

end PlayerState

inductive PlayerEvent (K : Type) where
  | chunk (input : ChunkInput K)
  | setCrystalPpm (ppm : Option K)
  | groupMoved (tsfSync : Option (TsfSync K))
  | armSeedTrace

namespace PlayerState

def handle (libm : Libm K) (config : Config) (state : PlayerState K) :
    PlayerEvent K → PlayerState K
  | .chunk input => (state.playChunk libm config input).1
  | .setCrystalPpm ppm =>
      { state with timing := { state.timing with engine := state.timing.engine.setCrystalPpm ppm } }
  | .groupMoved tsfSync => { state with timing := { state.timing with tsfSync := tsfSync } }
  | .armSeedTrace => { state with recon := { state.recon with seedTraceArm := true } }

end PlayerState

end Player
