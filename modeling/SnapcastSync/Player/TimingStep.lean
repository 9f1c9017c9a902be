import SnapcastSync.ClockSync.GroupDelta
import SnapcastSync.Engine.Step

/-! `timing_step_`: the profile of the moment, the observation and the evidence of the group
are put together and handed to the engine. -/

namespace Player

open Rounding ClockSync Timing

variable {K : Type} [Field K] [LinearOrder K] [FloorRing K]

def phaseTransientUs : Int := 4000000
def minObsIntervalUs : Int := 10000

structure Tuning (K : Type) where
  rateAuthorityPpm : K
  errTauHorizons : K
  rateFilterLagUs : Int
  timingTargetUs : Int
  commonTargetUs : Int
  kpFromDiffSigma : Bool
  positionNeedsDiff : Bool
  compensateGdFilter : Bool
  commonDrainS : K
  commonAuthorityPpm : K

def Tuning.initial : Tuning K :=
  { rateAuthorityPpm := ((150 : Nat) : K)
    errTauHorizons := 1
    rateFilterLagUs := 0
    timingTargetUs := 10
    commonTargetUs := 5000
    kpFromDiffSigma := false
    positionNeedsDiff := true
    compensateGdFilter := false
    commonDrainS := 0
    commonAuthorityPpm := ((50 : Nat) : K) }

structure Depths where
  pipeDepthFrames : Int
  pipeDepthUs : Int
  ringDepthUs : Int
  ringDepthSlowUs : Int
  ringCapacityUs : Int
deriving DecidableEq, Repr

def observationDelayUs (depths : Depths) : Int :=
  let travel := depths.ringDepthSlowUs + depths.pipeDepthUs
  if travel ≤ 0 then max (Int.tdiv phaseTransientUs 2) 100000 else clamp travel 100000 5000000

/-- The interval between observations, smoothed; a gap of a second or more is not one. -/
structure ObsInterval where
  lastTimingObsUs : Int
  timingObsIntervalUs : Int
deriving DecidableEq, Repr

def ObsInterval.initial : ObsInterval :=
  { lastTimingObsUs := 0
    timingObsIntervalUs := 0 }

def ObsInterval.observe (interval : ObsInterval) (nowUs : Int) : ObsInterval :=
  let gap := nowUs - interval.lastTimingObsUs
  { lastTimingObsUs := nowUs
    timingObsIntervalUs :=
      if interval.lastTimingObsUs ≠ 0 ∧ 0 < gap ∧ gap < 1000000 then
        if interval.timingObsIntervalUs = 0 then gap
        else
          interval.timingObsIntervalUs + Int.tdiv (gap - interval.timingObsIntervalUs) 8
      else interval.timingObsIntervalUs }

def timingProfile (tuning : Tuning K) (depths : Depths) (sampleRate : Nat)
    (interval : ObsInterval) : Profile K :=
  { Profile.initial with
    frameRateHz := if sampleRate ≠ 0 then sampleRate else 44100
    positionDelayUs := observationDelayUs depths
    measurementLagUs := max interval.timingObsIntervalUs minObsIntervalUs
    rateAuthorityPpm := tuning.rateAuthorityPpm
    errTauHorizons := tuning.errTauHorizons
    rateFilterLagUs := tuning.rateFilterLagUs
    bufferFloorUs := Int.tdiv depths.ringCapacityUs 8
    targetDiffUs := tuning.timingTargetUs
    targetCommonUs := tuning.commonTargetUs
    kpFromDiffSigma := tuning.kpFromDiffSigma
    positionNeedsDiff := tuning.positionNeedsDiff
    compensateGdFilter := tuning.compensateGdFilter
    commonDrainS := tuning.commonDrainS
    commonAuthorityPpm := tuning.commonAuthorityPpm }

/-- The evidence of the group, with the state of the common error that asking for it
leaves behind. -/
def groupEvidence (tsfSync : Option (TsfSync K)) (atUs : Int) :
    Option (TsfSync K) × GroupEvidence :=
  match tsfSync with
  | none => (none, GroupEvidence.none)
  | some sync =>
      let present := decide (sync.renderGroupDeltaUs ≠ int32Min)
      let shared := sync.commonErrConsensus atUs
      (some shared.1,
        { present := present
          deltaUs := if present then sync.renderGroupDeltaUs else 0
          contributors := if present then sync.groupDeltaN else 0
          commonValid := shared.2.isSome
          commonUs := (shared.2.map Prod.fst).getD 0
          commonN := (shared.2.map Prod.snd).getD 0
          selfTransient := false
          hasPeers := decide (0 < sync.roster.peerCount) })

structure TimingState (K : Type) where
  engine : Engine K
  tsfSync : Option (TsfSync K)
  interval : ObsInterval

def TimingState.create (tsfSync : Option (TsfSync K)) : TimingState K :=
  { engine := Engine.create Profile.initial
    tsfSync := tsfSync
    interval := ObsInterval.initial }

structure TimingInput (K : Type) where
  nowUs : Int
  sampleRate : Nat
  errValid : Bool
  errUs : Int
  tuning : Tuning K
  depths : Depths

namespace TimingState

def prepared (timing : TimingState K) (input : TimingInput K) : Engine K :=
  { timing.engine with
    profile :=
      timingProfile input.tuning input.depths input.sampleRate
        (timing.interval.observe input.nowUs) }

end TimingState

def TimingInput.observation (input : TimingInput K) : Observation :=
  { atUs := input.nowUs
    errorUs := input.errUs
    valid := input.errValid
    bufferUs := input.depths.ringDepthUs }

namespace TimingState

/-- `timing_step_`, with the command that the engine answers. -/
def timingStep (timing : TimingState K) (libm : Libm K) (input : TimingInput K) :
    TimingState K × Command K :=
  let group := groupEvidence timing.tsfSync input.nowUs
  let answer :=
    (timing.prepared input).step libm input.nowUs input.observation group.2
  ({ engine := answer.1
     interval := timing.interval.observe input.nowUs
     tsfSync := group.1.map fun sync =>
       { sync with
         pubCommonErrUs :=
           if answer.2.decision.eSplitValid then answer.2.decision.eCommonUs else int32Min } },
    answer.2)

def Issues (timing : TimingState K) (libm : Libm K) (input : TimingInput K) : Prop :=
  (timing.prepared input).Ready libm input.nowUs input.observation
    (groupEvidence timing.tsfSync input.nowUs).2

theorem timingStep_frames_ne_zero_iff (timing : TimingState K) (libm : Libm K)
    (input : TimingInput K) :
    (timing.timingStep libm input).2.frames ≠ 0 ↔ timing.Issues libm input :=
  Engine.step_frames_ne_zero_iff (timing.prepared input) libm input.nowUs input.observation
    (groupEvidence timing.tsfSync input.nowUs).2

end TimingState

end Player
