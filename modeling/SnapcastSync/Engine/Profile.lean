import SnapcastSync.Lib.Libm
import SnapcastSync.Lib.Rounding

/-! What the timing engine is told and what it answers: the profile with the horizons that
follow from it, the observation, the evidence of the group, and the command with the
decision it records. Floats are exact elements of an ordered field. -/

namespace Timing

open Rounding

variable {K : Type} [Field K] [LinearOrder K] [FloorRing K]

def seconds (us : Int) : K := (us : K) / ((1000000 : Nat) : K)

def millisecond : K := 1 / ((1000 : Nat) : K)

structure Profile (K : Type) where
  frameRateHz : Nat
  measurementLagUs : Int
  positionDelayUs : Int
  targetDiffUs : Int
  targetCommonUs : Int
  bufferFloorUs : Int
  rateAuthorityPpm : K
  kpStabilityFrac : K
  commonDrainS : K
  gateGdOnTransient : Bool
  positionNeedsDiff : Bool
  compensateGdFilter : Bool
  kpFromDiffSigma : Bool
  commonAuthorityPpm : K
  errTauHorizons : K
  rateFilterLagUs : Int

namespace Profile

def initial : Profile K :=
  { frameRateHz := 44100
    measurementLagUs := 250000
    positionDelayUs := 1250000
    targetDiffUs := 20
    targetCommonUs := 5000
    bufferFloorUs := 0
    rateAuthorityPpm := ((100 : Nat) : K)
    kpStabilityFrac := 1 / ((5 : Nat) : K)
    commonDrainS := 0
    gateGdOnTransient := false
    positionNeedsDiff := true
    compensateGdFilter := false
    kpFromDiffSigma := false
    commonAuthorityPpm := ((50 : Nat) : K)
    errTauHorizons := 1
    rateFilterLagUs := 0 }

def frameUs (profile : Profile K) : Int := Int.tdiv 1000000 profile.frameRateHz

def compensationUs (profile : Profile K) : Int :=
  profile.positionDelayUs + profile.measurementLagUs

def filterLagUs (profile : Profile K) : Int :=
  truncToInt (profile.errTauHorizons * (profile.compensationUs : K))

def rateFilterLagEffectiveUs (profile : Profile K) : Int :=
  if 0 < profile.rateFilterLagUs then profile.rateFilterLagUs else profile.filterLagUs

def rateHorizonUs (profile : Profile K) : Int := profile.measurementLagUs + profile.filterLagUs

def settleUs (profile : Profile K) : Int := profile.compensationUs + profile.filterLagUs

def rateNoiseBudgetPpm (profile : Profile K) : K :=
  if profile.rateHorizonUs ≤ 0 then 0
  else ((1000000 : Nat) : K) * (profile.targetDiffUs : K) / (profile.rateHorizonUs : K)

end Profile

structure Observation where
  atUs : Int
  errorUs : Int
  valid : Bool
  bufferUs : Int
deriving DecidableEq, Repr

structure GroupEvidence where
  present : Bool
  deltaUs : Int
  contributors : Nat
  commonValid : Bool
  commonUs : Int
  commonN : Nat
  selfTransient : Bool
  hasPeers : Bool
deriving DecidableEq, Repr

def GroupEvidence.none : GroupEvidence :=
  { present := false
    deltaUs := 0
    contributors := 0
    commonValid := false
    commonUs := 0
    commonN := 0
    selfTransient := false
    hasPeers := false }

/-- `Decision::Act`; a decision without one is `idle`. -/
inductive Act where
  | idle
  | rate
  | position
  | hold
deriving DecidableEq, Repr

inductive Why where
  | idle
  | noEvidence
  | inFlight
  | withinFrame
  | coarseError
  | rateOnly
  | common
deriving DecidableEq, Repr

structure Decision (K : Type) where
  act : Act
  why : Why
  errorUs : Int
  frames : Int
  ratePpm : K
  crystalPpm : K
  suppressed : Nat
  filteredUs : Int
  gateUs : Int
  neededPpm : K
  authorityPpm : K
  gdSnapUs : Int
  errSnapUs : Int
  eSplitValid : Bool
  eCommonUs : Int
  eDiffUs : Int
  eBoundedUs : Int
  dRatePpm : K
  dCrystalPpm : K
  dPPpm : K
  pPpm : K
  kpPpmPerUs : K
  pSigmaUs : K
  gdSigmaUs : K
  kpCapped : Bool
  eFromDiff : Bool
  ePositionUs : Int
  slewClipped : Bool
  commonSharedValid : Bool
  commonSharedUs : Int
  commonN : Nat
  pcPpm : K

def Decision.initial : Decision K :=
  { act := .idle
    why := .idle
    errorUs := 0
    frames := 0
    ratePpm := 0
    crystalPpm := 0
    suppressed := 0
    filteredUs := 0
    gateUs := 0
    neededPpm := 0
    authorityPpm := 0
    gdSnapUs := 0
    errSnapUs := 0
    eSplitValid := false
    eCommonUs := 0
    eDiffUs := 0
    eBoundedUs := 0
    dRatePpm := 0
    dCrystalPpm := 0
    dPPpm := 0
    pPpm := 0
    kpPpmPerUs := 0
    pSigmaUs := 0
    gdSigmaUs := 0
    kpCapped := false
    eFromDiff := false
    ePositionUs := 0
    slewClipped := false
    commonSharedValid := false
    commonSharedUs := 0
    commonN := 0
    pcPpm := 0 }

structure Command (K : Type) where
  ratePpm : K
  frames : Int
  correctionId : Nat
  decision : Decision K

end Timing
