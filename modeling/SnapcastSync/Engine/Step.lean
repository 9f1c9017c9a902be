import SnapcastSync.Engine.Profile

/-! `Engine::step` and the calls around it. A step passes through the stages of the source
in its order: the pending displacement is retired, the error is filtered, an unconfirmed
correction expires, the group differential is filtered, the position wanted is sized, and
then one of the two actuators answers. -/

namespace Timing

open Rounding

variable {K : Type}

def maxInFlightHorizons : Int := 3
def creditBaselineHorizons : Int := 10
def creditMinCorrections : Nat := 3
def jumpConfirmSamples : Nat := 3

/-- A smoothed mean with the run of innovations that may be a jump of its input. -/
structure JumpFilter (K : Type) where
  meanUs : K
  diffUs : K
  lastUs : K
  seeded : Bool
  jumpRun : Nat
  jumpDir : Int

structure Engine (K : Type) where
  profile : Profile K
  crystalPpm : K
  crystalAtUs : Int
  err : JumpFilter K
  gd : JumpFilter K
  gdSigmaPrevUs : K
  gdLastAtUs : Int
  creditFrames : Int
  creditSinceUs : Int
  creditCount : Nat
  pendingDispUs : Int
  pendingCompUntilUs : Int
  pendingRefUs : Int
  serialiseUntilUs : Int
  inFlight : Bool
  nextId : Nat
  inFlightId : Nat
  inFlightFrames : Int
  inFlightSinceUs : Int
  lastRateCmd : K
  lastCrystalPpm : K
  lastPPpm : K
  rateCmdSeeded : Bool
  lastObsUs : Int
  suppressed : Nat

variable [Field K] [LinearOrder K]

def creditMaxPpmPerWindow : K := ((5 : Nat) : K)
def crystalDelayMargin : K := ((3 : Nat) : K)
def crystalLimitPpm : K := ((200 : Nat) : K)

def diffToSigma : K := ((8862 : Nat) : K) / ((10000 : Nat) : K)

def JumpFilter.initial : JumpFilter K :=
  { meanUs := 0
    diffUs := 0
    lastUs := 0
    seeded := false
    jumpRun := 0
    jumpDir := 0 }

namespace Engine

def create (profile : Profile K) : Engine K :=
  { profile := profile
    crystalPpm := 0
    crystalAtUs := 0
    err := JumpFilter.initial
    gd := JumpFilter.initial
    gdSigmaPrevUs := 0
    gdLastAtUs := 0
    creditFrames := 0
    creditSinceUs := 0
    creditCount := 0
    pendingDispUs := 0
    pendingCompUntilUs := 0
    pendingRefUs := 0
    serialiseUntilUs := 0
    inFlight := false
    nextId := 1
    inFlightId := 0
    inFlightFrames := 0
    inFlightSinceUs := 0
    lastRateCmd := 0
    lastCrystalPpm := 0
    lastPPpm := 0
    rateCmdSeeded := false
    lastObsUs := 0
    suppressed := 0 }

/-- `set_crystal_ppm`, at a value that is none where it is not finite. -/
def setCrystalPpm (engine : Engine K) (ppm : Option K) : Engine K :=
  match ppm with
  | none => engine
  | some ppm => { engine with crystalPpm := clamp ppm (-crystalLimitPpm) crystalLimitPpm }

variable [FloorRing K]

def sigmaEUs (engine : Engine K) : K :=
  max (diffToSigma * engine.err.diffUs) (engine.profile.frameUs : K)

def countCredit (engine : Engine K) (frames nowUs : Int) : Engine K :=
  { engine with
    creditSinceUs := if engine.creditSinceUs = 0 then nowUs else engine.creditSinceUs
    creditFrames := engine.creditFrames + frames
    creditCount := (engine.creditCount + 1) % 2 ^ 32 }

def creditPositionCorrection (engine : Engine K) (frames nowUs : Int) : Engine K :=
  let credited := engine.countCredit frames nowUs
  let baselineUs := creditBaselineHorizons * credited.profile.settleUs
  let dtUs := nowUs - credited.creditSinceUs
  if dtUs < baselineUs then credited
  else
    let movedUs : K := (credited.creditFrames : K) * (credited.profile.frameUs : K)
    let impliedPpm := ((1000000 : Nat) : K) * movedUs / (dtUs : K)
    let step := clamp impliedPpm (-creditMaxPpmPerWindow) creditMaxPpmPerWindow
    { credited with
      crystalPpm :=
        if credited.creditFrames ≠ 0 ∧ creditMinCorrections ≤ credited.creditCount then
          clamp (credited.crystalPpm + step) (-crystalLimitPpm) crystalLimitPpm
        else credited.crystalPpm
      creditFrames := 0
      creditCount := 0
      creditSinceUs := nowUs }

def confirmPositionLanded (engine : Engine K) (correctionId : Nat) (nowUs : Int) : Engine K :=
  if !engine.inFlight || decide (correctionId ≠ engine.inFlightId) then engine
  else
    { engine.creditPositionCorrection engine.inFlightFrames nowUs with
      inFlight := false
      inFlightId := 0
      inFlightFrames := 0 }

def noteExternalMove (engine : Engine K) (appliedUs nowUs : Int) : Engine K :=
  if appliedUs = 0 then engine
  else
    let meanUs := engine.err.meanUs - (appliedUs : K)
    { engine with
      err := { engine.err with meanUs := meanUs }
      pendingDispUs := appliedUs
      pendingRefUs := llround meanUs + appliedUs
      pendingCompUntilUs := nowUs + engine.profile.compensationUs
      serialiseUntilUs := nowUs + engine.profile.settleUs }

def retirePending (engine : Engine K) (nowUs errorUs : Int) : Engine K :=
  if engine.pendingCompUntilUs ≠ 0 then
    let asNotLanded := |errorUs - engine.pendingRefUs|
    let asLanded := |errorUs - (engine.pendingRefUs - engine.pendingDispUs)|
    if asLanded < asNotLanded ∨ engine.pendingCompUntilUs ≤ nowUs then
      { engine with
        pendingCompUntilUs := 0
        pendingDispUs := 0
        pendingRefUs := 0 }
    else engine
  else engine

def starved (engine : Engine K) (bufferUs : Int) : Bool :=
  decide (0 < bufferUs) && decide (0 < engine.profile.bufferFloorUs) &&
    decide (bufferUs < engine.profile.bufferFloorUs)

end Engine

variable [FloorRing K]

namespace JumpFilter

def seed (filter : JumpFilter K) (x frameUs : K) : JumpFilter K :=
  { filter with
    meanUs := x
    lastUs := x
    diffUs := frameUs
    seeded := true }

def countJump (filter : JumpFilter K) (innov jumpUs : K) : JumpFilter K :=
  if jumpUs < |innov| then
    let dir := if 0 < innov then 1 else -1
    if dir = filter.jumpDir then { filter with jumpRun := filter.jumpRun + 1 }
    else
      { filter with
        jumpDir := dir
        jumpRun := 1 }
  else
    { filter with
      jumpRun := 0
      jumpDir := 0 }

/-- One more input: a confirmed jump is adopted, anything else moves the mean by a bounded
share. The second component is the jump that was adopted. -/
def track (filter : JumpFilter K) (x alpha maxMoveUs jumpUs : K) : JumpFilter K × Int :=
  let innov := x - filter.meanUs
  let counted := filter.countJump innov jumpUs
  let diffUs := filter.diffUs + alpha * (|x - filter.lastUs| - filter.diffUs)
  if jumpConfirmSamples ≤ counted.jumpRun then
    ({ counted with
        meanUs := x
        jumpRun := 0
        jumpDir := 0
        diffUs := diffUs
        lastUs := x },
      toInt32 (llround innov))
  else
    ({ counted with
        meanUs := filter.meanUs + alpha * clamp innov (-maxMoveUs) maxMoveUs
        diffUs := diffUs
        lastUs := x },
      0)

end JumpFilter

def smoothing (libm : Libm K) (dtS tauS : K) : K :=
  if 0 < dtS then 1 - libm.exp (-dtS / tauS) else 0

/-- What the group says about this device, as the position decision takes it. -/
structure Differential (K : Type) where
  differential : Bool
  eDiffUs : Int
  haveDiff : Bool
  gdSigmaUs : K
  gdSnapUs : Int

structure PositionWant (K : Type) where
  ePositionUs : Int
  gateUs : Int
  neededPpm : K
  frames : Int

structure Assessment (K : Type) where
  engine : Engine K
  diff : Differential K
  want : PositionWant K
  errSnapUs : Int

namespace Engine

/-- How far the plant can move the error in `dtS` seconds, and a frame on top. -/
def maxMoveUs (engine : Engine K) (dtS : K) : K :=
  (engine.profile.rateAuthorityPpm + crystalLimitPpm) * dtS + (engine.profile.frameUs : K)

def filterError (engine : Engine K) (libm : Libm K) (nowUs e : Int) : Engine K × Int :=
  if !engine.err.seeded then
    ({ engine with err := engine.err.seed (e : K) (engine.profile.frameUs : K) }, 0)
  else
    let dt := if 0 < engine.lastObsUs then nowUs - engine.lastObsUs else 0
    let dtS : K := if 0 < dt then seconds dt else 0
    let tauS := max millisecond (seconds engine.profile.filterLagUs)
    let maxMove := engine.maxMoveUs dtS
    let jumpUs := max maxMove (((4 : Nat) : K) * engine.sigmaEUs)
    let tracked := engine.err.track (e : K) (smoothing libm dtS tauS) maxMove jumpUs
    ({ engine with err := tracked.1 }, tracked.2)

def expireInFlight (engine : Engine K) (nowUs : Int) : Engine K :=
  if engine.inFlight = true ∧
      maxInFlightHorizons * engine.profile.settleUs < nowUs - engine.inFlightSinceUs then
    { engine with
      inFlight := false
      inFlightFrames := 0 }
  else engine

def filterDifferential (engine : Engine K) (libm : Libm K) (nowUs deltaUs : Int) :
    Engine K × Int :=
  let frameUs : K := engine.profile.frameUs
  let filtered :=
    if !engine.gd.seeded then (engine.gd.seed (deltaUs : K) frameUs, 0)
    else
      let gdt := if 0 < engine.gdLastAtUs then nowUs - engine.gdLastAtUs else 0
      let gdtS : K := if 0 < gdt then seconds gdt else 0
      let gtauS := max millisecond (seconds engine.profile.rateFilterLagEffectiveUs)
      let gmax := engine.maxMoveUs gdtS
      let gJumpUs := max gmax (((4 : Nat) : K) * engine.gdSigmaPrevUs)
      engine.gd.track (deltaUs : K) (smoothing libm gdtS gtauS) gmax gJumpUs
  ({ engine with
      gd := filtered.1
      gdLastAtUs := nowUs
      gdSigmaPrevUs := max (diffToSigma * filtered.1.diffUs) (frameUs / ((4 : Nat) : K)) },
    filtered.2)

def differential (engine : Engine K) (libm : Libm K) (nowUs : Int) (group : GroupEvidence) :
    Engine K × Differential K :=
  let gdHold := engine.profile.gateGdOnTransient && group.selfTransient
  if group.present && decide (1 < group.contributors) && !gdHold then
    let filtered := engine.filterDifferential libm nowUs group.deltaUs
    let eDiff := llround filtered.1.gd.meanUs
    (filtered.1,
      { differential := decide (engine.profile.targetDiffUs ≤ |eDiff|)
        eDiffUs := eDiff
        haveDiff := true
        gdSigmaUs := filtered.1.gdSigmaPrevUs
        gdSnapUs := filtered.2 })
  else if gdHold && engine.gd.seeded then
    let eDiff := llround engine.gd.meanUs
    ({ engine with gdLastAtUs := nowUs },
      { differential := decide (engine.profile.targetDiffUs ≤ |eDiff|)
        eDiffUs := eDiff
        haveDiff := true
        gdSigmaUs := engine.gdSigmaPrevUs
        gdSnapUs := 0 })
  else
    (engine,
      { differential := !(engine.profile.positionNeedsDiff && group.hasPeers)
        eDiffUs := 0
        haveDiff := false
        gdSigmaUs := 0
        gdSnapUs := 0 })

def gateUs (engine : Engine K) (libm : Libm K) (nowUs : Int) (diff : Differential K) : Int :=
  let tauGateS := max millisecond (seconds engine.profile.filterLagUs)
  let obsDtS : K :=
    if 0 < engine.lastObsUs ∧ engine.lastObsUs < nowUs then seconds (nowUs - engine.lastObsUs)
    else tauGateS
  let alphaEff := min 1 (1 - libm.exp (-obsDtS / tauGateS))
  let floored := max (1 / ((1000000 : Nat) : K)) alphaEff
  let share := libm.sqrt (floored / ((2 : Nat) : K))
  let gateSigma := (if diff.haveDiff then diff.gdSigmaUs else engine.sigmaEUs) * share
  engine.profile.frameUs + llround (((2 : Nat) : K) * gateSigma)

/-- The frames that the coarse error is worth, none where the rate can remove it. -/
def positionWant (engine : Engine K) (libm : Libm K) (nowUs bufferUs : Int)
    (diff : Differential K) : PositionWant K :=
  let frameUs := engine.profile.frameUs
  let coarseGateUs := engine.gateUs libm nowUs diff
  let ePosition := if diff.haveDiff then diff.eDiffUs else llround engine.err.meanUs
  let reachS : K := seconds engine.profile.rateHorizonUs
  let neededPpm := if 0 < reachS then (ePosition : K) / reachS else 0
  let crystalSpent :=
    (decide (crystalLimitPpm ≤ engine.crystalPpm) && decide (0 < neededPpm)) ||
      (decide (engine.crystalPpm ≤ -crystalLimitPpm) && decide (neededPpm < 0))
  let rateCanFix :=
    !crystalSpent && decide (|neededPpm| ≤ engine.profile.rateAuthorityPpm)
  let sized :=
    if 0 < frameUs ∧ coarseGateUs ≤ |ePosition| ∧ rateCanFix = false then
      toInt32 (Int.tdiv ePosition frameUs)
    else 0
  let affordable := toInt32 (Int.tdiv (Int.tdiv bufferUs 2) frameUs)
  { ePositionUs := ePosition
    gateUs := coarseGateUs
    neededPpm := neededPpm
    frames :=
      if 0 < sized ∧ 0 < bufferUs ∧ 0 < frameUs then
        if affordable < sized then affordable else sized
      else sized }

def hold (engine : Engine K) (decision : Decision K) (why : Why) : Engine K × Command K :=
  ({ engine with suppressed := (engine.suppressed + 1) % 2 ^ 32 },
    { ratePpm := engine.crystalPpm
      frames := 0
      correctionId := 0
      decision := { decision with
        act := .hold
        why := why
        ratePpm := engine.crystalPpm } })

def issue (engine : Engine K) (decision : Decision K) (nowUs : Int) (group : GroupEvidence)
    (diff : Differential K) (frames : Int) : Engine K × Command K :=
  let dispUs := frames * engine.profile.frameUs
  let share : K := ((group.contributors - 1 : Int) : K) / (group.contributors : K)
  ({ engine with
      inFlight := true
      inFlightId := engine.nextId
      nextId := (engine.nextId + 1) % 2 ^ 64
      inFlightFrames := frames
      inFlightSinceUs := nowUs
      pendingDispUs := dispUs
      pendingCompUntilUs := nowUs + engine.profile.compensationUs
      pendingRefUs := llround engine.err.meanUs
      serialiseUntilUs := nowUs + engine.profile.settleUs
      err := { engine.err with meanUs := engine.err.meanUs - (dispUs : K) }
      gd :=
        if diff.haveDiff = true ∧ 1 < group.contributors ∧
            engine.profile.compensateGdFilter = true then
          { engine.gd with meanUs := engine.gd.meanUs - (dispUs : K) * share }
        else engine.gd
      suppressed := 0
      lastObsUs := nowUs },
    { ratePpm := engine.crystalPpm
      frames := frames
      correctionId := engine.nextId
      decision := { decision with
        act := .position
        why := .coarseError
        frames := frames
        ratePpm := engine.crystalPpm } })

/-- The crystal integral over one interval, with the split of the error it ran on. -/
def integrate (engine : Engine K) (decision : Decision K) (e dtUs : Int)
    (diff : Differential K) : Engine K × Decision K :=
  if 0 < dtUs ∧ diff.differential = true then
    let rateHS : K := seconds engine.profile.rateHorizonUs
    let wn := if 0 < rateHS then 1 / (crystalDelayMargin * rateHS) else 0
    let eCommon : K := if diff.haveDiff then ((e - diff.eDiffUs : Int) : K) else (e : K)
    let eDiff : K := if diff.haveDiff then (diff.eDiffUs : K) else 0
    let fu : K := engine.profile.frameUs
    let eBounded := clamp eCommon (-fu) fu + clamp eDiff (-fu) fu
    let dtIntS := min (seconds dtUs) (max millisecond rateHS)
    ({ engine with
        crystalPpm :=
          clamp (engine.crystalPpm + wn * wn * eBounded * dtIntS) (-crystalLimitPpm)
            crystalLimitPpm },
      { decision with
        eSplitValid := true
        eCommonUs := toInt32 (llround eCommon)
        eDiffUs := toInt32 (llround eDiff)
        eBoundedUs := toInt32 (llround eBounded) })
  else (engine, decision)

def proportionalGain (engine : Engine K) (pSigmaUs : K) : K × Bool :=
  let kpUsed := if 0 < pSigmaUs then engine.profile.rateNoiseBudgetPpm / pSigmaUs else 0
  let horizonS : K := seconds engine.profile.rateHorizonUs
  let kpCrit := ((15707963 : Nat) : K) / ((10000000 : Nat) : K) / horizonS
  let kpMax := engine.profile.kpStabilityFrac * kpCrit
  if 0 < engine.profile.kpStabilityFrac ∧ 0 < horizonS ∧ kpMax < kpUsed then (kpMax, true)
  else (kpUsed, false)

/-- The shared common-mode term: what the group's common error exceeds its target by. -/
def commonTerm (engine : Engine K) (group : GroupEvidence) : K :=
  if group.commonValid = true ∧ 0 < engine.profile.commonDrainS then
    let deadUs := max 0 engine.profile.targetCommonUs
    let excessUs :=
      if deadUs < group.commonUs then group.commonUs - deadUs
      else if group.commonUs < -deadUs then group.commonUs + deadUs
      else 0
    if excessUs ≠ 0 then
      clamp ((excessUs : K) / engine.profile.commonDrainS) (-engine.profile.commonAuthorityPpm)
        engine.profile.commonAuthorityPpm
    else 0
  else 0

def rateCommand (engine : Engine K) (decision : Decision K) (dtUs : Int)
    (group : GroupEvidence) (diff : Differential K) (want : PositionWant K) :
    Engine K × Command K :=
  let authority := engine.profile.rateAuthorityPpm
  let pSigmaUs :=
    if engine.profile.kpFromDiffSigma && diff.haveDiff then
      max diff.gdSigmaUs (engine.profile.frameUs : K)
    else engine.sigmaEUs
  let kp := engine.proportionalGain pSigmaUs
  let pTerm := clamp (kp.1 * (want.ePositionUs : K)) (-authority) authority
  let horizonS := max millisecond (seconds engine.profile.rateHorizonUs)
  let dtCmdS := if 0 < dtUs then min (seconds dtUs) horizonS else 0
  let maxSlewPpm := authority * (dtCmdS / horizonS)
  let pcTerm := engine.commonTerm group
  let wantPpm := engine.crystalPpm + pTerm + pcTerm
  let prevCmd := engine.lastRateCmd
  let ratePpm :=
    if engine.rateCmdSeeded then prevCmd + clamp (wantPpm - prevCmd) (-maxSlewPpm) maxSlewPpm
    else wantPpm
  ({ engine with
      lastCrystalPpm := engine.crystalPpm
      lastPPpm := pTerm
      rateCmdSeeded := true
      lastRateCmd := ratePpm
      suppressed := 0 },
    { ratePpm := ratePpm
      frames := 0
      correctionId := 0
      decision := { decision with
        commonSharedValid := group.commonValid
        commonN := group.commonN
        commonSharedUs :=
          if group.commonValid then clamp group.commonUs (-2 ^ 31) (2 ^ 31 - 1)
          else decision.commonSharedUs
        pcPpm := pcTerm
        dRatePpm := if engine.rateCmdSeeded then ratePpm - prevCmd else decision.dRatePpm
        dCrystalPpm :=
          if engine.rateCmdSeeded then engine.crystalPpm - engine.lastCrystalPpm
          else decision.dCrystalPpm
        dPPpm := if engine.rateCmdSeeded then pTerm - engine.lastPPpm else decision.dPPpm
        slewClipped := engine.rateCmdSeeded && decide (maxSlewPpm < |wantPpm - prevCmd|)
        pPpm := pTerm
        kpPpmPerUs := kp.1
        pSigmaUs := pSigmaUs
        gdSigmaUs := diff.gdSigmaUs
        kpCapped := kp.2
        act := if diff.differential then .rate else .hold
        why :=
          if diff.differential then (if want.frames = 0 then .withinFrame else .rateOnly)
          else .common
        ratePpm := ratePpm
        crystalPpm := engine.crystalPpm } })

def steer (engine : Engine K) (decision : Decision K) (nowUs e : Int) (group : GroupEvidence)
    (diff : Differential K) (want : PositionWant K) : Engine K × Command K :=
  let dtUs := if 0 < engine.lastObsUs then nowUs - engine.lastObsUs else 0
  let integrated := engine.integrate decision e dtUs diff
  { integrated.1 with
    crystalAtUs := if engine.crystalAtUs = 0 then nowUs else engine.crystalAtUs
    lastObsUs := nowUs }.rateCommand integrated.2 dtUs group diff want

def assess (engine : Engine K) (libm : Libm K) (nowUs : Int) (obs : Observation)
    (group : GroupEvidence) : Assessment K :=
  let retired := engine.retirePending nowUs obs.errorUs
  let filtered := retired.filterError libm nowUs (obs.errorUs - retired.pendingDispUs)
  let diffed := (filtered.1.expireInFlight nowUs).differential libm nowUs group
  { engine := diffed.1
    diff := diffed.2
    want := diffed.1.positionWant libm nowUs obs.bufferUs diffed.2
    errSnapUs := filtered.2 }

def opening (engine : Engine K) : Decision K :=
  { Decision.initial with
    crystalPpm := engine.crystalPpm
    suppressed := engine.suppressed }

def assessedDecision (engine : Engine K) (e : Int) (assessed : Assessment K) : Decision K :=
  { engine.opening with
    errorUs := e
    errSnapUs := assessed.errSnapUs
    gdSnapUs := assessed.diff.gdSnapUs
    filteredUs := assessed.want.ePositionUs
    ePositionUs := assessed.want.ePositionUs
    eFromDiff := assessed.diff.haveDiff
    gateUs := assessed.want.gateUs
    neededPpm := assessed.want.neededPpm
    authorityPpm := assessed.engine.profile.rateAuthorityPpm }

def step (engine : Engine K) (libm : Libm K) (nowUs : Int) (obs : Observation)
    (group : GroupEvidence) : Engine K × Command K :=
  if !obs.valid then engine.hold engine.opening .noEvidence
  else
    let retired := engine.retirePending nowUs obs.errorUs
    if engine.starved obs.bufferUs then retired.hold engine.opening .noEvidence
    else
      let e := obs.errorUs - retired.pendingDispUs
      let assessed := engine.assess libm nowUs obs group
      let decision := engine.assessedDecision e assessed
      if assessed.want.frames ≠ 0 ∧ assessed.diff.differential = true then
        if assessed.engine.inFlight || decide (nowUs < assessed.engine.serialiseUntilUs) then
          assessed.engine.hold decision .inFlight
        else assessed.engine.issue decision nowUs group assessed.diff assessed.want.frames
      else assessed.engine.steer decision nowUs e group assessed.diff assessed.want

structure Ready (engine : Engine K) (libm : Libm K) (nowUs : Int) (obs : Observation)
    (group : GroupEvidence) : Prop where
  valid : obs.valid = true
  fed : engine.starved obs.bufferUs = false
  wanted : (engine.assess libm nowUs obs group).want.frames ≠ 0
  differential : (engine.assess libm nowUs obs group).diff.differential = true
  free : (engine.assess libm nowUs obs group).engine.inFlight = false
  serialised : (engine.assess libm nowUs obs group).engine.serialiseUntilUs ≤ nowUs

omit [Field K] [LinearOrder K] [FloorRing K] in
theorem retirePending_err (engine : Engine K) (nowUs errorUs : Int) :
    (engine.retirePending nowUs errorUs).err = engine.err := by
  unfold retirePending
  split
  · dsimp only
    split <;> rfl
  · rfl

theorem confirmPositionLanded_err (engine : Engine K) (correctionId : Nat) (nowUs : Int) :
    (engine.confirmPositionLanded correctionId nowUs).err = engine.err := by
  unfold confirmPositionLanded creditPositionCorrection
  split
  · rfl
  · dsimp only
    split <;> rfl

/-- A step without a valid observation, or below the buffer floor, only counts itself. -/
theorem step_of_unfed (engine : Engine K) (libm : Libm K) (nowUs : Int) (obs : Observation)
    (group : GroupEvidence)
    (unfed : obs.valid = false ∨ engine.starved obs.bufferUs = true) :
    (engine.step libm nowUs obs group).1.err = engine.err ∧
      (engine.step libm nowUs obs group).2.frames = 0 := by
  unfold step
  dsimp only
  by_cases invalid : obs.valid = false
  · rw [invalid]
    exact ⟨rfl, rfl⟩
  · rcases unfed with absent | starved
    · exact absurd absent invalid
    · have valid : (!obs.valid) = false := by simpa using invalid
      rw [valid, if_neg Bool.false_ne_true, if_pos starved]
      exact ⟨retirePending_err engine nowUs obs.errorUs, rfl⟩

theorem step_of_ready (engine : Engine K) (libm : Libm K) (nowUs : Int) (obs : Observation)
    (group : GroupEvidence) (ready : engine.Ready libm nowUs obs group) :
    engine.step libm nowUs obs group =
      (engine.assess libm nowUs obs group).engine.issue
        (engine.assessedDecision
          (obs.errorUs - (engine.retirePending nowUs obs.errorUs).pendingDispUs)
          (engine.assess libm nowUs obs group))
        nowUs group (engine.assess libm nowUs obs group).diff
        (engine.assess libm nowUs obs group).want.frames := by
  have open_ : ¬ nowUs < (engine.assess libm nowUs obs group).engine.serialiseUntilUs :=
    not_lt.mpr ready.serialised
  unfold step
  simp only [ready.valid, ready.fed, ready.free, open_, Bool.not_true, Bool.false_eq_true,
    if_false, Bool.false_or, decide_false]
  rw [if_pos ⟨ready.wanted, ready.differential⟩]

theorem step_of_not_ready (engine : Engine K) (libm : Libm K) (nowUs : Int)
    (obs : Observation) (group : GroupEvidence)
    (unready : ¬ engine.Ready libm nowUs obs group) :
    (engine.step libm nowUs obs group).2.frames = 0 := by
  unfold step
  dsimp only
  split
  · rfl
  · rename_i valid
    split
    · rfl
    · rename_i fed
      split
      · rename_i wanted
        split
        · rfl
        · rename_i free
          rw [Bool.or_eq_true, not_or, decide_eq_true_eq, Bool.not_eq_true] at free
          exact absurd
            { valid := by simpa using valid
              fed := by simpa using fed
              wanted := wanted.1
              differential := wanted.2
              free := free.1
              serialised := not_lt.mp free.2 } unready
      · rfl

theorem step_frames_ne_zero_iff (engine : Engine K) (libm : Libm K) (nowUs : Int)
    (obs : Observation) (group : GroupEvidence) :
    (engine.step libm nowUs obs group).2.frames ≠ 0 ↔ engine.Ready libm nowUs obs group := by
  constructor
  · intro issued
    by_contra unready
    exact issued (step_of_not_ready engine libm nowUs obs group unready)
  · intro ready
    rw [step_of_ready engine libm nowUs obs group ready]
    exact ready.wanted

structure SameCrystal (before after : Engine K) : Prop where
  profile : after.profile = before.profile
  crystalPpm : after.crystalPpm = before.crystalPpm

omit [Field K] [LinearOrder K] [FloorRing K] in
theorem SameCrystal.trans {first second third : Engine K} (early : SameCrystal first second)
    (late : SameCrystal second third) : SameCrystal first third :=
  ⟨late.profile.trans early.profile, late.crystalPpm.trans early.crystalPpm⟩

omit [Field K] [LinearOrder K] [FloorRing K] in
theorem retirePending_sameCrystal (engine : Engine K) (nowUs errorUs : Int) :
    SameCrystal engine (engine.retirePending nowUs errorUs) := by
  unfold retirePending
  split
  · dsimp only
    split
    · exact ⟨rfl, rfl⟩
    · exact ⟨rfl, rfl⟩
  · exact ⟨rfl, rfl⟩

theorem filterError_sameCrystal (engine : Engine K) (libm : Libm K) (nowUs e : Int) :
    SameCrystal engine (engine.filterError libm nowUs e).1 := by
  unfold filterError
  split
  · exact ⟨rfl, rfl⟩
  · exact ⟨rfl, rfl⟩

theorem expireInFlight_sameCrystal (engine : Engine K) (nowUs : Int) :
    SameCrystal engine (engine.expireInFlight nowUs) := by
  unfold expireInFlight
  split
  · exact ⟨rfl, rfl⟩
  · exact ⟨rfl, rfl⟩

def prepared (engine : Engine K) (libm : Libm K) (nowUs : Int) (obs : Observation) : Engine K :=
  let retired := engine.retirePending nowUs obs.errorUs
  (retired.filterError libm nowUs (obs.errorUs - retired.pendingDispUs)).1.expireInFlight nowUs

theorem prepared_sameCrystal (engine : Engine K) (libm : Libm K) (nowUs : Int)
    (obs : Observation) : SameCrystal engine (engine.prepared libm nowUs obs) := by
  have retired := retirePending_sameCrystal engine nowUs obs.errorUs
  have filtered := filterError_sameCrystal (engine.retirePending nowUs obs.errorUs) libm nowUs
    (obs.errorUs - (engine.retirePending nowUs obs.errorUs).pendingDispUs)
  exact (retired.trans filtered).trans (expireInFlight_sameCrystal _ nowUs)

/-- Without a group delta a step tracks the server unless it waits for a peer's delta. -/
theorem differential_of_no_delta (engine : Engine K) (libm : Libm K) (nowUs : Int)
    (group : GroupEvidence) (absent : group.present = false)
    (steady : group.selfTransient = false) :
    (engine.differential libm nowUs group).1 = engine ∧
      (engine.differential libm nowUs group).2.differential =
        !(engine.profile.positionNeedsDiff && group.hasPeers) := by
  unfold differential
  rw [absent, steady]
  simp

/-- One that does wait leaves both the position and the crystal integral alone. -/
theorem step_of_waiting (engine : Engine K) (libm : Libm K) (nowUs : Int) (obs : Observation)
    (group : GroupEvidence) (absent : group.present = false)
    (steady : group.selfTransient = false)
    (waits : (engine.profile.positionNeedsDiff && group.hasPeers) = true) :
    (engine.step libm nowUs obs group).2.frames = 0 ∧
      (engine.step libm nowUs obs group).1.crystalPpm = engine.crystalPpm := by
  have retired := retirePending_sameCrystal engine nowUs obs.errorUs
  have staged : SameCrystal engine (engine.assess libm nowUs obs group).engine ∧
      (engine.assess libm nowUs obs group).diff.differential = false := by
    have before := engine.prepared_sameCrystal libm nowUs obs
    change SameCrystal engine ((engine.prepared libm nowUs obs).differential libm nowUs group).1 ∧
      ((engine.prepared libm nowUs obs).differential libm nowUs group).2.differential = false
    obtain ⟨same, tracks⟩ := differential_of_no_delta _ libm nowUs group absent steady
    rw [same, tracks, before.profile, waits]
    exact ⟨before, rfl⟩
  unfold step
  dsimp only
  split
  · exact ⟨rfl, rfl⟩
  · split
    · exact ⟨rfl, retired.crystalPpm⟩
    · rw [if_neg fun both => Bool.noConfusion (staged.2.symm.trans both.2)]
      refine ⟨rfl, ?_⟩
      unfold steer integrate
      rw [staged.2]
      simp only [Bool.false_eq_true, and_false, if_false]
      exact staged.1.crystalPpm

theorem differential_profile (engine : Engine K) (libm : Libm K) (nowUs : Int)
    (group : GroupEvidence) :
    (engine.differential libm nowUs group).1.profile = engine.profile := by
  unfold differential
  dsimp only
  split
  · rfl
  · split
    · rfl
    · rfl

theorem assess_profile (engine : Engine K) (libm : Libm K) (nowUs : Int) (obs : Observation)
    (group : GroupEvidence) :
    (engine.assess libm nowUs obs group).engine.profile = engine.profile := by
  exact (differential_profile _ libm nowUs group).trans
    (engine.prepared_sameCrystal libm nowUs obs).profile

theorem frameUs_pos_of_wanted (engine : Engine K) (libm : Libm K) (nowUs : Int)
    (obs : Observation) (group : GroupEvidence)
    (wanted : (engine.assess libm nowUs obs group).want.frames ≠ 0) :
    0 < engine.profile.frameUs := by
  rw [← assess_profile engine libm nowUs obs group]
  by_contra unframed
  apply wanted
  change ((engine.assess libm nowUs obs group).engine.positionWant libm nowUs obs.bufferUs
    (engine.assess libm nowUs obs group).diff).frames = 0
  unfold positionWant
  simp [unframed]

theorem step_shift_of_ready (engine : Engine K) (libm : Libm K) (nowUs : Int)
    (obs : Observation) (group : GroupEvidence) (ready : engine.Ready libm nowUs obs group) :
    let stepped := engine.step libm nowUs obs group
    stepped.1.pendingDispUs = stepped.2.frames * engine.profile.frameUs ∧
      stepped.1.err.meanUs =
        (engine.assess libm nowUs obs group).engine.err.meanUs -
          (stepped.1.pendingDispUs : K) := by
  rw [step_of_ready engine libm nowUs obs group ready,
    ← assess_profile engine libm nowUs obs group]
  exact ⟨rfl, rfl⟩

end Engine

end Timing
