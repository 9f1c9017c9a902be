import SnapcastSync.Engine.Bounds

/-! The attribution of a rate command. A steering step asks for the crystal, its proportional
term and the shared term, remembers the first two as they were asked for and the command as it
was limited, and explains the next change by what it remembers. -/

namespace Timing

open Rounding

variable {K : Type} [Field K] [LinearOrder K] [FloorRing K]

namespace Engine

/-- `reset`. -/
def reset (engine : Engine K) : Engine K :=
  { engine with
    crystalPpm := 0
    crystalAtUs := 0
    creditFrames := 0
    creditCount := 0
    creditSinceUs := 0
    err := { engine.err with seeded := false }
    inFlight := false
    inFlightId := 0
    inFlightFrames := 0
    inFlightSinceUs := 0
    pendingDispUs := 0
    pendingCompUntilUs := 0
    pendingRefUs := 0
    serialiseUntilUs := 0
    lastObsUs := 0
    suppressed := 0 }

/-- The engine a steering step takes its command from, the crystal integral done. -/
def integrated (engine : Engine K) (libm : Libm K) (nowUs : Int) (obs : Observation)
    (group : GroupEvidence) : Engine K × Decision K :=
  (engine.assess libm nowUs obs group).engine.integrate (engine.weighed libm nowUs obs group)
    (obs.errorUs - (engine.retirePending nowUs obs.errorUs).pendingDispUs)
    ((engine.assess libm nowUs obs group).engine.sinceObsUs nowUs)
    (engine.assess libm nowUs obs group).diff

def ready (engine : Engine K) (libm : Libm K) (nowUs : Int) (obs : Observation)
    (group : GroupEvidence) : Engine K :=
  { (engine.integrated libm nowUs obs group).1 with
    crystalAtUs :=
      if (engine.assess libm nowUs obs group).engine.crystalAtUs = 0 then nowUs
      else (engine.assess libm nowUs obs group).engine.crystalAtUs
    lastObsUs := nowUs }

theorem step_eq_rateCommand (engine : Engine K) (libm : Libm K) (nowUs : Int)
    (obs : Observation) (group : GroupEvidence) (steers : engine.Steers libm nowUs obs group) :
    engine.step libm nowUs obs group =
      (engine.ready libm nowUs obs group).rateCommand (engine.integrated libm nowUs obs group).2
        ((engine.assess libm nowUs obs group).engine.sinceObsUs nowUs) group
        (engine.assess libm nowUs obs group).diff (engine.assess libm nowUs obs group).want :=
  step_of_content engine libm nowUs obs group steers.fed steers.content

def proportional (engine : Engine K) (diff : Differential K) (want : PositionWant K) : K :=
  let pSigmaUs :=
    if engine.profile.kpFromDiffSigma && diff.haveDiff then
      max diff.gdSigmaUs (engine.profile.frameUs : K)
    else engine.sigmaEUs
  clamp ((engine.proportionalGain pSigmaUs).1 * (want.ePositionUs : K))
    (-engine.profile.rateAuthorityPpm) engine.profile.rateAuthorityPpm

def askedCrystalPpm (engine : Engine K) (libm : Libm K) (nowUs : Int) (obs : Observation)
    (group : GroupEvidence) : K :=
  (engine.integrated libm nowUs obs group).1.crystalPpm

def askedPPpm (engine : Engine K) (libm : Libm K) (nowUs : Int) (obs : Observation)
    (group : GroupEvidence) : K :=
  (engine.integrated libm nowUs obs group).1.proportional
    (engine.assess libm nowUs obs group).diff (engine.assess libm nowUs obs group).want

def askedPpm (engine : Engine K) (libm : Libm K) (nowUs : Int) (obs : Observation)
    (group : GroupEvidence) : K :=
  engine.askedCrystalPpm libm nowUs obs group + engine.askedPPpm libm nowUs obs group +
    engine.commonTerm group

theorem integrate_remembered (engine : Engine K) (decision : Decision K) (e dtUs : Int)
    (diff : Differential K) :
    let integrated := (engine.integrate decision e dtUs diff).1
    integrated.lastCrystalPpm = engine.lastCrystalPpm ∧
      integrated.lastPPpm = engine.lastPPpm := by
  rw [integrate]
  split
  · exact ⟨rfl, rfl⟩
  · exact ⟨rfl, rfl⟩

theorem assess_remembered (engine : Engine K) (libm : Libm K) (nowUs : Int)
    (obs : Observation) (group : GroupEvidence) :
    (engine.assess libm nowUs obs group).engine.lastCrystalPpm = engine.lastCrystalPpm ∧
      (engine.assess libm nowUs obs group).engine.lastPPpm = engine.lastPPpm := by
  obtain ⟨err, gd, sigma, at_, same⟩ := assess_refiltered engine libm nowUs obs group
  obtain ⟨until_, disp, ref, retired⟩ := retirePending_pending engine nowUs obs.errorUs
  rw [same, retired, expireInFlight]
  split
  · exact ⟨rfl, rfl⟩
  · exact ⟨rfl, rfl⟩

def limitPpm (engine : Engine K) (dtUs : Int) : K :=
  let horizonS := max millisecond (seconds engine.profile.rateHorizonUs)
  let dtCmdS := if 0 < dtUs then min (seconds dtUs) horizonS else 0
  engine.profile.rateAuthorityPpm * (dtCmdS / horizonS)

/-- The rate command in terms of what it asks for. -/
theorem rateCommand_attribution (engine : Engine K) (decision : Decision K) (dtUs : Int)
    (group : GroupEvidence) (diff : Differential K) (want : PositionWant K) :
    let answered := engine.rateCommand decision dtUs group diff want
    let asked := engine.crystalPpm + engine.proportional diff want + engine.commonTerm group
    answered.1.lastCrystalPpm = engine.crystalPpm ∧
      answered.1.lastPPpm = engine.proportional diff want ∧
      answered.1.lastRateCmd = answered.2.ratePpm ∧
      (answered.2.ratePpm =
        if engine.rateCmdSeeded then
          engine.lastRateCmd + clamp (asked - engine.lastRateCmd) (-engine.limitPpm dtUs)
            (engine.limitPpm dtUs)
        else asked) ∧
      (engine.rateCmdSeeded = true →
        answered.2.decision.dRatePpm = answered.2.ratePpm - engine.lastRateCmd ∧
          answered.2.decision.dCrystalPpm = engine.crystalPpm - engine.lastCrystalPpm ∧
          answered.2.decision.dPPpm = engine.proportional diff want - engine.lastPPpm ∧
          answered.2.decision.slewClipped =
            decide (engine.limitPpm dtUs < |asked - engine.lastRateCmd|)) := by
  refine ⟨rfl, rfl, rfl, rfl, ?_⟩
  intro seeded
  rw [rateCommand]
  dsimp only
  rw [seeded, if_pos rfl, if_pos rfl, if_pos rfl, if_pos rfl, Bool.true_and]
  exact ⟨rfl, rfl, rfl, rfl⟩

omit [FloorRing K] in
theorem commonTerm_of_profile {left right : Engine K} (same : left.profile = right.profile)
    (group : GroupEvidence) : left.commonTerm group = right.commonTerm group := by
  rw [commonTerm, commonTerm, same]

structure Attribution (engine : Engine K) (libm : Libm K) (nowUs : Int) (obs : Observation)
    (group : GroupEvidence) (stepped : Engine K × Command K) : Prop where
  crystal : stepped.1.lastCrystalPpm = engine.askedCrystalPpm libm nowUs obs group
  proportional : stepped.1.lastPPpm = engine.askedPPpm libm nowUs obs group
  command : stepped.1.lastRateCmd = stepped.2.ratePpm
  rate : stepped.2.ratePpm =
    if engine.rateCmdSeeded then
      engine.lastRateCmd + clamp (engine.askedPpm libm nowUs obs group - engine.lastRateCmd)
        (-engine.allowancePpm nowUs) (engine.allowancePpm nowUs)
    else engine.askedPpm libm nowUs obs group
  explained : engine.rateCmdSeeded = true →
    stepped.2.decision.dRatePpm = stepped.2.ratePpm - engine.lastRateCmd ∧
      stepped.2.decision.dCrystalPpm =
        engine.askedCrystalPpm libm nowUs obs group - engine.lastCrystalPpm ∧
      stepped.2.decision.dPPpm = engine.askedPPpm libm nowUs obs group - engine.lastPPpm ∧
      stepped.2.decision.slewClipped =
        decide (engine.allowancePpm nowUs <
          |engine.askedPpm libm nowUs obs group - engine.lastRateCmd|)

theorem ready_remembers (engine : Engine K) (libm : Libm K) (nowUs : Int) (obs : Observation)
    (group : GroupEvidence) :
    let ready := engine.ready libm nowUs obs group
    ready.profile = engine.profile ∧ ready.rateCmdSeeded = engine.rateCmdSeeded ∧
      ready.lastRateCmd = engine.lastRateCmd ∧ ready.lastCrystalPpm = engine.lastCrystalPpm ∧
      ready.lastPPpm = engine.lastPPpm := by
  have assessed := assess_sameLimiter engine libm nowUs obs group
  have remembered := assess_remembered engine libm nowUs obs group
  obtain ⟨profile, lastRateCmd, seeded⟩ := integrate_sameLimiter
    (engine.assess libm nowUs obs group).engine (engine.weighed libm nowUs obs group)
    (obs.errorUs - (engine.retirePending nowUs obs.errorUs).pendingDispUs)
    ((engine.assess libm nowUs obs group).engine.sinceObsUs nowUs)
    (engine.assess libm nowUs obs group).diff
  obtain ⟨lastCrystal, lastP⟩ := integrate_remembered
    (engine.assess libm nowUs obs group).engine (engine.weighed libm nowUs obs group)
    (obs.errorUs - (engine.retirePending nowUs obs.errorUs).pendingDispUs)
    ((engine.assess libm nowUs obs group).engine.sinceObsUs nowUs)
    (engine.assess libm nowUs obs group).diff
  exact ⟨profile.trans assessed.profile, seeded.trans assessed.seeded,
    lastRateCmd.trans assessed.lastRateCmd, lastCrystal.trans remembered.1,
    lastP.trans remembered.2⟩

theorem ready_limitPpm (engine : Engine K) (libm : Libm K) (nowUs : Int) (obs : Observation)
    (group : GroupEvidence) :
    (engine.ready libm nowUs obs group).limitPpm
        ((engine.assess libm nowUs obs group).engine.sinceObsUs nowUs) =
      engine.allowancePpm nowUs := by
  rw [limitPpm, sinceObsUs, allowancePpm, (assess_sameLimiter engine libm nowUs obs group).lastObsUs,
    (engine.ready_remembers libm nowUs obs group).1]

theorem step_attribution (engine : Engine K) (libm : Libm K) (nowUs : Int) (obs : Observation)
    (group : GroupEvidence) (steers : engine.Steers libm nowUs obs group) :
    Attribution engine libm nowUs obs group (engine.step libm nowUs obs group) := by
  obtain ⟨profile, seeded, lastRateCmd, lastCrystal, lastP⟩ :=
    engine.ready_remembers libm nowUs obs group
  have limit := engine.ready_limitPpm libm nowUs obs group
  have shared := commonTerm_of_profile profile group
  rw [step_eq_rateCommand engine libm nowUs obs group steers]
  obtain ⟨crystal, proportional, command, rate, explained⟩ := rateCommand_attribution
    (engine.ready libm nowUs obs group) (engine.integrated libm nowUs obs group).2
    ((engine.assess libm nowUs obs group).engine.sinceObsUs nowUs) group
    (engine.assess libm nowUs obs group).diff (engine.assess libm nowUs obs group).want
  rw [limit, shared, lastRateCmd] at rate explained
  rw [seeded] at rate explained
  rw [lastCrystal, lastP] at explained
  exact ⟨crystal, proportional, command, rate, explained⟩

end Engine

/-- The calls on an engine with `reset` among them. -/
inductive AnyCall (K : Type) where
  | reset
  | other (call : Call K)

namespace AnyCall

def perform (libm : Libm K) (engine : Engine K) : AnyCall K → Engine K
  | .reset => engine.reset
  | .other call => call.perform libm engine

def profile : AnyCall K → Option (Profile K)
  | .reset => none
  | .other call => call.profile

/-- A rate decision after the first, when the limiter did not cut it, moved the command by what
the crystal and the proportional term moved. -/
def Attributed (libm : Libm K) (engine : Engine K) : AnyCall K → Prop
  | .other (.step nowUs obs group) =>
      engine.rateCmdSeeded = true → engine.Steers libm nowUs obs group →
        (engine.step libm nowUs obs group).2.decision.slewClipped = false →
        (engine.step libm nowUs obs group).2.decision.dRatePpm =
          (engine.step libm nowUs obs group).2.decision.dCrystalPpm +
            (engine.step libm nowUs obs group).2.decision.dPPpm
  | _ => True

/-- Such a decision starts from a command that was all that had been asked for. -/
def Uncut (libm : Libm K) (engine : Engine K) : AnyCall K → Prop
  | .other (.step nowUs obs group) =>
      engine.rateCmdSeeded = true → engine.Steers libm nowUs obs group →
        (engine.step libm nowUs obs group).2.decision.slewClipped = false →
        engine.lastRateCmd = engine.lastCrystalPpm + engine.lastPPpm
  | _ => True

end AnyCall

section Ordered

variable [IsStrictOrderedRing K]

omit [FloorRing K] [IsStrictOrderedRing K] in
theorem Engine.commonTerm_of_off (engine : Engine K) (group : GroupEvidence)
    (off : engine.profile.commonDrainS = 0) : engine.commonTerm group = 0 := by
  rw [Engine.commonTerm, off]
  exact if_neg (fun on => lt_irrefl 0 on.2)

/-- A command that is not cut is what was asked for. -/
theorem Engine.step_of_unclipped (engine : Engine K) (libm : Libm K) (nowUs : Int)
    (obs : Observation) (group : GroupEvidence) (seeded : engine.rateCmdSeeded = true)
    (steers : engine.Steers libm nowUs obs group)
    (unclipped : (engine.step libm nowUs obs group).2.decision.slewClipped = false) :
    (engine.step libm nowUs obs group).2.ratePpm = engine.askedPpm libm nowUs obs group := by
  have spec := engine.step_attribution libm nowUs obs group steers
  obtain ⟨_, _, _, clipped⟩ := spec.explained seeded
  rw [clipped] at unclipped
  have within := abs_le.mp (not_lt.mp (of_decide_eq_false unclipped))
  rw [spec.rate, if_pos seeded, clamp_of_mem _ _ _ within.1 within.2]
  exact add_sub_cancel _ _

/-- A command that is not cut leaves the memories in step with it. -/
theorem Engine.uncut_after (engine : Engine K) (libm : Libm K) (nowUs : Int) (obs : Observation)
    (group : GroupEvidence) (off : engine.profile.commonDrainS = 0)
    (steers : engine.Steers libm nowUs obs group)
    (unclipped : engine.rateCmdSeeded = true →
      (engine.step libm nowUs obs group).2.decision.slewClipped = false) :
    (engine.step libm nowUs obs group).1.lastRateCmd =
      (engine.step libm nowUs obs group).1.lastCrystalPpm +
        (engine.step libm nowUs obs group).1.lastPPpm := by
  have spec := engine.step_attribution libm nowUs obs group steers
  have rate : (engine.step libm nowUs obs group).2.ratePpm =
      engine.askedPpm libm nowUs obs group := by
    by_cases seeded : engine.rateCmdSeeded = true
    · exact engine.step_of_unclipped libm nowUs obs group seeded steers (unclipped seeded)
    · rw [spec.rate, if_neg seeded]
  rw [spec.command, spec.crystal, spec.proportional, rate, Engine.askedPpm,
    engine.commonTerm_of_off group off, add_zero]

theorem attributed_iff (libm : Libm K) (engine : Engine K) (call : AnyCall K)
    (off : engine.profile.commonDrainS = 0) :
    call.Attributed libm engine ↔ call.Uncut libm engine := by
  cases call with
  | reset => exact Iff.rfl
  | other call =>
      cases call with
      | step nowUs obs group =>
          apply forall_congr'
          intro seeded
          apply forall_congr'
          intro steers
          apply forall_congr'
          intro unclipped
          have spec := engine.step_attribution libm nowUs obs group steers
          obtain ⟨dRate, dCrystal, dP, _⟩ := spec.explained seeded
          have rate := engine.step_of_unclipped libm nowUs obs group seeded steers unclipped
          rw [dRate, dCrystal, dP, rate, Engine.askedPpm, engine.commonTerm_of_off group off]
          constructor
          · intro identity
            linarith
          · intro uncut
            linarith
      | _ => exact Iff.rfl

omit [IsStrictOrderedRing K] in
theorem AnyCall.perform_profile (libm : Libm K) (engine : Engine K) (call : AnyCall K)
    (holds : Profile K → Prop) (start : holds engine.profile)
    (stays : ∀ changed, call.profile = some changed → holds changed) :
    holds (call.perform libm engine).profile := by
  cases call with
  | reset => exact start
  | other call =>
      cases changes : call.profile with
      | none =>
          rw [perform, call.perform_profile libm engine changes]
          exact start
      | some changed =>
          cases call with
          | setProfile profile => exact stays profile rfl
          | _ => cases changes

/-- With the drain off the attribution is exact all along a run just when it is never taken from
a command that had been cut. -/
theorem rate_attributed_iff (libm : Libm K) (profile : Profile K) (calls : List (AnyCall K))
    (off : profile.commonDrainS = 0)
    (stays : ∀ call ∈ calls, ∀ changed, call.profile = some changed →
      changed.commonDrainS = 0) :
    Run.Along (AnyCall.perform libm) (AnyCall.Attributed libm) (Engine.create profile) calls ↔
      Run.Along (AnyCall.perform libm) (AnyCall.Uncut libm) (Engine.create profile) calls := by
  apply Run.along_iff_of_invariant (AnyCall.perform libm)
    (fun engine => engine.profile.commonDrainS = 0)
    (fun call => ∀ changed, call.profile = some changed → changed.commonDrainS = 0)
  · intro engine call start keeps
    exact call.perform_profile libm engine (fun profile => profile.commonDrainS = 0) start keeps
  · intro engine call start _
    exact attributed_iff libm engine call start
  · exact off
  · exact stays

end Ordered

private def inStep : Observation :=
  { atUs := 0
    errorUs := 0
    valid := true
    bufferUs := 0 }

private def cutShort : List (AnyCall Rat) :=
  [.other (.step 1000000 inStep GroupEvidence.none), .other (.setCrystalPpm (some 50)),
    .other (.step 1100000 inStep GroupEvidence.none),
    .other (.step 3100000 inStep GroupEvidence.none)]

private def fallingBehind : List (AnyCall Rat) :=
  [.other (.step 1000000 { inStep with errorUs := 100 } GroupEvidence.none),
    .other (.step 1100000 { inStep with errorUs := 110 } GroupEvidence.none),
    .other (.step 1200000 { inStep with errorUs := 120 } GroupEvidence.none)]

/-- The crystal and the proportional term both move in the last decision. -/
theorem rate_attributed_moving :
    (((fallingBehind.take 2).foldl (fun engine call => call.perform Libm.rational engine)
        (Engine.create Profile.initial)).step Libm.rational 1200000
          { inStep with errorUs := 120 } GroupEvidence.none).2.decision.dCrystalPpm ≠ 0 ∧
      (((fallingBehind.take 2).foldl (fun engine call => call.perform Libm.rational engine)
        (Engine.create Profile.initial)).step Libm.rational 1200000
          { inStep with errorUs := 120 } GroupEvidence.none).2.decision.dPPpm ≠ 0 ∧
      Run.Along (AnyCall.perform Libm.rational) (AnyCall.Attributed Libm.rational)
        (Engine.create Profile.initial) fallingBehind := by
  refine ⟨by decide +kernel, by decide +kernel, ?_⟩
  apply (rate_attributed_iff Libm.rational Profile.initial fallingBehind rfl _).mpr
  · refine ⟨?_, ?_, ?_, trivial⟩
    · intro impossible
      cases impossible
    · intro _ _ _
      decide +kernel
    · intro _ _ _
      decide +kernel
  · simp [fallingBehind, AnyCall.profile, Call.profile]

/-- The rest of a command that had been cut is nobody's in the next decision. -/
theorem rate_unattributed :
    ¬ ∀ (profile : Profile Rat) (calls : List (AnyCall Rat)), profile.commonDrainS = 0 →
      (∀ call ∈ calls, ∀ changed, call.profile = some changed → changed.commonDrainS = 0) →
      Run.Along (AnyCall.perform Libm.rational) (AnyCall.Attributed Libm.rational)
        (Engine.create profile) calls := by
  intro always
  have steady : ∀ call ∈ cutShort, ∀ changed, call.profile = some changed →
      changed.commonDrainS = 0 := by
    intro call member changed sets
    have none : call.profile = none := by
      revert call
      simp [cutShort, AnyCall.profile, Call.profile]
    rw [none] at sets
    cases sets
  have late := (always Profile.initial cutShort rfl steady).2.2.2.1
  exact absurd (late (by decide +kernel) (by decide +kernel) (by decide +kernel))
    (by decide +kernel)

end Timing
