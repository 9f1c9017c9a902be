import SnapcastSync.Engine.Attribution
import SnapcastSync.Engine.MissingDelta
import SnapcastSync.Player.TimingStep

/-! What `timing_step_` publishes of its own error. The split it goes by is recorded whenever the
crystal integral runs, with a differential to separate the error from or without one. -/

namespace Timing

open Rounding ClockSync

variable {K : Type} [Field K] [LinearOrder K] [FloorRing K]

namespace Engine

theorem differential_haveDiff (engine : Engine K) (libm : Libm K) (nowUs : Int)
    (group : GroupEvidence) :
    (engine.differential libm nowUs group).2.haveDiff = !engine.lacksDelta group := by
  rw [differential, lacksDelta]
  dsimp only
  by_cases measured : (group.present && decide (1 < group.contributors) &&
      !(engine.profile.gateGdOnTransient && group.selfTransient)) = true
  · rw [if_pos measured, measured]
    rfl
  · rw [if_neg measured]
    rw [Bool.not_eq_true] at measured
    rw [measured]
    by_cases held :
        (engine.profile.gateGdOnTransient && group.selfTransient && engine.gd.seeded) = true
    · rw [if_pos held, held]
      rfl
    · rw [if_neg held]
      rw [Bool.not_eq_true] at held
      rw [held]
      rfl

theorem assess_haveDiff (engine : Engine K) (libm : Libm K) (nowUs : Int) (obs : Observation)
    (group : GroupEvidence) :
    (engine.assess libm nowUs obs group).diff.haveDiff = !engine.lacksDelta group := by
  rw [← engine.lacksDelta_prepared libm nowUs obs group]
  exact differential_haveDiff _ libm nowUs group

/-- Without a delta it is only the wait for one that keeps the step from tracking the server. -/
theorem assess_differential_of_lacksDelta (engine : Engine K) (libm : Libm K) (nowUs : Int)
    (obs : Observation) (group : GroupEvidence) (lacks : engine.lacksDelta group = true) :
    (engine.assess libm nowUs obs group).diff.differential =
      !(engine.profile.positionNeedsDiff && group.hasPeers) := by
  rw [← engine.lacksDelta_prepared libm nowUs obs group] at lacks
  have profile := (engine.prepared_sameCrystal libm nowUs obs).profile
  change ((engine.prepared libm nowUs obs).differential libm nowUs group).2.differential = _
  rw [lacksDelta, Bool.and_eq_true, Bool.not_eq_true', Bool.not_eq_true'] at lacks
  rw [differential]
  dsimp only
  rw [if_neg (Bool.eq_false_iff.mp lacks.1), if_neg (Bool.eq_false_iff.mp lacks.2), ← profile]

theorem step_unsplit (engine : Engine K) (libm : Libm K) (nowUs : Int) (obs : Observation)
    (group : GroupEvidence) (bare : ¬ engine.Steers libm nowUs obs group) :
    (engine.step libm nowUs obs group).2.decision.eSplitValid = false := by
  cases engine.step_exit libm nowUs obs group with
  | invalid _ same =>
      rw [same]
      rfl
  | starved _ _ same =>
      rw [same]
      rfl
  | blocked _ _ _ same =>
      rw [same]
      rfl
  | issued _ same =>
      rw [same]
      rfl
  | steered fed content _ => exact absurd ⟨fed, content⟩ bare

theorem step_split (engine : Engine K) (libm : Libm K) (nowUs : Int) (obs : Observation)
    (group : GroupEvidence) (steers : engine.Steers libm nowUs obs group) :
    (engine.step libm nowUs obs group).2.decision.eSplitValid =
        (engine.integrated libm nowUs obs group).2.eSplitValid ∧
      (engine.step libm nowUs obs group).2.decision.eCommonUs =
        (engine.integrated libm nowUs obs group).2.eCommonUs ∧
      (engine.step libm nowUs obs group).2.decision.eFromDiff =
        (engine.integrated libm nowUs obs group).2.eFromDiff := by
  rw [step_eq_rateCommand engine libm nowUs obs group steers]
  exact ⟨rfl, rfl, rfl⟩

theorem assess_sinceObsUs (engine : Engine K) (libm : Libm K) (nowUs : Int) (obs : Observation)
    (group : GroupEvidence) :
    (engine.assess libm nowUs obs group).engine.sinceObsUs nowUs = engine.sinceObsUs nowUs := by
  rw [sinceObsUs, sinceObsUs, (assess_sameLimiter engine libm nowUs obs group).lastObsUs]

theorem integrated_split (engine : Engine K) (libm : Libm K) (nowUs : Int) (obs : Observation)
    (group : GroupEvidence) :
    (engine.integrated libm nowUs obs group).2.eFromDiff = !engine.lacksDelta group ∧
      ((engine.integrated libm nowUs obs group).2.eSplitValid = true ↔
        0 < engine.sinceObsUs nowUs ∧
          (engine.assess libm nowUs obs group).diff.differential = true) := by
  have haveDiff := engine.assess_haveDiff libm nowUs obs group
  rw [integrated, integrate, assess_sinceObsUs]
  split
  · rename_i runs
    exact ⟨haveDiff, fun _ => runs, fun _ => rfl⟩
  · rename_i idle
    exact ⟨haveDiff, fun impossible => Bool.noConfusion impossible, fun runs => absurd runs idle⟩

variable [IsStrictOrderedRing K]

theorem integrated_eCommonUs (engine : Engine K) (libm : Libm K) (nowUs : Int)
    (obs : Observation) (group : GroupEvidence) (lacks : engine.lacksDelta group = true)
    (recorded : (engine.integrated libm nowUs obs group).2.eSplitValid = true) :
    (engine.integrated libm nowUs obs group).2.eCommonUs =
      toInt32 (obs.errorUs - (engine.retirePending nowUs obs.errorUs).pendingDispUs) := by
  have runs := (engine.integrated_split libm nowUs obs group).2.mp recorded
  have missing := assess_of_lacksDelta engine libm nowUs obs group lacks
  rw [← engine.assess_sinceObsUs libm nowUs obs group] at runs
  rw [integrated, integrate, if_pos runs]
  dsimp only
  rw [missing, if_neg Bool.false_ne_true, llround_intCast]

/-- The split of a step carries the whole error, and shows it, exactly when the step steers and
integrates without a differential. -/
theorem step_undivided_iff (engine : Engine K) (libm : Libm K) (nowUs : Int) (obs : Observation)
    (group : GroupEvidence) :
    ((engine.step libm nowUs obs group).2.decision.eSplitValid = true ∧
        (engine.step libm nowUs obs group).2.decision.eCommonUs ≠ int32Min ∧
        (engine.step libm nowUs obs group).2.decision.eFromDiff = false) ↔
      engine.lacksDelta group = true ∧
        (engine.profile.positionNeedsDiff && group.hasPeers) = false ∧
        engine.Steers libm nowUs obs group ∧ 0 < engine.sinceObsUs nowUs ∧
        toInt32 (obs.errorUs - (engine.retirePending nowUs obs.errorUs).pendingDispUs) ≠
          int32Min := by
  constructor
  · rintro ⟨valid, shown, whole⟩
    have steers : engine.Steers libm nowUs obs group := by
      by_contra bare
      rw [engine.step_unsplit libm nowUs obs group bare] at valid
      exact Bool.noConfusion valid
    obtain ⟨splitValid, splitCommon, splitFrom⟩ :=
      engine.step_split libm nowUs obs group steers
    obtain ⟨recordedFrom, recordedIff⟩ := engine.integrated_split libm nowUs obs group
    rw [splitFrom, recordedFrom, Bool.not_eq_false'] at whole
    rw [splitValid] at valid
    obtain ⟨elapsed, tracks⟩ := recordedIff.mp valid
    rw [engine.assess_differential_of_lacksDelta libm nowUs obs group whole,
      Bool.not_eq_true'] at tracks
    rw [splitCommon, engine.integrated_eCommonUs libm nowUs obs group whole valid] at shown
    exact ⟨whole, tracks, steers, elapsed, shown⟩
  · rintro ⟨lacks, tracks, steers, elapsed, shown⟩
    obtain ⟨splitValid, splitCommon, splitFrom⟩ :=
      engine.step_split libm nowUs obs group steers
    obtain ⟨recordedFrom, recordedIff⟩ := engine.integrated_split libm nowUs obs group
    have differential := engine.assess_differential_of_lacksDelta libm nowUs obs group lacks
    rw [tracks, Bool.not_false] at differential
    have recorded := recordedIff.mpr ⟨elapsed, differential⟩
    rw [splitValid, splitCommon, splitFrom, recordedFrom, lacks,
      engine.integrated_eCommonUs libm nowUs obs group lacks recorded]
    exact ⟨recorded, shown, rfl⟩

end Engine

end Timing

namespace Player

open Rounding ClockSync Timing

variable {K : Type} [Field K] [LinearOrder K] [FloorRing K]

namespace TimingState

def evidence (timing : TimingState K) (input : TimingInput K) : GroupEvidence :=
  (groupEvidence timing.tsfSync input.nowUs).2

/-- A common error goes out only from a decision that had a differential to take off it. -/
def PublishesSplit (timing : TimingState K) (libm : Libm K) (input : TimingInput K) : Prop :=
  ∀ sync ∈ (timing.timingStep libm input).1.tsfSync, sync.pubCommonErrUs ≠ int32Min →
    (timing.timingStep libm input).2.decision.eFromDiff = true

/-- The step integrates its whole error: it has no group delta and does not wait for one, it is
on the rate path, and time has passed since the last observation. -/
structure Undivided (timing : TimingState K) (libm : Libm K) (input : TimingInput K) : Prop where
  listens : timing.tsfSync.isSome = true
  alone : ¬ ((timing.evidence input).present = true ∧ 1 < (timing.evidence input).contributors)
  tracks : (input.tuning.positionNeedsDiff && (timing.evidence input).hasPeers) = false
  steers : (timing.prepared input).Steers libm input.nowUs input.observation
    (timing.evidence input)
  elapsed : 0 < (timing.prepared input).sinceObsUs input.nowUs
  shown : toInt32 (input.errUs -
    ((timing.prepared input).retirePending input.nowUs input.errUs).pendingDispUs) ≠ int32Min

theorem evidence_selfTransient (timing : TimingState K) (input : TimingInput K) :
    (timing.evidence input).selfTransient = false := by
  rw [evidence]
  cases timing.tsfSync with
  | none => rfl
  | some sync => rfl

theorem evidence_lacksDelta (timing : TimingState K) (input : TimingInput K) (engine : Engine K) :
    engine.lacksDelta (timing.evidence input) = true ↔
      ¬ ((timing.evidence input).present = true ∧ 1 < (timing.evidence input).contributors) := by
  rw [Engine.lacksDelta, evidence_selfTransient]
  simp [imp_iff_not_or]

theorem timingStep_published (timing : TimingState K) (libm : Libm K) (input : TimingInput K)
    (sync : TsfSync K) (published : sync ∈ (timing.timingStep libm input).1.tsfSync) :
    sync.pubCommonErrUs =
      if (timing.timingStep libm input).2.decision.eSplitValid then
        (timing.timingStep libm input).2.decision.eCommonUs
      else int32Min := by
  obtain ⟨heard, _, rfl⟩ := Option.map_eq_some_iff.mp published
  rfl

theorem timingStep_listens (timing : TimingState K) (libm : Libm K) (input : TimingInput K) :
    (∃ sync, sync ∈ (timing.timingStep libm input).1.tsfSync) ↔ timing.tsfSync.isSome = true := by
  rw [timingStep]
  dsimp only
  cases timing.tsfSync with
  | none => simp [groupEvidence]
  | some sync => simp [groupEvidence]

variable [IsStrictOrderedRing K]

theorem undivided_iff (timing : TimingState K) (libm : Libm K) (input : TimingInput K) :
    timing.Undivided libm input ↔
      timing.tsfSync.isSome = true ∧
        (timing.timingStep libm input).2.decision.eSplitValid = true ∧
        (timing.timingStep libm input).2.decision.eCommonUs ≠ int32Min ∧
        (timing.timingStep libm input).2.decision.eFromDiff = false := by
  have split := (timing.prepared input).step_undivided_iff libm input.nowUs input.observation
    (timing.evidence input)
  rw [evidence_lacksDelta] at split
  constructor
  · intro undivided
    exact ⟨undivided.listens, split.mpr ⟨undivided.alone, undivided.tracks, undivided.steers,
      undivided.elapsed, undivided.shown⟩⟩
  · rintro ⟨listens, recorded⟩
    obtain ⟨alone, tracks, steers, elapsed, shown⟩ := split.mp recorded
    exact ⟨listens, alone, tracks, steers, elapsed, shown⟩

/-- Only a real split is published, exactly outside the steps that integrate their whole error. -/
theorem publishesSplit_iff (timing : TimingState K) (libm : Libm K) (input : TimingInput K) :
    timing.PublishesSplit libm input ↔ ¬ timing.Undivided libm input := by
  rw [undivided_iff]
  constructor
  · rintro publishes ⟨listens, valid, shown, whole⟩
    obtain ⟨sync, published⟩ := (timing.timingStep_listens libm input).mpr listens
    have carried := timing.timingStep_published libm input sync published
    rw [if_pos valid] at carried
    rw [← carried] at shown
    exact Bool.noConfusion (whole.symm.trans (publishes sync published shown))
  · intro divided sync published shown
    have carried := timing.timingStep_published libm input sync published
    have listens := (timing.timingStep_listens libm input).mp ⟨sync, published⟩
    by_cases valid : (timing.timingStep libm input).2.decision.eSplitValid = true
    · rw [carried, if_pos valid] at shown
      by_contra whole
      exact divided ⟨listens, valid, shown, Bool.eq_false_iff.mpr whole⟩
    · rw [carried, if_neg valid] at shown
      exact absurd rfl shown

private def aloneAt (nowUs : Int) : TimingInput Rat :=
  { nowUs := nowUs
    sampleRate := 44100
    errValid := true
    errUs := 100
    tuning := Tuning.initial
    depths :=
      { pipeDepthFrames := 0
        pipeDepthUs := 0
        ringDepthUs := 1000000
        ringDepthSlowUs := 1000000
        ringCapacityUs := 2972000 } }

/-- On its first chunk nothing has been integrated. -/
theorem publishesSplit_iff_first :
    (TimingState.create (some (TsfSync.create 500000))).PublishesSplit Libm.rational
      (aloneAt 1000000) := by
  apply (publishesSplit_iff _ Libm.rational (aloneAt 1000000)).mpr
  intro undivided
  exact absurd undivided.elapsed (by decide +kernel)

/-- On its second chunk it publishes all of it. -/
theorem lone_error_published :
    ¬ ∀ (plausibilityUs : Int) (inputs : List (TimingInput Rat)) (input : TimingInput Rat),
      (inputs.foldl (fun timing input => (timing.timingStep Libm.rational input).1)
        (TimingState.create (some (TsfSync.create plausibilityUs)))).PublishesSplit
        Libm.rational input := by
  intro always
  obtain ⟨sync, published⟩ := (timingStep_listens _ Libm.rational (aloneAt 1026122)).mpr
    (show (([aloneAt 1000000].foldl (fun timing input =>
      (timing.timingStep Libm.rational input).1)
      (TimingState.create (some (TsfSync.create 500000)))).tsfSync.isSome = true) by rfl)
  have split := always 500000 [aloneAt 1000000] (aloneAt 1026122) sync published
  have carried := timingStep_published _ Libm.rational (aloneAt 1026122) sync published
  exact absurd (split (by rw [carried]; decide +kernel)) (by decide +kernel)

end TimingState

end Player
