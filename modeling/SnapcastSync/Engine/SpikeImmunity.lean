import SnapcastSync.Engine.Attribution
import SnapcastSync.Engine.Innovation
import SnapcastSync.Engine.MissingDelta

/-! How far one step moves the means of seeded filters. The logs beside the engine keep the marks
of the innovations since each filter was seeded. -/

namespace Timing

open Rounding

variable {K : Type} [Field K] [LinearOrder K]

namespace Engine

variable [FloorRing K]

def measures (engine : Engine K) (group : GroupEvidence) : Bool :=
  group.present && decide (1 < group.contributors) &&
    !(engine.profile.gateGdOnTransient && group.selfTransient)

def elapsedS (us : Int) : K := if 0 < us then seconds us else 0

def errDtS (engine : Engine K) (nowUs : Int) : K := elapsedS (engine.sinceObsUs nowUs)

def errAlpha (engine : Engine K) (libm : Libm K) (nowUs : Int) : K :=
  smoothing libm (engine.errDtS nowUs) (max millisecond (seconds engine.profile.filterLagUs))

def gdDtS (engine : Engine K) (nowUs : Int) : K :=
  elapsedS (if 0 < engine.gdLastAtUs then nowUs - engine.gdLastAtUs else 0)

def gdAlpha (engine : Engine K) (libm : Libm K) (nowUs : Int) : K :=
  smoothing libm (engine.gdDtS nowUs)
    (max millisecond (seconds engine.profile.rateFilterLagEffectiveUs))

/-- What a step hears of the error, none where it is not fed or seeds the filter. -/
def errInnovation (engine : Engine K) (libm : Libm K) (nowUs : Int) (obs : Observation) :
    Option (Innovation K) :=
  if engine.Fed obs ∧ engine.err.seeded = true then
    some
      { us := ((obs.errorUs - (engine.retirePending nowUs obs.errorUs).pendingDispUs : Int) : K) -
          engine.err.meanUs
        alpha := engine.errAlpha libm nowUs
        maxMoveUs := engine.maxMoveUs (engine.errDtS nowUs)
        jumpUs := max (engine.maxMoveUs (engine.errDtS nowUs))
          (((4 : Nat) : K) * engine.sigmaEUs) }
  else none

def gdInnovation (engine : Engine K) (libm : Libm K) (nowUs : Int) (obs : Observation)
    (group : GroupEvidence) : Option (Innovation K) :=
  if engine.Fed obs ∧ engine.measures group = true ∧ engine.gd.seeded = true then
    some
      { us := (group.deltaUs : K) - engine.gd.meanUs
        alpha := engine.gdAlpha libm nowUs
        maxMoveUs := engine.maxMoveUs (engine.gdDtS nowUs)
        jumpUs := max (engine.maxMoveUs (engine.gdDtS nowUs))
          (((4 : Nat) : K) * engine.gdSigmaPrevUs) }
  else none

theorem errInnovation_listens (engine : Engine K) (libm : Libm K) (nowUs : Int)
    (obs : Observation) (heard : Innovation K)
    (hears : heard ∈ engine.errInnovation libm nowUs obs) :
    engine.Fed obs ∧ engine.err.seeded = true := by
  rw [errInnovation] at hears
  split at hears
  · assumption
  · cases hears

theorem gdInnovation_listens (engine : Engine K) (libm : Libm K) (nowUs : Int)
    (obs : Observation) (group : GroupEvidence) (heard : Innovation K)
    (hears : heard ∈ engine.gdInnovation libm nowUs obs group) :
    engine.Fed obs ∧ engine.measures group = true ∧ engine.gd.seeded = true := by
  rw [gdInnovation] at hears
  split at hears
  · assumption
  · cases hears

/-- How far a step moves the coordinates of the error by the correction that it issues. -/
def errShiftUs (engine : Engine K) (libm : Libm K) (nowUs : Int) (obs : Observation)
    (group : GroupEvidence) : K :=
  (((engine.step libm nowUs obs group).2.frames * engine.profile.frameUs : Int) : K)

def gdShiftUs (engine : Engine K) (libm : Libm K) (nowUs : Int) (obs : Observation)
    (group : GroupEvidence) : K :=
  if (engine.assess libm nowUs obs group).diff.haveDiff = true ∧ 1 < group.contributors ∧
      engine.profile.compensateGdFilter = true then
    engine.errShiftUs libm nowUs obs group *
      (((group.contributors - 1 : Int) : K) / (group.contributors : K))
  else 0

theorem step_filters (engine : Engine K) (libm : Libm K) (nowUs : Int) (obs : Observation)
    (group : GroupEvidence) (fed : engine.Fed obs) :
    (engine.step libm nowUs obs group).1.err =
        { (engine.assess libm nowUs obs group).engine.err with
          meanUs := (engine.assess libm nowUs obs group).engine.err.meanUs -
            engine.errShiftUs libm nowUs obs group } ∧
      (engine.step libm nowUs obs group).1.gd =
        { (engine.assess libm nowUs obs group).engine.gd with
          meanUs := (engine.assess libm nowUs obs group).engine.gd.meanUs -
            engine.gdShiftUs libm nowUs obs group } := by
  have still (same : (engine.step libm nowUs obs group).2.frames = 0) :
      engine.errShiftUs libm nowUs obs group = 0 ∧ engine.gdShiftUs libm nowUs obs group = 0 := by
    have unshifted : engine.errShiftUs libm nowUs obs group = 0 := by
      rw [errShiftUs, same, zero_mul, Int.cast_zero]
    refine ⟨unshifted, ?_⟩
    rw [gdShiftUs, unshifted, zero_mul, ite_self]
  cases engine.step_exit libm nowUs obs group with
  | invalid absent _ => exact Bool.noConfusion (absent.symm.trans fed.valid)
  | starved _ starved _ => exact Bool.noConfusion (starved.symm.trans fed.supplied)
  | blocked _ _ _ exit =>
      obtain ⟨err, gd⟩ := still (by rw [exit]; rfl)
      rw [err, gd, sub_zero, sub_zero, exit]
      exact ⟨rfl, rfl⟩
  | issued _ exit =>
      have profile := assess_profile engine libm nowUs obs group
      have shift : engine.errShiftUs libm nowUs obs group =
          (((engine.assess libm nowUs obs group).want.frames *
            (engine.assess libm nowUs obs group).engine.profile.frameUs : Int) : K) := by
        rw [errShiftUs, exit, profile]
        rfl
      rw [gdShiftUs, shift, exit, issue, profile]
      dsimp only
      refine ⟨rfl, ?_⟩
      split
      · rfl
      · rw [sub_zero]
  | steered _ _ exit =>
      have steered := steer_steered (engine.assess libm nowUs obs group).engine
        (engine.weighed libm nowUs obs group) nowUs
        (obs.errorUs - (engine.retirePending nowUs obs.errorUs).pendingDispUs) group
        (engine.assess libm nowUs obs group).diff (engine.assess libm nowUs obs group).want
      obtain ⟨err, gd⟩ := still (by rw [exit]; rfl)
      rw [err, gd, sub_zero, sub_zero, exit]
      exact ⟨steered.err, steered.gd⟩

theorem differential_err (engine : Engine K) (libm : Libm K) (nowUs : Int)
    (group : GroupEvidence) : (engine.differential libm nowUs group).1.err = engine.err := by
  rw [differential]
  dsimp only
  split
  · rfl
  · split
    · rfl
    · rfl

theorem expireInFlight_err (engine : Engine K) (nowUs : Int) :
    (engine.expireInFlight nowUs).err = engine.err := by
  rw [expireInFlight]
  split
  · rfl
  · rfl

theorem assess_err (engine : Engine K) (libm : Libm K) (nowUs : Int) (obs : Observation)
    (group : GroupEvidence) :
    (engine.assess libm nowUs obs group).engine.err =
      ((engine.retirePending nowUs obs.errorUs).filteredErr libm nowUs
        (obs.errorUs - (engine.retirePending nowUs obs.errorUs).pendingDispUs)).1 := by
  have diffed := differential_err (engine.prepared libm nowUs obs) libm nowUs group
  have expired := expireInFlight_err
    ((engine.retirePending nowUs obs.errorUs).filterError libm nowUs
      (obs.errorUs - (engine.retirePending nowUs obs.errorUs).pendingDispUs)).1 nowUs
  have filtered := congrArg (fun filtered => filtered.1.err)
    ((engine.retirePending nowUs obs.errorUs).filterError_eq libm nowUs
      (obs.errorUs - (engine.retirePending nowUs obs.errorUs).pendingDispUs))
  exact diffed.trans (expired.trans filtered)

theorem assess_err_of_heard (engine : Engine K) (libm : Libm K) (nowUs : Int)
    (obs : Observation) (group : GroupEvidence) (heard : Innovation K)
    (hears : heard ∈ engine.errInnovation libm nowUs obs) :
    (engine.assess libm nowUs obs group).engine.err =
      (engine.err.track (engine.err.meanUs + heard.us) heard.alpha heard.maxMoveUs
        heard.jumpUs).1 := by
  rw [errInnovation] at hears
  split at hears
  · rename_i listens
    rw [Option.mem_some_iff] at hears
    subst hears
    obtain ⟨until_, disp, ref, retired⟩ := retirePending_pending engine nowUs obs.errorUs
    have unseeded : ¬ (!engine.err.seeded) = true := by
      rw [listens.2]
      decide
    rw [assess_err, retired, filteredErr, add_sub_cancel]
    exact congrArg Prod.fst (if_neg unseeded)
  · cases hears

theorem assess_err_of_seeding (engine : Engine K) (libm : Libm K) (nowUs : Int)
    (obs : Observation) (group : GroupEvidence) (unseeded : engine.err.seeded = false) :
    (engine.assess libm nowUs obs group).engine.err =
      engine.err.seed
        ((obs.errorUs - (engine.retirePending nowUs obs.errorUs).pendingDispUs : Int) : K)
        (engine.profile.frameUs : K) := by
  obtain ⟨until_, disp, ref, retired⟩ := retirePending_pending engine nowUs obs.errorUs
  have seeds : (!engine.err.seeded) = true := by
    rw [unseeded]
    rfl
  rw [assess_err, retired, filteredErr]
  exact congrArg Prod.fst (if_pos seeds)

theorem prepared_only (engine : Engine K) (libm : Libm K) (nowUs : Int) (obs : Observation) :
    ∃ err compUntilUs dispUs refUs inFlight inFlightFrames,
      engine.prepared libm nowUs obs = { engine with
        err := err
        pendingCompUntilUs := compUntilUs
        pendingDispUs := dispUs
        pendingRefUs := refUs
        inFlight := inFlight
        inFlightFrames := inFlightFrames } := by
  obtain ⟨until_, disp, ref, retired⟩ := retirePending_pending engine nowUs obs.errorUs
  rw [prepared, filterError_eq, retired, expireInFlight]
  split
  · exact ⟨_, until_, disp, ref, false, 0, rfl⟩
  · exact ⟨_, until_, disp, ref, engine.inFlight, engine.inFlightFrames, rfl⟩

theorem assess_gd_of_heard (engine : Engine K) (libm : Libm K) (nowUs : Int)
    (obs : Observation) (group : GroupEvidence) (heard : Innovation K)
    (hears : heard ∈ engine.gdInnovation libm nowUs obs group) :
    (engine.assess libm nowUs obs group).engine.gd =
      (engine.gd.track (engine.gd.meanUs + heard.us) heard.alpha heard.maxMoveUs
        heard.jumpUs).1 := by
  rw [gdInnovation] at hears
  split at hears
  · rename_i listens
    rw [Option.mem_some_iff] at hears
    subst hears
    obtain ⟨_, measured, seeded⟩ := listens
    obtain ⟨err, until_, disp, ref, flying, frames, only⟩ := engine.prepared_only libm nowUs obs
    have unseeded : ¬ (!engine.gd.seeded) = true := by
      rw [seeded]
      decide
    change ((engine.prepared libm nowUs obs).differential libm nowUs group).1.gd = _
    rw [only, differential, add_sub_cancel]
    dsimp only
    rw [measures] at measured
    rw [if_pos measured, filterDifferential]
    exact congrArg Prod.fst (if_neg unseeded)
  · cases hears

theorem assess_gd_of_seeding (engine : Engine K) (libm : Libm K) (nowUs : Int)
    (obs : Observation) (group : GroupEvidence) (measured : engine.measures group = true)
    (unseeded : engine.gd.seeded = false) :
    (engine.assess libm nowUs obs group).engine.gd =
      engine.gd.seed (group.deltaUs : K) (engine.profile.frameUs : K) := by
  obtain ⟨err, until_, disp, ref, flying, frames, only⟩ := engine.prepared_only libm nowUs obs
  have seeds : (!engine.gd.seeded) = true := by
    rw [unseeded]
    rfl
  change ((engine.prepared libm nowUs obs).differential libm nowUs group).1.gd = _
  rw [only, differential]
  dsimp only
  rw [measures] at measured
  rw [if_pos measured, filterDifferential]
  exact congrArg Prod.fst (if_pos seeds)

theorem assess_gd_of_unmeasured (engine : Engine K) (libm : Libm K) (nowUs : Int)
    (obs : Observation) (group : GroupEvidence) (unmeasured : engine.measures group = false) :
    (engine.assess libm nowUs obs group).engine.gd = engine.gd := by
  obtain ⟨err, until_, disp, ref, flying, frames, only⟩ := engine.prepared_only libm nowUs obs
  change ((engine.prepared libm nowUs obs).differential libm nowUs group).1.gd = _
  rw [only, differential]
  dsimp only
  rw [measures] at unmeasured
  rw [if_neg (Bool.eq_false_iff.mp unmeasured)]
  split
  · rfl
  · rfl

end Engine

/-- An engine with the marks of what its filters have heard since they were seeded, newest
first. -/
structure Watched (K : Type) where
  engine : Engine K
  errMarks : List Int
  gdMarks : List Int

def watch (engine : Engine K) : Watched K :=
  { engine := engine
    errMarks := []
    gdMarks := [] }

/-- The marks after one more input, which seeds the filter where it is no innovation. -/
def marked (heard : Option (Innovation K)) (taken : Bool) (marks : List Int) : List Int :=
  match heard with
  | some heard => heard.mark :: marks
  | none => if taken then [] else marks

/-- Unless what is heard is the third beyond the threshold in a row and of one sign, the mean is
not assigned: it moves by its share of it, and so within the bound. -/
def Heeds (heard : Option (Innovation K)) (marks : List Int) (movedUs boundUs : K) : Prop :=
  (∀ innovation ∈ heard, ¬ Streak.Logged 0 jumpConfirmSamples (innovation.mark :: marks)) →
    |movedUs| ≤ boundUs ∧ movedUs = (heard.map Innovation.shareUs).getD 0

variable [FloorRing K]

section Ordered

variable [IsStrictOrderedRing K]

omit [FloorRing K] in
/-- Of a filter that minds its log, what is heard is heeded just when a jump that it adopts has
been heard as often as that. -/
theorem heeds_iff {filter : JumpFilter K} {marks : List Int} (minds : filter.Minds marks)
    (heard : Innovation K) (weighed : heard.Weighed) (movedUs : K)
    (moved : movedUs = if filter.Adopts heard then heard.us else heard.shareUs) :
    Heeds (some heard) marks movedUs (heard.alpha * heard.maxMoveUs) ↔
      (filter.Adopts heard → jumpConfirmSamples ≤ marks.length + 1) := by
  constructor
  · intro heeds adopts
    by_contra short
    have unlogged : ∀ innovation ∈ some heard,
        ¬ Streak.Logged 0 jumpConfirmSamples (innovation.mark :: marks) := by
      intro innovation member
      rw [Option.mem_some_iff] at member
      subst member
      exact fun logged => short ((minds.logged_iff heard adopts).mp logged)
    have bounded := (heeds unlogged).1
    rw [moved, if_pos adopts] at bounded
    have marked := ((filter.adopts_iff heard).mp adopts).1
    exact absurd (heard.lt_abs_of_marked weighed marked) (not_lt.mpr bounded)
  · intro recorded unlogged
    have refuses : ¬ filter.Adopts heard := by
      intro adopts
      exact unlogged heard rfl ((minds.logged_iff heard adopts).mpr (recorded adopts))
    rw [moved, if_neg refuses]
    exact ⟨heard.shareUs_abs_le weighed, rfl⟩

omit [FloorRing K] in
theorem heeds_none (marks : List Int) (boundUs : K) (bound : 0 ≤ boundUs) :
    Heeds none marks 0 boundUs := by
  intro _
  rw [abs_zero]
  exact ⟨bound, rfl⟩

theorem smoothing_mem (libm : Libm K) (dtS tauS : K) (positive : 0 < tauS) :
    0 ≤ smoothing libm dtS tauS ∧ smoothing libm dtS tauS ≤ 1 := by
  rw [smoothing]
  split
  · rename_i elapsed
    have decays : -dtS / tauS ≤ 0 :=
      div_nonpos_of_nonpos_of_nonneg (neg_nonpos.mpr (le_of_lt elapsed)) (le_of_lt positive)
    have least := libm.exp_pos (-dtS / tauS)
    have most := libm.exp_le_one (-dtS / tauS) decays
    exact ⟨sub_nonneg.mpr most, sub_le_self 1 (le_of_lt least)⟩
  · exact ⟨le_refl 0, zero_le_one⟩

namespace Engine

omit [FloorRing K] in
theorem elapsedS_nonneg (us : Int) : (0 : K) ≤ elapsedS us := by
  rw [elapsedS]
  split
  · rename_i elapsed
    exact le_of_lt (seconds_pos elapsed)
  · exact le_refl 0

omit [FloorRing K] in
theorem errDtS_nonneg (engine : Engine K) (nowUs : Int) : 0 ≤ engine.errDtS nowUs :=
  elapsedS_nonneg _

omit [FloorRing K] in
theorem gdDtS_nonneg (engine : Engine K) (nowUs : Int) : 0 ≤ engine.gdDtS nowUs :=
  elapsedS_nonneg _

theorem maxMoveUs_nonneg (engine : Engine K) (authority : 0 ≤ engine.profile.rateAuthorityPpm)
    (dtS : K) (elapsed : 0 ≤ dtS) : 0 ≤ engine.maxMoveUs dtS := by
  have span := add_nonneg authority (crystalLimit_nonneg (K := K))
  have frame : (0 : K) ≤ (engine.profile.frameUs : K) := by
    exact_mod_cast frameUs_nonneg engine.profile
  exact add_nonneg (mul_nonneg span elapsed) frame

theorem tauS_pos (lagUs : Int) : (0 : K) < max millisecond (seconds lagUs) := by
  apply lt_of_lt_of_le _ (le_max_left _ _)
  rw [millisecond]
  positivity

theorem weighed_of_span (engine : Engine K) (libm : Libm K) (lagUs : Int) (dtS us sigma : K)
    (authority : 0 ≤ engine.profile.rateAuthorityPpm) (elapsed : 0 ≤ dtS) :
    Innovation.Weighed
      { us := us
        alpha := smoothing libm dtS (max millisecond (seconds lagUs))
        maxMoveUs := engine.maxMoveUs dtS
        jumpUs := max (engine.maxMoveUs dtS) sigma } := by
  obtain ⟨nonneg, atMost⟩ := smoothing_mem libm dtS _ (tauS_pos lagUs)
  have limit := engine.maxMoveUs_nonneg authority dtS elapsed
  exact ⟨nonneg, atMost, limit, le_max_left _ _⟩

theorem errInnovation_weighed (engine : Engine K) (libm : Libm K) (nowUs : Int)
    (obs : Observation) (authority : 0 ≤ engine.profile.rateAuthorityPpm)
    (heard : Innovation K) (hears : heard ∈ engine.errInnovation libm nowUs obs) :
    heard.Weighed ∧ heard.alpha = engine.errAlpha libm nowUs ∧
      heard.maxMoveUs = engine.maxMoveUs (engine.errDtS nowUs) := by
  rw [errInnovation] at hears
  split at hears
  · rw [Option.mem_some_iff] at hears
    subst hears
    exact ⟨engine.weighed_of_span libm _ _ _ _ authority (engine.errDtS_nonneg nowUs), rfl, rfl⟩
  · cases hears

theorem gdInnovation_weighed (engine : Engine K) (libm : Libm K) (nowUs : Int)
    (obs : Observation) (group : GroupEvidence)
    (authority : 0 ≤ engine.profile.rateAuthorityPpm)
    (heard : Innovation K) (hears : heard ∈ engine.gdInnovation libm nowUs obs group) :
    heard.Weighed ∧ heard.alpha = engine.gdAlpha libm nowUs ∧
      heard.maxMoveUs = engine.maxMoveUs (engine.gdDtS nowUs) := by
  rw [gdInnovation] at hears
  split at hears
  · rw [Option.mem_some_iff] at hears
    subst hears
    exact ⟨engine.weighed_of_span libm _ _ _ _ authority (engine.gdDtS_nonneg nowUs), rfl, rfl⟩
  · cases hears

end Engine

end Ordered

namespace Watched

def perform (libm : Libm K) (watched : Watched K) : AnyCall K → Watched K
  | .other (.step nowUs obs group) =>
      { engine := (watched.engine.step libm nowUs obs group).1
        errMarks := marked (watched.engine.errInnovation libm nowUs obs)
          (decide (watched.engine.Fed obs)) watched.errMarks
        gdMarks := marked (watched.engine.gdInnovation libm nowUs obs group)
          (decide (watched.engine.Fed obs) && watched.engine.measures group) watched.gdMarks }
  | call => { watched with engine := call.perform libm watched.engine }

/-- A step moves neither mean of a seeded filter by more than a bounded share of what it hears,
beyond the shift of a correction that it issues. -/
structure Immune (libm : Libm K) (watched : Watched K) (nowUs : Int) (obs : Observation)
    (group : GroupEvidence) : Prop where
  err : watched.engine.err.seeded = true →
    Heeds (watched.engine.errInnovation libm nowUs obs) watched.errMarks
      ((watched.engine.step libm nowUs obs group).1.err.meanUs +
        watched.engine.errShiftUs libm nowUs obs group - watched.engine.err.meanUs)
      (watched.engine.errAlpha libm nowUs *
        watched.engine.maxMoveUs (watched.engine.errDtS nowUs))
  gd : watched.engine.gd.seeded = true →
    Heeds (watched.engine.gdInnovation libm nowUs obs group) watched.gdMarks
      ((watched.engine.step libm nowUs obs group).1.gd.meanUs +
        watched.engine.gdShiftUs libm nowUs obs group - watched.engine.gd.meanUs)
      (watched.engine.gdAlpha libm nowUs *
        watched.engine.maxMoveUs (watched.engine.gdDtS nowUs))

def SpikeImmune (libm : Libm K) (watched : Watched K) : AnyCall K → Prop
  | .other (.step nowUs obs group) => watched.Immune libm nowUs obs group
  | _ => True

/-- The innovation does not complete a run that the error filter had counted before it was
seeded: with two counted, two have been heard since. -/
def Uncarried (libm : Libm K) (watched : Watched K) : AnyCall K → Prop
  | .other (.step nowUs obs _) =>
      ∀ innovation ∈ watched.engine.errInnovation libm nowUs obs,
        innovation.mark ≠ 0 → innovation.mark = watched.engine.err.jumpDir →
        jumpConfirmSamples ≤ watched.engine.err.jumpRun + 1 →
        jumpConfirmSamples ≤ watched.errMarks.length + 1
  | _ => True

/-- The logs are those of the filters, and the differential filter, which no reset touches, has
counted nothing that its log does not have. -/
structure Minded (watched : Watched K) : Prop where
  err : watched.engine.err.Minds watched.errMarks
  gd : watched.engine.gd.Counts watched.gdMarks
  authority : 0 ≤ watched.engine.profile.rateAuthorityPpm

variable [IsStrictOrderedRing K]

omit [IsStrictOrderedRing K] in
theorem errMoved_of_heard (engine : Engine K) (libm : Libm K) (nowUs : Int) (obs : Observation)
    (group : GroupEvidence) (heard : Innovation K)
    (hears : heard ∈ engine.errInnovation libm nowUs obs) :
    (engine.step libm nowUs obs group).1.err.meanUs + engine.errShiftUs libm nowUs obs group -
        engine.err.meanUs =
      if engine.err.Adopts heard then heard.us else heard.shareUs := by
  obtain ⟨fed, _⟩ := engine.errInnovation_listens libm nowUs obs heard hears
  have tracked := (engine.err.track_eq heard).1
  rw [(engine.step_filters libm nowUs obs group fed).1,
    engine.assess_err_of_heard libm nowUs obs group heard hears]
  dsimp only
  rw [tracked, sub_add_cancel, add_sub_cancel_left]

omit [IsStrictOrderedRing K] in
theorem gdMoved_of_heard (engine : Engine K) (libm : Libm K) (nowUs : Int) (obs : Observation)
    (group : GroupEvidence) (heard : Innovation K)
    (hears : heard ∈ engine.gdInnovation libm nowUs obs group) :
    (engine.step libm nowUs obs group).1.gd.meanUs + engine.gdShiftUs libm nowUs obs group -
        engine.gd.meanUs =
      if engine.gd.Adopts heard then heard.us else heard.shareUs := by
  obtain ⟨fed, _⟩ := engine.gdInnovation_listens libm nowUs obs group heard hears
  have tracked := (engine.gd.track_eq heard).1
  rw [(engine.step_filters libm nowUs obs group fed).2,
    engine.assess_gd_of_heard libm nowUs obs group heard hears]
  dsimp only
  rw [tracked, sub_add_cancel, add_sub_cancel_left]

omit [IsStrictOrderedRing K] in
theorem step_filters_of_unfed (engine : Engine K) (libm : Libm K) (nowUs : Int)
    (obs : Observation) (group : GroupEvidence) (unfed : ¬ engine.Fed obs) :
    (engine.step libm nowUs obs group).1.err = engine.err ∧
      (engine.step libm nowUs obs group).1.gd = engine.gd ∧
      engine.errShiftUs libm nowUs obs group = 0 ∧
      engine.gdShiftUs libm nowUs obs group = 0 := by
  have frames : (engine.step libm nowUs obs group).2.frames = 0 ∧
      (engine.step libm nowUs obs group).1.err = engine.err ∧
      (engine.step libm nowUs obs group).1.gd = engine.gd := by
    cases engine.step_exit libm nowUs obs group with
    | invalid _ exit =>
        rw [exit]
        exact ⟨rfl, rfl, rfl⟩
    | starved _ _ exit =>
        obtain ⟨until_, disp, ref, retired⟩ := Engine.retirePending_pending engine nowUs obs.errorUs
        rw [exit, retired]
        exact ⟨rfl, rfl, rfl⟩
    | blocked fed _ _ _ => exact absurd fed unfed
    | issued ready _ => exact absurd ⟨ready.valid, ready.fed⟩ unfed
    | steered fed _ _ => exact absurd fed unfed
  have unshifted : engine.errShiftUs libm nowUs obs group = 0 := by
    rw [Engine.errShiftUs, frames.1, zero_mul, Int.cast_zero]
  refine ⟨frames.2.1, frames.2.2, unshifted, ?_⟩
  rw [Engine.gdShiftUs, unshifted, zero_mul, ite_self]

/-- The error filter is immune to this step exactly when it does not carry a run into it. -/
theorem err_heeds_iff (libm : Libm K) (watched : Watched K) (minded : watched.Minded)
    (nowUs : Int) (obs : Observation) (group : GroupEvidence) :
    (watched.engine.err.seeded = true →
      Heeds (watched.engine.errInnovation libm nowUs obs) watched.errMarks
        ((watched.engine.step libm nowUs obs group).1.err.meanUs +
          watched.engine.errShiftUs libm nowUs obs group - watched.engine.err.meanUs)
        (watched.engine.errAlpha libm nowUs *
          watched.engine.maxMoveUs (watched.engine.errDtS nowUs))) ↔
      watched.Uncarried libm (.other (.step nowUs obs group)) := by
  rw [Uncarried]
  cases hears : watched.engine.errInnovation libm nowUs obs with
  | some heard =>
      obtain ⟨weighed, alpha, limit⟩ := watched.engine.errInnovation_weighed libm nowUs obs
        minded.authority heard hears
      have moved := errMoved_of_heard watched.engine libm nowUs obs group heard hears
      obtain ⟨_, seeded⟩ := watched.engine.errInnovation_listens libm nowUs obs heard hears
      have heeds := heeds_iff minded.err heard weighed _ moved
      rw [alpha, limit] at heeds
      constructor
      · intro immune innovation member marked continues counted
        rw [Option.mem_some_iff] at member
        subst member
        exact heeds.mp (immune seeded)
          ((watched.engine.err.adopts_iff heard).mpr ⟨marked, continues, counted⟩)
      · intro uncarried _
        apply heeds.mpr
        intro adopts
        obtain ⟨marked, continues, counted⟩ := (watched.engine.err.adopts_iff heard).mp adopts
        exact uncarried heard rfl marked continues counted
  | none =>
      refine iff_of_true ?_ ?_
      · intro seeded
        have unfed : ¬ watched.engine.Fed obs := by
          intro fed
          rw [Engine.errInnovation, if_pos ⟨fed, seeded⟩] at hears
          cases hears
        obtain ⟨err, _, shift, _⟩ :=
          step_filters_of_unfed watched.engine libm nowUs obs group unfed
        have weighed := watched.engine.weighed_of_span libm watched.engine.profile.filterLagUs
          (watched.engine.errDtS nowUs) 0 0 minded.authority (watched.engine.errDtS_nonneg nowUs)
        rw [err, shift, add_zero, sub_self]
        exact heeds_none _ _ (mul_nonneg weighed.nonneg weighed.limit)
      · intro innovation member
        cases member

/-- The differential filter is immune to every step. -/
theorem gd_heeds (libm : Libm K) (watched : Watched K) (minded : watched.Minded)
    (nowUs : Int) (obs : Observation) (group : GroupEvidence)
    (seeded : watched.engine.gd.seeded = true) :
    Heeds (watched.engine.gdInnovation libm nowUs obs group) watched.gdMarks
      ((watched.engine.step libm nowUs obs group).1.gd.meanUs +
        watched.engine.gdShiftUs libm nowUs obs group - watched.engine.gd.meanUs)
      (watched.engine.gdAlpha libm nowUs *
        watched.engine.maxMoveUs (watched.engine.gdDtS nowUs)) := by
  cases hears : watched.engine.gdInnovation libm nowUs obs group with
  | some heard =>
      obtain ⟨weighed, alpha, limit⟩ := watched.engine.gdInnovation_weighed libm nowUs obs group
        minded.authority heard hears
      have moved := gdMoved_of_heard watched.engine libm nowUs obs group heard hears
      have heeds := heeds_iff minded.gd.minds heard weighed _ moved
      rw [alpha, limit] at heeds
      apply heeds.mpr
      intro adopts
      obtain ⟨_, _, counted⟩ := (watched.engine.gd.adopts_iff heard).mp adopts
      exact le_trans counted (Nat.succ_le_succ minded.gd.recorded)
  | none =>
      have weighed := watched.engine.weighed_of_span libm
        watched.engine.profile.rateFilterLagEffectiveUs (watched.engine.gdDtS nowUs) 0 0
        minded.authority (watched.engine.gdDtS_nonneg nowUs)
      have still : (watched.engine.step libm nowUs obs group).1.gd.meanUs +
          watched.engine.gdShiftUs libm nowUs obs group = watched.engine.gd.meanUs := by
        by_cases fed : watched.engine.Fed obs
        · have unmeasured : watched.engine.measures group = false := by
            rw [← Bool.not_eq_true]
            intro measured
            rw [Engine.gdInnovation, if_pos ⟨fed, measured, seeded⟩] at hears
            cases hears
          rw [(watched.engine.step_filters libm nowUs obs group fed).2,
            watched.engine.assess_gd_of_unmeasured libm nowUs obs group unmeasured]
          exact sub_add_cancel _ _
        · obtain ⟨_, gd, _, shift⟩ :=
            step_filters_of_unfed watched.engine libm nowUs obs group fed
          rw [gd, shift, add_zero]
      rw [still, sub_self]
      exact heeds_none _ _ (mul_nonneg weighed.nonneg weighed.limit)

theorem spikeImmune_iff (libm : Libm K) (watched : Watched K) (minded : watched.Minded)
    (call : AnyCall K) : watched.SpikeImmune libm call ↔ watched.Uncarried libm call := by
  cases call with
  | reset => exact Iff.rfl
  | other call =>
      cases call with
      | step nowUs obs group =>
          constructor
          · intro immune
            exact (watched.err_heeds_iff libm minded nowUs obs group).mp immune.err
          · intro uncarried
            exact ⟨(watched.err_heeds_iff libm minded nowUs obs group).mpr uncarried,
              watched.gd_heeds libm minded nowUs obs group⟩
      | _ => exact Iff.rfl

omit [FloorRing K] [IsStrictOrderedRing K] in
theorem create_minded (profile : Profile K) (authority : 0 ≤ profile.rateAuthorityPpm) :
    (watch (Engine.create profile)).Minded where
  err := ⟨Streak.Follows.none 0 0 [], Nat.succ_pos 2⟩
  gd := ⟨⟨Streak.Follows.none 0 0 [], Nat.succ_pos 2⟩, le_refl 0, fun _ => rfl⟩
  authority := authority

omit [IsStrictOrderedRing K] in
theorem step_err_lasting (holds : JumpFilter K → List Int → Prop)
    (lasting : JumpFilter.Lasting holds) (libm : Libm K) (watched : Watched K)
    (start : holds watched.engine.err watched.errMarks) (nowUs : Int) (obs : Observation)
    (group : GroupEvidence) :
    holds (watched.engine.step libm nowUs obs group).1.err
      (marked (watched.engine.errInnovation libm nowUs obs) (decide (watched.engine.Fed obs))
        watched.errMarks) := by
  by_cases fed : watched.engine.Fed obs
  · have same := (watched.engine.step_filters libm nowUs obs group fed).1
    apply lasting.moved (watched.engine.assess libm nowUs obs group).engine.err
    · rw [same]
      rfl
    · rw [same]
    cases hears : watched.engine.errInnovation libm nowUs obs with
    | some heard =>
        obtain ⟨_, seeded⟩ := watched.engine.errInnovation_listens libm nowUs obs heard hears
        rw [watched.engine.assess_err_of_heard libm nowUs obs group heard hears]
        exact lasting.tracks _ _ heard seeded start
    | none =>
        have unseeded : watched.engine.err.seeded = false := by
          rw [← Bool.not_eq_true]
          intro seeded
          rw [Engine.errInnovation, if_pos ⟨fed, seeded⟩] at hears
          cases hears
        rw [watched.engine.assess_err_of_seeding libm nowUs obs group unseeded,
          decide_eq_true fed]
        exact lasting.seeds _ _ _ _ unseeded start
  · obtain ⟨err, _, _, _⟩ := step_filters_of_unfed watched.engine libm nowUs obs group fed
    have unheard : watched.engine.errInnovation libm nowUs obs = none :=
      if_neg fun listens => fed listens.1
    rw [err, unheard, decide_eq_false fed]
    exact start

omit [IsStrictOrderedRing K] in
theorem step_gd_lasting (holds : JumpFilter K → List Int → Prop)
    (lasting : JumpFilter.Lasting holds) (libm : Libm K) (watched : Watched K)
    (start : holds watched.engine.gd watched.gdMarks) (nowUs : Int) (obs : Observation)
    (group : GroupEvidence) :
    holds (watched.engine.step libm nowUs obs group).1.gd
      (marked (watched.engine.gdInnovation libm nowUs obs group)
        (decide (watched.engine.Fed obs) && watched.engine.measures group) watched.gdMarks) := by
  by_cases fed : watched.engine.Fed obs
  · have same := (watched.engine.step_filters libm nowUs obs group fed).2
    apply lasting.moved (watched.engine.assess libm nowUs obs group).engine.gd
    · rw [same]
      rfl
    · rw [same]
    rw [decide_eq_true fed, Bool.true_and]
    cases hears : watched.engine.gdInnovation libm nowUs obs group with
    | some heard =>
        obtain ⟨_, _, seeded⟩ :=
          watched.engine.gdInnovation_listens libm nowUs obs group heard hears
        rw [watched.engine.assess_gd_of_heard libm nowUs obs group heard hears]
        exact lasting.tracks _ _ heard seeded start
    | none =>
        by_cases measured : watched.engine.measures group = true
        · have unseeded : watched.engine.gd.seeded = false := by
            rw [← Bool.not_eq_true]
            intro seeded
            rw [Engine.gdInnovation, if_pos ⟨fed, measured, seeded⟩] at hears
            cases hears
          rw [watched.engine.assess_gd_of_seeding libm nowUs obs group measured unseeded, measured]
          exact lasting.seeds _ _ _ _ unseeded start
        · rw [Bool.not_eq_true] at measured
          rw [watched.engine.assess_gd_of_unmeasured libm nowUs obs group measured, measured]
          exact start
  · obtain ⟨_, gd, _, _⟩ := step_filters_of_unfed watched.engine libm nowUs obs group fed
    have unheard : watched.engine.gdInnovation libm nowUs obs group = none :=
      if_neg fun listens => fed listens.1
    rw [gd, unheard, decide_eq_false fed]
    exact start

omit [IsStrictOrderedRing K] in
theorem perform_minded (libm : Libm K) (watched : Watched K) (call : AnyCall K)
    (minded : watched.Minded)
    (keeps : ∀ changed, call.profile = some changed → 0 ≤ changed.rateAuthorityPpm) :
    (watched.perform libm call).Minded := by
  have profile := call.perform_profile libm watched.engine
    (fun profile => 0 ≤ profile.rateAuthorityPpm) minded.authority keeps
  cases call with
  | reset => exact ⟨minded.err.of_streak rfl, minded.gd, profile⟩
  | other call =>
      cases call with
      | setProfile changed => exact ⟨minded.err, minded.gd, profile⟩
      | setCrystalPpm ppm =>
          cases ppm with
          | none => exact ⟨minded.err, minded.gd, profile⟩
          | some ppm => exact ⟨minded.err, minded.gd, profile⟩
      | step nowUs obs group =>
          exact ⟨step_err_lasting _ JumpFilter.minds_lasting libm watched minded.err nowUs obs group,
            step_gd_lasting _ JumpFilter.counts_lasting libm watched minded.gd nowUs obs group,
            profile⟩
      | confirmPositionLanded correctionId nowUs =>
          obtain ⟨_, _, _, _, _, _, _, only⟩ :=
            watched.engine.confirm_only correctionId nowUs
          change (Watched.mk (watched.engine.confirmPositionLanded correctionId nowUs) _ _).Minded
          change 0 ≤ (watched.engine.confirmPositionLanded correctionId
            nowUs).profile.rateAuthorityPpm at profile
          rw [only] at profile ⊢
          exact ⟨minded.err, minded.gd, profile⟩
      | noteExternalMove appliedUs nowUs =>
          change (Watched.mk (watched.engine.noteExternalMove appliedUs nowUs) _ _).Minded
          change 0 ≤ (watched.engine.noteExternalMove appliedUs
            nowUs).profile.rateAuthorityPpm at profile
          rw [Engine.noteExternalMove] at profile ⊢
          split
          · exact minded
          · exact ⟨minded.err.of_streak rfl, minded.gd, minded.authority⟩

/-- Along a run each step leaves both means within a bounded share of what it hears, short of the
third innovation in a row beyond the threshold and of one sign, exactly when no reset leaves the
error filter a run that its first innovations complete. -/
theorem spike_immunity_iff (libm : Libm K) (profile : Profile K) (calls : List (AnyCall K))
    (authority : 0 ≤ profile.rateAuthorityPpm)
    (keeps : ∀ call ∈ calls, ∀ changed, call.profile = some changed →
      0 ≤ changed.rateAuthorityPpm) :
    Run.Along (perform libm) (SpikeImmune libm) (watch (Engine.create profile)) calls ↔
      Run.Along (perform libm) (Uncarried libm) (watch (Engine.create profile)) calls := by
  apply Run.along_iff_of_invariant (perform libm) Minded
    (fun call => ∀ changed, call.profile = some changed → 0 ≤ changed.rateAuthorityPpm)
  · intro watched call minded stays
    exact watched.perform_minded libm call minded stays
  · intro watched call minded _
    exact watched.spikeImmune_iff libm minded call
  · exact create_minded profile authority
  · exact keeps

def Cleared (watched : Watched K) : AnyCall K → Prop
  | .reset => watched.engine.err.streak.1 = 0
  | _ => True

omit [IsStrictOrderedRing K] in
theorem perform_counts_err (libm : Libm K) (watched : Watched K) (call : AnyCall K)
    (counts : watched.engine.err.Counts watched.errMarks) (cleared : watched.Cleared call) :
    (watched.perform libm call).engine.err.Counts (watched.perform libm call).errMarks := by
  cases call with
  | reset => exact ⟨counts.minds.of_streak rfl, counts.recorded, fun _ => cleared⟩
  | other call =>
      cases call with
      | setProfile changed => exact counts
      | setCrystalPpm ppm =>
          cases ppm with
          | none => exact counts
          | some ppm => exact counts
      | step nowUs obs group =>
          exact step_err_lasting _ JumpFilter.counts_lasting libm watched counts nowUs obs group
      | confirmPositionLanded correctionId nowUs =>
          change (watched.engine.confirmPositionLanded correctionId nowUs).err.Counts _
          rw [Engine.confirmPositionLanded_err]
          exact counts
      | noteExternalMove appliedUs nowUs =>
          change (watched.engine.noteExternalMove appliedUs nowUs).err.Counts _
          rw [Engine.noteExternalMove]
          split
          · exact counts
          · exact counts.of_streak rfl rfl

omit [IsStrictOrderedRing K] in
/-- Where every reset is made with no run pending, none is ever carried into a seeded filter. -/
theorem uncarried_of_cleared (libm : Libm K) (profile : Profile K) (calls : List (AnyCall K))
    (cleared : Run.Along (perform libm) Cleared (watch (Engine.create profile)) calls) :
    Run.Along (perform libm) (Uncarried libm) (watch (Engine.create profile)) calls := by
  apply Run.along_of_along (perform libm)
    (fun watched => watched.engine.err.Counts watched.errMarks) Cleared (Uncarried libm)
  · intro watched call counts clear
    exact watched.perform_counts_err libm call counts clear
  · intro watched call counts _
    cases call with
    | reset => exact trivial
    | other call =>
        cases call with
        | step nowUs obs group =>
            intro innovation _ _ _ counted
            exact le_trans counted (Nat.succ_le_succ counts.recorded)
        | _ => exact trivial
  · exact ⟨⟨Streak.Follows.none 0 0 [], Nat.succ_pos 2⟩, le_refl 0, fun _ => rfl⟩
  · exact cleared

end Watched

private def errorAt (nowUs errorUs : Int) : AnyCall Rat :=
  .other (.step nowUs
    { atUs := nowUs
      errorUs := errorUs
      valid := true
      bufferUs := 0 } GroupEvidence.none)

private def faultAfterReset : List (AnyCall Rat) :=
  [errorAt 1000000 0, errorAt 1026000 100000, errorAt 1052000 100000, .reset, errorAt 2000000 0,
    errorAt 2026000 100000]

namespace Watched

/-- A pair of faults is heeded. -/
theorem spike_immunity_iff_pair :
    Run.Along (perform Libm.rational) (SpikeImmune Libm.rational)
      (watch (Engine.create Profile.initial))
      [errorAt 1000000 0, errorAt 1026000 100000, errorAt 1052000 100000] := by
  apply (spike_immunity_iff Libm.rational Profile.initial _ (by decide +kernel) _).mpr
  · apply uncarried_of_cleared
    exact ⟨trivial, trivial, trivial, trivial⟩
  · intro call member changed sets
    have none : call.profile = none := by
      revert call
      simp [errorAt, AnyCall.profile, Call.profile]
    rw [none] at sets
    cases sets

/-- The one after the reset is adopted, though it is the first that the seeded filter hears. -/
theorem spike_adopted_after_reset :
    ¬ ∀ (profile : Profile Rat) (calls : List (AnyCall Rat)), 0 ≤ profile.rateAuthorityPpm →
      (∀ call ∈ calls, ∀ changed, call.profile = some changed →
        0 ≤ changed.rateAuthorityPpm) →
      Run.Along (perform Libm.rational) (SpikeImmune Libm.rational)
        (watch (Engine.create profile)) calls := by
  intro always
  have keeps : ∀ call ∈ faultAfterReset, ∀ changed, call.profile = some changed →
      0 ≤ changed.rateAuthorityPpm := by
    intro call member changed sets
    have none : call.profile = none := by
      revert call
      simp [faultAfterReset, errorAt, AnyCall.profile, Call.profile]
    rw [none] at sets
    cases sets
  have immune := (always Profile.initial faultAfterReset (by decide +kernel) keeps).2.2.2.2.2.1
  have heeds := immune.err (by decide +kernel)
  apply absurd (heeds _).1
  · decide +kernel
  · intro innovation _ logged
    have length := logged.length_le
    rw [List.length_cons] at length
    exact absurd length (by decide +kernel)

end Watched

end Timing
