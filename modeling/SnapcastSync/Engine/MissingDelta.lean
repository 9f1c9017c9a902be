import SnapcastSync.Engine.Bounds

/-! Two engines on the same calls, of which one lets its position act without the delta of a group
that has peers. Their rates stay the same until the integral of the other one is missed. -/

namespace Timing

open Rounding

variable {K : Type}

def Profile.needing (profile : Profile K) (needs : Bool) : Profile K :=
  { profile with positionNeedsDiff := needs }

def Engine.needing (engine : Engine K) (needs : Bool) : Engine K :=
  { engine with profile := engine.profile.needing needs }

def Call.needing (needs : Bool) : Call K → Call K
  | .setProfile profile => .setProfile (profile.needing needs)
  | call => call

/-- No delta is measured and none is held. -/
def Engine.lacksDelta (engine : Engine K) (group : GroupEvidence) : Bool :=
  let gdHold := engine.profile.gateGdOnTransient && group.selfTransient
  !(group.present && decide (1 < group.contributors) && !gdHold) && !(gdHold && engine.gd.seeded)

def Differential.needing (diff : Differential K) (engine : Engine K) (group : GroupEvidence)
    (needs : Bool) : Differential K :=
  { diff with
    differential :=
      if engine.lacksDelta group then !(needs && group.hasPeers) else diff.differential }

namespace Engine

@[simp] theorem needing_self (engine : Engine K) :
    engine.needing engine.profile.positionNeedsDiff = engine := rfl

@[simp] theorem needing_needing (engine : Engine K) (first second : Bool) :
    (engine.needing first).needing second = engine.needing second := rfl

theorem retirePending_needing (engine : Engine K) (needs : Bool) (nowUs errorUs : Int) :
    (engine.needing needs).retirePending nowUs errorUs =
      (engine.retirePending nowUs errorUs).needing needs := by
  rw [retirePending_eq, retirePending_eq]
  symm
  exact apply_ite (fun other : Engine K => other.needing needs) _ _ _

variable [Field K] [LinearOrder K] [FloorRing K]

def filteredErr (engine : Engine K) (libm : Libm K) (nowUs e : Int) : JumpFilter K × Int :=
  if !engine.err.seeded then (engine.err.seed (e : K) (engine.profile.frameUs : K), 0)
  else
    let dt := if 0 < engine.lastObsUs then nowUs - engine.lastObsUs else 0
    let dtS : K := if 0 < dt then seconds dt else 0
    let tauS := max millisecond (seconds engine.profile.filterLagUs)
    let maxMove := engine.maxMoveUs dtS
    engine.err.track (e : K) (smoothing libm dtS tauS) maxMove
      (max maxMove (((4 : Nat) : K) * engine.sigmaEUs))

theorem filterError_eq (engine : Engine K) (libm : Libm K) (nowUs e : Int) :
    engine.filterError libm nowUs e =
      ({ engine with err := (engine.filteredErr libm nowUs e).1 },
        (engine.filteredErr libm nowUs e).2) := by
  rw [filterError, filteredErr]
  split
  · rfl
  · rfl

theorem filterError_needing (engine : Engine K) (needs : Bool) (libm : Libm K) (nowUs e : Int) :
    (engine.needing needs).filterError libm nowUs e =
      ((engine.filterError libm nowUs e).1.needing needs, (engine.filterError libm nowUs e).2) := by
  rw [filterError_eq, filterError_eq]
  rfl

theorem expireInFlight_needing (engine : Engine K) (needs : Bool) (nowUs : Int) :
    (engine.needing needs).expireInFlight nowUs = (engine.expireInFlight nowUs).needing needs := by
  rw [expireInFlight, expireInFlight]
  symm
  exact apply_ite (fun other : Engine K => other.needing needs) _ _ _

theorem differential_needing (engine : Engine K) (needs : Bool) (libm : Libm K) (nowUs : Int)
    (group : GroupEvidence) :
    (engine.needing needs).differential libm nowUs group =
      ((engine.differential libm nowUs group).1.needing needs,
        (engine.differential libm nowUs group).2.needing engine group needs) := by
  have hold : (engine.needing needs).profile.gateGdOnTransient =
      engine.profile.gateGdOnTransient := rfl
  have filter : (engine.needing needs).gd = engine.gd := rfl
  simp only [differential, hold, filter, Differential.needing, lacksDelta]
  by_cases measured : (group.present && decide (1 < group.contributors) &&
      !(engine.profile.gateGdOnTransient && group.selfTransient)) = true
  · rw [if_pos measured, if_pos measured, measured]
    rfl
  · rw [if_neg measured, if_neg measured]
    rw [Bool.not_eq_true] at measured
    by_cases held :
        (engine.profile.gateGdOnTransient && group.selfTransient && engine.gd.seeded) = true
    · rw [if_pos held, if_pos held, measured, held]
      rfl
    · rw [if_neg held, if_neg held]
      rw [Bool.not_eq_true] at held
      rw [measured, held]
      rfl

theorem positionWant_needing (engine : Engine K) (needs : Bool) (libm : Libm K)
    (nowUs bufferUs : Int) (diff : Differential K) (group : GroupEvidence) (other : Engine K) :
    (engine.needing needs).positionWant libm nowUs bufferUs (diff.needing other group needs) =
      engine.positionWant libm nowUs bufferUs diff := rfl

theorem prepared_needing (engine : Engine K) (needs : Bool) (libm : Libm K) (nowUs : Int)
    (obs : Observation) :
    (engine.needing needs).prepared libm nowUs obs =
      (engine.prepared libm nowUs obs).needing needs := by
  rw [prepared, retirePending_needing]
  change (((engine.retirePending nowUs obs.errorUs).needing needs).filterError libm nowUs
    (obs.errorUs - (engine.retirePending nowUs obs.errorUs).pendingDispUs)).1.expireInFlight nowUs =
      _
  rw [filterError_needing]
  exact expireInFlight_needing _ needs nowUs

theorem lacksDelta_prepared (engine : Engine K) (libm : Libm K) (nowUs : Int) (obs : Observation)
    (group : GroupEvidence) :
    (engine.prepared libm nowUs obs).lacksDelta group = engine.lacksDelta group := by
  have filter : (engine.prepared libm nowUs obs).gd = engine.gd := by
    obtain ⟨_, _, _, only⟩ := engine.retirePending_pending nowUs obs.errorUs
    rw [prepared, filterError_eq, only, expireInFlight]
    dsimp only
    split
    · rfl
    · rfl
  rw [lacksDelta, lacksDelta, (engine.prepared_sameCrystal libm nowUs obs).profile, filter]

/-- Apart from the flag itself, what a step assesses is the same but for the differential of a
delta that is missing. -/
theorem assess_needing (engine : Engine K) (needs : Bool) (libm : Libm K) (nowUs : Int)
    (obs : Observation) (group : GroupEvidence) :
    (engine.needing needs).assess libm nowUs obs group =
      { engine := (engine.assess libm nowUs obs group).engine.needing needs
        diff := (engine.assess libm nowUs obs group).diff.needing engine group needs
        want := (engine.assess libm nowUs obs group).want
        errSnapUs := (engine.assess libm nowUs obs group).errSnapUs } := by
  have snap : ((engine.needing needs).assess libm nowUs obs group).errSnapUs =
      (engine.assess libm nowUs obs group).errSnapUs := by
    rw [assess, assess, retirePending_needing]
    dsimp only
    rw [filterError_needing]
    rfl
  have diffed : ((engine.needing needs).prepared libm nowUs obs).differential libm nowUs group =
      (((engine.prepared libm nowUs obs).differential libm nowUs group).1.needing needs,
        ((engine.prepared libm nowUs obs).differential libm nowUs group).2.needing engine group
          needs) := by
    rw [prepared_needing, differential_needing, Differential.needing, lacksDelta_prepared]
    rfl
  have assessed (other : Engine K) : other.assess libm nowUs obs group =
      { engine := ((other.prepared libm nowUs obs).differential libm nowUs group).1
        diff := ((other.prepared libm nowUs obs).differential libm nowUs group).2
        want := ((other.prepared libm nowUs obs).differential libm nowUs group).1.positionWant libm
          nowUs obs.bufferUs ((other.prepared libm nowUs obs).differential libm nowUs group).2
        errSnapUs := (other.assess libm nowUs obs group).errSnapUs } := rfl
  rw [assessed (engine.needing needs), assessed engine, snap, diffed]
  dsimp only
  rw [positionWant_needing]

theorem integrate_needing (engine : Engine K) (needs : Bool) (decision : Decision K)
    (e dtUs : Int) (diff : Differential K) :
    (engine.needing needs).integrate decision e dtUs diff =
      ((engine.integrate decision e dtUs diff).1.needing needs,
        (engine.integrate decision e dtUs diff).2) := by
  rw [integrate, integrate]
  split
  · rfl
  · rfl

theorem poised_needing (engine : Engine K) (needs : Bool) (decision : Decision K) (nowUs e : Int)
    (diff : Differential K) :
    (engine.needing needs).poised decision nowUs e diff =
      (engine.poised decision nowUs e diff).needing needs := by
  have integrated := engine.integrate_needing needs decision e (engine.sinceObsUs nowUs) diff
  rw [poised, poised]
  change { ((engine.needing needs).integrate decision e (engine.sinceObsUs nowUs) diff).1 with
    crystalAtUs := if engine.crystalAtUs = 0 then nowUs else engine.crystalAtUs
    lastObsUs := nowUs } = _
  rw [integrated]
  rfl

theorem rateCommand_needing (engine : Engine K) (needs : Bool) (decision : Decision K)
    (dtUs : Int) (group : GroupEvidence) (diff : Differential K) (want : PositionWant K) :
    (engine.needing needs).rateCommand decision dtUs group diff want =
      ((engine.rateCommand decision dtUs group diff want).1.needing needs,
        (engine.rateCommand decision dtUs group diff want).2) := by
  have sigma : (engine.needing needs).sigmaEUs = engine.sigmaEUs := rfl
  have gain (pSigmaUs : K) : (engine.needing needs).proportionalGain pSigmaUs =
      engine.proportionalGain pSigmaUs := rfl
  have common : (engine.needing needs).commonTerm group = engine.commonTerm group := rfl
  rw [rateCommand, rateCommand, sigma, common]
  dsimp only
  rw [gain]
  rfl

theorem steer_eq_rateCommand (engine : Engine K) (decision : Decision K) (nowUs e : Int)
    (group : GroupEvidence) (diff : Differential K) (want : PositionWant K) :
    engine.steer decision nowUs e group diff want =
      (engine.poised decision nowUs e diff).rateCommand
        (engine.integrate decision e (engine.sinceObsUs nowUs) diff).2 (engine.sinceObsUs nowUs)
        group diff want := rfl

theorem steer_needing (engine : Engine K) (needs : Bool) (decision : Decision K) (nowUs e : Int)
    (group : GroupEvidence) (diff : Differential K) (want : PositionWant K) :
    (engine.needing needs).steer decision nowUs e group diff want =
      ((engine.steer decision nowUs e group diff want).1.needing needs,
        (engine.steer decision nowUs e group diff want).2) := by
  have since : (engine.needing needs).sinceObsUs nowUs = engine.sinceObsUs nowUs := rfl
  rw [steer_eq_rateCommand, steer_eq_rateCommand, poised_needing, rateCommand_needing, since,
    integrate_needing]

theorem ready_needing_iff (engine : Engine K) (needs : Bool) (libm : Libm K) (nowUs : Int)
    (obs : Observation) (group : GroupEvidence)
    (same : (engine.assess libm nowUs obs group).diff.needing engine group needs =
      (engine.assess libm nowUs obs group).diff) :
    (engine.needing needs).Ready libm nowUs obs group ↔ engine.Ready libm nowUs obs group := by
  have assessed := assess_needing engine needs libm nowUs obs group
  rw [same] at assessed
  constructor
  · rintro ⟨valid, fed, wanted, differential, free, serialised⟩
    rw [assessed] at wanted differential free serialised
    exact ⟨valid, fed, wanted, differential, free, serialised⟩
  · rintro ⟨valid, fed, wanted, differential, free, serialised⟩
    refine ⟨valid, fed, ?_, ?_, ?_, ?_⟩
    · rw [assessed]
      exact wanted
    · rw [assessed]
      exact differential
    · rw [assessed]
      exact free
    · rw [assessed]
      exact serialised

theorem step_needing_of_unfed (engine : Engine K) (needs : Bool) (libm : Libm K) (nowUs : Int)
    (obs : Observation) (group : GroupEvidence) (unfed : ¬ engine.Fed obs) :
    (engine.needing needs).step libm nowUs obs group =
      ((engine.step libm nowUs obs group).1.needing needs,
        (engine.step libm nowUs obs group).2) := by
  by_cases valid : obs.valid = true
  · have starved : engine.starved obs.bufferUs = true := by
      rw [← Bool.not_eq_false]
      exact fun supplied => unfed ⟨valid, supplied⟩
    rw [engine.step_of_starved libm nowUs obs group valid starved,
      (engine.needing needs).step_of_starved libm nowUs obs group valid starved,
      retirePending_needing]
    rfl
  · rw [Bool.not_eq_true] at valid
    rw [engine.step_of_invalid libm nowUs obs group valid,
      (engine.needing needs).step_of_invalid libm nowUs obs group valid]
    rfl

theorem wants_needing_iff (engine : Engine K) (needs : Bool) (libm : Libm K) (nowUs : Int)
    (obs : Observation) (group : GroupEvidence)
    (same : (engine.assess libm nowUs obs group).diff.needing engine group needs =
      (engine.assess libm nowUs obs group).diff) :
    (engine.needing needs).Wants libm nowUs obs group ↔ engine.Wants libm nowUs obs group := by
  have assessed := assess_needing engine needs libm nowUs obs group
  rw [same] at assessed
  constructor
  · rintro ⟨frames, differential⟩
    rw [assessed] at frames differential
    exact ⟨frames, differential⟩
  · rintro ⟨frames, differential⟩
    constructor
    · rw [assessed]
      exact frames
    · rw [assessed]
      exact differential

theorem step_needing_of_same (engine : Engine K) (needs : Bool) (libm : Libm K) (nowUs : Int)
    (obs : Observation) (group : GroupEvidence)
    (same : (engine.assess libm nowUs obs group).diff.needing engine group needs =
      (engine.assess libm nowUs obs group).diff) :
    (engine.needing needs).step libm nowUs obs group =
      ((engine.step libm nowUs obs group).1.needing needs,
        (engine.step libm nowUs obs group).2) := by
  have ready_iff := ready_needing_iff engine needs libm nowUs obs group same
  have wants_iff := wants_needing_iff engine needs libm nowUs obs group same
  have assessed := assess_needing engine needs libm nowUs obs group
  rw [same] at assessed
  have retired := retirePending_needing engine needs nowUs obs.errorUs
  have weighed : (engine.needing needs).weighed libm nowUs obs group =
      engine.weighed libm nowUs obs group := by
    rw [Engine.weighed, Engine.weighed, assessed, retired]
    rfl
  cases engine.step_exit libm nowUs obs group with
  | invalid absent _ =>
      exact engine.step_needing_of_unfed needs libm nowUs obs group
        fun fed => Bool.noConfusion (absent.symm.trans fed.valid)
  | starved _ starved _ =>
      exact engine.step_needing_of_unfed needs libm nowUs obs group
        fun fed => Bool.noConfusion (starved.symm.trans fed.supplied)
  | blocked fed wants unready exit =>
      rw [exit, (engine.needing needs).step_of_blocked libm nowUs obs group
        ⟨fed.valid, fed.supplied⟩ (wants_iff.mpr wants) (fun ready => unready (ready_iff.mp ready)),
        assessed, weighed]
      rfl
  | issued ready exit =>
      rw [exit, (engine.needing needs).step_of_ready libm nowUs obs group (ready_iff.mpr ready)]
      change ((engine.needing needs).assess libm nowUs obs group).engine.issue
        ((engine.needing needs).weighed libm nowUs obs group) _ _ _ _ = _
      rw [assessed, weighed]
      rfl
  | steered fed content exit =>
      rw [exit, (engine.needing needs).step_of_content libm nowUs obs group
        ⟨fed.valid, fed.supplied⟩ (fun wants => content (wants_iff.mp wants)), assessed, weighed,
        retired]
      exact steer_needing _ needs _ _ _ _ _ _

/-- An error that is not split moves the crystal estimate by nothing: no time has passed, the
integral has no gain, there is no error, or the estimate is at its clamp already. -/
def CrystalStays (engine : Engine K) (nowUs e : Int) : Prop :=
  engine.sinceObsUs nowUs ≤ 0 ∨ engine.profile.rateHorizonUs ≤ 0 ∨ engine.profile.frameUs = 0 ∨
    e = 0 ∨ (crystalLimitPpm ≤ engine.crystalPpm ∧ 0 < e) ∨
    (engine.crystalPpm ≤ -crystalLimitPpm ∧ e < 0)

instance (engine : Engine K) (nowUs e : Int) : Decidable (engine.CrystalStays nowUs e) :=
  inferInstanceAs (Decidable (_ ∨ _))

theorem differential_of_lacksDelta (engine : Engine K) (libm : Libm K) (nowUs : Int)
    (group : GroupEvidence) (lacks : engine.lacksDelta group = true) :
    (engine.differential libm nowUs group).2.haveDiff = false := by
  rw [lacksDelta, Bool.and_eq_true, Bool.not_eq_true', Bool.not_eq_true'] at lacks
  rw [differential]
  dsimp only
  rw [lacks.1, lacks.2]
  rfl

theorem assess_of_lacksDelta (engine : Engine K) (libm : Libm K) (nowUs : Int)
    (obs : Observation) (group : GroupEvidence) (lacks : engine.lacksDelta group = true) :
    (engine.assess libm nowUs obs group).diff.haveDiff = false := by
  rw [← engine.lacksDelta_prepared libm nowUs obs group] at lacks
  exact differential_of_lacksDelta _ libm nowUs group lacks

theorem integrate_only (engine : Engine K) (decision : Decision K) (e dtUs : Int)
    (diff : Differential K) :
    (engine.integrate decision e dtUs diff).1 =
      { engine with crystalPpm := (engine.integrate decision e dtUs diff).1.crystalPpm } := by
  rw [integrate]
  split
  · rfl
  · rfl

omit [Field K] [LinearOrder K] [FloorRing K] in
theorem needing_of_flag (engine : Engine K) (needs : Bool)
    (flag : engine.profile.positionNeedsDiff = needs) : engine.needing needs = engine := by
  rw [← flag, needing_self]

theorem diff_needing_of_known (engine : Engine K) (needs : Bool) (libm : Libm K) (nowUs : Int)
    (obs : Observation) (group : GroupEvidence)
    (known : ¬ (group.hasPeers = true ∧ engine.lacksDelta group = true)) :
    (engine.assess libm nowUs obs group).diff.needing engine group needs =
      (engine.assess libm nowUs obs group).diff := by
  have own := assess_needing engine engine.profile.positionNeedsDiff libm nowUs obs group
  rw [needing_self] at own
  have diff := congrArg Assessment.diff own
  dsimp only at diff
  by_cases lacks : engine.lacksDelta group = true
  · have alone : group.hasPeers = false := by
      rw [← Bool.not_eq_true]
      exact fun peers => known ⟨peers, lacks⟩
    rw [Differential.needing, alone, Bool.and_false] at diff ⊢
    exact diff.symm
  · rw [Differential.needing, if_neg lacks]

section Ordered

variable [IsStrictOrderedRing K]

omit [FloorRing K] in
theorem clamp_add_eq_self_iff (value move limit : K) (bounded : |value| ≤ limit) :
    clamp (value + move) (-limit) limit = value ↔
      move = 0 ∨ (limit ≤ value ∧ 0 < move) ∨ (value ≤ -limit ∧ move < 0) := by
  obtain ⟨above, below⟩ := abs_le.mp bounded
  rw [clamp]
  split
  · rename_i low
    constructor
    · intro stays
      exact Or.inr (Or.inr ⟨ge_of_eq stays, by linarith⟩)
    · rintro (none | ⟨_, up⟩ | ⟨least, _⟩)
      · linarith
      · linarith
      · exact le_antisymm above least
  · split
    · rename_i high
      constructor
      · intro stays
        exact Or.inr (Or.inl ⟨le_of_eq stays, by linarith⟩)
      · rintro (none | ⟨most, _⟩ | ⟨_, down⟩)
        · linarith
        · exact le_antisymm most below
        · linarith
    · rename_i low high
      constructor
      · intro stays
        exact Or.inl (by linarith)
      · rintro (none | ⟨most, up⟩ | ⟨least, down⟩)
        · linarith
        · exact absurd (not_lt.mp high) (by linarith)
        · exact absurd (not_lt.mp low) (by linarith)

theorem boundedError_of_whole (engine : Engine K) (e : Int) (diff : Differential K)
    (whole : diff.haveDiff = false) :
    engine.boundedError e diff =
      clamp (e : K) (-(engine.profile.frameUs : K)) (engine.profile.frameUs : K) := by
  have framed : (0 : K) ≤ (engine.profile.frameUs : K) := by
    exact_mod_cast frameUs_nonneg engine.profile
  rw [boundedError, whole]
  change clamp (e : K) _ _ + clamp 0 _ _ = _
  rw [clamp_of_mem 0 _ _ (by linarith) framed, add_zero]

omit [FloorRing K] in
theorem clamp_sign (e : Int) (frame : K) (framed : 0 < frame) :
    (0 < clamp (e : K) (-frame) frame ↔ 0 < e) ∧ (clamp (e : K) (-frame) frame < 0 ↔ e < 0) := by
  rw [clamp, ← Int.cast_pos (R := K), ← Int.cast_lt_zero (R := K)]
  split
  · constructor
    · constructor <;> intro <;> linarith
    · constructor <;> intro <;> linarith
  · split
    · constructor
      · constructor <;> intro <;> linarith
      · constructor <;> intro <;> linarith
    · exact ⟨Iff.rfl, Iff.rfl⟩

def wholeMove (engine : Engine K) (e dtUs : Int) : K :=
  engine.bandwidth * engine.bandwidth *
    clamp (e : K) (-(engine.profile.frameUs : K)) (engine.profile.frameUs : K) *
    engine.integrationS dtUs

theorem wholeMove_of_gainless (engine : Engine K) (e dtUs : Int)
    (gainless : engine.profile.rateHorizonUs ≤ 0 ∨ engine.profile.frameUs = 0) :
    engine.wholeMove e dtUs = 0 := by
  rcases gainless with behind | frameless
  · have none : engine.bandwidth = 0 := by
      apply if_neg
      rw [not_lt, seconds]
      exact div_nonpos_of_nonpos_of_nonneg (by exact_mod_cast behind) (by positivity)
    rw [wholeMove, none, zero_mul, zero_mul, zero_mul]
  · have none : clamp (e : K) (-(0 : K)) 0 = 0 := by
      obtain ⟨above, below⟩ := clamp_mem (e : K) (-(0 : K)) 0 (by simp)
      exact le_antisymm below (le_of_eq_of_le neg_zero.symm above)
    rw [wholeMove, frameless, Int.cast_zero, none, mul_zero, zero_mul]

theorem wholeMove_sign (engine : Engine K) (e dtUs : Int) (elapsed : 0 < dtUs)
    (ahead : 0 < engine.profile.rateHorizonUs) (framed : 0 < engine.profile.frameUs) :
    (0 < engine.wholeMove e dtUs ↔ 0 < e) ∧ (engine.wholeMove e dtUs < 0 ↔ e < 0) := by
  have frame : (0 : K) < (engine.profile.frameUs : K) := Int.cast_pos.mpr framed
  have horizon : (0 : K) < seconds engine.profile.rateHorizonUs := seconds_pos ahead
  have gain : 0 < engine.bandwidth := by
    have margin : (0 : K) < crystalDelayMargin := Nat.cast_pos.mpr (by decide)
    rw [bandwidth, if_pos horizon]
    positivity
  have time : 0 < engine.integrationS dtUs :=
    lt_min (seconds_pos elapsed) (lt_of_lt_of_le horizon (le_max_right _ _))
  obtain ⟨up, down⟩ := clamp_sign e (engine.profile.frameUs : K) frame
  have share := mul_pos (mul_pos gain gain) time
  have regrouped : engine.wholeMove e dtUs =
      engine.bandwidth * engine.bandwidth * engine.integrationS dtUs *
        clamp (e : K) (-(engine.profile.frameUs : K)) (engine.profile.frameUs : K) := by
    rw [wholeMove]
    ring
  rw [regrouped, ← up, ← down]
  constructor
  · exact mul_pos_iff_of_pos_left share
  · rw [mul_neg_iff, and_iff_right share]
    exact or_iff_left fun both => absurd both.1 (not_lt.mpr (le_of_lt share))

theorem crystalStays_iff (engine : Engine K) (decision : Decision K) (nowUs e : Int)
    (diff : Differential K) (bounded : |engine.crystalPpm| ≤ crystalLimitPpm)
    (whole : diff.haveDiff = false) (tracks : diff.differential = true) :
    (engine.integrate decision e (engine.sinceObsUs nowUs) diff).1.crystalPpm = engine.crystalPpm ↔
      engine.CrystalStays nowUs e := by
  rw [integrate_crystalPpm, CrystalStays]
  by_cases elapsed : 0 < engine.sinceObsUs nowUs
  · rw [if_pos ⟨elapsed, tracks⟩, clamp_add_eq_self_iff _ _ _ bounded,
      engine.boundedError_of_whole e diff whole]
    change engine.wholeMove e (engine.sinceObsUs nowUs) = 0 ∨
      (_ ∧ 0 < engine.wholeMove e (engine.sinceObsUs nowUs)) ∨
      (_ ∧ engine.wholeMove e (engine.sinceObsUs nowUs) < 0) ↔ _
    by_cases gainless : engine.profile.rateHorizonUs ≤ 0 ∨ engine.profile.frameUs = 0
    · refine iff_of_true (Or.inl (engine.wholeMove_of_gainless e _ gainless)) (Or.inr ?_)
      rcases gainless with behind | frameless
      · exact Or.inl behind
      · exact Or.inr (Or.inl frameless)
    · rw [not_or, not_le] at gainless
      have framed := lt_of_le_of_ne (frameUs_nonneg engine.profile) (Ne.symm gainless.2)
      obtain ⟨up, down⟩ := engine.wholeMove_sign e _ elapsed gainless.1 framed
      have none : engine.wholeMove e (engine.sinceObsUs nowUs) = 0 ↔ e = 0 := by
        rw [← not_iff_not, ← ne_eq, ← ne_eq, ne_iff_lt_or_gt, ne_iff_lt_or_gt, up,
          down]
      rw [up, down, none]
      constructor
      · rintro (zero | clamped)
        · exact Or.inr (Or.inr (Or.inr (Or.inl zero)))
        · exact Or.inr (Or.inr (Or.inr (Or.inr clamped)))
      · rintro (stalled | behind | frameless | rest)
        · exact absurd elapsed (not_lt.mpr stalled)
        · exact absurd gainless.1 (not_lt.mpr behind)
        · exact absurd frameless gainless.2
        · exact rest
  · rw [if_neg fun both => elapsed both.1]
    exact ⟨fun _ => Or.inl (not_lt.mp elapsed), fun _ => rfl⟩

theorem integrate_of_stays (engine : Engine K) (decision : Decision K) (nowUs e : Int)
    (diff : Differential K) (bounded : |engine.crystalPpm| ≤ crystalLimitPpm)
    (whole : diff.haveDiff = false) (stays : engine.CrystalStays nowUs e) :
    (engine.integrate decision e (engine.sinceObsUs nowUs) diff).1 = engine := by
  rw [integrate_only]
  by_cases tracks : diff.differential = true
  · rw [(engine.crystalStays_iff decision nowUs e diff bounded whole tracks).mpr stays]
  · rw [integrate_crystalPpm, if_neg fun both => tracks both.2]

/-- What a steering step does to the engine and to the rate, where the integral has nothing to add:
it is the same for another decision, and whether or not the integral runs. -/
theorem steer_of_stays (engine : Engine K) (decision other : Decision K) (nowUs e : Int)
    (group : GroupEvidence) (diff : Differential K) (want : PositionWant K) (tracks : Bool)
    (bounded : |engine.crystalPpm| ≤ crystalLimitPpm) (whole : diff.haveDiff = false)
    (stays : engine.CrystalStays nowUs e) :
    (engine.steer other nowUs e group { diff with differential := tracks } want).1 =
        (engine.steer decision nowUs e group diff want).1 ∧
      (engine.steer other nowUs e group { diff with differential := tracks } want).2.ratePpm =
        (engine.steer decision nowUs e group diff want).2.ratePpm := by
  rw [steer_eq_rateCommand, steer_eq_rateCommand, poised, poised,
    integrate_of_stays engine decision nowUs e diff bounded whole stays,
    integrate_of_stays engine other nowUs e { diff with differential := tracks } bounded whole
      stays]
  exact ⟨rfl, rfl⟩

/-- A correction is wanted and waits for another one. -/
structure Held (engine : Engine K) (libm : Libm K) (nowUs : Int) (obs : Observation)
    (group : GroupEvidence) : Prop where
  wants : engine.Wants libm nowUs obs group
  blocked : (engine.assess libm nowUs obs group).engine.inFlight = true ∨
    nowUs < (engine.assess libm nowUs obs group).engine.serialiseUntilUs

instance (engine : Engine K) (libm : Libm K) (nowUs : Int) (obs : Observation)
    (group : GroupEvidence) : Decidable (engine.Held libm nowUs obs group) :=
  decidable_of_iff (engine.Wants libm nowUs obs group ∧
      ((engine.assess libm nowUs obs group).engine.inFlight = true ∨
        nowUs < (engine.assess libm nowUs obs group).engine.serialiseUntilUs))
    ⟨fun both => ⟨both.1, both.2⟩, fun held => ⟨held.wants, held.blocked⟩⟩

omit [IsStrictOrderedRing K] in
theorem not_wants_of_silent (engine : Engine K) (libm : Libm K) (nowUs : Int)
    (obs : Observation) (group : GroupEvidence) (fed : engine.Fed obs)
    (silent : (engine.step libm nowUs obs group).2.frames = 0)
    (unheld : ¬ engine.Held libm nowUs obs group) : ¬ engine.Wants libm nowUs obs group := by
  intro wants
  have unready : ¬ engine.Ready libm nowUs obs group := fun ready =>
    (step_frames_ne_zero_iff engine libm nowUs obs group).mpr ready silent
  apply unready
  refine
    { valid := fed.valid
      fed := fed.supplied
      wanted := wants.frames
      differential := wants.differential
      free := ?_
      serialised := ?_ }
  · rw [← Bool.not_eq_true]
    exact fun flying => unheld ⟨wants, Or.inl flying⟩
  · rw [← not_lt]
    exact fun waiting => unheld ⟨wants, Or.inr waiting⟩

theorem step_missing (engine : Engine K) (libm : Libm K) (nowUs : Int) (obs : Observation)
    (group : GroupEvidence) (peers : group.hasPeers = true)
    (lacks : engine.lacksDelta group = true) (fed : engine.Fed obs)
    (content : ¬ engine.Wants libm nowUs obs group)
    (bounded : |engine.crystalPpm| ≤ crystalLimitPpm)
    (stays : engine.CrystalStays nowUs
      (obs.errorUs - (engine.retirePending nowUs obs.errorUs).pendingDispUs)) :
    ((engine.needing true).step libm nowUs obs group).1 =
        (engine.step libm nowUs obs group).1.needing true ∧
      ((engine.needing true).step libm nowUs obs group).2.ratePpm =
        (engine.step libm nowUs obs group).2.ratePpm := by
  have same := assess_sameLimiter engine libm nowUs obs group
  have whole := assess_of_lacksDelta engine libm nowUs obs group lacks
  have assessed := assess_needing engine true libm nowUs obs group
  have missing : (engine.assess libm nowUs obs group).diff.needing engine group true =
      { (engine.assess libm nowUs obs group).diff with differential := false } := by
    rw [Differential.needing, lacks, peers]
    rfl
  have waits : ¬ (engine.needing true).Wants libm nowUs obs group := by
    rintro ⟨_, tracks⟩
    rw [assessed, missing] at tracks
    cases tracks
  have reached : (engine.assess libm nowUs obs group).engine.CrystalStays nowUs
      (obs.errorUs - (engine.retirePending nowUs obs.errorUs).pendingDispUs) := by
    rw [CrystalStays, sinceObsUs, same.lastObsUs, same.profile, same.crystalPpm]
    exact stays
  have clamped : |(engine.assess libm nowUs obs group).engine.crystalPpm| ≤ crystalLimitPpm := by
    rw [same.crystalPpm]
    exact bounded
  rw [engine.step_of_content libm nowUs obs group fed content,
    (engine.needing true).step_of_content libm nowUs obs group ⟨fed.valid, fed.supplied⟩ waits,
    assessed, missing, retirePending_needing, steer_needing]
  obtain ⟨engines, rates⟩ := steer_of_stays (engine.assess libm nowUs obs group).engine
    (engine.weighed libm nowUs obs group) ((engine.needing true).weighed libm nowUs obs group) nowUs
    (obs.errorUs - (engine.retirePending nowUs obs.errorUs).pendingDispUs) group
    (engine.assess libm nowUs obs group).diff (engine.assess libm nowUs obs group).want false
    clamped whole reached
  exact ⟨congrArg (fun engine => engine.needing true) engines, rates⟩

theorem step_alike (engine : Engine K) (needs : Bool) (libm : Libm K) (nowUs : Int)
    (obs : Observation) (group : GroupEvidence) (bounded : |engine.crystalPpm| ≤ crystalLimitPpm)
    (silent : (engine.step libm nowUs obs group).2.frames = 0 ∧
      ((engine.needing needs).step libm nowUs obs group).2.frames = 0)
    (spared : engine.profile.positionNeedsDiff ≠ needs → group.hasPeers = true →
      (engine.needing false).lacksDelta group = true → (engine.needing false).Fed obs →
      ¬ (engine.needing false).Held libm nowUs obs group ∧
        (engine.needing false).CrystalStays nowUs
          (obs.errorUs - ((engine.needing false).retirePending nowUs obs.errorUs).pendingDispUs)) :
    ((engine.needing needs).step libm nowUs obs group).1 =
        (engine.step libm nowUs obs group).1.needing needs ∧
      ((engine.needing needs).step libm nowUs obs group).2.ratePpm =
        (engine.step libm nowUs obs group).2.ratePpm := by
  by_cases part : engine.profile.positionNeedsDiff = needs
  · have kept : (engine.step libm nowUs obs group).1.profile.positionNeedsDiff = needs := by
      rw [step_profile, part]
    rw [needing_of_flag engine needs part, needing_of_flag _ needs kept]
    exact ⟨rfl, rfl⟩
  · by_cases missed : group.hasPeers = true ∧ engine.lacksDelta group = true
    · by_cases fed : (engine.needing false).Fed obs
      · obtain ⟨unheld, stays⟩ := spared part missed.1 missed.2 fed
        cases flag : engine.profile.positionNeedsDiff with
        | false =>
            have other : needs = true := by
              rw [flag] at part
              exact (Bool.eq_not_of_ne (Ne.symm part))
            rw [needing_of_flag engine false flag] at fed unheld stays
            rw [other]
            exact step_missing engine libm nowUs obs group missed.1 missed.2 fed
              (not_wants_of_silent engine libm nowUs obs group fed silent.1 unheld) bounded stays
        | true =>
            have other : needs = false := by
              rw [flag] at part
              exact (Bool.eq_not_of_ne (Ne.symm part))
            rw [other] at silent ⊢
            have content := not_wants_of_silent _ libm nowUs obs group fed silent.2 unheld
            obtain ⟨engines, rates⟩ := step_missing (engine.needing false) libm nowUs obs group
              missed.1 missed.2 fed content bounded stays
            rw [needing_needing, needing_of_flag engine true flag] at engines rates
            refine ⟨?_, rates.symm⟩
            have kept : ((engine.needing false).step libm nowUs obs
                group).1.profile.positionNeedsDiff = false := by
              rw [step_profile]
              rfl
            rw [engines, needing_needing, needing_of_flag _ false kept]
      · have same := engine.step_needing_of_unfed needs libm nowUs obs group
          fun whole => fed ⟨whole.valid, whole.supplied⟩
        rw [same]
        exact ⟨rfl, rfl⟩
    · have same := engine.step_needing_of_same needs libm nowUs obs group
        (engine.diff_needing_of_known needs libm nowUs obs group missed)
      rw [same]
      exact ⟨rfl, rfl⟩

end Ordered

theorem creditPositionCorrection_needing (engine : Engine K) (needs : Bool) (frames nowUs : Int) :
    (engine.needing needs).creditPositionCorrection frames nowUs =
      (engine.creditPositionCorrection frames nowUs).needing needs := by
  rw [creditPositionCorrection, creditPositionCorrection]
  symm
  exact apply_ite (fun other : Engine K => other.needing needs) _ _ _

theorem confirmPositionLanded_needing (engine : Engine K) (needs : Bool) (correctionId : Nat)
    (nowUs : Int) :
    (engine.needing needs).confirmPositionLanded correctionId nowUs =
      (engine.confirmPositionLanded correctionId nowUs).needing needs := by
  by_cases named : engine.inFlight = true ∧ correctionId = engine.inFlightId
  · rw [engine.confirm_of_named correctionId nowUs named.1 named.2,
      (engine.needing needs).confirm_of_named correctionId nowUs named.1 named.2]
    change { (engine.needing needs).creditPositionCorrection engine.inFlightFrames nowUs with
      inFlight := false
      inFlightId := 0
      inFlightFrames := 0 } = _
    rw [creditPositionCorrection_needing]
    rfl
  · rcases engine.confirm_cases correctionId nowUs with same | held
    · rcases (engine.needing needs).confirm_cases correctionId nowUs with twin | held
      · rw [same, twin]
      · exact absurd held named
    · exact absurd held named

theorem noteExternalMove_needing (engine : Engine K) (needs : Bool) (appliedUs nowUs : Int) :
    (engine.needing needs).noteExternalMove appliedUs nowUs =
      (engine.noteExternalMove appliedUs nowUs).needing needs := by
  rw [noteExternalMove, noteExternalMove]
  split
  · rfl
  · rfl

end Engine

/-- A call to two engines; a profile that it sets need not say the same to both of them about a
missing delta. -/
structure TwinCall (K : Type) where
  call : Call K
  left : Bool
  right : Bool

structure Twins (K : Type) where
  left : Engine K
  right : Engine K

namespace Twins

variable [Field K] [LinearOrder K] [FloorRing K]

omit [LinearOrder K] [FloorRing K] in
def create (profile : Profile K) (left right : Bool) : Twins K :=
  { left := Engine.create (profile.needing left)
    right := Engine.create (profile.needing right) }

def perform (libm : Libm K) (twins : Twins K) (event : TwinCall K) : Twins K :=
  { left := (event.call.needing event.left).perform libm twins.left
    right := (event.call.needing event.right).perform libm twins.right }

def Silent (libm : Libm K) (twins : Twins K) (event : TwinCall K) : Prop :=
  match event.call with
  | .step nowUs obs group =>
      (twins.left.step libm nowUs obs group).2.frames = 0 ∧
        (twins.right.step libm nowUs obs group).2.frames = 0
  | _ => True

/-- Both answer with the same rate, and are left with the same crystal estimate. -/
def Agree (libm : Libm K) (twins : Twins K) (event : TwinCall K) : Prop :=
  (match event.call with
    | .step nowUs obs group =>
        (twins.left.step libm nowUs obs group).2.ratePpm =
          (twins.right.step libm nowUs obs group).2.ratePpm
    | _ => True) ∧
    (twins.perform libm event).left.crystalPpm = (twins.perform libm event).right.crystalPpm

/-- Where only one of them misses a delta that the group has peers for, the other one is not held
by an earlier correction and has nothing to integrate. -/
def Spared (libm : Libm K) (twins : Twins K) (event : TwinCall K) : Prop :=
  match event.call with
  | .step nowUs obs group =>
      let engine := twins.left.needing false
      twins.left.profile.positionNeedsDiff ≠ twins.right.profile.positionNeedsDiff →
        group.hasPeers = true → engine.lacksDelta group = true → engine.Fed obs →
        ¬ engine.Held libm nowUs obs group ∧
          engine.CrystalStays nowUs
            (obs.errorUs - (engine.retirePending nowUs obs.errorUs).pendingDispUs)
  | _ => True

instance (libm : Libm K) (twins : Twins K) (event : TwinCall K) :
    Decidable (twins.Silent libm event) :=
  match event with
  | ⟨.step _ _ _, _, _⟩ => inferInstanceAs (Decidable (_ ∧ _))
  | ⟨.setProfile _, _, _⟩ => isTrue trivial
  | ⟨.setCrystalPpm _, _, _⟩ => isTrue trivial
  | ⟨.confirmPositionLanded _ _, _, _⟩ => isTrue trivial
  | ⟨.noteExternalMove _ _, _, _⟩ => isTrue trivial

instance (libm : Libm K) (twins : Twins K) (event : TwinCall K) :
    Decidable (twins.Spared libm event) :=
  match event with
  | ⟨.step _ _ _, _, _⟩ => inferInstanceAs (Decidable (_ → _ → _ → _ → _ ∧ _))
  | ⟨.setProfile _, _, _⟩ => isTrue trivial
  | ⟨.setCrystalPpm _, _, _⟩ => isTrue trivial
  | ⟨.confirmPositionLanded _ _, _, _⟩ => isTrue trivial
  | ⟨.noteExternalMove _ _, _, _⟩ => isTrue trivial

structure Alike (twins : Twins K) : Prop where
  flags : ∃ needs, twins.right = twins.left.needing needs
  bounded : |twins.left.crystalPpm| ≤ crystalLimitPpm

variable [IsStrictOrderedRing K]

omit [IsStrictOrderedRing K] in
theorem agree_of_needing (libm : Libm K) (left : Engine K) (needs after : Bool)
    (event : TwinCall K)
    (same : (event.call.needing event.right).perform libm (left.needing needs) =
      ((event.call.needing event.left).perform libm left).needing after) :
    (Twins.perform libm ⟨left, left.needing needs⟩ event).left.crystalPpm =
      (Twins.perform libm ⟨left, left.needing needs⟩ event).right.crystalPpm := by
  change _ = ((event.call.needing event.right).perform libm (left.needing needs)).crystalPpm
  rw [same]
  rfl

/-- Every call keeps the engines alike, and they answer it alike. -/
theorem perform_alike (libm : Libm K) (twins : Twins K) (event : TwinCall K) (alike : twins.Alike)
    (silent : twins.Silent libm event) (spared : twins.Spared libm event) :
    (twins.perform libm event).Alike ∧ twins.Agree libm event := by
  obtain ⟨left, right⟩ := twins
  obtain ⟨⟨needs, flags⟩, bounded⟩ := alike
  dsimp only at flags bounded
  subst flags
  obtain ⟨call, leftNeeds, rightNeeds⟩ := event
  have clamped := (call.needing leftNeeds).perform_crystal_bounded libm left bounded
  cases call with
  | setProfile profile => exact ⟨⟨⟨rightNeeds, rfl⟩, bounded⟩, trivial, rfl⟩
  | setCrystalPpm ppm =>
      cases ppm with
      | none => exact ⟨⟨⟨needs, rfl⟩, clamped⟩, trivial, rfl⟩
      | some ppm => exact ⟨⟨⟨needs, rfl⟩, clamped⟩, trivial, rfl⟩
  | step nowUs obs group =>
      obtain ⟨engines, rates⟩ := left.step_alike needs libm nowUs obs group bounded silent spared
      exact ⟨⟨⟨needs, engines⟩, clamped⟩, rates.symm,
        agree_of_needing libm left needs needs ⟨_, leftNeeds, rightNeeds⟩ engines⟩
  | confirmPositionLanded correctionId nowUs =>
      have engines := left.confirmPositionLanded_needing needs correctionId nowUs
      exact ⟨⟨⟨needs, engines⟩, clamped⟩, trivial,
        agree_of_needing libm left needs needs ⟨_, leftNeeds, rightNeeds⟩ engines⟩
  | noteExternalMove appliedUs nowUs =>
      have engines := left.noteExternalMove_needing needs appliedUs nowUs
      exact ⟨⟨⟨needs, engines⟩, clamped⟩, trivial,
        agree_of_needing libm left needs needs ⟨_, leftNeeds, rightNeeds⟩ engines⟩

/-- Two engines that differ only in that flag, and issue no frame command, agree on every rate and
every crystal estimate of a run that spares them. -/
theorem along_agree (libm : Libm K) (profile : Profile K) (left right : Bool)
    (events : List (TwinCall K))
    (silent : Run.Along (perform libm) (Silent libm) (create profile left right) events)
    (spared : Run.Along (perform libm) (Spared libm) (create profile left right) events) :
    Run.Along (perform libm) (Agree libm) (create profile left right) events := by
  apply Run.along_of_along (perform libm) Alike
    (fun twins event => twins.Silent libm event ∧ twins.Spared libm event) (Agree libm)
  · exact fun twins event alike both => (perform_alike libm twins event alike both.1 both.2).1
  · exact fun twins event alike both => (perform_alike libm twins event alike both.1 both.2).2
  · exact ⟨⟨right, rfl⟩, le_of_eq_of_le abs_zero Engine.crystalLimit_nonneg⟩
  · exact (Run.along_and _ _ _ _ _).mpr ⟨silent, spared⟩

private def stepAlone (nowUs errorUs : Int) : TwinCall Rat :=
  { call := .step nowUs { atUs := nowUs, errorUs := errorUs, valid := true, bufferUs := 0 }
      { GroupEvidence.none with hasPeers := true }
    left := false
    right := true }

theorem along_agree_without_error :
    Run.Along (perform Libm.rational) (Agree Libm.rational) (create Profile.initial false true)
      [stepAlone 1000000 10, stepAlone 2000000 0] :=
  along_agree Libm.rational Profile.initial false true _ (by decide +kernel) (by decide +kernel)

/-- An error of ten microseconds, after a second: only one of the integrals takes it. -/
theorem crystal_apart :
    ¬ ∀ (profile : Profile Rat) (left right : Bool) (events : List (TwinCall Rat)),
      Run.Along (perform Libm.rational) (Silent Libm.rational) (create profile left right) events →
      Run.Along (perform Libm.rational) (Agree Libm.rational) (create profile left right)
        events := by
  intro always
  have same := (always Profile.initial false true [stepAlone 1000000 10, stepAlone 2000000 10]
    (by decide +kernel)).2.1.2
  revert same
  decide +kernel

end Twins

end Timing
