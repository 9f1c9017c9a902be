import SnapcastSync.Engine.Justified

/-! How far the crystal estimate and the rate command can go. A step moves the estimate by its
bandwidth squared, at most two frames of error and at most one horizon of time; the command stays
between the one before it and a sum of bounded terms. -/

namespace Timing

open Rounding

variable {K : Type} [Field K] [LinearOrder K] [FloorRing K]

namespace Engine

def sinceObsUs (engine : Engine K) (nowUs : Int) : Int :=
  if 0 < engine.lastObsUs then nowUs - engine.lastObsUs else 0

def bandwidth (engine : Engine K) : K :=
  let rateHS : K := seconds engine.profile.rateHorizonUs
  if 0 < rateHS then 1 / (crystalDelayMargin * rateHS) else 0

/-- The error that the crystal integral runs on, bounded to a frame in each of its parts. -/
def boundedError (engine : Engine K) (e : Int) (diff : Differential K) : K :=
  let eCommon : K := if diff.haveDiff then ((e - diff.eDiffUs : Int) : K) else (e : K)
  let eDiff : K := if diff.haveDiff then (diff.eDiffUs : K) else 0
  let fu : K := engine.profile.frameUs
  clamp eCommon (-fu) fu + clamp eDiff (-fu) fu

def integrationS (engine : Engine K) (dtUs : Int) : K :=
  min (seconds dtUs) (max millisecond (seconds engine.profile.rateHorizonUs))

theorem integrate_crystalPpm (engine : Engine K) (decision : Decision K) (e dtUs : Int)
    (diff : Differential K) :
    (engine.integrate decision e dtUs diff).1.crystalPpm =
      if 0 < dtUs ∧ diff.differential = true then
        clamp (engine.crystalPpm +
            engine.bandwidth * engine.bandwidth * engine.boundedError e diff *
              engine.integrationS dtUs)
          (-crystalLimitPpm) crystalLimitPpm
      else engine.crystalPpm := by
  rw [integrate]
  split
  · rfl
  · rfl

theorem steer_crystalPpm (engine : Engine K) (decision : Decision K) (nowUs e : Int)
    (group : GroupEvidence) (diff : Differential K) (want : PositionWant K) :
    (engine.steer decision nowUs e group diff want).1.crystalPpm =
      if 0 < engine.sinceObsUs nowUs ∧ diff.differential = true then
        clamp (engine.crystalPpm +
            engine.bandwidth * engine.bandwidth * engine.boundedError e diff *
              engine.integrationS (engine.sinceObsUs nowUs))
          (-crystalLimitPpm) crystalLimitPpm
      else engine.crystalPpm :=
  engine.integrate_crystalPpm decision e (engine.sinceObsUs nowUs) diff

/-- A step that does not integrate leaves the crystal estimate; one that does integrates over the
time since the last observation. -/
theorem step_crystalPpm (engine : Engine K) (libm : Libm K) (nowUs : Int) (obs : Observation)
    (group : GroupEvidence) :
    (engine.step libm nowUs obs group).1.crystalPpm = engine.crystalPpm ∨
      ∃ (e : Int) (diff : Differential K), 0 < engine.sinceObsUs nowUs ∧
        (engine.step libm nowUs obs group).1.crystalPpm =
          clamp (engine.crystalPpm +
              engine.bandwidth * engine.bandwidth * engine.boundedError e diff *
                engine.integrationS (engine.sinceObsUs nowUs))
            (-crystalLimitPpm) crystalLimitPpm := by
  have retired := retirePending_sameLimiter engine nowUs obs.errorUs
  have assessed := assess_sameLimiter engine libm nowUs obs group
  cases engine.step_exit libm nowUs obs group with
  | invalid _ same =>
      rw [same]
      exact Or.inl rfl
  | starved _ _ same =>
      rw [same]
      exact Or.inl retired.crystalPpm
  | blocked _ _ _ same =>
      rw [same]
      exact Or.inl assessed.crystalPpm
  | issued _ same =>
      rw [same]
      exact Or.inl assessed.crystalPpm
  | steered _ _ same =>
      rw [same]
      generalize (engine.assess libm nowUs obs group).engine = reached at assessed ⊢
      generalize (engine.assess libm nowUs obs group).diff = diff
      generalize obs.errorUs - (engine.retirePending nowUs obs.errorUs).pendingDispUs = e
      have steered := reached.steer_crystalPpm (engine.weighed libm nowUs obs group) nowUs e group
        diff (engine.assess libm nowUs obs group).want
      rw [sinceObsUs, bandwidth, boundedError, integrationS, assessed.profile,
        assessed.crystalPpm, assessed.lastObsUs] at steered
      by_cases integrates : 0 < engine.sinceObsUs nowUs ∧ diff.differential = true
      · exact Or.inr ⟨e, diff, integrates.1, steered.trans (if_pos integrates)⟩
      · exact Or.inl (steered.trans (if_neg integrates))

variable [IsStrictOrderedRing K]

omit [FloorRing K] in
theorem crystalLimit_nonneg : (0 : K) ≤ crystalLimitPpm := Nat.cast_nonneg 200

omit [FloorRing K] in
theorem crystal_clamped (x : K) : |clamp x (-crystalLimitPpm) crystalLimitPpm| ≤ crystalLimitPpm :=
  clamp_abs_le x crystalLimitPpm crystalLimit_nonneg

theorem step_crystal_bounded (engine : Engine K) (libm : Libm K) (nowUs : Int)
    (obs : Observation) (group : GroupEvidence)
    (bounded : |engine.crystalPpm| ≤ crystalLimitPpm) :
    |(engine.step libm nowUs obs group).1.crystalPpm| ≤ crystalLimitPpm := by
  rcases engine.step_crystalPpm libm nowUs obs group with same | ⟨_, _, _, integrated⟩
  · rw [same]
    exact bounded
  · rw [integrated]
    exact crystal_clamped _

theorem credit_crystalPpm (engine : Engine K) (frames nowUs : Int) :
    (engine.creditPositionCorrection frames nowUs).crystalPpm = engine.crystalPpm ∨
      ∃ step : K, |step| ≤ creditMaxPpmPerWindow ∧
        (engine.creditPositionCorrection frames nowUs).crystalPpm =
          clamp (engine.crystalPpm + step) (-crystalLimitPpm) crystalLimitPpm := by
  have window : (0 : K) ≤ creditMaxPpmPerWindow := Nat.cast_nonneg 5
  rw [creditPositionCorrection]
  dsimp only
  split
  · exact Or.inl rfl
  · dsimp only
    split
    · exact Or.inr ⟨_, clamp_abs_le _ _ window, rfl⟩
    · exact Or.inl rfl

theorem confirm_crystalPpm (engine : Engine K) (correctionId : Nat) (nowUs : Int) :
    (engine.confirmPositionLanded correctionId nowUs).crystalPpm = engine.crystalPpm ∨
      ∃ step : K, |step| ≤ creditMaxPpmPerWindow ∧
        (engine.confirmPositionLanded correctionId nowUs).crystalPpm =
          clamp (engine.crystalPpm + step) (-crystalLimitPpm) crystalLimitPpm := by
  rcases engine.confirm_cases correctionId nowUs with same | ⟨held, named⟩
  · rw [same]
    exact Or.inl rfl
  · rw [engine.confirm_of_named correctionId nowUs held named]
    exact engine.credit_crystalPpm engine.inFlightFrames nowUs

end Engine

theorem Call.perform_crystal_bounded (libm : Libm K) [IsStrictOrderedRing K] (engine : Engine K)
    (call : Call K) (bounded : |engine.crystalPpm| ≤ crystalLimitPpm) :
    |(call.perform libm engine).crystalPpm| ≤ crystalLimitPpm := by
  cases call with
  | setProfile profile => exact bounded
  | setCrystalPpm ppm =>
      cases ppm with
      | none => exact bounded
      | some ppm => exact Engine.crystal_clamped ppm
  | step nowUs obs group => exact engine.step_crystal_bounded libm nowUs obs group bounded
  | confirmPositionLanded correctionId nowUs =>
      change |(engine.confirmPositionLanded correctionId nowUs).crystalPpm| ≤ crystalLimitPpm
      rcases engine.confirm_crystalPpm correctionId nowUs with same | ⟨_, _, credited⟩
      · rw [same]
        exact bounded
      · rw [credited]
        exact Engine.crystal_clamped _
  | noteExternalMove appliedUs nowUs =>
      rw [perform, Engine.noteExternalMove]
      split
      · exact bounded
      · exact bounded

namespace Engine

variable [IsStrictOrderedRing K]

theorem reached_crystal_bounded (libm : Libm K) (profile : Profile K) (calls : List (Call K)) :
    |(Call.reached libm profile calls).crystalPpm| ≤ crystalLimitPpm := by
  apply Run.visits_last (Call.perform libm) (fun engine => |engine.crystalPpm| ≤ crystalLimitPpm)
  apply Run.visits_of_preserved _ _ (Call.perform_crystal_bounded libm)
  exact le_of_eq_of_le abs_zero crystalLimit_nonneg

theorem boundedError_abs_le (engine : Engine K) (e : Int) (diff : Differential K) :
    |engine.boundedError e diff| ≤ ((2 : Nat) : K) * (engine.profile.frameUs : K) := by
  have framed : (0 : K) ≤ (engine.profile.frameUs : K) := by
    exact_mod_cast frameUs_nonneg engine.profile
  rw [boundedError]
  refine le_trans (abs_add_le _ _) ?_
  have common := clamp_abs_le
    (if diff.haveDiff then ((e - diff.eDiffUs : Int) : K) else (e : K)) _ framed
  have apart := clamp_abs_le (if diff.haveDiff then (diff.eDiffUs : K) else 0) _ framed
  push_cast at common ⊢
  linarith

omit [FloorRing K] in
theorem seconds_pos {us : Int} (positive : 0 < us) : (0 : K) < seconds us := by
  have known : (0 : K) < (us : K) := Int.cast_pos.mpr positive
  rw [seconds]
  positivity

theorem integrationS_mem (engine : Engine K) (dtUs : Int) (elapsed : 0 < dtUs)
    (horizon : 1000 ≤ engine.profile.rateHorizonUs) :
    0 ≤ engine.integrationS dtUs ∧
      engine.integrationS dtUs ≤ seconds engine.profile.rateHorizonUs := by
  have later : (0 : K) < seconds dtUs := seconds_pos elapsed
  have ahead : (0 : K) < seconds engine.profile.rateHorizonUs := seconds_pos (by omega)
  have floored : max (millisecond : K) (seconds engine.profile.rateHorizonUs) =
      seconds engine.profile.rateHorizonUs := by
    rw [millisecond_eq_seconds]
    exact max_eq_right ((seconds_le_iff 1000 _).mpr horizon)
  rw [integrationS, floored]
  exact ⟨le_min (le_of_lt later) (le_of_lt ahead), min_le_right _ _⟩

theorem integral_abs_le (engine : Engine K) (e dtUs : Int) (diff : Differential K)
    (elapsed : 0 < dtUs) (horizon : 1000 ≤ engine.profile.rateHorizonUs) :
    |engine.bandwidth * engine.bandwidth * engine.boundedError e diff * engine.integrationS dtUs| ≤
      ((2 : Nat) : K) * (engine.profile.frameUs : K) /
        (((9 : Nat) : K) * seconds engine.profile.rateHorizonUs) := by
  have ahead : (0 : K) < seconds engine.profile.rateHorizonUs := seconds_pos (by omega)
  have error := engine.boundedError_abs_le e diff
  obtain ⟨start, within⟩ := engine.integrationS_mem dtUs elapsed horizon
  have bandwidth : engine.bandwidth =
      1 / (((3 : Nat) : K) * seconds engine.profile.rateHorizonUs) := if_pos ahead
  have squared : 0 ≤ engine.bandwidth * engine.bandwidth := mul_self_nonneg _
  have parts := le_trans (abs_nonneg _) error
  calc |engine.bandwidth * engine.bandwidth * engine.boundedError e diff *
          engine.integrationS dtUs|
      = engine.bandwidth * engine.bandwidth * |engine.boundedError e diff| *
          engine.integrationS dtUs := by
        rw [abs_mul, abs_mul, abs_of_nonneg squared, abs_of_nonneg start]
    _ ≤ engine.bandwidth * engine.bandwidth * (((2 : Nat) : K) * (engine.profile.frameUs : K)) *
          seconds engine.profile.rateHorizonUs := by gcongr
    _ = ((2 : Nat) : K) * (engine.profile.frameUs : K) /
          (((9 : Nat) : K) * seconds engine.profile.rateHorizonUs) := by
        rw [bandwidth]
        field_simp
        push_cast
        ring

omit [FloorRing K] in
theorem clamped_move_le (crystalPpm move : K) (bounded : |crystalPpm| ≤ crystalLimitPpm) :
    |clamp (crystalPpm + move) (-crystalLimitPpm) crystalLimitPpm - crystalPpm| ≤ |move| := by
  obtain ⟨above, below⟩ := abs_le.mp bounded
  have closer := clamp_abs_sub_le (crystalPpm + move) (-crystalLimitPpm) crystalLimitPpm crystalPpm
    above below
  rw [add_sub_cancel_left] at closer
  exact closer

theorem step_crystal_slow (engine : Engine K) (libm : Libm K) (nowUs : Int) (obs : Observation)
    (group : GroupEvidence) (bounded : |engine.crystalPpm| ≤ crystalLimitPpm)
    (horizon : 1000 ≤ engine.profile.rateHorizonUs) :
    |(engine.step libm nowUs obs group).1.crystalPpm - engine.crystalPpm| ≤
      ((2 : Nat) : K) * (engine.profile.frameUs : K) /
        (((9 : Nat) : K) * seconds engine.profile.rateHorizonUs) := by
  rcases engine.step_crystalPpm libm nowUs obs group with same | ⟨e, diff, elapsed, integrated⟩
  · have framed : (0 : K) ≤ (engine.profile.frameUs : K) := by
      exact_mod_cast frameUs_nonneg engine.profile
    have ahead : (0 : K) < seconds engine.profile.rateHorizonUs := seconds_pos (by omega)
    rw [same, sub_self, abs_zero]
    positivity
  · rw [integrated]
    exact le_trans (clamped_move_le _ _ bounded)
      (engine.integral_abs_le e _ diff elapsed horizon)

theorem confirm_crystal_slow (engine : Engine K) (correctionId : Nat) (nowUs : Int)
    (bounded : |engine.crystalPpm| ≤ crystalLimitPpm) :
    |(engine.confirmPositionLanded correctionId nowUs).crystalPpm - engine.crystalPpm| ≤
      creditMaxPpmPerWindow := by
  rcases engine.confirm_crystalPpm correctionId nowUs with same | ⟨step, small, credited⟩
  · rw [same, sub_self, abs_zero]
    exact Nat.cast_nonneg 5
  · rw [credited]
    exact le_trans (clamped_move_le _ step bounded) small

/-- In every state that calls can reach the crystal estimate is bounded, and neither a step, over
however long a gap, nor a confirmation moves it far. -/
theorem crystal_slow (libm : Libm K) (profile : Profile K) (calls : List (Call K)) :
    let engine := Call.reached libm profile calls
    |engine.crystalPpm| ≤ ((200 : Nat) : K) ∧
      (1000 ≤ engine.profile.rateHorizonUs → ∀ (nowUs : Int) (obs : Observation)
        (group : GroupEvidence),
        |(engine.step libm nowUs obs group).1.crystalPpm - engine.crystalPpm| ≤
          ((2 : Nat) : K) * (engine.profile.frameUs : K) /
            (((9 : Nat) : K) * seconds engine.profile.rateHorizonUs)) ∧
      ∀ (correctionId : Nat) (nowUs : Int),
        |(engine.confirmPositionLanded correctionId nowUs).crystalPpm - engine.crystalPpm| ≤
          ((5 : Nat) : K) := by
  have bounded := reached_crystal_bounded libm profile calls
  exact ⟨bounded,
    fun horizon nowUs obs group => step_crystal_slow _ libm nowUs obs group bounded horizon,
    fun correctionId nowUs => confirm_crystal_slow _ correctionId nowUs bounded⟩

private def lateAt (nowUs : Int) : Call Rat :=
  .step nowUs { atUs := nowUs, errorUs := 100, valid := true, bufferUs := 0 } GroupEvidence.none

theorem crystal_slow_lateAt :
    let engine := Call.reached Libm.rational Profile.initial [lateAt 1000000]
    1000 ≤ engine.profile.rateHorizonUs ∧
      |((lateAt 2000000).perform Libm.rational engine).crystalPpm - engine.crystalPpm| ≤
        ((2 : Nat) : Rat) * (engine.profile.frameUs : Rat) /
          (((9 : Nat) : Rat) * seconds engine.profile.rateHorizonUs) := by
  have horizon : 1000 ≤
      (Call.reached Libm.rational (Profile.initial : Profile Rat)
        [lateAt 1000000]).profile.rateHorizonUs := by decide +kernel
  exact ⟨horizon, (crystal_slow Libm.rational Profile.initial [lateAt 1000000]).2.1 horizon 2000000
    { atUs := 2000000, errorUs := 100, valid := true, bufferUs := 0 } GroupEvidence.none⟩

end Engine

def Profile.commandLimitPpm (profile : Profile K) : K :=
  crystalLimitPpm + profile.rateAuthorityPpm + profile.commonAuthorityPpm

structure Profile.Authorised (profile : Profile K) : Prop where
  rate : 0 ≤ profile.rateAuthorityPpm
  common : 0 ≤ profile.commonAuthorityPpm

namespace Engine

variable [IsStrictOrderedRing K]

/-- What bounds the commands of an engine: its estimate and the command it remembers. -/
structure Bounded (engine : Engine K) : Prop where
  crystal : |engine.crystalPpm| ≤ crystalLimitPpm
  command : |engine.lastRateCmd| ≤ engine.profile.commandLimitPpm

omit [FloorRing K] in
theorem commonTerm_abs_le (engine : Engine K) (group : GroupEvidence)
    (authority : 0 ≤ engine.profile.commonAuthorityPpm) :
    |engine.commonTerm group| ≤ engine.profile.commonAuthorityPpm := by
  have limited (excessUs : Int) :
      |if excessUs ≠ 0 then
          clamp ((excessUs : K) / engine.profile.commonDrainS)
            (-engine.profile.commonAuthorityPpm) engine.profile.commonAuthorityPpm
        else 0| ≤ engine.profile.commonAuthorityPpm := by
    split
    · exact clamp_abs_le _ _ authority
    · rw [abs_zero]
      exact authority
  rw [commonTerm]
  split
  · exact limited _
  · rw [abs_zero]
    exact authority

omit [FloorRing K] in
theorem limited_abs_le (last want slew bound : K) (nonneg : 0 ≤ slew) (before : |last| ≤ bound)
    (toward : |want| ≤ bound) : |last + clamp (want - last) (-slew) slew| ≤ bound := by
  obtain ⟨lastAbove, lastBelow⟩ := abs_le.mp before
  obtain ⟨wantAbove, wantBelow⟩ := abs_le.mp toward
  rw [clamp, abs_le]
  split
  · constructor <;> linarith
  · split
    · constructor <;> linarith
    · constructor <;> linarith

theorem maxSlew_nonneg (engine : Engine K) (dtUs : Int)
    (authority : 0 ≤ engine.profile.rateAuthorityPpm) :
    0 ≤ engine.profile.rateAuthorityPpm *
      ((if 0 < dtUs then
          min (seconds dtUs) (max millisecond (seconds engine.profile.rateHorizonUs))
        else 0) /
        max millisecond (seconds engine.profile.rateHorizonUs)) := by
  have horizon : (0 : K) < max millisecond (seconds engine.profile.rateHorizonUs) := by
    rw [slewHorizon_seconds]
    exact seconds_pos engine.profile.slewHorizonUs_pos
  apply mul_nonneg authority
  apply div_nonneg _ (le_of_lt horizon)
  split
  · rename_i elapsed
    exact le_min (le_of_lt (seconds_pos elapsed)) (le_of_lt horizon)
  · exact le_refl 0

theorem rateCommand_abs_le (engine : Engine K) (decision : Decision K) (dtUs : Int)
    (group : GroupEvidence) (diff : Differential K) (want : PositionWant K)
    (authorised : engine.profile.Authorised) (bounded : engine.Bounded) :
    |(engine.rateCommand decision dtUs group diff want).2.ratePpm| ≤
      engine.profile.commandLimitPpm := by
  have common := engine.commonTerm_abs_le group authorised.common
  rw [rateCommand]
  dsimp only
  generalize engine.proportionalGain _ = kp
  have proportional := clamp_abs_le (kp.1 * (want.ePositionUs : K)) _ authorised.rate
  have total : |engine.crystalPpm + clamp (kp.1 * (want.ePositionUs : K))
      (-engine.profile.rateAuthorityPpm) engine.profile.rateAuthorityPpm +
      engine.commonTerm group| ≤ engine.profile.commandLimitPpm := by
    rw [Profile.commandLimitPpm]
    have sum := abs_add_three engine.crystalPpm (clamp (kp.1 * (want.ePositionUs : K))
      (-engine.profile.rateAuthorityPpm) engine.profile.rateAuthorityPpm) (engine.commonTerm group)
    have crystal := bounded.crystal
    linarith
  split
  · exact limited_abs_le _ _ _ _ (engine.maxSlew_nonneg dtUs authorised.rate) bounded.command total
  · exact total

omit [FloorRing K] [IsStrictOrderedRing K] in
theorem SameLimiter.bounded {before after : Engine K} (same : SameLimiter before after)
    (bounded : before.Bounded) : after.Bounded := by
  refine ⟨?_, ?_⟩
  · rw [same.crystalPpm]
    exact bounded.crystal
  · rw [same.lastRateCmd, same.profile]
    exact bounded.command

omit [FloorRing K] in
theorem crystalLimit_le_commandLimit (profile : Profile K) (authorised : profile.Authorised) :
    crystalLimitPpm ≤ profile.commandLimitPpm := by
  rw [Profile.commandLimitPpm]
  linarith [authorised.rate, authorised.common]

def poised (engine : Engine K) (decision : Decision K) (nowUs e : Int) (diff : Differential K) :
    Engine K :=
  { (engine.integrate decision e (engine.sinceObsUs nowUs) diff).1 with
    crystalAtUs := if engine.crystalAtUs = 0 then nowUs else engine.crystalAtUs
    lastObsUs := nowUs }

theorem poised_bounded (engine : Engine K) (decision : Decision K) (nowUs e : Int)
    (diff : Differential K) (bounded : engine.Bounded) :
    (engine.poised decision nowUs e diff).Bounded := by
  obtain ⟨profile, lastRateCmd, _⟩ :=
    engine.integrate_sameLimiter decision e (engine.sinceObsUs nowUs) diff
  refine ⟨?_, ?_⟩
  · change |(engine.integrate decision e (engine.sinceObsUs nowUs) diff).1.crystalPpm| ≤ _
    rw [integrate_crystalPpm]
    split
    · exact crystal_clamped _
    · exact bounded.crystal
  · rw [poised]
    dsimp only
    rw [lastRateCmd, profile]
    exact bounded.command

theorem steer_bounded (engine : Engine K) (decision : Decision K) (nowUs e : Int)
    (group : GroupEvidence) (diff : Differential K) (want : PositionWant K)
    (authorised : engine.profile.Authorised) (bounded : engine.Bounded) :
    (engine.steer decision nowUs e group diff want).1.Bounded ∧
      |(engine.steer decision nowUs e group diff want).2.ratePpm| ≤
        engine.profile.commandLimitPpm := by
  have ready := engine.poised_bounded decision nowUs e diff bounded
  have profile : (engine.poised decision nowUs e diff).profile = engine.profile :=
    (engine.integrate_sameLimiter decision e (engine.sinceObsUs nowUs) diff).1
  rw [← profile] at authorised ⊢
  have answered := rateCommand_abs_le (engine.poised decision nowUs e diff)
    (engine.integrate decision e (engine.sinceObsUs nowUs) diff).2 (engine.sinceObsUs nowUs)
    group diff want authorised ready
  exact ⟨⟨ready.crystal, answered⟩, answered⟩

theorem step_bounded (engine : Engine K) (libm : Libm K) (nowUs : Int) (obs : Observation)
    (group : GroupEvidence) (authorised : engine.profile.Authorised) (bounded : engine.Bounded) :
    (engine.step libm nowUs obs group).1.Bounded ∧
      |(engine.step libm nowUs obs group).2.ratePpm| ≤ engine.profile.commandLimitPpm := by
  have held := le_trans bounded.crystal (crystalLimit_le_commandLimit engine.profile authorised)
  have retired := retirePending_sameLimiter engine nowUs obs.errorUs
  have assessed := assess_sameLimiter engine libm nowUs obs group
  have reached := assessed.bounded bounded
  cases engine.step_exit libm nowUs obs group with
  | invalid _ same =>
      rw [same]
      exact ⟨⟨bounded.crystal, bounded.command⟩, held⟩
  | starved _ _ same =>
      rw [same]
      have waited := retired.bounded bounded
      refine ⟨⟨waited.crystal, waited.command⟩, ?_⟩
      exact le_of_eq_of_le (congrArg _ retired.crystalPpm) held
  | blocked _ _ _ same =>
      rw [same]
      refine ⟨⟨reached.crystal, reached.command⟩, ?_⟩
      exact le_of_eq_of_le (congrArg _ assessed.crystalPpm) held
  | issued _ same =>
      rw [same]
      refine ⟨⟨reached.crystal, reached.command⟩, ?_⟩
      exact le_of_eq_of_le (congrArg _ assessed.crystalPpm) held
  | steered _ _ same =>
      rw [same]
      rw [← assessed.profile] at authorised ⊢
      exact steer_bounded _ _ _ _ _ _ _ authorised reached

end Engine

namespace Call

variable [IsStrictOrderedRing K]

def Keeps (profile : Profile K) (call : Call K) : Prop :=
  ∀ other, call.profile = some other → other = profile

omit [IsStrictOrderedRing K] in
theorem perform_keeps (libm : Libm K) (profile : Profile K) (engine : Engine K) (call : Call K)
    (same : engine.profile = profile) (keeps : Keeps profile call) :
    (call.perform libm engine).profile = profile := by
  cases set : call.profile with
  | none => exact (perform_profile libm engine call set).trans same
  | some other =>
      cases call with
      | setProfile given => exact keeps given rfl
      | setCrystalPpm _ => cases set
      | step _ _ _ => cases set
      | confirmPositionLanded _ _ => cases set
      | noteExternalMove _ _ => cases set

theorem perform_bounded (libm : Libm K) (engine : Engine K) (call : Call K)
    (authorised : engine.profile.Authorised) (keeps : Keeps engine.profile call)
    (bounded : engine.Bounded) : (call.perform libm engine).Bounded := by
  cases call with
  | setProfile profile =>
      refine ⟨bounded.crystal, ?_⟩
      have command := bounded.command
      rw [← keeps profile rfl] at command
      exact command
  | setCrystalPpm ppm =>
      cases ppm with
      | none => exact bounded
      | some ppm => exact ⟨Engine.crystal_clamped ppm, bounded.command⟩
  | step nowUs obs group => exact (engine.step_bounded libm nowUs obs group authorised bounded).1
  | confirmPositionLanded correctionId nowUs =>
      have crystal := (Call.confirmPositionLanded correctionId nowUs).perform_crystal_bounded libm
        engine bounded.crystal
      refine ⟨crystal, ?_⟩
      obtain ⟨_, _, _, _, _, _, _, only⟩ := engine.confirm_only correctionId nowUs
      change |(engine.confirmPositionLanded correctionId nowUs).lastRateCmd| ≤
        (engine.confirmPositionLanded correctionId nowUs).profile.commandLimitPpm
      rw [only]
      exact bounded.command
  | noteExternalMove appliedUs nowUs =>
      rw [perform, Engine.noteExternalMove]
      split
      · exact bounded
      · exact ⟨bounded.crystal, bounded.command⟩

theorem reached_bounded (libm : Libm K) (profile : Profile K) (calls : List (Call K))
    (authorised : profile.Authorised) (steady : ∀ call ∈ calls, Keeps profile call) :
    (reached libm profile calls).profile = profile ∧ (reached libm profile calls).Bounded := by
  apply List.foldlRecOn calls (perform libm)
    (motive := fun engine => engine.profile = profile ∧ engine.Bounded)
  · refine ⟨rfl, le_of_eq_of_le abs_zero Engine.crystalLimit_nonneg, ?_⟩
    exact le_of_eq_of_le abs_zero
      (le_trans Engine.crystalLimit_nonneg (Engine.crystalLimit_le_commandLimit profile authorised))
  · rintro engine ⟨same, bounded⟩ call member
    have keeps := steady call member
    refine ⟨perform_keeps libm profile engine call same keeps, ?_⟩
    rw [← same] at authorised keeps
    exact perform_bounded libm engine call authorised keeps bounded

/-- Every rate that a step of a run returns is within the clamp of the crystal estimate and the two
authorities, where the profile stays. -/
theorem step_rate_bounded (libm : Libm K) (profile : Profile K) (calls : List (Call K))
    (rate : 0 ≤ profile.rateAuthorityPpm) (common : 0 ≤ profile.commonAuthorityPpm)
    (steady : ∀ call ∈ calls, Keeps profile call) (nowUs : Int) (obs : Observation)
    (group : GroupEvidence) :
    |((reached libm profile calls).step libm nowUs obs group).2.ratePpm| ≤
      ((200 : Nat) : K) + profile.rateAuthorityPpm + profile.commonAuthorityPpm := by
  obtain ⟨same, bounded⟩ := reached_bounded libm profile calls ⟨rate, common⟩ steady
  have authorised : (reached libm profile calls).profile.Authorised := by
    rw [same]
    exact ⟨rate, common⟩
  have answered := (Engine.step_bounded _ libm nowUs obs group authorised bounded).2
  rw [same] at answered
  exact answered

theorem step_rate_bounded_lateAt :
    (∀ call ∈ [Engine.lateAt 1000000], Keeps Profile.initial call) ∧
      |((reached Libm.rational Profile.initial [Engine.lateAt 1000000]).step Libm.rational 2000000
          { atUs := 2000000, errorUs := 100, valid := true, bufferUs := 0 }
          GroupEvidence.none).2.ratePpm| ≤
        ((200 : Nat) : Rat) + (Profile.initial : Profile Rat).rateAuthorityPpm +
          (Profile.initial : Profile Rat).commonAuthorityPpm := by
  have steady : ∀ call ∈ [Engine.lateAt 1000000], Keeps (Profile.initial : Profile Rat) call := by
    intro call member other set
    rw [List.mem_singleton.mp member] at set
    cases set
  exact ⟨steady, step_rate_bounded Libm.rational Profile.initial _ (by decide +kernel)
    (by decide +kernel) steady 2000000 _ _⟩

end Call

end Timing
