import SnapcastSync.Lib.FloatValue
import SnapcastSync.Engine.Attribution

/-! Which profiles leave the loop a negative feedback: where neither the target nor an authority
nor a filter is negative, no horizon and no gain is, and every term of a command has the sign of
the error that it answers. -/

namespace Timing

open Rounding

variable {K : Type} [Field K] [LinearOrder K] [FloorRing K]

structure Profile.NonNegative (profile : Profile K) : Prop where
  noiseBudget : 0 ≤ profile.rateNoiseBudgetPpm
  gain : ∀ engine : Engine K, engine.profile = profile →
    ∀ pSigmaUs, 0 ≤ (engine.proportionalGain pSigmaUs).1
  rateAuthority : 0 ≤ profile.rateAuthorityPpm
  commonAuthority : 0 ≤ profile.commonAuthorityPpm
  compensation : 0 ≤ profile.compensationUs
  filterLag : 0 ≤ profile.filterLagUs
  rateFilterLag : 0 ≤ profile.rateFilterLagEffectiveUs
  rateHorizon : 0 ≤ profile.rateHorizonUs
  settle : 0 ≤ profile.settleUs

/-- The terms of a command have the sign of the error that they answer. -/
structure Profile.Restoring (profile : Profile K) : Prop where
  proportional : ∀ (engine : Engine K) (diff : Differential K) (want : PositionWant K),
    engine.profile = profile → 0 ≤ engine.proportional diff want * (want.ePositionUs : K)
  common : ∀ (engine : Engine K) (group : GroupEvidence), engine.profile = profile →
    0 ≤ engine.commonTerm group * (group.commonUs : K)

section Signs

variable [IsStrictOrderedRing K]

omit [FloorRing K] in
theorem clamp_mul_nonneg (x bound e : K) (bounded : 0 ≤ bound) (agrees : 0 ≤ x * e) :
    0 ≤ clamp x (-bound) bound * e := by
  rw [clamp]
  split
  case isTrue below =>
    have negative : x < 0 := lt_of_lt_of_le below (neg_nonpos.mpr bounded)
    have other : e ≤ 0 := nonpos_of_mul_nonneg_right agrees negative
    exact mul_nonneg_of_nonpos_of_nonpos (neg_nonpos.mpr bounded) other
  case isFalse =>
    split
    case isTrue above =>
      have positive : 0 < x := lt_of_le_of_lt bounded above
      exact mul_nonneg bounded (nonneg_of_mul_nonneg_right agrees positive)
    case isFalse => exact agrees

namespace Profile

theorem filterLag_nonneg (profile : Profile K) (horizons : 0 ≤ profile.errTauHorizons)
    (compensation : 0 ≤ profile.compensationUs) : 0 ≤ profile.filterLagUs := by
  rw [filterLagUs, FloatValue.truncToInt_nonneg_iff]
  have product : 0 ≤ profile.errTauHorizons * (profile.compensationUs : K) :=
    mul_nonneg horizons (Int.cast_nonneg compensation)
  exact lt_of_lt_of_le (by norm_num) product

/-- Behind a positive horizon the budget has the sign of the target. -/
theorem noiseBudget_nonneg_iff (profile : Profile K) (horizon : 0 < profile.rateHorizonUs) :
    0 ≤ profile.rateNoiseBudgetPpm ↔ 0 ≤ profile.targetDiffUs := by
  have ahead : (0 : K) < (profile.rateHorizonUs : K) := Int.cast_pos.mpr horizon
  have million : (0 : K) < ((1000000 : Nat) : K) := Nat.cast_pos.mpr (by decide)
  rw [rateNoiseBudgetPpm, if_neg (not_le.mpr horizon), le_div_iff₀ ahead, zero_mul,
    mul_nonneg_iff_of_pos_left million, Int.cast_nonneg_iff]

theorem gain_nonneg (profile : Profile K) (budget : 0 ≤ profile.rateNoiseBudgetPpm)
    (engine : Engine K) (steps : engine.profile = profile) (pSigmaUs : K) :
    0 ≤ (engine.proportionalGain pSigmaUs).1 := by
  have used : 0 ≤ if 0 < pSigmaUs then engine.profile.rateNoiseBudgetPpm / pSigmaUs else 0 := by
    split
    case isTrue positive =>
      rw [steps]
      exact div_nonneg budget positive.le
    case isFalse => exact le_rfl
  rw [Engine.proportionalGain]
  generalize (if 0 < pSigmaUs then engine.profile.rateNoiseBudgetPpm / pSigmaUs else 0) = kpUsed
    at used
  split
  case isTrue capped =>
    obtain ⟨fraction, horizon, _⟩ := capped
    positivity
  case isFalse => exact used

theorem nonNegative_of (profile : Profile K) (target : 0 ≤ profile.targetDiffUs)
    (rate : 0 ≤ profile.rateAuthorityPpm) (common : 0 ≤ profile.commonAuthorityPpm)
    (horizons : 0 ≤ profile.errTauHorizons) (delay : 0 ≤ profile.positionDelayUs)
    (lag : 0 < profile.measurementLagUs) : profile.NonNegative := by
  have compensation : 0 ≤ profile.compensationUs := add_nonneg delay lag.le
  have filterLag := profile.filterLag_nonneg horizons compensation
  have horizon : 0 < profile.rateHorizonUs := add_pos_of_pos_of_nonneg lag filterLag
  have budget := (profile.noiseBudget_nonneg_iff horizon).mpr target
  exact
    { noiseBudget := budget
      gain := profile.gain_nonneg budget
      rateAuthority := rate
      commonAuthority := common
      compensation := compensation
      filterLag := filterLag
      rateFilterLag := by
        rw [rateFilterLagEffectiveUs]
        split
        case isTrue split_ => exact split_.le
        case isFalse => exact filterLag
      rateHorizon := horizon.le
      settle := add_nonneg compensation filterLag }

theorem NonNegative.restoring {profile : Profile K} (nonNegative : profile.NonNegative) :
    profile.Restoring :=
  { proportional := by
      intro engine diff want steps
      rw [Engine.proportional]
      apply clamp_mul_nonneg
      · rw [steps]
        exact nonNegative.rateAuthority
      · rw [mul_assoc]
        exact mul_nonneg (nonNegative.gain engine steps _) (mul_self_nonneg _)
    common := by
      intro engine group steps
      rw [Engine.commonTerm]
      split
      case isTrue drains =>
        dsimp only
        have dead : 0 ≤ max 0 engine.profile.targetCommonUs := le_max_left _ _
        generalize max 0 engine.profile.targetCommonUs = deadUs at dead
        have excess (excessUs : Int) (sameSign : 0 ≤ excessUs * group.commonUs) :
            0 ≤ (if excessUs ≠ 0 then
              clamp ((excessUs : K) / engine.profile.commonDrainS)
                (-engine.profile.commonAuthorityPpm) engine.profile.commonAuthorityPpm
              else 0) * (group.commonUs : K) := by
          split
          · apply clamp_mul_nonneg
            · rw [steps]
              exact nonNegative.commonAuthority
            · rw [div_mul_eq_mul_div]
              apply div_nonneg _ drains.2.le
              exact_mod_cast sameSign
          · rw [zero_mul]
        apply excess
        split
        case isTrue late => exact mul_nonneg (by omega) (by omega)
        case isFalse =>
          split
          case isTrue early => exact mul_nonneg_of_nonpos_of_nonpos (by omega) (by omega)
          case isFalse => rw [zero_mul]
      case isFalse => rw [zero_mul] }

end Profile

end Signs

end Timing
