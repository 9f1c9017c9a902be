import Mathlib.Algebra.Order.Field.Basic
import Mathlib.Tactic.FieldSimp
import Mathlib.Tactic.Linarith
import Mathlib.Tactic.Positivity
import Mathlib.Tactic.Ring

/-! The covariance of a position and its rate, as a linear estimator carries it: advanced in
time, widened by noise, and corrected by a measurement of the position; and Huber's weight, under
which no measurement corrects by more than a bound. -/

variable {K : Type} [Field K] [LinearOrder K]

structure Covariance (K : Type) where
  position : K
  cross : K
  rate : K

namespace Covariance

def Semidefinite (cov : Covariance K) : Prop :=
  0 ≤ cov.position ∧ 0 ≤ cov.rate ∧ cov.cross * cov.cross ≤ cov.position * cov.rate

def advance (cov : Covariance K) (dt : K) : Covariance K :=
  { position := cov.position + ((2 : Nat) : K) * cov.cross * dt + cov.rate * (dt * dt)
    cross := cov.cross + cov.rate * dt
    rate := cov.rate }

def widen (cov : Covariance K) (positionNoise rateNoise : K) : Covariance K :=
  { cov with
    position := cov.position + positionNoise
    rate := cov.rate + rateNoise }

def correct (cov : Covariance K) (noise : K) : Covariance K :=
  let inverse := 1 / (cov.position + noise)
  { position := cov.position - cov.position * inverse * cov.position
    cross := cov.cross - cov.cross * inverse * cov.position
    rate := cov.rate - cov.cross * inverse * cov.cross }

variable [IsStrictOrderedRing K]

theorem advance_semidefinite (cov : Covariance K) (dt : K) (semidefinite : cov.Semidefinite) :
    (cov.advance dt).Semidefinite := by
  obtain ⟨position, rate, cross⟩ := semidefinite
  have same : (cov.advance dt).position * (cov.advance dt).rate -
      (cov.advance dt).cross * (cov.advance dt).cross =
        cov.position * cov.rate - cov.cross * cov.cross := by
    simp only [advance]
    ring
  refine ⟨?_, rate, by linarith⟩
  -- a variance of no rate has nothing in common with it
  rcases eq_or_lt_of_le rate with still | moving
  · have none_ : cov.cross = 0 := by
      rw [← still, mul_zero] at cross
      exact mul_self_eq_zero.mp (le_antisymm cross (mul_self_nonneg _))
    simp only [advance, ← still, none_]
    linarith
  · have square := mul_self_nonneg (cov.cross + cov.rate * dt)
    have scaled : 0 ≤ cov.rate * (cov.advance dt).position := by
      simp only [advance, Nat.cast_ofNat]
      linarith
    exact nonneg_of_mul_nonneg_right scaled moving

theorem widen_semidefinite (cov : Covariance K) (positionNoise rateNoise : K)
    (positionNonneg : 0 ≤ positionNoise) (rateNonneg : 0 ≤ rateNoise)
    (semidefinite : cov.Semidefinite) :
    (cov.widen positionNoise rateNoise).Semidefinite := by
  obtain ⟨position, rate, cross⟩ := semidefinite
  refine ⟨add_nonneg position positionNonneg, add_nonneg rate rateNonneg, cross.trans ?_⟩
  exact mul_le_mul (le_add_of_nonneg_right positionNonneg) (le_add_of_nonneg_right rateNonneg)
    rate (add_nonneg position positionNonneg)

theorem correct_position (cov : Covariance K) (noise : K) (position : 0 < cov.position)
    (positive : 0 < noise) :
    (cov.correct noise).position = cov.position * noise / (cov.position + noise) := by
  have total : cov.position + noise ≠ 0 := (add_pos position positive).ne'
  simp only [correct]
  field_simp
  ring

theorem correct_position_pos (cov : Covariance K) (noise : K) (position : 0 < cov.position)
    (positive : 0 < noise) : 0 < (cov.correct noise).position := by
  rw [cov.correct_position noise position positive]
  positivity

theorem correct_semidefinite (cov : Covariance K) (noise : K) (position : 0 < cov.position)
    (positive : 0 < noise) (semidefinite : cov.Semidefinite) :
    (cov.correct noise).Semidefinite := by
  obtain ⟨_, rate, cross⟩ := semidefinite
  have total : 0 < cov.position + noise := add_pos position positive
  have apart : cov.position + noise ≠ 0 := total.ne'
  have left : 0 ≤ cov.position * cov.rate - cov.cross * cov.cross := sub_nonneg.mpr cross
  have rateIs : (cov.correct noise).rate =
      (cov.position * cov.rate - cov.cross * cov.cross + cov.rate * noise) /
        (cov.position + noise) := by
    simp only [correct]
    field_simp
    ring
  have determinant : (cov.correct noise).position * (cov.correct noise).rate -
      (cov.correct noise).cross * (cov.correct noise).cross =
        (cov.position * cov.rate - cov.cross * cov.cross) * noise / (cov.position + noise) := by
    simp only [correct]
    field_simp
    ring
  refine ⟨(cov.correct_position_pos noise position positive).le, ?_, ?_⟩
  · rw [rateIs]
    positivity
  · rw [← sub_nonneg, determinant]
    positivity

end Covariance

namespace Huber

def weight (bend residual : K) : K := if residual ≤ bend then 1 else bend / residual

variable [IsStrictOrderedRing K]

theorem weight_pos (bend residual : K) (positive : 0 < bend) : 0 < weight bend residual := by
  rw [weight]
  split
  · exact one_pos
  · rename_i beyond
    exact div_pos positive (positive.trans (not_le.mp beyond))

/-- A weighted residual stays within the bend. -/
theorem abs_weight_mul_le (bend deviation residual : K) (positive : 0 < bend)
    (spread : 0 < deviation) :
    |weight bend (|residual| / deviation) * residual| ≤ bend * deviation := by
  rw [weight]
  split
  · rename_i within
    rw [one_mul]
    exact (div_le_iff₀ spread).mp within
  · rename_i beyond
    have far : 0 < |residual| / deviation := positive.trans (not_le.mp beyond)
    have nonzero : 0 < |residual| := by
      by_contra zero
      rw [le_antisymm (not_lt.mp zero) (abs_nonneg residual), zero_div] at far
      exact lt_irrefl _ far
    rw [abs_mul, abs_of_pos (div_pos positive far)]
    apply le_of_eq
    field_simp

theorem abs_gain_mul_le (bend deviation residual variance noise share : K) (positive : 0 < bend)
    (spread : 0 < deviation) (variancePos : 0 < variance) (noisePos : 0 < noise) :
    |share * (1 / (variance + noise / weight bend (|residual| / deviation))) * residual| ≤
      |share| * bend * deviation / noise := by
  have weightPos := weight_pos bend (|residual| / deviation) positive
  have bounded := abs_weight_mul_le bend deviation residual positive spread
  generalize weight bend (|residual| / deviation) = weighted at weightPos bounded ⊢
  have inflated : 0 < noise / weighted := div_pos noisePos weightPos
  have inverse : 1 / (variance + noise / weighted) ≤ weighted / noise := by
    calc 1 / (variance + noise / weighted) ≤ 1 / (noise / weighted) :=
          one_div_le_one_div_of_le inflated (le_add_of_nonneg_left variancePos.le)
      _ = weighted / noise := one_div_div noise weighted
  rw [abs_mul, abs_of_pos weightPos] at bounded
  rw [abs_mul, abs_mul, abs_of_pos (one_div_pos.mpr (add_pos variancePos inflated))]
  calc |share| * (1 / (variance + noise / weighted)) * |residual|
      ≤ |share| * (weighted / noise) * |residual| := by gcongr
    _ = |share| * (weighted * |residual|) / noise := by ring
    _ ≤ |share| * (bend * deviation) / noise := by gcongr
    _ = |share| * bend * deviation / noise := by ring

end Huber
