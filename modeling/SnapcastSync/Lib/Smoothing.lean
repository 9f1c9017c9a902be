import Mathlib.Algebra.Order.Field.Basic
import Mathlib.Tactic.Linarith
import Mathlib.Tactic.Ring

/-! Exponential smoothing: each sample draws the held value toward it by a fixed fraction. -/

namespace Smoothing

variable {K : Type*} [Field K]

def smooth (alpha held sample : K) : K := held + alpha * (sample - held)

theorem smooth_sub_mul (alpha slope held heldArg sample sampleArg : K) :
    smooth alpha held sample - slope * smooth alpha heldArg sampleArg =
      smooth alpha (held - slope * heldArg) (sample - slope * sampleArg) := by
  unfold smooth
  ring

variable [LinearOrder K] [IsStrictOrderedRing K]

/-- A smoothed value stays between bounds on the samples. -/
theorem smooth_mem (alpha held sample lo hi : K) (nonneg : 0 ≤ alpha) (atMost : alpha ≤ 1)
    (heldIn : lo ≤ held ∧ held ≤ hi) (sampleIn : lo ≤ sample ∧ sample ≤ hi) :
    lo ≤ smooth alpha held sample ∧ smooth alpha held sample ≤ hi := by
  have mixed : smooth alpha held sample = (1 - alpha) * held + alpha * sample := by
    unfold smooth
    ring
  have rest : 0 ≤ 1 - alpha := sub_nonneg.mpr atMost
  have low := add_le_add (mul_le_mul_of_nonneg_left heldIn.1 rest)
    (mul_le_mul_of_nonneg_left sampleIn.1 nonneg)
  have high := add_le_add (mul_le_mul_of_nonneg_left heldIn.2 rest)
    (mul_le_mul_of_nonneg_left sampleIn.2 nonneg)
  rw [mixed]
  constructor
  · linarith
  · linarith

/-- A smoothed value trails a rising one by a bounded lag. -/
theorem smooth_lag (alpha held before after rise lag : K) (atMost : alpha ≤ 1)
    (behind : 0 ≤ before - held ∧ before - held ≤ lag)
    (rises : 0 ≤ after - before ∧ after - before ≤ rise)
    (settled : (1 - alpha) * (lag + rise) ≤ lag) :
    0 ≤ after - smooth alpha held after ∧ after - smooth alpha held after ≤ lag := by
  have trails : after - smooth alpha held after = (1 - alpha) * (after - held) := by
    unfold smooth
    ring
  have rest : 0 ≤ 1 - alpha := sub_nonneg.mpr atMost
  rw [trails]
  refine ⟨mul_nonneg rest (by linarith), le_trans ?_ settled⟩
  exact mul_le_mul_of_nonneg_left (by linarith) rest

end Smoothing
