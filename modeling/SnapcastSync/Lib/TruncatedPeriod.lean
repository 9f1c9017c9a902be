import SnapcastSync.Lib.Rounding

/-! An error paid off in whole periods, where a period is the unit divided by a rate and truncated.
What the truncation leaves out of each period adds up over the periods paid. -/

namespace TruncatedPeriod

variable (unit rate : Int)

def period : Int := Int.tdiv unit rate

/-- What is left out of one period, in units of the rate. -/
def residue : Int := unit - period unit rate * rate

variable {unit rate}

theorem period_eq (nonneg : 0 ≤ unit) : period unit rate = unit / rate :=
  Int.tdiv_eq_ediv_of_nonneg nonneg

theorem residue_eq (nonneg : 0 ≤ unit) : residue unit rate = unit % rate := by
  rw [residue, period_eq nonneg, Int.emod_def, Int.mul_comm rate]

theorem residue_nonneg (nonneg : 0 ≤ unit) (positive : 0 < rate) : 0 ≤ residue unit rate := by
  rw [residue_eq nonneg]
  exact Int.emod_nonneg unit (ne_of_gt positive)

theorem residue_lt (nonneg : 0 ≤ unit) (positive : 0 < rate) : residue unit rate < rate := by
  rw [residue_eq nonneg]
  exact Int.emod_lt_of_pos unit positive

theorem tdiv_remainder (error step : Int) (positive : 0 < step) :
    (0 ≤ error ∧ 0 ≤ Int.tdiv error step ∧ 0 ≤ error - Int.tdiv error step * step ∧
        error - Int.tdiv error step * step < step) ∨
      (error ≤ 0 ∧ Int.tdiv error step ≤ 0 ∧ error - Int.tdiv error step * step ≤ 0 ∧
        -step < error - Int.tdiv error step * step) := by
  have split := Int.tmod_add_mul_tdiv error step
  rw [Int.mul_comm] at split
  have remainder : error - Int.tdiv error step * step = Int.tmod error step := by omega
  rw [remainder]
  rcases Int.le_total 0 error with forward | backward
  · left
    exact ⟨forward, Int.tdiv_nonneg forward (le_of_lt positive), Int.tmod_nonneg step forward,
      Int.tmod_lt_of_pos error positive⟩
  · right
    have opposite : 0 ≤ -error := by omega
    have quotient := Int.tdiv_nonneg opposite (le_of_lt positive)
    have lower := Int.tmod_nonneg step opposite
    have upper := Int.tmod_lt_of_pos (-error) positive
    rw [Int.neg_tdiv] at quotient
    rw [Int.neg_tmod] at lower upper
    exact ⟨backward, by omega, by omega, by omega⟩

theorem displaced_eq (nonneg : 0 ≤ unit) (positive : 0 < rate) (count : Int) :
    |count * period unit rate * rate - count * unit| = |count| * residue unit rate := by
  have left : count * period unit rate * rate - count * unit = -(count * residue unit rate) := by
    rw [residue]
    ring
  rw [left, abs_neg, abs_mul, abs_of_nonneg (residue_nonneg nonneg positive)]

theorem paid_of_displaced (nonneg : 0 ≤ unit) (positive : 0 < rate) (error : Int)
    (whole : 0 < period unit rate)
    (small : |Int.tdiv error (period unit rate)| * residue unit rate < unit) :
    |error * rate - Int.tdiv error (period unit rate) * unit| < unit := by
  have left := residue_nonneg nonneg positive
  have unitEq : unit = residue unit rate + period unit rate * rate := by
    rw [residue]
    ring
  have apart : error * rate - Int.tdiv error (period unit rate) * unit =
      (error - Int.tdiv error (period unit rate) * period unit rate) * rate -
        Int.tdiv error (period unit rate) * residue unit rate := by
    rw [residue]
    ring
  rw [apart, abs_lt]
  rcases tdiv_remainder error (period unit rate) whole with
    ⟨_, quotient, lower, upper⟩ | ⟨_, quotient, upper, lower⟩
  · rw [abs_of_nonneg quotient] at small
    constructor
    · nlinarith [mul_nonneg lower (le_of_lt positive)]
    · nlinarith [mul_nonneg quotient left]
  · rw [abs_of_nonpos quotient] at small
    constructor
    · nlinarith [mul_nonneg (neg_nonneg.mpr quotient) left]
    · nlinarith [mul_nonneg (neg_nonneg.mpr upper) (le_of_lt positive)]

theorem remainder_scaled (error step : Int) (positive : 0 < rate) (whole : 0 < step) :
    -(step * rate) < (error - Int.tdiv error step * step) * rate ∧
      (error - Int.tdiv error step * step) * rate < step * rate := by
  have above (bound : Int) (less : error - Int.tdiv error step * step < bound) :
      (error - Int.tdiv error step * step) * rate < bound * rate :=
    mul_lt_mul_of_pos_right less positive
  have below (bound : Int) (more : bound < error - Int.tdiv error step * step) :
      bound * rate < (error - Int.tdiv error step * step) * rate :=
    mul_lt_mul_of_pos_right more positive
  rw [← Int.neg_mul]
  rcases tdiv_remainder error step whole with ⟨_, _, lower, upper⟩ | ⟨_, _, upper, lower⟩
  · exact ⟨below (-step) (by omega), above step upper⟩
  · exact ⟨below (-step) lower, above step (by omega)⟩

theorem unpaid_of_wrapped (nonneg : 0 ≤ unit) (positive : 0 < rate) (error : Int)
    (whole : 0 < period unit rate)
    (wrapped : Rounding.toInt32 (Int.tdiv error (period unit rate)) ≠
      Int.tdiv error (period unit rate)) :
    unit ≤ |error * rate - Rounding.toInt32 (Int.tdiv error (period unit rate)) * unit| := by
  have left := residue_nonneg nonneg positive
  have leftLess := residue_lt nonneg positive
  have quotient := Int.bmod_add_bdiv (Int.tdiv error (period unit rate)) (2 ^ 32)
  have lower := Int.le_bmod (x := Int.tdiv error (period unit rate)) (m := 2 ^ 32) (by decide)
  have upper := Int.bmod_lt (x := Int.tdiv error (period unit rate)) (m := 2 ^ 32) (by decide)
  rw [Rounding.toInt32] at wrapped ⊢
  generalize Int.bmod (Int.tdiv error (period unit rate)) (2 ^ 32) = count at *
  generalize Int.bdiv (Int.tdiv error (period unit rate)) (2 ^ 32) = turns at quotient
  have turned : turns ≠ 0 := by
    rintro rfl
    exact wrapped (by rw [← quotient]; ring)
  -- everything in terms of one period's worth of units
  have paid : 0 < period unit rate * rate := mul_pos whole positive
  have rateLess : rate ≤ period unit rate * rate := by nlinarith
  have unitEq : unit = residue unit rate + period unit rate * rate := by
    rw [residue]
    ring
  have remainder := remainder_scaled error (period unit rate) positive whole
  have counted : -(2 ^ 31 * (period unit rate * rate)) ≤ count * residue unit rate ∧
      count * residue unit rate ≤ 2 ^ 31 * (period unit rate * rate) := by
    have low : -2 ^ 31 ≤ count := by omega
    have high : count ≤ 2 ^ 31 := by omega
    have below := mul_le_mul_of_nonneg_right low left
    have above := mul_le_mul_of_nonneg_right high left
    constructor <;> linarith
  have apart : error * rate - count * unit =
      (error - Int.tdiv error (period unit rate) * period unit rate) * rate -
        count * residue unit rate + turns * (2 ^ 32 * (period unit rate * rate)) := by
    rw [← quotient, residue]
    push_cast
    ring
  rw [apart]
  rcases lt_or_gt_of_ne turned with negative | forward
  · have far : turns * (2 ^ 32 * (period unit rate * rate)) ≤
        -(2 ^ 32 * (period unit rate * rate)) := by nlinarith
    rw [abs_of_neg (by linarith)]
    linarith
  · have far : 2 ^ 32 * (period unit rate * rate) ≤
        turns * (2 ^ 32 * (period unit rate * rate)) := by nlinarith
    rw [abs_of_pos (by linarith)]
    linarith

/-- An error is paid and its payment recorded to within the unit exactly when what is left out of
the periods paid is below the unit and their number fits its 32 bits. -/
theorem exact_iff (nonneg : 0 ≤ unit) (positive : 0 < rate) (error : Int)
    (whole : 0 < period unit rate) :
    (|error * rate - Rounding.toInt32 (Int.tdiv error (period unit rate)) * unit| < unit ∧
        |Rounding.toInt32 (Int.tdiv error (period unit rate)) * period unit rate * rate -
          Rounding.toInt32 (Int.tdiv error (period unit rate)) * unit| < unit) ↔
      |Int.tdiv error (period unit rate)| * residue unit rate < unit ∧
        -2 ^ 31 ≤ Int.tdiv error (period unit rate) ∧
        Int.tdiv error (period unit rate) < 2 ^ 31 := by
  rw [← Rounding.toInt32_eq_self_iff, displaced_eq nonneg positive]
  by_cases fits : Rounding.toInt32 (Int.tdiv error (period unit rate)) =
      Int.tdiv error (period unit rate)
  · rw [fits]
    constructor
    · rintro ⟨_, small⟩
      exact ⟨small, rfl⟩
    · rintro ⟨small, _⟩
      exact ⟨paid_of_displaced nonneg positive error whole small, small⟩
  · constructor
    · rintro ⟨paid, _⟩
      exact absurd paid (not_lt.mpr (unpaid_of_wrapped nonneg positive error whole fits))
    · rintro ⟨_, same⟩
      exact absurd same fits

end TruncatedPeriod
