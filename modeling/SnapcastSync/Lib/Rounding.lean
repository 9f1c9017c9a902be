import Mathlib.Algebra.Order.Floor.Ring
import Mathlib.Algebra.Order.Field.Basic
import Mathlib.Tactic.Linarith
import Mathlib.Tactic.NormNum
import Mathlib.Tactic.Ring

/-! Conversions between machine integers and exact ordered fields. Floating-point
values are read as elements of a field; a cast to an integer truncates toward zero,
`llround` sends halves away from zero, and a 32-bit cast wraps. -/

namespace Rounding

variable {K : Type} [Field K] [LinearOrder K] [IsStrictOrderedRing K] [FloorRing K]

def truncToInt (x : K) : Int := if 0 ≤ x then ⌊x⌋ else ⌈x⌉

def llround (x : K) : Int := if 0 ≤ x then ⌊x + 1 / 2⌋ else ⌈x - 1 / 2⌉

def toInt32 (x : Int) : Int := x.bmod (2 ^ 32)

theorem toInt32_eq_self_iff (x : Int) : toInt32 x = x ↔ -2 ^ 31 ≤ x ∧ x < 2 ^ 31 := by
  have lower := Int.le_bmod (x := x) (m := 2 ^ 32) (by decide)
  have upper := Int.bmod_lt (x := x) (m := 2 ^ 32) (by decide)
  rw [toInt32]
  constructor
  · intro same
    omega
  · rintro ⟨low, high⟩
    have turns := Int.bmod_add_bdiv x (2 ^ 32)
    omega

theorem toInt32_le (x : Int) (nonneg : 0 ≤ x) : toInt32 x ≤ x := by
  have upper := Int.bmod_lt (x := x) (m := 2 ^ 32) (by decide)
  by_cases fits : x < 2 ^ 31
  · exact le_of_eq ((toInt32_eq_self_iff x).mpr ⟨by omega, fits⟩)
  · rw [toInt32]
    omega

/-- `std::clamp`, with the order of its two comparisons. -/
def clamp {α : Type} [LinearOrder α] (v lo hi : α) : α :=
  if v < lo then lo else if hi < v then hi else v

theorem clamp_mem {α : Type} [LinearOrder α] (x lo hi : α) (ordered : lo ≤ hi) :
    lo ≤ clamp x lo hi ∧ clamp x lo hi ≤ hi := by
  rw [clamp]
  split
  · exact ⟨le_refl lo, ordered⟩
  · rename_i above
    split
    · exact ⟨ordered, le_refl hi⟩
    · rename_i below
      exact ⟨not_lt.mp above, not_lt.mp below⟩

theorem clamp_of_mem {α : Type} [LinearOrder α] (x lo hi : α) (above : lo ≤ x) (below : x ≤ hi) :
    clamp x lo hi = x := by
  rw [clamp, if_neg (not_lt.mpr above), if_neg (not_lt.mpr below)]

omit [FloorRing K] in
/-- A clamped value is no farther from a value of the interval than before. -/
theorem clamp_abs_sub_le (x lo hi anchor : K) (above : lo ≤ anchor) (below : anchor ≤ hi) :
    |clamp x lo hi - anchor| ≤ |x - anchor| := by
  rw [clamp]
  split
  · rename_i low
    rw [abs_sub_comm, abs_sub_comm x, abs_of_nonneg (by linarith), abs_of_nonneg (by linarith)]
    linarith
  · split
    · rename_i high
      rw [abs_of_nonneg (by linarith), abs_of_nonneg (by linarith)]
      linarith
    · exact le_refl _

theorem llround_abs_sub_le (x : K) : |(llround x : K) - x| ≤ 1 / 2 := by
  unfold llround
  split
  · have lower := Int.lt_floor_add_one (x + 1 / 2)
    have upper := Int.floor_le (x + 1 / 2)
    rw [abs_le]
    constructor <;> linarith
  · have lower := Int.le_ceil (x - 1 / 2)
    have upper := Int.ceil_lt_add_one (x - 1 / 2)
    rw [abs_le]
    constructor <;> linarith

theorem llround_mono {left right : K} (less : left ≤ right) : llround left ≤ llround right := by
  unfold llround
  by_cases leftSign : 0 ≤ left
  · rw [if_pos leftSign, if_pos (le_trans leftSign less)]
    exact Int.floor_le_floor (by linarith)
  · rw [if_neg leftSign]
    by_cases rightSign : 0 ≤ right
    · rw [if_pos rightSign]
      have negative : ⌈left - 1 / 2⌉ ≤ 0 := by
        apply Int.ceil_le.mpr
        push_cast
        linarith [not_le.mp leftSign]
      have positive : 0 ≤ ⌊right + 1 / 2⌋ := by
        apply Int.le_floor.mpr
        push_cast
        linarith
      exact le_trans negative positive
    · rw [if_neg rightSign]
      exact Int.ceil_le_ceil (by linarith)

theorem llround_eq_of_near (x : K) (value : Int) (close : |x - (value : K)| < 1 / 2) :
    llround x = value := by
  have near := abs_le.mp (llround_abs_sub_le x)
  obtain ⟨least, most⟩ := abs_lt.mp close
  have upper : ((llround x - value : Int) : K) < ((1 : Int) : K) := by
    push_cast
    linarith [near.2]
  have lower : ((-1 : Int) : K) < ((llround x - value : Int) : K) := by
    push_cast
    linarith [near.1]
  have below := Int.cast_lt.mp upper
  have above := Int.cast_lt.mp lower
  omega

@[simp] theorem llround_intCast (value : Int) : llround (value : K) = value := by
  apply llround_eq_of_near
  rw [sub_self, abs_zero]
  exact one_half_pos

theorem llround_nonneg (x : K) (nonneg : 0 ≤ x) : 0 ≤ llround x := by
  have zero : llround (0 : K) = 0 := by exact_mod_cast llround_intCast (K := K) 0
  rw [← zero]
  exact llround_mono nonneg

/-- Rounding one value relative to two integer bases moves the sum by at most one. -/
theorem rebased_llround_close (x : K) (left right : Int) :
    |left + llround (x - left) - (right + llround (x - right))| ≤ 1 := by
  have atLeft := abs_le.mp (llround_abs_sub_le (x - left))
  have atRight := abs_le.mp (llround_abs_sub_le (x - right))
  have upper : ((left + llround (x - left) - (right + llround (x - right)) : Int) : K) ≤ 1 := by
    push_cast
    linarith [atLeft.2, atRight.1]
  have lower : ((-1 : Int) : K) ≤
      ((left + llround (x - left) - (right + llround (x - right)) : Int) : K) := by
    push_cast
    linarith [atLeft.1, atRight.2]
  rw [abs_le]
  exact ⟨by exact_mod_cast lower, by exact_mod_cast upper⟩

theorem abs_sub_truncToInt_lt (x : K) : |x - truncToInt x| < 1 := by
  rw [truncToInt]
  split
  · rw [abs_of_nonneg (sub_nonneg.mpr (Int.floor_le x))]
    linarith [Int.lt_floor_add_one x]
  · rw [abs_of_nonpos (sub_nonpos.mpr (Int.le_ceil x))]
    linarith [Int.ceil_lt_add_one x]

theorem truncToInt_mem (x : K) (lo hi : Int) (above : (lo : K) ≤ x) (below : x ≤ hi) :
    lo ≤ truncToInt x ∧ truncToInt x ≤ hi := by
  rw [truncToInt]
  split
  · exact ⟨Int.le_floor.mpr above, Int.cast_le.mp ((Int.floor_le x).trans below)⟩
  · exact ⟨Int.cast_le.mp (above.trans (Int.le_ceil x)), Int.ceil_le.mpr below⟩

/-- Truncation of one fraction on top of two neighbouring integers stays within one. -/
theorem truncToInt_add_close (x : K) (left right : Int) (near : |left - right| ≤ 1) :
    |truncToInt (left + x) - truncToInt (right + x)| ≤ 1 := by
  have bounds := abs_le.mp near
  have floorLeft : ⌊(left : K) + x⌋ = left + ⌊x⌋ := Int.floor_intCast_add left x
  have floorRight : ⌊(right : K) + x⌋ = right + ⌊x⌋ := Int.floor_intCast_add right x
  have ceilLeft : ⌈(left : K) + x⌉ = left + ⌈x⌉ := Int.ceil_intCast_add left x
  have ceilRight : ⌈(right : K) + x⌉ = right + ⌈x⌉ := Int.ceil_intCast_add right x
  have gapUpper : ⌈x⌉ ≤ ⌊x⌋ + 1 := Int.ceil_le_floor_add_one x
  have gapLower : ⌊x⌋ ≤ ⌈x⌉ := Int.floor_le_ceil x
  unfold truncToInt
  rw [floorLeft, floorRight, ceilLeft, ceilRight, abs_le]
  by_cases leftSign : (0 : K) ≤ left + x
  · by_cases rightSign : (0 : K) ≤ right + x
    · rw [if_pos leftSign, if_pos rightSign]
      omega
    · -- The sum with `right` is negative, so `left` is the larger of the two.
      have larger : right < left := by
        have strict : (right : K) < left := by linarith
        exact_mod_cast strict
      rw [if_pos leftSign, if_neg rightSign]
      omega
  · by_cases rightSign : (0 : K) ≤ right + x
    · have larger : left < right := by
        have strict : (left : K) < right := by linarith
        exact_mod_cast strict
      rw [if_neg leftSign, if_pos rightSign]
      omega
    · rw [if_neg leftSign, if_neg rightSign]
      omega

omit [FloorRing K] in
/-- A division that truncates is off by one at most. -/
theorem tdiv_near (x : Int) (n : Nat) (positive : 0 < n) :
    (x : K) / n - 1 ≤ ((Int.tdiv x n : Int) : K) ∧ ((Int.tdiv x n : Int) : K) ≤ (x : K) / n + 1 := by
  have whole : (0 : Int) < n := Int.natCast_pos.mpr positive
  have divisor : (0 : K) < n := Nat.cast_pos.mpr positive
  have least := Int.lt_tmod_of_pos x whole
  have greatest := Int.tmod_lt_of_pos x whole
  have split := Int.mul_tdiv_add_tmod x n
  have low : x ≤ (Int.tdiv x n + 1) * n := by
    rw [add_mul, one_mul, Int.mul_comm]
    omega
  have high : (Int.tdiv x n - 1) * n ≤ x := by
    rw [sub_mul, one_mul, Int.mul_comm]
    omega
  have lowCast : (x : K) ≤ (((Int.tdiv x n : Int) : K) + 1) * n := by exact_mod_cast low
  have highCast : (((Int.tdiv x n : Int) : K) - 1) * n ≤ x := by exact_mod_cast high
  constructor
  · have bound := (div_le_iff₀ divisor).mpr lowCast
    linarith
  · have bound := (le_div_iff₀ divisor).mpr highCast
    linarith

end Rounding
