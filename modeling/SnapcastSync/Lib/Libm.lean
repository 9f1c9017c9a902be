import Mathlib.Algebra.Order.Field.Basic
import Mathlib.Algebra.Order.Ring.Nat
import Mathlib.Data.Nat.Factorial.Basic
import Mathlib.Data.Rat.Floor
import Mathlib.Tactic.Positivity

/-! The two functions of the mathematical library that a program over exact reals may call,
with what is relied on about them, and a rational instance of single precision. -/

structure Libm (K : Type) [Field K] [LinearOrder K] where
  exp : K → K
  sqrt : K → K
  exp_pos : ∀ x, 0 < exp x
  exp_le_one : ∀ x, x ≤ 0 → exp x ≤ 1
  sqrt_nonneg : ∀ x, 0 ≤ sqrt x

namespace Libm

def expSeries (x : Rat) : Rat :=
  (List.range 16).foldl (fun sum k => sum + x ^ k / (k.factorial : Rat)) 0

theorem foldl_add_ge (terms : List Nat) (term : Nat → Rat) (start : Rat)
    (nonneg : ∀ k, 0 ≤ term k) : start ≤ terms.foldl (fun sum k => sum + term k) start := by
  induction terms generalizing start with
  | nil => exact le_refl start
  | cons k rest ih =>
      rw [List.foldl_cons]
      exact le_trans (le_add_of_nonneg_right (nonneg k)) (ih (start + term k))

theorem one_le_expSeries (x : Rat) (nonneg : 0 ≤ x) : 1 ≤ expSeries x := by
  have terms : ∀ k : Nat, 0 ≤ x ^ k / (k.factorial : Rat) := by
    intro k
    positivity
  have split : List.range 16 = 0 :: (List.range 15).map Nat.succ := List.range_succ_eq_map
  unfold expSeries
  rw [split, List.foldl_cons]
  have first : (0 : Rat) + x ^ 0 / (Nat.factorial 0 : Rat) = 1 := by simp
  rw [first]
  exact foldl_add_ge _ _ 1 terms

def sqrtDigits (x : Rat) : Rat := (Nat.sqrt ⌊x * 1000000000000⌋.toNat : Rat) / 1000000

/-- Single precision over the rationals. -/
def rational : Libm Rat :=
  { exp := fun x => if x ≤ 0 then 1 / expSeries (-x) else expSeries x
    sqrt := sqrtDigits
    exp_pos := by
      intro x
      by_cases sign : x ≤ 0
      · rw [if_pos sign]
        have large := one_le_expSeries (-x) (neg_nonneg.mpr sign)
        exact one_div_pos.mpr (lt_of_lt_of_le one_pos large)
      · rw [if_neg sign]
        exact lt_of_lt_of_le one_pos (one_le_expSeries x (le_of_lt (not_le.mp sign)))
    exp_le_one := by
      intro x sign
      rw [if_pos sign]
      have large := one_le_expSeries (-x) (neg_nonneg.mpr sign)
      exact (div_le_one (lt_of_lt_of_le one_pos large)).mpr large
    sqrt_nonneg := by
      intro x
      unfold sqrtDigits
      positivity }

end Libm
