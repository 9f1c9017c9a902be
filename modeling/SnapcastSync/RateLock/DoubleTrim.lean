import SnapcastSync.Lib.FloatRounding
import SnapcastSync.RateLock.Lock

/-! The fraction of a trim and its bracket as the doubles of the source have them, where every
operation rounds. Whether the divisions of the encoder are defined is a matter of these. -/

namespace I2sRateLock.Double

open Rounding
open FloatRounding

variable {K : Type} [Field K] [LinearOrder K] [FloorRing K]

section Source

variable (fl : Mode K 53)

def floorNumerator (frac : K) (a : Nat) : Nat :=
  (min ⌊fl (frac * (a : K))⌋ ((a : Int) - 1)).toNat

def ceilNumerator (frac : K) (a : Nat) : Nat :=
  (min ⌈fl (frac * (a : K))⌉ ((a : Int) - 1)).toNat

def improveLo (frac : K) (a : Nat) (c : FracChoice K) : FracChoice K :=
  let bl := floorNumerator fl frac a
  let vl := fl ((bl : K) / (a : K))
  if vl ≤ frac ∧ c.loV < vl then { c with loV := vl, loB := bl, loA := a } else c

def improveHi (frac : K) (a : Nat) (c : FracChoice K) : FracChoice K :=
  let bh := ceilNumerator fl frac a
  let vh := fl ((bh : K) / (a : K))
  if frac ≤ vh ∧ vh < c.hiV then { c with hiV := vh, hiB := bh, hiA := a } else c

def considerDenominator (frac : K) (c : FracChoice K) (a : Nat) : FracChoice K :=
  improveHi fl frac a (improveLo fl frac a c)

def searchFrac (frac : K) (denominators : Nat) : FracChoice K :=
  (List.range' 2 denominators).foldl (considerDenominator fl frac) FracChoice.initial

def weigh (frac : K) (c : FracChoice K) : FracChoice K :=
  let gap := fl (c.hiV - c.loV)
  let exact := decide (gap < fl exactTolerance ∨ fl (frac - c.loV) < fl exactTolerance ∨
    fl (c.hiV - frac) < fl exactTolerance)
  { c with
    exact := exact
    useLo := decide (fl (frac - c.loV) ≤ fl (c.hiV - frac))
    duty := if exact then 0 else fl (fl (frac - c.loV) / gap) }

def pickFrac (frac : K) : FracChoice K :=
  weigh fl frac (searchFrac fl frac (fracMaxDenominator - 1))

def programmedRatio (divNum b a : Nat) : K := fl ((divNum : K) + fl ((b : K) / (a : K)))

/-- `1e-6` is the double next to it. -/
def trimTarget (baseRatio ppm : K) : K :=
  fl (baseRatio * fl (1 - fl (clamp ppm (-trimClampPpm) trimClampPpm * fl (1 / million))))

def trimFrac (baseRatio : K) (baseInt : Nat) (ppm : K) : K :=
  fl (trimTarget fl baseRatio ppm - (baseInt : K))

end Source

section Exact

theorem pickFrac_exact (frac : K) : pickFrac Mode.exact frac = I2sRateLock.pickFrac frac := rfl

omit [FloorRing K] in
theorem trimFrac_exact (baseRatio : K) (baseInt : Nat) (ppm : K) :
    trimFrac Mode.exact baseRatio baseInt ppm = I2sRateLock.trimFrac baseRatio baseInt ppm := by
  simp only [trimFrac, trimTarget, I2sRateLock.trimFrac, I2sRateLock.trimTarget,
    Mode.exact_apply, mul_one_div]

end Exact

variable [IsStrictOrderedRing K] (fl : Mode K 53)

omit [FloorRing K] in
theorem abs_mul_le_of_le {x y bound step : K} (small : |x| ≤ bound) (near : |y| ≤ step) :
    |x * y| ≤ bound * step := by
  rw [abs_mul]
  exact mul_le_mul small near (abs_nonneg y) ((abs_nonneg x).trans small)

theorem trimFactor_near (c : K) (clamped : |c| ≤ trimClampPpm) :
    |fl (1 - fl (c * fl (1 / million))) - (1 - c / million)| ≤ (2 : K) ^ (-50 : Int) := by
  have unit := (fl.near (1 / million) (-72) (by norm_num [million])).le
  generalize fl (1 / million) = u at *
  have clamped' : |c| ≤ 5000 := by exact_mod_cast clamped
  have product := abs_mul_le_of_le clamped' unit
  rw [mul_sub, mul_one_div, abs_le] at product
  have share : |c / million| ≤ 1 / 100 := by
    rw [abs_div, million, Nat.abs_cast, div_le_iff₀ (by norm_num)]
    norm_num
    linarith
  obtain ⟨shareLow, shareHigh⟩ := abs_le.mp share
  norm_num at product
  have scaled := (fl.near (c * u) (-59) (by
    rw [abs_le]
    norm_num
    constructor <;> linarith)).le
  generalize fl (c * u) = t at *
  rw [abs_le] at scaled
  norm_num at scaled
  have factor := (fl.near (1 - t) (-52) (by
    rw [abs_le]
    norm_num
    constructor <;> linarith)).le
  generalize fl (1 - t) = s at *
  rw [abs_le] at factor ⊢
  norm_num at factor ⊢
  constructor <;> linarith

/-- On the dividers the hardware has, the double fraction of a trim stays within a step of 2 ^ -40
of the exact one. -/
theorem trimFrac_near (baseRatio : K) (baseInt : Nat) (ppm : K) (positive : 0 ≤ baseRatio)
    (within : baseRatio ≤ 256) (wide : baseInt ≤ 256) :
    |trimFrac fl baseRatio baseInt ppm - I2sRateLock.trimFrac baseRatio baseInt ppm| ≤
      (2 : K) ^ (-40 : Int) := by
  have bound : (0 : K) ≤ trimClampPpm := Nat.cast_nonneg _
  have clamped : |clamp ppm (-trimClampPpm) trimClampPpm| ≤ trimClampPpm :=
    abs_le.mpr (clamp_mem ppm _ _ (by linarith))
  have whole : |(baseInt : K)| ≤ 256 := by
    rw [Nat.abs_cast]
    exact_mod_cast wide
  rw [trimFrac, trimTarget, I2sRateLock.trimFrac, I2sRateLock.trimTarget]
  generalize clamp ppm (-trimClampPpm) trimClampPpm = c at *
  have share : |c / million| ≤ 1 / 100 := by
    rw [abs_div, million, Nat.abs_cast, div_le_iff₀ (by norm_num)]
    refine clamped.trans ?_
    norm_num [trimClampPpm]
  have factor := trimFactor_near fl c clamped
  generalize fl (1 - fl (c * fl (1 / million))) = s at *
  have base : |baseRatio| ≤ 256 := (abs_of_nonneg positive).le.trans within
  have product := abs_mul_le_of_le base factor
  have exactProduct := abs_mul_le_of_le base
    (show |1 - c / million| ≤ 2 by
      obtain ⟨low, high⟩ := abs_le.mp share
      rw [abs_le]
      constructor <;> linarith)
  rw [mul_sub] at product
  generalize baseRatio * (1 - c / million) = target at *
  rw [abs_le] at product exactProduct whole
  norm_num at product exactProduct
  have rounded := (fl.near (baseRatio * s) (-43) (by
    rw [abs_le]
    norm_num
    constructor <;> linarith)).le
  generalize fl (baseRatio * s) = g at *
  rw [abs_le] at rounded
  norm_num at rounded
  have rest := (fl.near (g - baseInt) (-43) (by
    rw [abs_le]
    norm_num
    constructor <;> linarith)).le
  generalize fl (g - baseInt) = f at *
  rw [abs_le] at rest ⊢
  norm_num at rest ⊢
  constructor <;> linarith

section Ends

omit [IsStrictOrderedRing K] in
theorem floorNumerator_lt (frac : K) (a : Nat) (positive : 0 < a) :
    floorNumerator fl frac a < a := by
  have below := min_le_right ⌊fl (frac * (a : K))⌋ ((a : Int) - 1)
  rw [floorNumerator]
  omega

omit [IsStrictOrderedRing K] in
theorem ceilNumerator_lt (frac : K) (a : Nat) (positive : 0 < a) :
    ceilNumerator fl frac a < a := by
  have below := min_le_right ⌈fl (frac * (a : K))⌉ ((a : Int) - 1)
  rw [ceilNumerator]
  omega

/-- The double of the highest ratio of the register is below the whole. -/
theorem topDouble_lt_one : fl (topRatio : K) < 1 := by
  have kept := fl.fixes 1023 (-10) (by norm_num)
  have below : (topRatio : K) ≤ ((1023 : Int) : K) * (2 : K) ^ (-10 : Int) := by
    norm_num [topRatio]
  calc
    fl (topRatio : K) ≤ ((1023 : Int) : K) * (2 : K) ^ (-10 : Int) := kept ▸ fl.mono below
    _ < 1 := by norm_num

theorem ratio_le_topDouble (b a : Nat) (proper : b < a) (within : a ≤ fracMaxDenominator) :
    fl ((b : K) / (a : K)) ≤ fl topRatio :=
  fl.mono (registerRatios_le_top ⟨b, a, proper, within, rfl⟩)

structure LoEnd (seen : Nat) (c : FracChoice K) : Prop where
  value : c.loV = fl ((c.loB : K) / (c.loA : K))
  ratio : c.loB < c.loA ∧ c.loA < seen

/-- The upper end after the denominators from 2 on: one of them reaches the target, or none does
and the end is the whole. -/
structure HiEnd (frac : K) (seen : Nat) (c : FracChoice K) : Prop where
  value : c.hiV = fl ((c.hiB : K) / (c.hiA : K))
  found : c.hiB < c.hiA ∧ c.hiA < seen ∧ frac ≤ c.hiV ∨
    c.hiB = 1 ∧ c.hiA = 1 ∧
      ∀ a, 2 ≤ a → a < seen → ¬ frac ≤ fl ((ceilNumerator fl frac a : K) / (a : K))

omit [FloorRing K] [IsStrictOrderedRing K] in
theorem loEnd_initial : LoEnd fl 2 (FracChoice.initial : FracChoice K) := by
  constructor
  · simp [FracChoice.initial, fl.zero]
  · exact ⟨Nat.zero_lt_one, Nat.one_lt_two⟩

omit [IsStrictOrderedRing K] in
theorem hiEnd_initial (frac : K) : HiEnd fl frac 2 FracChoice.initial := by
  constructor
  · have kept := fl.natCast 1 (by decide)
    rw [Nat.cast_one] at kept
    simp [FracChoice.initial, kept]
  · refine Or.inr ⟨rfl, rfl, ?_⟩
    intro a two seen
    omega

omit [IsStrictOrderedRing K] in
theorem considerDenominator_loEnd (frac : K) (a : Nat) (two : 2 ≤ a) (c : FracChoice K)
    (ends : LoEnd fl a c) : LoEnd fl (a + 1) (considerDenominator fl frac c a) := by
  have kept : LoEnd fl (a + 1) (improveLo fl frac a c) := by
    rw [improveLo]
    split
    · exact ⟨rfl, floorNumerator_lt fl frac a (by omega), Nat.lt_succ_self a⟩
    · exact ⟨ends.value, ends.ratio.1, Nat.lt_succ_of_lt ends.ratio.2⟩
  rw [considerDenominator, improveHi]
  split
  · exact ⟨kept.value, kept.ratio⟩
  · exact kept

theorem considerDenominator_hiEnd (frac : K) (a : Nat) (two : 2 ≤ a)
    (within : a ≤ fracMaxDenominator) (c : FracChoice K) (ends : HiEnd fl frac a c) :
    HiEnd fl frac (a + 1) (considerDenominator fl frac c a) := by
  have carried : HiEnd fl frac a (improveLo fl frac a c) := by
    rw [improveLo]
    split
    · exact ⟨ends.value, ends.found⟩
    · exact ends
  have proper := ceilNumerator_lt fl frac a (by omega)
  rw [considerDenominator, improveHi]
  split
  · next better => exact ⟨rfl, Or.inl ⟨proper, Nat.lt_succ_self a, better.1⟩⟩
  · next worse =>
      refine ⟨carried.value, ?_⟩
      rcases carried.found with ⟨ratio, seen, above⟩ | ⟨numerator, denominator, none⟩
      · exact Or.inl ⟨ratio, Nat.lt_succ_of_lt seen, above⟩
      · refine Or.inr ⟨numerator, denominator, ?_⟩
        intro d dTwo seen
        rcases Nat.lt_succ_iff_lt_or_eq.mp seen with earlier | same
        · exact none d dTwo earlier
        · subst same
          intro reached
          -- the default end is the whole, which every ratio improves on
          have whole : (improveLo fl frac d c).hiV = 1 := by
            have kept := fl.natCast 1 (by decide)
            rw [Nat.cast_one] at kept
            rw [carried.value, numerator, denominator, Nat.cast_one, div_one, kept]
          refine worse ⟨reached, ?_⟩
          rw [whole]
          exact (ratio_le_topDouble fl _ d proper within).trans_lt (topDouble_lt_one fl)

theorem searchFrac_ends (frac : K) (denominators : Nat)
    (within : denominators + 1 ≤ fracMaxDenominator) :
    LoEnd fl (denominators + 2) (searchFrac fl frac denominators) ∧
      HiEnd fl frac (denominators + 2) (searchFrac fl frac denominators) := by
  induction denominators with
  | zero => exact ⟨loEnd_initial fl, hiEnd_initial fl frac⟩
  | succ n ih =>
      obtain ⟨lo, hi⟩ := ih (by omega)
      have next : searchFrac fl frac (n + 1) =
          considerDenominator fl frac (searchFrac fl frac n) (n + 2) := by
        rw [searchFrac, searchFrac, List.range'_1_concat, List.foldl_append, Nat.add_comm 2 n]
        rfl
      rw [next]
      exact ⟨considerDenominator_loEnd fl frac (n + 2) (by omega) _ lo,
        considerDenominator_hiEnd fl frac (n + 2) (by omega) (by omega) _ hi⟩

end Ends

section Reach

/-- Past the highest ratio of the denominator before it, the product with a denominator rounds to
more than two below it. -/
theorem ceilNumerator_full (frac : K) (a : Nat) (three : 3 ≤ a) (within : a ≤ fracMaxDenominator)
    (past : fl (((a - 2 : Nat) : K) / ((a - 1 : Nat) : K)) < frac) :
    ceilNumerator fl frac a = a - 1 := by
  have small : (a : K) ≤ 511 := by exact_mod_cast within
  have large : (3 : K) ≤ a := by exact_mod_cast three
  have two : ((a - 2 : Nat) : K) = a - 2 := by rw [Nat.cast_sub (by omega), Nat.cast_ofNat]
  have one : ((a - 1 : Nat) : K) = a - 1 := by rw [Nat.cast_sub (by omega), Nat.cast_one]
  rw [two, one] at past
  have denominator : (0 : K) < a - 1 := by linarith
  have split : ((a : K) - 2) / (a - 1) = 1 - 1 / (a - 1) := by
    rw [eq_sub_iff_add_eq, ← add_div, div_eq_one_iff_eq denominator.ne']
    ring
  have half : 1 / ((a : K) - 1) ≤ 1 / 2 := one_div_le_one_div_of_le two_pos (by linarith)
  have positive : 0 < 1 / ((a : K) - 1) := one_div_pos.mpr denominator
  have rounded := fl.near (((a : K) - 2) / (a - 1)) (-20) (by
    have wide : (1 : K) ≤ 2 ^ 53 * (2 : K) ^ (-20 : Int) := by norm_num
    rw [split, abs_of_nonneg (by linarith)]
    linarith)
  have short : ((a : K) - 2) / (a - 1) - 1 / 1048576 < frac := by
    have below := (abs_lt.mp rounded).1
    norm_num at below
    linarith
  have product : (a : K) - 7 / 4 ≤ frac * a := by
    have whole : ((a : K) - 2) / (a - 1) * a = a - 1 - 1 / (a - 1) := by
      field_simp
      ring
    have scaled := mul_lt_mul_of_pos_right short (show (0 : K) < a by linarith)
    rw [sub_mul, whole] at scaled
    linarith
  have bits : |4 * (a : Int) - 7| ≤ 2 ^ 53 := by
    have bound : a ≤ 511 := within
    rw [abs_of_nonneg (by omega)]
    omega
  have kept := fl.fixes (4 * a - 7) (-2) bits
  have grid : ((4 * (a : Int) - 7 : Int) : K) * (2 : K) ^ (-2 : Int) = a - 7 / 4 := by
    push_cast
    norm_num
    ring
  have reached : (a : K) - 7 / 4 ≤ fl (frac * a) := by
    rw [← grid, ← kept]
    exact fl.mono (grid ▸ product)
  have ceiling : (a : Int) - 1 ≤ ⌈fl (frac * (a : K))⌉ := by
    have next : (a : Int) - 2 < ⌈fl (frac * (a : K))⌉ := by
      rw [Int.lt_ceil]
      push_cast
      linarith
    omega
  rw [ceilNumerator, min_eq_right ceiling]
  omega

theorem ceilNumerator_two (frac : K) (positive : 0 < frac) : ceilNumerator fl frac 2 = 1 := by
  have ceiling : 1 ≤ ⌈fl (frac * ((2 : Nat) : K))⌉ :=
    Int.one_le_ceil_iff.mpr (fl.pos (mul_pos positive (Nat.cast_pos.mpr (by decide))))
  rw [ceilNumerator, min_eq_right (by omega)]
  rfl

/-- Some denominator reaches every target up to the double of the highest ratio. -/
theorem exists_reaching (frac : K) (nonneg : 0 ≤ frac) (below : frac ≤ fl topRatio) :
    ∃ a, 2 ≤ a ∧ a ≤ fracMaxDenominator ∧
      frac ≤ fl ((ceilNumerator fl frac a : K) / (a : K)) := by
  rcases nonneg.eq_or_lt with zero | positive
  · refine ⟨2, le_rfl, by decide, ?_⟩
    rw [← zero]
    exact fl.nonneg (div_nonneg (Nat.cast_nonneg _) (Nat.cast_nonneg _))
  · -- the least denominator under which all but one part is enough
    have enough : ∃ a, 2 ≤ a ∧ frac ≤ fl (((a - 1 : Nat) : K) / (a : K)) :=
      ⟨511, by decide, below⟩
    classical
    obtain ⟨two, reached⟩ := Nat.find_spec enough
    have within : Nat.find enough ≤ fracMaxDenominator := Nat.find_min' enough ⟨by decide, below⟩
    have least := fun d => Nat.find_min enough (m := d)
    generalize Nat.find enough = a at *
    refine ⟨a, two, within, ?_⟩
    rcases two.eq_or_lt with same | three
    · subst same
      rwa [ceilNumerator_two fl frac positive]
    · rw [ceilNumerator_full fl frac a three within]
      · exact reached
      · refine not_le.mp (fun earlier => least (a - 1) (by omega) ⟨by omega, ?_⟩)
        rwa [show a - 1 - 1 = a - 2 by omega]

end Reach

omit [IsStrictOrderedRing K] [FloorRing K] in
theorem weigh_loEnd (frac : K) (seen : Nat) (c : FracChoice K) (ends : LoEnd fl seen c) :
    LoEnd fl seen (weigh fl frac c) := ⟨ends.value, ends.ratio⟩

omit [IsStrictOrderedRing K] in
theorem weigh_hiEnd (frac : K) (seen : Nat) (c : FracChoice K) (ends : HiEnd fl frac seen c) :
    HiEnd fl frac seen (weigh fl frac c) := ⟨ends.value, ends.found⟩

theorem pickFrac_ends (frac : K) :
    LoEnd fl (fracMaxDenominator + 1) (pickFrac fl frac) ∧
      HiEnd fl frac (fracMaxDenominator + 1) (pickFrac fl frac) := by
  obtain ⟨lo, hi⟩ := searchFrac_ends fl frac (fracMaxDenominator - 1) (by decide)
  exact ⟨weigh_loEnd fl frac _ _ lo, weigh_hiEnd fl frac _ _ hi⟩

theorem pickFrac_hi_iff (frac : K) (nonneg : 0 ≤ frac) :
    (pickFrac fl frac).hiB < (pickFrac fl frac).hiA ↔ frac ≤ fl topRatio := by
  obtain ⟨_, hi⟩ := pickFrac_ends fl frac
  constructor
  · intro proper
    rcases hi.found with ⟨_, seen, above⟩ | ⟨numerator, denominator, _⟩
    · rw [hi.value] at above
      exact above.trans (ratio_le_topDouble fl _ _ proper (Nat.le_of_lt_succ seen))
    · omega
  · intro below
    rcases hi.found with ⟨proper, _, _⟩ | ⟨_, _, none⟩
    · exact proper
    · obtain ⟨a, two, within, reached⟩ := exists_reaching fl frac nonneg below
      exact absurd reached (none a two (Nat.lt_succ_of_le within))

theorem pickFrac_hi_default (frac : K) (nonneg : 0 ≤ frac) (beyond : fl topRatio < frac) :
    (pickFrac fl frac).hiB = 1 ∧ (pickFrac fl frac).hiA = 1 := by
  have missing : ¬ (pickFrac fl frac).hiB < (pickFrac fl frac).hiA := by
    rw [pickFrac_hi_iff fl frac nonneg]
    exact not_le.mpr beyond
  rcases (pickFrac_ends fl frac).2.found with ⟨proper, _, _⟩ | ⟨numerator, denominator, _⟩
  · exact absurd proper missing
  · exact ⟨numerator, denominator⟩

/-- The register takes this ratio and gives it back, and its double is the end of the bracket. -/
def Restored (b a : Nat) (v : K) : Prop :=
  Encodes b a ((b : K) / (a : K)) ∧ v = fl ((b : K) / (a : K))

omit [IsStrictOrderedRing K] [FloorRing K] in
theorem restored_of_proper (b a : Nat) (v : K) (value : v = fl ((b : K) / (a : K)))
    (proper : b < a) (within : a ≤ fracMaxDenominator) : Restored fl b a v :=
  ⟨encodes_of_proper b a _ rfl proper within, value⟩

/-- Both ends of the bracket of a trim go through the encoder, for whatever rounding, baseline and
ppm, exactly when its fraction is no more than the double of the highest ratio. -/
theorem trim_encodes_iff (baseRatio : K) (baseInt : Nat) (ppm : K)
    (nonneg : 0 ≤ trimFrac fl baseRatio baseInt ppm) :
    ((pickFrac fl (trimFrac fl baseRatio baseInt ppm)).loB <
          (pickFrac fl (trimFrac fl baseRatio baseInt ppm)).loA ∧
        (pickFrac fl (trimFrac fl baseRatio baseInt ppm)).hiB <
          (pickFrac fl (trimFrac fl baseRatio baseInt ppm)).hiA ∧
        Restored fl (pickFrac fl (trimFrac fl baseRatio baseInt ppm)).loB
          (pickFrac fl (trimFrac fl baseRatio baseInt ppm)).loA
          (pickFrac fl (trimFrac fl baseRatio baseInt ppm)).loV ∧
        Restored fl (pickFrac fl (trimFrac fl baseRatio baseInt ppm)).hiB
          (pickFrac fl (trimFrac fl baseRatio baseInt ppm)).hiA
          (pickFrac fl (trimFrac fl baseRatio baseInt ppm)).hiV) ↔
      trimFrac fl baseRatio baseInt ppm ≤ fl topRatio := by
  obtain ⟨lo, hi⟩ := pickFrac_ends fl (trimFrac fl baseRatio baseInt ppm)
  rw [← pickFrac_hi_iff fl _ nonneg]
  constructor
  · rintro ⟨_, hiProper, _⟩
    exact hiProper
  · intro hiProper
    have within : (pickFrac fl (trimFrac fl baseRatio baseInt ppm)).hiA ≤ fracMaxDenominator := by
      rcases hi.found with ⟨_, seen, _⟩ | ⟨numerator, denominator, _⟩
      · exact Nat.le_of_lt_succ seen
      · omega
    exact ⟨lo.ratio.1, hiProper,
      restored_of_proper fl _ _ _ lo.value lo.ratio.1 (Nat.le_of_lt_succ lo.ratio.2),
      restored_of_proper fl _ _ _ hi.value hiProper within⟩

def nearestDouble : Mode K 53 := Mode.nearestEven 53 (by decide)

/-- The driver's 14 + 510/511 without any trim: the sum with 14 rounds up, so the fraction comes
out of it above the double of 510/511 and the upper end is 1/1. -/
theorem trim_divides_by_zero :
    ∃ frac : Rat,
      frac = trimFrac nearestDouble (programmedRatio nearestDouble 14 510 511) 14 0 ∧
      0 ≤ frac ∧ frac < 1 ∧
      ¬ (pickFrac nearestDouble frac).hiB < (pickFrac nearestDouble frac).hiA ∧
      encodeFrac (pickFrac nearestDouble frac).hiB (pickFrac nearestDouble frac).hiA =
        none := by
  have nonneg : 0 ≤
      trimFrac nearestDouble (programmedRatio nearestDouble 14 510 511 : Rat) 14 0 := by
    decide +kernel
  have proper :
      trimFrac nearestDouble (programmedRatio nearestDouble 14 510 511 : Rat) 14 0 < 1 := by
    decide +kernel
  have beyond : nearestDouble topRatio <
      trimFrac nearestDouble (programmedRatio nearestDouble 14 510 511 : Rat) 14 0 := by
    decide +kernel
  obtain ⟨numerator, denominator⟩ := pickFrac_hi_default nearestDouble _ nonneg beyond
  refine ⟨_, rfl, nonneg, proper, ?_⟩
  rw [numerator, denominator]
  exact ⟨Nat.lt_irrefl 1, encodeFrac_one⟩

/-- The divider of 44100 Hz, sped up by 3 ppm. -/
theorem trim_encodes_iff_common :
    0 ≤ trimFrac nearestDouble (programmedRatio nearestDouble 14 76 441 : Rat) 14 3 ∧
      (pickFrac nearestDouble
          (trimFrac nearestDouble (programmedRatio nearestDouble 14 76 441 : Rat) 14 3)).hiB <
        (pickFrac nearestDouble
          (trimFrac nearestDouble (programmedRatio nearestDouble 14 76 441 : Rat) 14 3)).hiA := by
  have nonneg : 0 ≤
      trimFrac nearestDouble (programmedRatio nearestDouble 14 76 441 : Rat) 14 3 := by
    decide +kernel
  have below : trimFrac nearestDouble (programmedRatio nearestDouble 14 76 441 : Rat) 14 3 ≤
      nearestDouble topRatio := by
    decide +kernel
  exact ⟨nonneg, ((trim_encodes_iff nearestDouble
    (programmedRatio nearestDouble 14 76 441 : Rat) 14 3 nonneg).mpr below).2.1⟩

end I2sRateLock.Double
