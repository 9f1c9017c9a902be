import Mathlib.Algebra.Order.Floor.Ring
import Mathlib.Algebra.Order.Field.Basic
import Mathlib.Data.Int.Log
import Mathlib.Tactic.Linarith
import Mathlib.Tactic.NormNum
import Mathlib.Tactic.Ring
import SnapcastSync.Lib.Rounding

/-! Arithmetic that rounds every result to so many significant bits, over exact numbers. A mode of
rounding is in order and keeps what has no more bits; the identity is one, and so is the nearest
with ties to even. Exponents have no bounds, so nothing overflows or is denormal. -/

namespace FloatRounding

structure Mode (K : Type) [Field K] [LinearOrder K] (bits : Nat) where
  round : K → K
  mono : Monotone round
  fixes : ∀ m e : Int, |m| ≤ 2 ^ bits → round ((m : K) * (2 : K) ^ e) = (m : K) * (2 : K) ^ e

section Laws

variable {K : Type} [Field K] [LinearOrder K] {bits : Nat}

instance : CoeFun (Mode K bits) (fun _ => K → K) := ⟨Mode.round⟩

omit [LinearOrder K] in
theorem id_fixes (m e : Int) (_small : |m| ≤ 2 ^ bits) :
    id ((m : K) * (2 : K) ^ e) = (m : K) * (2 : K) ^ e := rfl

def Mode.exact : Mode K bits :=
  { round := id
    mono := monotone_id
    fixes := id_fixes }

@[simp] theorem Mode.exact_apply (x : K) : (Mode.exact : Mode K bits) x = x := rfl

theorem Mode.intCast (mode : Mode K bits) (m : Int) (small : |m| ≤ 2 ^ bits) :
    mode (m : K) = m := by
  have kept := mode.fixes m 0 small
  rwa [zpow_zero, mul_one] at kept

theorem Mode.natCast (mode : Mode K bits) (n : Nat) (small : n ≤ 2 ^ bits) :
    mode (n : K) = n := by
  have kept := mode.intCast n (by rw [Nat.abs_cast]; exact_mod_cast small)
  rwa [Int.cast_natCast] at kept

theorem Mode.zero (mode : Mode K bits) : mode 0 = 0 := by
  have kept := mode.natCast 0 (Nat.zero_le _)
  rwa [Nat.cast_zero] at kept

theorem Mode.nonneg (mode : Mode K bits) {x : K} (nonneg : 0 ≤ x) : 0 ≤ mode x := by
  have ordered := mode.mono nonneg
  rwa [mode.zero] at ordered

variable [IsStrictOrderedRing K] [FloorRing K]

theorem Mode.pos (mode : Mode K bits) {x : K} (positive : 0 < x) : 0 < mode x := by
  have power : (2 : K) ^ Int.log 2 x ≤ x := by
    exact_mod_cast Int.zpow_log_le_self (b := 2) (by decide) positive
  have kept := mode.fixes 1 (Int.log 2 x) (by
    rw [abs_one]
    exact one_le_pow₀ (by decide))
  rw [Int.cast_one, one_mul] at kept
  calc
    (0 : K) < (2 : K) ^ Int.log 2 x := zpow_pos two_pos _
    _ = mode ((2 : K) ^ Int.log 2 x) := kept.symm
    _ ≤ mode x := mode.mono power

/-- What rounding does to a number is less than a step of any grid on which it has the bits. -/
theorem Mode.near (mode : Mode K bits) (x : K) (e : Int) (within : |x| ≤ 2 ^ bits * (2 : K) ^ e) :
    |mode x - x| < (2 : K) ^ e := by
  have step : (0 : K) < (2 : K) ^ e := zpow_pos two_pos e
  have scaled : |x / (2 : K) ^ e| ≤ 2 ^ bits := by
    rw [abs_div, abs_of_pos step, div_le_iff₀ step]
    exact within
  obtain ⟨lowest, highest⟩ := abs_le.mp scaled
  have floorLow : -2 ^ bits ≤ ⌊x / (2 : K) ^ e⌋ := by
    rw [Int.le_floor]
    exact_mod_cast lowest
  have floorHigh : ⌊x / (2 : K) ^ e⌋ ≤ 2 ^ bits := by
    have below := (Int.floor_le (x / (2 : K) ^ e)).trans highest
    exact_mod_cast below
  have ceilLow : -2 ^ bits ≤ ⌈x / (2 : K) ^ e⌉ := by
    have above := lowest.trans (Int.le_ceil (x / (2 : K) ^ e))
    exact_mod_cast above
  have ceilHigh : ⌈x / (2 : K) ^ e⌉ ≤ 2 ^ bits := by
    rw [Int.ceil_le]
    exact_mod_cast highest
  have below : (⌊x / (2 : K) ^ e⌋ : K) * (2 : K) ^ e ≤ mode x := by
    rw [← mode.fixes _ e (abs_le.mpr ⟨floorLow, floorHigh⟩)]
    exact mode.mono ((le_div_iff₀ step).mp (Int.floor_le _))
  have above : mode x ≤ (⌈x / (2 : K) ^ e⌉ : K) * (2 : K) ^ e := by
    rw [← mode.fixes _ e (abs_le.mpr ⟨ceilLow, ceilHigh⟩)]
    exact mode.mono ((div_le_iff₀ step).mp (Int.le_ceil _))
  have floorNear : x < ((⌊x / (2 : K) ^ e⌋ : K) + 1) * (2 : K) ^ e :=
    (div_lt_iff₀ step).mp (Int.lt_floor_add_one _)
  have ceilNear : ((⌈x / (2 : K) ^ e⌉ : K) - 1) * (2 : K) ^ e < x := by
    rw [← lt_div_iff₀ step, sub_lt_iff_lt_add]
    exact Int.ceil_lt_add_one _
  rw [abs_lt]
  constructor <;> linarith

/-- A number whose units the bits hold loses less than a unit and a half until it is whole. -/
theorem Mode.llround_near (mode : Mode K bits) (x : K) (within : |x| ≤ 2 ^ bits) :
    |(Rounding.llround (mode x) : K) - x| < 3 / 2 := by
  have narrowed := mode.near x 0 (by rwa [zpow_zero, mul_one])
  have rounded := Rounding.llround_abs_sub_le (mode x)
  rw [zpow_zero] at narrowed
  rw [abs_lt] at narrowed ⊢
  rw [abs_le] at rounded
  constructor <;> linarith

end Laws

section NearestEven

variable {K : Type} [Field K] [LinearOrder K] [FloorRing K]

def evenInt (q : K) : Int :=
  if q - (⌊q⌋ : K) < (⌊q⌋ : K) + 1 - q then ⌊q⌋
  else if (⌊q⌋ : K) + 1 - q < q - (⌊q⌋ : K) then ⌊q⌋ + 1
  else if ⌊q⌋ % 2 = 0 then ⌊q⌋ else ⌊q⌋ + 1

def lastPlace (bits : Nat) (x : K) : Int := Int.log 2 x + 1 - bits

def roundMagnitude (bits : Nat) (x : K) : K :=
  (evenInt (x / ((2 : Nat) : K) ^ lastPlace bits x) : K) * ((2 : Nat) : K) ^ lastPlace bits x

def roundEven (bits : Nat) (x : K) : K :=
  if 0 ≤ x then roundMagnitude bits x else -roundMagnitude bits (-x)

variable [IsStrictOrderedRing K]

omit [IsStrictOrderedRing K] in
theorem floor_le_evenInt (q : K) : ⌊q⌋ ≤ evenInt q ∧ evenInt q ≤ ⌊q⌋ + 1 := by
  rw [evenInt]
  split_ifs <;> omega

theorem evenInt_intCast (m : Int) : evenInt (m : K) = m := by
  rw [evenInt, Int.floor_intCast, if_pos (by linarith)]

theorem evenInt_mono {p q : K} (ordered : p ≤ q) : evenInt p ≤ evenInt q := by
  have floors := Int.floor_le_floor ordered
  rcases lt_or_eq_of_le floors with apart | same
  · have lower := (floor_le_evenInt p).2
    have upper := (floor_le_evenInt q).1
    omega
  · simp only [evenInt, same]
    have fractions : p - (⌊q⌋ : K) ≤ q - (⌊q⌋ : K) := sub_le_sub_right ordered _
    split_ifs <;> first | omega | (exfalso; linarith)

variable {bits : Nat}

omit [IsStrictOrderedRing K] in
theorem roundMagnitude_eq (x : K) :
    roundMagnitude bits x =
      (evenInt (x / (2 : K) ^ lastPlace bits x) : K) * (2 : K) ^ lastPlace bits x := by
  rw [roundMagnitude, Nat.cast_ofNat]

theorem roundMagnitude_zero : roundMagnitude bits (0 : K) = 0 := by
  have none : evenInt (0 : K) = 0 := by exact_mod_cast evenInt_intCast (K := K) 0
  rw [roundMagnitude_eq, zero_div, none, Int.cast_zero, zero_mul]

theorem roundMagnitude_nonneg (x : K) (nonneg : 0 ≤ x) : 0 ≤ roundMagnitude bits x := by
  have step : (0 : K) < (2 : K) ^ lastPlace bits x := zpow_pos two_pos _
  have floor : 0 ≤ ⌊x / (2 : K) ^ lastPlace bits x⌋ :=
    Int.floor_nonneg.mpr (div_nonneg nonneg step.le)
  have whole : 0 ≤ evenInt (x / (2 : K) ^ lastPlace bits x) := floor.trans (floor_le_evenInt _).1
  rw [roundMagnitude_eq]
  exact mul_nonneg (Int.cast_nonneg whole) step.le

/-- Rounding never leaves the powers of two around a number. -/
theorem roundMagnitude_between (some : 0 < bits) (x : K) (positive : 0 < x) :
    (2 : K) ^ Int.log 2 x ≤ roundMagnitude bits x ∧
      roundMagnitude bits x ≤ (2 : K) ^ (Int.log 2 x + 1) := by
  have step : (0 : K) < (2 : K) ^ lastPlace bits x := zpow_pos two_pos _
  have lowest : (2 : K) ^ Int.log 2 x =
      ((2 ^ (bits - 1) : Int) : K) * (2 : K) ^ lastPlace bits x := by
    rw [Int.cast_pow, Int.cast_ofNat, ← zpow_natCast, ← zpow_add₀ two_ne_zero, lastPlace]
    congr 1
    omega
  have highest : (2 : K) ^ (Int.log 2 x + 1) =
      ((2 ^ bits : Int) : K) * (2 : K) ^ lastPlace bits x := by
    rw [Int.cast_pow, Int.cast_ofNat, ← zpow_natCast, ← zpow_add₀ two_ne_zero, lastPlace]
    congr 1
    omega
  have power : (2 : K) ^ Int.log 2 x ≤ x := by
    exact_mod_cast Int.zpow_log_le_self (b := 2) (by decide) positive
  have next : x ≤ (2 : K) ^ (Int.log 2 x + 1) := by
    exact_mod_cast (Int.lt_zpow_succ_log_self (b := 2) (by decide) x).le
  rw [roundMagnitude_eq]
  rw [lowest] at power ⊢
  rw [highest] at next ⊢
  constructor
  · have ordered := evenInt_mono ((le_div_iff₀ step).mpr power)
    rw [evenInt_intCast] at ordered
    exact mul_le_mul_of_nonneg_right (Int.cast_le.mpr ordered) step.le
  · have ordered := evenInt_mono ((div_le_iff₀ step).mpr next)
    rw [evenInt_intCast] at ordered
    exact mul_le_mul_of_nonneg_right (Int.cast_le.mpr ordered) step.le

theorem roundMagnitude_mono (some : 0 < bits) (x y : K) (nonneg : 0 ≤ x) (ordered : x ≤ y) :
    roundMagnitude bits x ≤ roundMagnitude bits y := by
  rcases nonneg.eq_or_lt with zero | positive
  · rw [← zero, roundMagnitude_zero]
    exact roundMagnitude_nonneg y (nonneg.trans ordered)
  · rcases (Int.log_mono_right (b := 2) positive ordered).eq_or_lt with same | apart
    · have step : (0 : K) < (2 : K) ^ lastPlace bits y := zpow_pos two_pos _
      have place : lastPlace bits x = lastPlace bits y := by rw [lastPlace, lastPlace, same]
      rw [roundMagnitude_eq, roundMagnitude_eq, place]
      exact mul_le_mul_of_nonneg_right
        (Int.cast_le.mpr (evenInt_mono ((div_le_div_iff_of_pos_right step).mpr ordered))) step.le
    · calc
        roundMagnitude bits x ≤ (2 : K) ^ (Int.log 2 x + 1) :=
            (roundMagnitude_between some x positive).2
        _ ≤ (2 : K) ^ Int.log 2 y := zpow_le_zpow_right₀ one_le_two (by omega)
        _ ≤ roundMagnitude bits y :=
            (roundMagnitude_between some y (positive.trans_le ordered)).1

theorem roundMagnitude_of_whole (x : K) (whole : Int)
    (places : x = (whole : K) * (2 : K) ^ lastPlace bits x) : roundMagnitude bits x = x := by
  have step : (2 : K) ^ lastPlace bits x ≠ 0 := (zpow_pos two_pos _).ne'
  have quotient : x / (2 : K) ^ lastPlace bits x = (whole : K) := (div_eq_iff step).mpr places
  rw [roundMagnitude_eq, quotient, evenInt_intCast]
  exact places.symm

theorem roundMagnitude_fixes (some : 0 < bits) (m e : Int) (positive : 0 < m) (small : m ≤ 2 ^ bits) :
    roundMagnitude bits ((m : K) * (2 : K) ^ e) = (m : K) * (2 : K) ^ e := by
  have number : (0 : K) < (m : K) * (2 : K) ^ e :=
    mul_pos (Int.cast_pos.mpr positive) (zpow_pos two_pos e)
  rcases small.lt_or_eq with less | power
  · have below : (m : K) * (2 : K) ^ e < (2 : K) ^ (bits + e) := by
      rw [zpow_add₀ two_ne_zero]
      exact mul_lt_mul_of_pos_right (by exact_mod_cast less) (zpow_pos two_pos e)
    have log : Int.log 2 ((m : K) * (2 : K) ^ e) < bits + e :=
      (Int.lt_zpow_iff_log_lt (b := 2) (by decide) number).mp (by exact_mod_cast below)
    -- the last place is no coarser than the grid the number is on
    obtain ⟨finer, grid⟩ : ∃ finer : Nat,
        e = (finer : Int) + lastPlace bits ((m : K) * (2 : K) ^ e) :=
      ⟨(e - lastPlace bits ((m : K) * (2 : K) ^ e)).toNat, by rw [lastPlace]; omega⟩
    apply roundMagnitude_of_whole _ (m * 2 ^ finer)
    rw [Int.cast_mul, Int.cast_pow, Int.cast_ofNat, mul_assoc, ← zpow_natCast,
      ← zpow_add₀ two_ne_zero, ← grid]
  · have whole : (m : K) * (2 : K) ^ e = (2 : K) ^ (bits + e) := by
      rw [power, zpow_add₀ two_ne_zero]
      norm_num
    have log : Int.log 2 ((2 : K) ^ (bits + e)) = bits + e := by
      exact_mod_cast Int.log_zpow (R := K) (b := 2) (by decide) (bits + e)
    rw [whole]
    apply roundMagnitude_of_whole _ (2 ^ (bits - 1))
    rw [lastPlace, log, Int.cast_pow, Int.cast_ofNat, ← zpow_natCast, ← zpow_add₀ two_ne_zero]
    congr 1
    omega

theorem roundEven_neg (x : K) : roundEven bits (-x) = -roundEven bits x := by
  rcases lt_trichotomy x 0 with negative | zero | positive
  · rw [roundEven, roundEven, if_pos (by linarith), if_neg (not_le.mpr negative), neg_neg]
  · rw [zero, neg_zero, roundEven, if_pos le_rfl, roundMagnitude_zero, neg_zero]
  · rw [roundEven, roundEven, if_neg (by linarith), if_pos positive.le, neg_neg]

theorem roundEven_mono (some : 0 < bits) : Monotone (roundEven bits : K → K) := by
  intro x y ordered
  rw [roundEven, roundEven]
  split_ifs with xNonneg yNonneg yNonneg
  · exact roundMagnitude_mono some x y xNonneg ordered
  · exact absurd (xNonneg.trans ordered) yNonneg
  · have lower : 0 ≤ roundMagnitude bits (-x) := roundMagnitude_nonneg (-x) (by linarith)
    have upper : 0 ≤ roundMagnitude bits y := roundMagnitude_nonneg y yNonneg
    linarith
  · exact neg_le_neg (roundMagnitude_mono some (-y) (-x) (by linarith) (neg_le_neg ordered))

theorem roundEven_fixes (some : 0 < bits) (m e : Int) (small : |m| ≤ 2 ^ bits) :
    roundEven bits ((m : K) * (2 : K) ^ e) = (m : K) * (2 : K) ^ e := by
  obtain ⟨lowest, highest⟩ := abs_le.mp small
  rcases lt_trichotomy m 0 with negative | zero | positive
  · have kept : roundEven bits (((-m : Int) : K) * (2 : K) ^ e) =
        ((-m : Int) : K) * (2 : K) ^ e := by
      rw [roundEven, if_pos (mul_nonneg (Int.cast_nonneg (by omega)) (zpow_pos two_pos e).le)]
      exact roundMagnitude_fixes some (-m) e (by omega) (by omega)
    rw [Int.cast_neg, neg_mul, roundEven_neg] at kept
    exact neg_injective kept
  · rw [zero, Int.cast_zero, zero_mul, roundEven, if_pos le_rfl, roundMagnitude_zero]
  · rw [roundEven, if_pos (mul_nonneg (Int.cast_nonneg positive.le) (zpow_pos two_pos e).le)]
    exact roundMagnitude_fixes some m e positive highest

def Mode.nearestEven (bits : Nat) (some : 0 < bits) : Mode K bits :=
  { round := roundEven bits
    mono := roundEven_mono some
    fixes := roundEven_fixes some }

end NearestEven

end FloatRounding
