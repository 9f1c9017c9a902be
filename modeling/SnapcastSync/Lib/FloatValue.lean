import SnapcastSync.Lib.Rounding

/-! Values of a floating-point variable: a number, an infinity or no number. A comparison with no
number is false, and the conversion to a 32-bit integer is defined only for the numbers whose
integer part fits. -/

inductive FloatValue (K : Type) where
  | finite (number : K)
  | infinite (negative : Bool)
  | nan
deriving DecidableEq

namespace FloatValue

open Rounding

variable {K : Type} [Field K] [LinearOrder K]

def number? : FloatValue K → Option K
  | .finite number => some number
  | _ => none

def isFinite (value : FloatValue K) : Bool := value.number?.isSome

def lt : FloatValue K → K → Bool
  | .finite number, bound => decide (number < bound)
  | .infinite negative, _ => negative
  | .nan, _ => false

def gt : FloatValue K → K → Bool
  | .finite number, bound => decide (bound < number)
  | .infinite negative, _ => !negative
  | .nan, _ => false

def le : FloatValue K → K → Bool
  | .finite number, bound => decide (number ≤ bound)
  | .infinite negative, _ => negative
  | .nan, _ => false

def ge : FloatValue K → K → Bool
  | .finite number, bound => decide (bound ≤ number)
  | .infinite negative, _ => !negative
  | .nan, _ => false

def ne : FloatValue K → K → Bool
  | .finite number, bound => decide (number ≠ bound)
  | _, _ => true

def abs : FloatValue K → FloatValue K
  | .finite number => .finite |number|
  | .infinite _ => .infinite false
  | .nan => .nan

def Within (value : FloatValue K) (lo hi : K) : Prop :=
  ∃ number, value = .finite number ∧ lo ≤ number ∧ number ≤ hi

/-- The two ways to write the check that a value is refused by. -/
def outside (value : FloatValue K) (lo hi : K) : Bool :=
  !value.isFinite || value.lt lo || value.gt hi

def notBetween (value : FloatValue K) (lo hi : K) : Bool := !(value.ge lo && value.le hi)

omit [Field K] in
theorem within_finite (number lo hi : K) :
    (finite number).Within lo hi ↔ lo ≤ number ∧ number ≤ hi := by
  constructor
  · rintro ⟨_, same, both⟩
    cases same
    exact both
  · exact fun both => ⟨number, rfl, both⟩

omit [Field K] in
theorem not_within_of_infinite (value : FloatValue K) (lo hi : K)
    (unnumbered : value.number? = none) : ¬ value.Within lo hi := by
  rintro ⟨_, same, _⟩
  rw [same] at unnumbered
  cases unnumbered

omit [Field K] in
theorem outside_iff (value : FloatValue K) (lo hi : K) :
    value.outside lo hi = false ↔ value.Within lo hi := by
  cases value with
  | finite number =>
      rw [outside, isFinite, number?, lt, gt, Option.isSome_some, Bool.not_true, Bool.false_or,
        Bool.or_eq_false_iff, decide_eq_false_iff_not, decide_eq_false_iff_not, not_lt, not_lt,
        within_finite]
  | infinite negative =>
      exact iff_of_false (fun inside => by cases inside) (not_within_of_infinite _ _ _ rfl)
  | nan => exact iff_of_false (fun inside => by cases inside) (not_within_of_infinite _ _ _ rfl)

omit [Field K] in
theorem notBetween_iff (value : FloatValue K) (lo hi : K) :
    value.notBetween lo hi = false ↔ value.Within lo hi := by
  cases value with
  | finite number =>
      rw [notBetween, ge, le, Bool.not_eq_false', Bool.and_eq_true, decide_eq_true_eq,
        decide_eq_true_eq, within_finite]
  | infinite negative =>
      refine iff_of_false (fun inside => ?_) (not_within_of_infinite _ _ _ rfl)
      cases negative <;> cases inside
  | nan => exact iff_of_false (fun inside => by cases inside) (not_within_of_infinite _ _ _ rfl)

omit [Field K] in
theorem Within.mono {value : FloatValue K} {lo hi lower higher : K} (within : value.Within lo hi)
    (below : lower ≤ lo) (above : hi ≤ higher) : value.Within lower higher := by
  obtain ⟨number, same, low, high⟩ := within
  exact ⟨number, same, below.trans low, high.trans above⟩

variable [FloorRing K]

/-- `static_cast<int32_t>`, which has no meaning where the integer part does not fit. -/
def toInt32? : FloatValue K → Option Int
  | .finite number =>
      if -2 ^ 31 ≤ truncToInt number ∧ truncToInt number < 2 ^ 31 then some (truncToInt number)
      else none
  | _ => none

variable [IsStrictOrderedRing K]

theorem truncToInt_nonneg_iff (number : K) : 0 ≤ truncToInt number ↔ -1 < number := by
  rw [truncToInt]
  split
  case isTrue nonneg =>
    exact iff_of_true (Int.floor_nonneg.mpr nonneg) (lt_of_lt_of_le (by norm_num) nonneg)
  case isFalse negative =>
    rw [← Int.sub_one_lt_iff, Int.lt_ceil]
    push_cast
    rfl

theorem truncToInt_lt_iff (number : K) (bound : Int) (positive : 0 < bound) :
    truncToInt number < bound ↔ number < (bound : K) := by
  rw [truncToInt]
  split
  case isTrue => exact Int.floor_lt
  case isFalse negative =>
    have below : number < 0 := not_le.mp negative
    have small : (⌈number⌉ : Int) ≤ 0 := Int.ceil_le.mpr (by rw [Int.cast_zero]; exact below.le)
    have large : (0 : K) < (bound : K) := Int.cast_pos.mpr positive
    exact iff_of_true (lt_of_le_of_lt small positive) (below.trans large)

theorem truncToInt_mem (number : K) (lo hi : Int) (above : (lo : K) ≤ number)
    (below : number ≤ (hi : K)) : lo ≤ truncToInt number ∧ truncToInt number ≤ hi := by
  rw [truncToInt]
  split
  · exact ⟨Int.le_floor.mpr above, Int.cast_le.mp ((Int.floor_le number).trans below)⟩
  · exact ⟨Int.cast_le.mp (above.trans (Int.le_ceil number)), Int.ceil_le.mpr below⟩

/-- Between integers that fit the conversion has a meaning, and stays between them. -/
theorem Within.toInt32? (value : FloatValue K) (lo hi : Int)
    (within : value.Within (lo : K) (hi : K)) (low : -2 ^ 31 ≤ lo) (high : hi < 2 ^ 31) :
    ∃ number, value.toInt32? = some number ∧ lo ≤ number ∧ number ≤ hi := by
  obtain ⟨number, rfl, above, below⟩ := within
  have truncated := truncToInt_mem number lo hi above below
  exact ⟨truncToInt number, if_pos ⟨low.trans truncated.1, lt_of_le_of_lt truncated.2 high⟩,
    truncated⟩

theorem toInt32?_nonneg_iff (value : FloatValue K) :
    (∃ number, value.toInt32? = some number ∧ 0 ≤ number) ↔
      ∃ number, value = .finite number ∧ -1 < number ∧ number < ((2 ^ 31 : Int) : K) := by
  constructor
  · rintro ⟨converted, some_, nonneg⟩
    cases value with
    | finite number =>
        rw [FloatValue.toInt32?] at some_
        split at some_
        case isTrue fits =>
          cases some_
          exact ⟨number, rfl, (truncToInt_nonneg_iff number).mp nonneg,
            (truncToInt_lt_iff number _ (by norm_num)).mp fits.2⟩
        case isFalse => cases some_
    | infinite _ => cases some_
    | nan => cases some_
  · rintro ⟨number, rfl, above, below⟩
    have nonneg := (truncToInt_nonneg_iff number).mpr above
    have fits := (truncToInt_lt_iff number _ (by norm_num)).mpr below
    exact ⟨truncToInt number, if_pos ⟨le_trans (by norm_num) nonneg, fits⟩, nonneg⟩

end FloatValue
