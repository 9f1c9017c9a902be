import Mathlib.Algebra.Order.Floor.Ring
import Mathlib.Algebra.Order.Field.Basic
import Mathlib.Data.Rat.Floor
import Mathlib.Order.Bounds.Basic
import Mathlib.Tactic.Linarith
import Mathlib.Tactic.Ring
import Mathlib.Tactic.FieldSimp
import SnapcastSync.Lib.Words

/-! The fraction arithmetic of the MCLK divider: the two ratios of a register around a target
fraction, and the encoding of a ratio in the fields of the register. -/

namespace I2sRateLock

def fracMaxDenominator : Nat := 511

/-- Four fields in the one register: z in bits 8 to 0, y in 17 to 9, x in 26 to 18, yn1 in 27. -/
def packFields (x y z yn1 : Nat) : Nat :=
  z &&& 0x1FF ||| (y &&& 0x1FF) <<< 9 ||| (x &&& 0x1FF) <<< 18 ||| yn1 <<< 27

/-- `none` where the source divides by zero. -/
def encodeFrac (b a : Nat) : Option Nat :=
  if b = 0 then some (packFields 0 0 0 0)
  else
    let yn1 := if a < 2 * b then 1 else 0
    let z := if yn1 = 1 then a - b else b
    if z = 0 then none
    else some (packFields (a / z - 1) (a % z) z yn1)

/-- `none` on an undecodable field combination. -/
def decodeFrac (val : Nat) : Option (Nat × Nat) :=
  let z := val &&& 0x1FF
  let y := (val >>> 9) &&& 0x1FF
  let x := (val >>> 18) &&& 0x1FF
  let yn1 := (val >>> 27) &&& 0x1
  if z = 0 then some (0, 1)
  else
    let a := (x + 1) * z + y
    if a = 0 ∨ fracMaxDenominator < a then none
    else
      let b := if yn1 = 1 then a - z else z
      if b < a then some (b, a) else none

structure FracChoice (K : Type) where
  loB : Nat
  loA : Nat
  hiB : Nat
  hiA : Nat
  loV : K
  hiV : K
  duty : K
  exact : Bool
  useLo : Bool

section Pick

variable {K : Type} [Field K] [LinearOrder K] [FloorRing K]

def exactTolerance : K := ((1 : Nat) : K) / ((1000000000 : Nat) : K)

def FracChoice.initial : FracChoice K :=
  { loB := 0
    loA := 1
    hiB := 1
    hiA := 1
    loV := 0
    hiV := 1
    duty := 0
    exact := false
    useLo := true }

def FracChoice.takeLo (c : FracChoice K) (b a : Nat) : FracChoice K :=
  { c with loV := (b : K) / (a : K), loB := b, loA := a }

def FracChoice.takeHi (c : FracChoice K) (b a : Nat) : FracChoice K :=
  { c with hiV := (b : K) / (a : K), hiB := b, hiA := a }

def floorNumerator (frac : K) (a : Nat) : Nat := (min ⌊frac * (a : K)⌋ ((a : Int) - 1)).toNat

def ceilNumerator (frac : K) (a : Nat) : Nat := (min ⌈frac * (a : K)⌉ ((a : Int) - 1)).toNat

def FracChoice.improveLo (frac : K) (a : Nat) (c : FracChoice K) : FracChoice K :=
  let bl := floorNumerator frac a
  let vl := (bl : K) / (a : K)
  if vl ≤ frac ∧ c.loV < vl then c.takeLo bl a else c

def FracChoice.improveHi (frac : K) (a : Nat) (c : FracChoice K) : FracChoice K :=
  let bh := ceilNumerator frac a
  let vh := (bh : K) / (a : K)
  if frac ≤ vh ∧ vh < c.hiV then c.takeHi bh a else c

def considerDenominator (frac : K) (c : FracChoice K) (a : Nat) : FracChoice K :=
  (c.improveLo frac a).improveHi frac a

def searchFrac (frac : K) (denominators : Nat) : FracChoice K :=
  (List.range' 2 denominators).foldl (considerDenominator frac) FracChoice.initial

def FracChoice.weigh (frac : K) (c : FracChoice K) : FracChoice K :=
  let gap := c.hiV - c.loV
  let exact := decide (gap < exactTolerance ∨ frac - c.loV < exactTolerance ∨
    c.hiV - frac < exactTolerance)
  { c with
    exact := exact
    useLo := decide (frac - c.loV ≤ c.hiV - frac)
    duty := if exact then 0 else (frac - c.loV) / gap }

def pickFrac (frac : K) : FracChoice K :=
  (searchFrac frac (fracMaxDenominator - 1)).weigh frac

end Pick

/-- One tick of the dither: whether it is a hi tick, and the accumulator after it. -/
def sigmaDeltaStep (dutyQ16 acc : Nat) : Bool × Nat :=
  let acc := (acc + dutyQ16) % 2 ^ 32
  if 65536 ≤ acc then (true, acc - 65536) else (false, acc)

section Bracket

variable {K : Type} [Field K] [LinearOrder K] [IsStrictOrderedRing K] [FloorRing K]

def registerRatios : Set K :=
  {v | ∃ b a : Nat, b < a ∧ a ≤ fracMaxDenominator ∧ v = (b : K) / (a : K)}

omit [IsStrictOrderedRing K] in
theorem floorNumerator_lt (frac : K) (a : Nat) (positive : 0 < a) : floorNumerator frac a < a := by
  have below := min_le_right ⌊frac * (a : K)⌋ ((a : Int) - 1)
  rw [floorNumerator]
  omega

omit [IsStrictOrderedRing K] in
theorem ceilNumerator_lt (frac : K) (a : Nat) (positive : 0 < a) : ceilNumerator frac a < a := by
  have below := min_le_right ⌈frac * (a : K)⌉ ((a : Int) - 1)
  rw [ceilNumerator]
  omega

theorem floorNumerator_le (frac : K) (a : Nat) (positive : 0 < a) (nonneg : 0 ≤ frac) :
    (floorNumerator frac a : K) / (a : K) ≤ frac := by
  have denominator : (0 : K) < (a : K) := Nat.cast_pos.mpr positive
  have floorNonneg : 0 ≤ ⌊frac * (a : K)⌋ :=
    Int.floor_nonneg.mpr (mul_nonneg nonneg denominator.le)
  have below : (floorNumerator frac a : Int) ≤ ⌊frac * (a : K)⌋ := by
    have reached := min_le_left ⌊frac * (a : K)⌋ ((a : Int) - 1)
    rw [floorNumerator]
    omega
  rw [div_le_iff₀ denominator]
  calc
    (floorNumerator frac a : K) = ((floorNumerator frac a : Int) : K) := by norm_cast
    _ ≤ (⌊frac * (a : K)⌋ : K) := Int.cast_le.mpr below
    _ ≤ frac * (a : K) := Int.floor_le _

theorem le_floorNumerator (frac : K) (a b : Nat) (within : b < a)
    (below : (b : K) / (a : K) ≤ frac) : b ≤ floorNumerator frac a := by
  have denominator : (0 : K) < (a : K) := Nat.cast_pos.mpr (Nat.zero_lt_of_lt within)
  have reached : (b : Int) ≤ ⌊frac * (a : K)⌋ := by
    rw [Int.le_floor]
    exact_mod_cast (div_le_iff₀ denominator).mp below
  have least : (b : Int) ≤ min ⌊frac * (a : K)⌋ ((a : Int) - 1) := le_min reached (by omega)
  rw [floorNumerator]
  omega

theorem ceilNumerator_le (frac : K) (a b : Nat) (within : b < a)
    (above : frac ≤ (b : K) / (a : K)) : ceilNumerator frac a ≤ b := by
  have denominator : (0 : K) < (a : K) := Nat.cast_pos.mpr (Nat.zero_lt_of_lt within)
  have reached : ⌈frac * (a : K)⌉ ≤ (b : Int) := by
    rw [Int.ceil_le]
    exact_mod_cast (le_div_iff₀ denominator).mp above
  have least := (min_le_left ⌈frac * (a : K)⌉ ((a : Int) - 1)).trans reached
  rw [ceilNumerator]
  omega

/-- The upper numerator reaches the target as soon as any numerator does. -/
theorem le_ceilNumerator (frac : K) (a b : Nat) (within : b < a)
    (above : frac ≤ (b : K) / (a : K)) : frac ≤ (ceilNumerator frac a : K) / (a : K) := by
  have denominator : (0 : K) < (a : K) := Nat.cast_pos.mpr (Nat.zero_lt_of_lt within)
  have reached : ⌈frac * (a : K)⌉ ≤ (b : Int) := by
    rw [Int.ceil_le]
    exact_mod_cast (le_div_iff₀ denominator).mp above
  have unclamped : min ⌈frac * (a : K)⌉ ((a : Int) - 1) = ⌈frac * (a : K)⌉ :=
    min_eq_left (by omega)
  have covers : ⌈frac * (a : K)⌉ ≤ (ceilNumerator frac a : Int) := by
    rw [ceilNumerator, unclamped]
    omega
  rw [le_div_iff₀ denominator]
  calc
    frac * (a : K) ≤ (⌈frac * (a : K)⌉ : K) := Int.le_ceil _
    _ ≤ ((ceilNumerator frac a : Int) : K) := Int.cast_le.mpr covers
    _ = (ceilNumerator frac a : K) := by norm_cast

structure LoEnd (frac : K) (seen : Nat) (c : FracChoice K) : Prop where
  value : c.loV = (c.loB : K) / (c.loA : K)
  ratio : c.loB < c.loA ∧ c.loA < seen
  below : c.loV ≤ frac
  best : ∀ a b : Nat, 2 ≤ a → a < seen → b < a → (b : K) / (a : K) ≤ frac →
    (b : K) / (a : K) ≤ c.loV

structure HiEnd (frac : K) (seen : Nat) (c : FracChoice K) : Prop where
  value : c.hiV = (c.hiB : K) / (c.hiA : K)
  ratio : c.hiB < c.hiA ∧ c.hiA < seen ∨ c.hiB = 1 ∧ c.hiA = 1
  above : frac ≤ c.hiV
  best : ∀ a b : Nat, 2 ≤ a → a < seen → b < a → frac ≤ (b : K) / (a : K) →
    c.hiV ≤ (b : K) / (a : K)

omit [IsStrictOrderedRing K] [FloorRing K] in
theorem loEnd_initial (frac : K) (nonneg : 0 ≤ frac) : LoEnd frac 2 FracChoice.initial := by
  constructor
  · simp [FracChoice.initial]
  · exact ⟨Nat.zero_lt_one, Nat.one_lt_two⟩
  · exact nonneg
  · intro a b two seen
    omega

omit [IsStrictOrderedRing K] in
theorem hiEnd_initial (frac : K) (proper : frac < 1) : HiEnd frac 2 FracChoice.initial := by
  constructor
  · simp [FracChoice.initial]
  · exact Or.inr ⟨rfl, rfl⟩
  · exact proper.le
  · intro a b two seen
    omega

theorem improveLo_loEnd (frac : K) (nonneg : 0 ≤ frac) (a : Nat) (two : 2 ≤ a)
    (c : FracChoice K) (ends : LoEnd frac a c) : LoEnd frac (a + 1) (c.improveLo frac a) := by
  have positive : 0 < a := by omega
  have denominator : (0 : K) < (a : K) := Nat.cast_pos.mpr positive
  have reached := floorNumerator_le frac a positive nonneg
  -- the ratios of this denominator itself are covered by its floor numerator
  have covered : ∀ b : Nat, b < a → (b : K) / (a : K) ≤ frac →
      (b : K) / (a : K) ≤ (floorNumerator frac a : K) / (a : K) := by
    intro b within below
    exact (div_le_div_iff_of_pos_right denominator).mpr
      (Nat.cast_le.mpr (le_floorNumerator frac a b within below))
  rw [FracChoice.improveLo]
  split
  · next better =>
      constructor
      · rfl
      · exact ⟨floorNumerator_lt frac a positive, Nat.lt_succ_self a⟩
      · exact reached
      · intro d b dTwo seen within below
        rcases Nat.lt_succ_iff_lt_or_eq.mp seen with earlier | same
        · exact (ends.best d b dTwo earlier within below).trans better.2.le
        · subst same
          exact covered b within below
  · next worse =>
      have kept : (floorNumerator frac a : K) / (a : K) ≤ c.loV := by
        rcases not_and_or.mp worse with passes | lower
        · exact absurd reached passes
        · exact not_lt.mp lower
      constructor
      · exact ends.value
      · exact ⟨ends.ratio.1, Nat.lt_succ_of_lt ends.ratio.2⟩
      · exact ends.below
      · intro d b dTwo seen within below
        rcases Nat.lt_succ_iff_lt_or_eq.mp seen with earlier | same
        · exact ends.best d b dTwo earlier within below
        · subst same
          exact (covered b within below).trans kept

theorem improveHi_hiEnd (frac : K) (a : Nat) (two : 2 ≤ a) (c : FracChoice K)
    (ends : HiEnd frac a c) : HiEnd frac (a + 1) (c.improveHi frac a) := by
  have positive : 0 < a := by omega
  have denominator : (0 : K) < (a : K) := Nat.cast_pos.mpr positive
  have covered : ∀ b : Nat, b < a → frac ≤ (b : K) / (a : K) →
      (ceilNumerator frac a : K) / (a : K) ≤ (b : K) / (a : K) := by
    intro b within above
    exact (div_le_div_iff_of_pos_right denominator).mpr
      (Nat.cast_le.mpr (ceilNumerator_le frac a b within above))
  have widened : c.hiB < c.hiA ∧ c.hiA < a + 1 ∨ c.hiB = 1 ∧ c.hiA = 1 := by
    rcases ends.ratio with found | default
    · exact Or.inl ⟨found.1, Nat.lt_succ_of_lt found.2⟩
    · exact Or.inr default
  rw [FracChoice.improveHi]
  split
  · next better =>
      constructor
      · rfl
      · exact Or.inl ⟨ceilNumerator_lt frac a positive, Nat.lt_succ_self a⟩
      · exact better.1
      · intro d b dTwo seen within above
        rcases Nat.lt_succ_iff_lt_or_eq.mp seen with earlier | same
        · exact better.2.le.trans (ends.best d b dTwo earlier within above)
        · subst same
          exact covered b within above
  · next worse =>
      refine ⟨ends.value, widened, ends.above, ?_⟩
      intro d b dTwo seen within above
      rcases Nat.lt_succ_iff_lt_or_eq.mp seen with earlier | same
      · exact ends.best d b dTwo earlier within above
      · subst same
        have kept : c.hiV ≤ (ceilNumerator frac d : K) / (d : K) := by
          rcases not_and_or.mp worse with short | higher
          · exact absurd (le_ceilNumerator frac d b within above) short
          · exact not_lt.mp higher
        exact kept.trans (covered b within above)

omit [IsStrictOrderedRing K] in
theorem improveHi_keeps_lo (frac : K) (a : Nat) (c : FracChoice K) :
    (c.improveHi frac a).loV = c.loV ∧ (c.improveHi frac a).loB = c.loB ∧
      (c.improveHi frac a).loA = c.loA := by
  rw [FracChoice.improveHi]
  split
  · exact ⟨rfl, rfl, rfl⟩
  · exact ⟨rfl, rfl, rfl⟩

omit [IsStrictOrderedRing K] in
theorem improveLo_keeps_hi (frac : K) (a : Nat) (c : FracChoice K) :
    (c.improveLo frac a).hiV = c.hiV ∧ (c.improveLo frac a).hiB = c.hiB ∧
      (c.improveLo frac a).hiA = c.hiA := by
  rw [FracChoice.improveLo]
  split
  · exact ⟨rfl, rfl, rfl⟩
  · exact ⟨rfl, rfl, rfl⟩

omit [IsStrictOrderedRing K] [FloorRing K] in
theorem LoEnd.transfer {frac : K} {seen : Nat} {c d : FracChoice K} (ends : LoEnd frac seen c)
    (same : d.loV = c.loV ∧ d.loB = c.loB ∧ d.loA = c.loA) : LoEnd frac seen d := by
  obtain ⟨value, numerator, denominator⟩ := same
  constructor
  · rw [value, numerator, denominator]
    exact ends.value
  · rw [numerator, denominator]
    exact ends.ratio
  · rw [value]
    exact ends.below
  · rw [value]
    exact ends.best

omit [IsStrictOrderedRing K] [FloorRing K] in
theorem HiEnd.transfer {frac : K} {seen : Nat} {c d : FracChoice K} (ends : HiEnd frac seen c)
    (same : d.hiV = c.hiV ∧ d.hiB = c.hiB ∧ d.hiA = c.hiA) : HiEnd frac seen d := by
  obtain ⟨value, numerator, denominator⟩ := same
  constructor
  · rw [value, numerator, denominator]
    exact ends.value
  · rw [numerator, denominator]
    exact ends.ratio
  · rw [value]
    exact ends.above
  · rw [value]
    exact ends.best

theorem searchFrac_ends (frac : K) (nonneg : 0 ≤ frac) (proper : frac < 1) (denominators : Nat) :
    LoEnd frac (2 + denominators) (searchFrac frac denominators) ∧
      HiEnd frac (2 + denominators) (searchFrac frac denominators) := by
  induction denominators with
  | zero => exact ⟨loEnd_initial frac nonneg, hiEnd_initial frac proper⟩
  | succ denominators ih =>
      have unrolled : searchFrac frac (denominators + 1) =
          considerDenominator frac (searchFrac frac denominators) (2 + denominators) := by
        rw [searchFrac, List.range'_1_concat, List.foldl_concat]
        rfl
      have two : 2 ≤ 2 + denominators := Nat.le_add_right 2 denominators
      rw [unrolled]
      constructor
      · exact (improveLo_loEnd frac nonneg _ two _ ih.1).transfer (improveHi_keeps_lo _ _ _)
      · exact improveHi_hiEnd frac _ two _ (ih.2.transfer (improveLo_keeps_hi _ _ _))

omit [IsStrictOrderedRing K] [FloorRing K] in
theorem weigh_keeps_lo (frac : K) (c : FracChoice K) :
    (c.weigh frac).loV = c.loV ∧ (c.weigh frac).loB = c.loB ∧ (c.weigh frac).loA = c.loA :=
  ⟨rfl, rfl, rfl⟩

omit [IsStrictOrderedRing K] [FloorRing K] in
theorem weigh_keeps_hi (frac : K) (c : FracChoice K) :
    (c.weigh frac).hiV = c.hiV ∧ (c.weigh frac).hiB = c.hiB ∧ (c.weigh frac).hiA = c.hiA :=
  ⟨rfl, rfl, rfl⟩

theorem pickFrac_loEnd (frac : K) (nonneg : 0 ≤ frac) (proper : frac < 1) :
    LoEnd frac (fracMaxDenominator + 1) (pickFrac frac) :=
  (searchFrac_ends frac nonneg proper (fracMaxDenominator - 1)).1.transfer
    (weigh_keeps_lo frac _)

theorem pickFrac_hiEnd (frac : K) (nonneg : 0 ≤ frac) (proper : frac < 1) :
    HiEnd frac (fracMaxDenominator + 1) (pickFrac frac) :=
  (searchFrac_ends frac nonneg proper (fracMaxDenominator - 1)).2.transfer
    (weigh_keeps_hi frac _)

omit [LinearOrder K] [IsStrictOrderedRing K] [FloorRing K] in
theorem registerRatios_searched {v : K} (ratio : v ∈ registerRatios) :
    ∃ b a : Nat, 2 ≤ a ∧ a < fracMaxDenominator + 1 ∧ b < a ∧ v = (b : K) / (a : K) := by
  obtain ⟨b, a, proper, within, rfl⟩ := ratio
  rcases Nat.lt_or_ge a 2 with unit | two
  · have zero : b = 0 := by omega
    subst zero
    exact ⟨0, 2, le_refl 2, by decide, by decide, by simp⟩
  · exact ⟨b, a, two, Nat.lt_succ_of_le within, proper, rfl⟩

omit [IsStrictOrderedRing K] [FloorRing K] in
theorem LoEnd.isGreatest {frac : K} {c : FracChoice K}
    (ends : LoEnd frac (fracMaxDenominator + 1) c) :
    IsGreatest {v ∈ registerRatios | v ≤ frac} c.loV := by
  constructor
  · exact ⟨⟨c.loB, c.loA, ends.ratio.1, Nat.le_of_lt_succ ends.ratio.2, ends.value⟩, ends.below⟩
  · rintro v ⟨ratio, below⟩
    obtain ⟨b, a, two, seen, proper, rfl⟩ := registerRatios_searched ratio
    exact ends.best a b two seen proper below

omit [IsStrictOrderedRing K] [FloorRing K] in
theorem HiEnd.isLeast {frac : K} {c : FracChoice K}
    (ends : HiEnd frac (fracMaxDenominator + 1) c) (found : c.hiB < c.hiA) :
    IsLeast {v ∈ registerRatios | frac ≤ v} c.hiV ∧ c.hiA ≤ fracMaxDenominator := by
  have within : c.hiA ≤ fracMaxDenominator := by
    rcases ends.ratio with ratio | default
    · exact Nat.le_of_lt_succ ratio.2
    · omega
  refine ⟨⟨⟨⟨c.hiB, c.hiA, found, within, ends.value⟩, ends.above⟩, ?_⟩, within⟩
  rintro v ⟨ratio, above⟩
  obtain ⟨b, a, two, seen, proper, rfl⟩ := registerRatios_searched ratio
  exact ends.best a b two seen proper above

/-- The default upper end stays only where no ratio of the register reaches the target. -/
theorem HiEnd.none_above {frac : K} {c : FracChoice K}
    (ends : HiEnd frac (fracMaxDenominator + 1) c) (missing : ¬ c.hiB < c.hiA) :
    c.hiB = 1 ∧ c.hiA = 1 ∧ c.hiV = 1 ∧ {v ∈ registerRatios | frac ≤ v} = (∅ : Set K) := by
  have default : c.hiB = 1 ∧ c.hiA = 1 := ends.ratio.resolve_left (fun found => missing found.1)
  have one : c.hiV = 1 := by
    rw [ends.value, default.1, default.2, Nat.cast_one, div_one]
  refine ⟨default.1, default.2, one, Set.eq_empty_iff_forall_notMem.mpr ?_⟩
  rintro v ⟨ratio, above⟩
  obtain ⟨b, a, two, seen, proper, rfl⟩ := registerRatios_searched ratio
  have reached := ends.best a b two seen proper above
  have denominator : (0 : K) < (a : K) := Nat.cast_pos.mpr (by omega)
  rw [one, le_div_iff₀ denominator, one_mul] at reached
  exact absurd (Nat.cast_le.mp reached) (by omega)

omit [FloorRing K] in
theorem exactTolerance_pos : (0 : K) < exactTolerance :=
  div_pos (Nat.cast_pos.mpr (by decide)) (Nat.cast_pos.mpr (by decide))

omit [IsStrictOrderedRing K] [FloorRing K] in
theorem weigh_duty (frac : K) (c : FracChoice K) (apart : (c.weigh frac).exact = false) :
    exactTolerance ≤ frac - (c.weigh frac).loV ∧ exactTolerance ≤ (c.weigh frac).hiV - frac ∧
      (c.weigh frac).duty =
        (frac - (c.weigh frac).loV) / ((c.weigh frac).hiV - (c.weigh frac).loV) := by
  have wide : ¬ (c.hiV - c.loV < exactTolerance ∨ frac - c.loV < exactTolerance ∨
      c.hiV - frac < exactTolerance) := of_decide_eq_false apart
  have duty : (c.weigh frac).duty =
      if (c.weigh frac).exact then 0 else (frac - c.loV) / (c.hiV - c.loV) := rfl
  rw [apart] at duty
  exact ⟨not_lt.mp (fun short => wide (Or.inr (Or.inl short))),
    not_lt.mp (fun short => wide (Or.inr (Or.inr short))), duty⟩

/-- Between two ends apart the share of hi ticks is proper and its mean is the target. -/
theorem weigh_mean (frac : K) (c : FracChoice K) (apart : (c.weigh frac).exact = false) :
    0 < (c.weigh frac).duty ∧ (c.weigh frac).duty < 1 ∧
      (c.weigh frac).loV + ((c.weigh frac).hiV - (c.weigh frac).loV) * (c.weigh frac).duty =
        frac := by
  obtain ⟨above, below, duty⟩ := weigh_duty frac c apart
  have positive : (0 : K) < exactTolerance := exactTolerance_pos
  have gap : 0 < (c.weigh frac).hiV - (c.weigh frac).loV := by linarith
  rw [duty]
  refine ⟨div_pos (by linarith) gap, (div_lt_one gap).mpr (by linarith), ?_⟩
  rw [mul_div_cancel₀ _ gap.ne']
  ring

/-- The bracket is the tightest the register has, and its dither means the target. -/
theorem pickFrac_optimal (frac : K) (nonneg : 0 ≤ frac) (proper : frac < 1) :
    IsGreatest {v ∈ registerRatios | v ≤ frac} (pickFrac frac).loV ∧
      (pickFrac frac).loV = ((pickFrac frac).loB : K) / ((pickFrac frac).loA : K) ∧
      (pickFrac frac).loB < (pickFrac frac).loA ∧ (pickFrac frac).loA ≤ fracMaxDenominator ∧
      (pickFrac frac).hiV = ((pickFrac frac).hiB : K) / ((pickFrac frac).hiA : K) ∧
      (IsLeast {v ∈ registerRatios | frac ≤ v} (pickFrac frac).hiV ∧
          (pickFrac frac).hiB < (pickFrac frac).hiA ∧ (pickFrac frac).hiA ≤ fracMaxDenominator ∨
        {v ∈ registerRatios | frac ≤ v} = (∅ : Set K) ∧
          (pickFrac frac).hiB = 1 ∧ (pickFrac frac).hiA = 1) ∧
      ((pickFrac frac).exact = false →
        0 < (pickFrac frac).duty ∧ (pickFrac frac).duty < 1 ∧
          (pickFrac frac).loV + ((pickFrac frac).hiV - (pickFrac frac).loV) *
            (pickFrac frac).duty = frac) := by
  have lo := pickFrac_loEnd frac nonneg proper
  have hi := pickFrac_hiEnd frac nonneg proper
  refine ⟨lo.isGreatest, lo.value, lo.ratio.1, Nat.le_of_lt_succ lo.ratio.2, hi.value, ?_,
    weigh_mean frac _⟩
  by_cases found : (pickFrac frac).hiB < (pickFrac frac).hiA
  · obtain ⟨least, within⟩ := hi.isLeast found
    exact Or.inl ⟨least, found, within⟩
  · obtain ⟨numerator, denominator, _, none⟩ := hi.none_above found
    exact Or.inr ⟨none, numerator, denominator⟩

theorem pickFrac_optimal_third :
    (0 : Rat) ≤ 1 / 3 ∧
      IsGreatest {v ∈ registerRatios | v ≤ (1 / 3 : Rat)} (pickFrac (1 / 3 : Rat)).loV :=
  ⟨by norm_num, (pickFrac_optimal (1 / 3 : Rat) (by norm_num) (by norm_num)).1⟩

end Bracket

section Encoding

theorem packFields_eq (x y z yn1 : Nat) (xSmall : x < 512) (ySmall : y < 512) (zSmall : z < 512) :
    packFields x y z yn1 = z + 512 * (y + 512 * (x + 512 * yn1)) := by
  have mask : ∀ field : Nat, field < 512 → field &&& 0x1FF = field := by
    intro field small
    rw [show (0x1FF : Nat) = 2 ^ 9 - 1 from rfl, Nat.and_two_pow_sub_one_eq_mod]
    exact Nat.mod_eq_of_lt small
  rw [packFields, mask x xSmall, mask y ySmall, mask z zSmall,
    Words.or_shiftLeft _ y 9 zSmall, Words.or_shiftLeft _ x 18 (by omega),
    Words.or_shiftLeft _ yn1 27 (by omega)]
  omega

theorem decodeFrac_packFields (x y z yn1 : Nat) (xSmall : x < 512) (ySmall : y < 512)
    (zSmall : z < 512) (bit : yn1 < 2) :
    decodeFrac (packFields x y z yn1) =
      if z = 0 then some (0, 1)
      else if (x + 1) * z + y = 0 ∨ fracMaxDenominator < (x + 1) * z + y then none
      else if (if yn1 = 1 then (x + 1) * z + y - z else z) < (x + 1) * z + y then
        some (if yn1 = 1 then (x + 1) * z + y - z else z, (x + 1) * z + y)
      else none := by
  have field : ∀ word : Nat, word &&& 0x1FF = word % 512 :=
    fun word => Nat.and_two_pow_sub_one_eq_mod word 9
  have flag : ∀ word : Nat, word &&& 0x1 = word % 2 :=
    fun word => Nat.and_two_pow_sub_one_eq_mod word 1
  have zField : packFields x y z yn1 &&& 0x1FF = z := by
    rw [field, packFields_eq x y z yn1 xSmall ySmall zSmall]
    omega
  have yField : packFields x y z yn1 >>> 9 &&& 0x1FF = y := by
    rw [field, Nat.shiftRight_eq_div_pow, packFields_eq x y z yn1 xSmall ySmall zSmall]
    omega
  have xField : packFields x y z yn1 >>> 18 &&& 0x1FF = x := by
    rw [field, Nat.shiftRight_eq_div_pow, packFields_eq x y z yn1 xSmall ySmall zSmall]
    omega
  have yn1Field : packFields x y z yn1 >>> 27 &&& 0x1 = yn1 := by
    rw [flag, Nat.shiftRight_eq_div_pow, packFields_eq x y z yn1 xSmall ySmall zSmall]
    omega
  simp only [decodeFrac, zField, yField, xField, yn1Field]

/-- A proper ratio with a denominator of the register survives the encoding. -/
theorem decodeFrac_encodeFrac (b a : Nat) (proper : b < a) (within : a ≤ fracMaxDenominator) :
    ∃ val, encodeFrac b a = some val ∧
      decodeFrac val = some (if b = 0 then (0, 1) else (b, a)) := by
  have small : a ≤ 511 := within
  by_cases zero : b = 0
  · subst zero
    exact ⟨packFields 0 0 0 0, rfl, rfl⟩
  · by_cases upper : a < 2 * b
    · have nonzero : a - b ≠ 0 := by omega
      have split := Nat.div_add_mod a (a - b)
      have remainder := Nat.mod_lt a (Nat.pos_of_ne_zero nonzero)
      have quotient : 1 ≤ a / (a - b) := (Nat.one_le_div_iff (by omega)).mpr (by omega)
      have bounded : a / (a - b) ≤ a := Nat.div_le_self a (a - b)
      have whole : (a / (a - b) - 1 + 1) * (a - b) + a % (a - b) = a := by
        rw [Nat.sub_add_cancel quotient, Nat.mul_comm]
        exact split
      refine ⟨packFields (a / (a - b) - 1) (a % (a - b)) (a - b) 1, ?_, ?_⟩
      · simp [encodeFrac, zero, upper, nonzero]
      · rw [decodeFrac_packFields _ _ _ _ (by omega) (by omega) (by omega) (by omega), whole,
          if_neg nonzero, if_neg (by omega), if_pos rfl, if_neg zero,
          show a - (a - b) = b by omega, if_pos proper]
    · have split := Nat.div_add_mod a b
      have remainder := Nat.mod_lt a (Nat.pos_of_ne_zero zero)
      have quotient : 1 ≤ a / b := (Nat.one_le_div_iff (by omega)).mpr (by omega)
      have bounded : a / b ≤ a := Nat.div_le_self a b
      have whole : (a / b - 1 + 1) * b + a % b = a := by
        rw [Nat.sub_add_cancel quotient, Nat.mul_comm]
        exact split
      refine ⟨packFields (a / b - 1) (a % b) b 0, ?_, ?_⟩
      · simp [encodeFrac, zero, upper]
      · rw [decodeFrac_packFields _ _ _ _ (by omega) (by omega) (by omega) (by omega), whole,
          if_neg zero, if_neg (by omega), if_neg (show ¬ 0 = 1 by decide), if_pos proper, if_neg zero]

theorem decodeFrac_proper (val b a : Nat) (decoded : decodeFrac val = some (b, a)) :
    b < a ∧ a ≤ fracMaxDenominator := by
  rw [decodeFrac] at decoded
  dsimp only at decoded
  split at decoded
  · cases decoded
    decide
  · split at decoded
    · cases decoded
    · next within =>
        obtain ⟨_, bounded⟩ := not_or.mp within
        generalize (if val >>> 27 &&& 1 = 1 then _ else _) = numerator at decoded
        split at decoded
        · next proper =>
            cases decoded
            exact ⟨proper, Nat.le_of_not_lt bounded⟩
        · cases decoded

/-- The value is what some ratio of the register encodes to. -/
def Canonical (val : Nat) : Prop :=
  ∃ b a, b < a ∧ a ≤ fracMaxDenominator ∧ encodeFrac b a = some val

theorem encodeFrac_decodeFrac_iff (val : Nat) :
    (∃ b a, decodeFrac val = some (b, a) ∧ encodeFrac b a = some val) ↔ Canonical val := by
  constructor
  · rintro ⟨b, a, decoded, encoded⟩
    obtain ⟨proper, within⟩ := decodeFrac_proper val b a decoded
    exact ⟨b, a, proper, within, encoded⟩
  · rintro ⟨b, a, proper, within, encoded⟩
    obtain ⟨written, writes, decoded⟩ := decodeFrac_encodeFrac b a proper within
    rw [encoded] at writes
    cases writes
    by_cases zero : b = 0
    · subst zero
      exact ⟨0, 1, decoded, encoded⟩
    · rw [if_neg zero] at decoded
      exact ⟨b, a, decoded, encoded⟩

theorem encodeFrac_lt (b a val : Nat) (encoded : encodeFrac b a = some val) : val < 2 ^ 28 := by
  have packed : ∀ x y z yn1 : Nat, yn1 < 2 → packFields x y z yn1 < 2 ^ 28 := by
    intro x y z yn1 bit
    have mask : ∀ field : Nat, field &&& 0x1FF = field % 512 :=
      fun field => Nat.and_two_pow_sub_one_eq_mod field 9
    have xSmall := Nat.mod_lt x (show 0 < 512 by decide)
    have ySmall := Nat.mod_lt y (show 0 < 512 by decide)
    have zSmall := Nat.mod_lt z (show 0 < 512 by decide)
    rw [packFields, mask, mask, mask, Words.or_shiftLeft _ (y % 512) 9 zSmall,
      Words.or_shiftLeft _ (x % 512) 18 (by omega), Words.or_shiftLeft _ yn1 27 (by omega)]
    omega
  rw [encodeFrac] at encoded
  split at encoded
  · cases encoded
    exact packed 0 0 0 0 (by decide)
  · have bit : (if a < 2 * b then 1 else 0) < 2 := by split <;> decide
    dsimp only at encoded
    generalize (if a < 2 * b then 1 else 0) = yn1 at encoded bit
    generalize (if yn1 = 1 then a - b else b) = z at encoded
    split at encoded
    · cases encoded
    · cases encoded
      exact packed _ _ z yn1 bit

/-- The whole has no encoding: its z would be 0, under the division. -/
theorem encodeFrac_one : encodeFrac 1 1 = none := rfl

end Encoding

section SigmaDelta

/-- One tick hands out 65536 for a hi and keeps the rest. -/
theorem sigmaDeltaStep_spec (dutyQ16 acc : Nat) (small : acc < 65536) (share : dutyQ16 ≤ 65536) :
    (sigmaDeltaStep dutyQ16 acc).2 < 65536 ∧
      65536 * (sigmaDeltaStep dutyQ16 acc).1.toNat + (sigmaDeltaStep dutyQ16 acc).2 =
        acc + dutyQ16 := by
  have unwrapped : (acc + dutyQ16) % 2 ^ 32 = acc + dutyQ16 := Nat.mod_eq_of_lt (by omega)
  rw [sigmaDeltaStep, unwrapped]
  split
  · simp only [Bool.toNat_true]
    omega
  · simp only [Bool.toNat_false]
    omega

structure Dither where
  acc : Nat
  hiTicks : Nat

def Dither.tick (state : Dither) (dutyQ16 : Nat) : Dither :=
  { acc := (sigmaDeltaStep dutyQ16 state.acc).2
    hiTicks := state.hiTicks + (sigmaDeltaStep dutyQ16 state.acc).1.toNat }

theorem Dither.tick_run (duties : List Nat) (state : Dither) (small : state.acc < 65536)
    (shares : ∀ dutyQ16 ∈ duties, dutyQ16 ≤ 65536) :
    (duties.foldl Dither.tick state).acc < 65536 ∧
      65536 * (duties.foldl Dither.tick state).hiTicks + (duties.foldl Dither.tick state).acc =
        duties.sum + 65536 * state.hiTicks + state.acc := by
  induction duties generalizing state with
  | nil => simp [small]
  | cons dutyQ16 rest ih =>
      obtain ⟨stays, balance⟩ := sigmaDeltaStep_spec dutyQ16 state.acc small
        (shares dutyQ16 List.mem_cons_self)
      have later := ih (state.tick dutyQ16) stays
        (fun duty member => shares duty (List.mem_cons_of_mem _ member))
      have counted : (state.tick dutyQ16).hiTicks =
          state.hiTicks + (sigmaDeltaStep dutyQ16 state.acc).1.toNat := rfl
      have kept : (state.tick dutyQ16).acc = (sigmaDeltaStep dutyQ16 state.acc).2 := rfl
      rw [List.foldl_cons, List.sum_cons]
      refine ⟨later.1, ?_⟩
      rw [later.2, counted, kept]
      omega

/-- Whatever the duties and whenever they change, what was delivered and what was asked for
never come a whole tick apart. -/
theorem dither_delivers (accStart : Nat) (duties : List Nat) (small : accStart < 65536)
    (shares : ∀ dutyQ16 ∈ duties, dutyQ16 ≤ 65536) (done : List Nat) (begun : done <+: duties) :
    (done.foldl Dither.tick ⟨accStart, 0⟩).acc < 65536 ∧
      (65536 * (done.foldl Dither.tick ⟨accStart, 0⟩).hiTicks : Int) =
        done.sum + accStart - (done.foldl Dither.tick ⟨accStart, 0⟩).acc ∧
      |(65536 * (done.foldl Dither.tick ⟨accStart, 0⟩).hiTicks : Int) - done.sum| < 65536 := by
  obtain ⟨stays, balance⟩ := Dither.tick_run done ⟨accStart, 0⟩ small
    (fun dutyQ16 member => shares dutyQ16 (begun.subset member))
  dsimp only at balance
  refine ⟨stays, by omega, ?_⟩
  rw [abs_lt]
  omega

theorem dither_delivers_half_and_whole :
    (32768 < 65536 ∧ ∀ dutyQ16 ∈ [32768, 65536, 100], dutyQ16 ≤ 65536) ∧
      (([32768, 65536] : List Nat).foldl Dither.tick ⟨32768, 0⟩).acc < 65536 :=
  ⟨by decide, (dither_delivers 32768 [32768, 65536, 100] (by decide) (by decide) [32768, 65536]
    (by decide)).1⟩

end SigmaDelta

end I2sRateLock
