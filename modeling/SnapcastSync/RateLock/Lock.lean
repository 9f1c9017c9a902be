import SnapcastSync.Lib.Rounding
import SnapcastSync.RateLock.FracSelect

/-! The rate lock on the fractional divider: the baseline read back from the registers, a trim
against it, and the dither tick. The ratios are exact here; `DoubleTrim` has the doubles of a trim
and how near they are. -/

namespace I2sRateLock

open Rounding

variable {K : Type}

/-- `tx_clk_active` and `tx_clkm_div_num` of `tx_clkm_conf`, and `tx_clkm_div_conf`. -/
structure ClockRegisters where
  txClkActive : Bool
  divNum : Nat
  divConf : Nat
deriving DecidableEq, Repr

/-- The single store of a fraction, left out where it is the last one written. -/
def ClockRegisters.store (clock : ClockRegisters) (last val : Nat) : ClockRegisters :=
  if val = last then clock else { clock with divConf := val }

structure RateLock (K : Type) where
  port : Nat
  rebaseline : Bool
  baselineValid : Bool
  appliedPpm : K
  baseInt : Nat
  baseNum : Nat
  baseDen : Nat
  baseRatio : K
  outputRate : Nat
  baselineCorrectedPpm : K
  lastFracVal : Nat
  oursValid : Bool
  ditherLo : Nat
  ditherHi : Nat
  ditherDuty : Nat
  ditherOn : Bool
  sdAcc : Nat
  ditherGapPpm : K

def fracFieldsMask : Nat := 0x0FFFFFFF

def mclkMultiples : List Nat := [64, 128, 192, 256, 384, 512, 576, 768, 1024]

section Source

variable [Field K] [LinearOrder K] [FloorRing K]

def trimClampPpm : K := ((5000 : Nat) : K)
def i2sSrcHz : K := ((160000000 : Nat) : K)
def multMatchTol : K := ((1 : Nat) : K) / ((100 : Nat) : K)
def million : K := ((1000000 : Nat) : K)

def RateLock.fresh (port : Nat) : RateLock K :=
  { port := port
    rebaseline := true
    baselineValid := false
    appliedPpm := 0
    baseInt := 0
    baseNum := 0
    baseDen := 1
    baseRatio := 0
    outputRate := 0
    baselineCorrectedPpm := 0
    lastFracVal := 0
    oursValid := false
    ditherLo := 0
    ditherHi := 0
    ditherDuty := 0
    ditherOn := false
    sdAcc := 0
    ditherGapPpm := 0 }

def RateLock.setOutputRate (lock : RateLock K) (sampleRate : Nat) : RateLock K :=
  { lock with outputRate := sampleRate }

def RateLock.invalidateBaseline (lock : RateLock K) : RateLock K :=
  { lock with rebaseline := true }

def programmedRatio (divNum b a : Nat) : K := (divNum : K) + (b : K) / (a : K)

def idealRatio (rate mult : Nat) : K := i2sSrcHz / ((rate : K) * (mult : K))

/-- The exact divider that replaces the programmed one, where the output rate and a multiple
explain it and the integer part stays. -/
def correctedRatio (rate divNum b a : Nat) : Option K :=
  if rate = 0 then none
  else
    (mclkMultiples.find? (fun mult => decide (|idealRatio rate mult - programmedRatio divNum b a| /
      programmedRatio divNum b a ≤ (multMatchTol : K)))).bind (fun mult =>
        if ⌊(idealRatio rate mult : K)⌋.toNat = divNum then some (idealRatio rate mult) else none)

def baselineRatio (rate divNum b a : Nat) : K :=
  (correctedRatio rate divNum b a).getD (programmedRatio divNum b a)

def RateLock.recognises (lock : RateLock K) (frac : Nat) : Bool :=
  decide (frac = lock.lastFracVal) ||
    (lock.ditherOn && (decide (frac = lock.ditherLo) || decide (frac = lock.ditherHi)))

def RateLock.keepsBaseline (lock : RateLock K) (frac : Nat) : Bool :=
  lock.oursValid && lock.recognises frac && decide (0 < lock.baseRatio)

def RateLock.adoptBaseline (lock : RateLock K) (divNum frac b a : Nat) : RateLock K :=
  { lock with
    baseInt := divNum
    baseNum := b
    baseDen := a
    lastFracVal := frac
    baseRatio := baselineRatio lock.outputRate divNum b a
    baselineCorrectedPpm :=
      match correctedRatio lock.outputRate divNum b a with
      | some ideal => (programmedRatio divNum b a / ideal - 1) * million
      | none => 0 }

/-- `none` where the baseline cannot be read. -/
def RateLock.readBaseline (lock : RateLock K) (clock : ClockRegisters) : Option (RateLock K) :=
  if 1 < lock.port then none
  else if !clock.txClkActive then none
  else if clock.divNum < 2 then none
  else
    let frac := clock.divConf &&& fracFieldsMask
    if lock.keepsBaseline frac then some lock
    else
      match decodeFrac frac with
      | none => none
      | some (b, a) =>
          if encodeFrac b a = some frac then some (lock.adoptBaseline clock.divNum frac b a)
          else none

def RateLock.takeRebaseline (lock : RateLock K) : RateLock K :=
  if lock.rebaseline then
    { lock with
      rebaseline := false
      baselineValid := false
      appliedPpm := 0
      ditherOn := false }
  else lock

def RateLock.ensureBaseline (lock : RateLock K) (clock : ClockRegisters) : Option (RateLock K) :=
  if lock.baselineValid then some lock
  else (lock.readBaseline clock).map (fun read => { read with baselineValid := true })

def trimTarget (baseRatio ppm : K) : K :=
  baseRatio * (1 - clamp ppm (-trimClampPpm) trimClampPpm / million)

def trimFrac (baseRatio : K) (baseInt : Nat) (ppm : K) : K :=
  trimTarget baseRatio ppm - (baseInt : K)

def RateLock.applyExact (lock : RateLock K) (choice : FracChoice K) (loVal hiVal : Nat)
    (clock : ClockRegisters) : RateLock K × ClockRegisters :=
  let val := if choice.useLo then loVal else hiVal
  let appliedRatio := (lock.baseInt : K) + (if choice.useLo then choice.loV else choice.hiV)
  ({ lock with
      ditherOn := false
      lastFracVal := val
      ditherGapPpm := 0
      appliedPpm := (1 - appliedRatio / lock.baseRatio) * million
      oursValid := true },
    clock.store lock.lastFracVal val)

def RateLock.publishDither (lock : RateLock K) (choice : FracChoice K) (loVal hiVal : Nat)
    (target : K) : RateLock K :=
  { lock with
    ditherLo := loVal
    ditherHi := hiVal
    ditherDuty := (llround (choice.duty * ((65536 : Nat) : K))).toNat
    ditherOn := true
    ditherGapPpm := (choice.hiV - choice.loV) / lock.baseRatio * million
    appliedPpm := (1 - target / lock.baseRatio) * million
    oursValid := true }

/-- The trim on a baseline that is valid. `none` where an encoding divides by zero. -/
def RateLock.steer (lock : RateLock K) (clock : ClockRegisters) (ppm : K) :
    Option (Bool × RateLock K × ClockRegisters) :=
  let target := trimTarget lock.baseRatio ppm
  let frac := trimFrac lock.baseRatio lock.baseInt ppm
  if frac < 0 ∨ 1 ≤ frac then some (false, lock, clock)
  else
    let choice := pickFrac frac
    (encodeFrac choice.loB choice.loA).bind (fun loVal =>
      (encodeFrac choice.hiB choice.hiA).map (fun hiVal =>
        if choice.exact then (true, lock.applyExact choice loVal hiVal clock)
        else (true, lock.publishDither choice loVal hiVal target, clock)))

def RateLock.setTrimPpm (lock : RateLock K) (clock : ClockRegisters) (ppm : K) :
    Option (Bool × RateLock K × ClockRegisters) :=
  let lock := lock.takeRebaseline
  match lock.ensureBaseline clock with
  | none => some (false, lock, clock)
  | some ready => ready.steer clock ppm

def RateLock.want (lock : RateLock K) : Nat :=
  if (sigmaDeltaStep lock.ditherDuty lock.sdAcc).1 then lock.ditherHi else lock.ditherLo

def RateLock.tick (lock : RateLock K) (clock : ClockRegisters) : RateLock K × ClockRegisters :=
  if lock.ditherOn then
    ({ lock with
        sdAcc := (sigmaDeltaStep lock.ditherDuty lock.sdAcc).2
        lastFracVal := lock.want },
      clock.store lock.lastFracVal lock.want)
  else (lock, clock)

end Source

section Encoder

variable [Field K] [LinearOrder K] [IsStrictOrderedRing K] [FloorRing K]

def topRatio : K := ((510 : Nat) : K) / ((511 : Nat) : K)

theorem registerRatios_le_top {v : K} (ratio : v ∈ registerRatios) : v ≤ topRatio := by
  obtain ⟨b, a, proper, within, rfl⟩ := ratio
  have small : a ≤ 511 := within
  have denominator : (0 : K) < (a : K) := Nat.cast_pos.mpr (Nat.zero_lt_of_lt proper)
  rw [topRatio, div_le_div_iff₀ denominator (Nat.cast_pos.mpr (by decide)), ← Nat.cast_mul,
    ← Nat.cast_mul, Nat.cast_le]
  omega

omit [LinearOrder K] [IsStrictOrderedRing K] [FloorRing K] in
theorem topRatio_mem : (topRatio : K) ∈ registerRatios :=
  ⟨510, 511, by decide, by decide, rfl⟩

/-- The search finds an upper end exactly up to the highest ratio there is. -/
theorem pickFrac_hi_iff (frac : K) (nonneg : 0 ≤ frac) (proper : frac < 1) :
    (pickFrac frac).hiB < (pickFrac frac).hiA ↔ frac ≤ topRatio := by
  have hi := pickFrac_hiEnd frac nonneg proper
  constructor
  · intro found
    exact hi.above.trans (registerRatios_le_top (hi.isLeast found).1.1.1)
  · intro below
    by_contra missing
    have none := (hi.none_above missing).2.2.2
    have top : (topRatio : K) ∈ {v ∈ registerRatios | frac ≤ v} := ⟨topRatio_mem, below⟩
    rw [none] at top
    exact top

theorem pickFrac_hi_default (frac : K) (nonneg : 0 ≤ frac) (proper : frac < 1)
    (beyond : topRatio < frac) : (pickFrac frac).hiB = 1 ∧ (pickFrac frac).hiA = 1 := by
  have missing : ¬ (pickFrac frac).hiB < (pickFrac frac).hiA := by
    rw [pickFrac_hi_iff frac nonneg proper]
    exact not_le.mpr beyond
  have default := (pickFrac_hiEnd frac nonneg proper).none_above missing
  exact ⟨default.1, default.2.1⟩

def Encodes (b a : Nat) (v : K) : Prop :=
  ∃ val numerator denominator, encodeFrac b a = some val ∧
    decodeFrac val = some (numerator, denominator) ∧ (numerator : K) / (denominator : K) = v

omit [LinearOrder K] [IsStrictOrderedRing K] [FloorRing K] in
theorem encodes_of_proper (b a : Nat) (v : K) (value : v = (b : K) / (a : K)) (proper : b < a)
    (within : a ≤ fracMaxDenominator) : Encodes b a v := by
  obtain ⟨val, encoded, decoded⟩ := decodeFrac_encodeFrac b a proper within
  by_cases zero : b = 0
  · rw [if_pos zero] at decoded
    refine ⟨val, 0, 1, encoded, decoded, ?_⟩
    rw [value, zero, Nat.cast_zero, zero_div, zero_div]
  · rw [if_neg zero] at decoded
    exact ⟨val, b, a, encoded, decoded, value.symm⟩

theorem pickFrac_lo_encodes (frac : K) (nonneg : 0 ≤ frac) (proper : frac < 1) :
    (pickFrac frac).loB < (pickFrac frac).loA ∧
      Encodes (pickFrac frac).loB (pickFrac frac).loA (pickFrac frac).loV := by
  have lo := pickFrac_loEnd frac nonneg proper
  exact ⟨lo.ratio.1,
    encodes_of_proper _ _ _ lo.value lo.ratio.1 (Nat.le_of_lt_succ lo.ratio.2)⟩

theorem pickFrac_hi_encodes (frac : K) (nonneg : 0 ≤ frac) (proper : frac < 1)
    (found : (pickFrac frac).hiB < (pickFrac frac).hiA) :
    Encodes (pickFrac frac).hiB (pickFrac frac).hiA (pickFrac frac).hiV := by
  have hi := pickFrac_hiEnd frac nonneg proper
  exact encodes_of_proper _ _ _ hi.value found (hi.isLeast found).2

/-- A trim divides by zero exactly where its target lies above every ratio of the register. -/
theorem steer_eq_none_iff (lock : RateLock K) (clock : ClockRegisters) (ppm : K) :
    lock.steer clock ppm = none ↔
      topRatio < trimFrac lock.baseRatio lock.baseInt ppm ∧
        trimFrac lock.baseRatio lock.baseInt ppm < 1 := by
  have topNonneg : (0 : K) ≤ topRatio := by
    rw [topRatio]
    exact div_nonneg (Nat.cast_nonneg _) (Nat.cast_nonneg _)
  rw [RateLock.steer]
  by_cases outside : trimFrac lock.baseRatio lock.baseInt ppm < 0 ∨
      1 ≤ trimFrac lock.baseRatio lock.baseInt ppm
  · rw [if_pos outside]
    constructor
    · intro impossible
      cases impossible
    · rintro ⟨beyond, proper⟩
      rcases outside with negative | whole
      · exact absurd (topNonneg.trans_lt beyond) (not_lt.mpr negative.le)
      · exact absurd proper (not_lt.mpr whole)
  · rw [if_neg outside]
    obtain ⟨notNegative, notWhole⟩ := not_or.mp outside
    have nonneg := not_lt.mp notNegative
    have proper := not_le.mp notWhole
    obtain ⟨_, loVal, _, _, loEncoded, _⟩ := pickFrac_lo_encodes _ nonneg proper
    dsimp only
    rw [loEncoded, Option.bind_some, Option.map_eq_none_iff]
    constructor
    · intro undefined
      refine ⟨not_le.mp (fun below => ?_), proper⟩
      have found := (pickFrac_hi_iff _ nonneg proper).mpr below
      obtain ⟨hiVal, _, _, hiEncoded, _⟩ := pickFrac_hi_encodes _ nonneg proper found
      rw [undefined] at hiEncoded
      cases hiEncoded
    · rintro ⟨beyond, _⟩
      obtain ⟨numerator, denominator⟩ := pickFrac_hi_default _ nonneg proper beyond
      rw [numerator, denominator]
      exact encodeFrac_one

end Encoder

end I2sRateLock
