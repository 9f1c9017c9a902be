import SnapcastSync.Lib.Run
import SnapcastSync.Engine.Restoring
import SnapcastSync.Player.TimingStep

/-! `set_servo_param`: the tunables by name, each with the check of its own branch, and what the
values they are left at make of the profile that the engine steps with. -/

namespace Player

open Timing

variable {K : Type} [Field K] [LinearOrder K] [FloorRing K]

def trimClampMaxPpm : K := ((2000 : Nat) : K)

structure ServoParams (K : Type) where
  errTauHorizons : FloatValue K
  rateFilterLagUs : Int
  ratewhyPpm : FloatValue K
  commonDrainS : FloatValue K
  compensateGdFilter : Bool
  positionNeedsDiff : Bool
  kpFromDiffSigma : Bool
  commonTargetUs : Int
  commonAuthorityPpm : FloatValue K
  splitRampUsPerS : FloatValue K
  rateAuthorityPpm : FloatValue K
  timingTargetUs : Int
  tagStaleMs : Int
  blankMs : Int
  gapBlankMs : Int
  alignMaxUs : Int
  alignApply : Bool
  alignRecentreUs : Int
  alignGain : FloatValue K
  alignDeadbandUs : Int
  alignRejectUs : Int
  alignStepUs : Int
  resyncWinS : FloatValue K
  resyncBlankMs : Int
  persist : Bool

/-- What some branches write beside the tunables, and other code writes as well: the engine, the
saved crystal, the render bias with its copies, and the kick that is asked for. -/
structure ServoState (K : Type) where
  timingEngine : Engine K
  dlIntegralPref : Option K
  crystalSavedPpm : K
  crystalSavedAtUs : Int
  renderBiasUs : Int
  tsfRenderBiasUs : Option Int
  alignBiasPref : Option Int
  biasKickRequestUs : K

structure Servo (K : Type) where
  tune : ServoParams K
  state : ServoState K

structure ServoCall (K : Type) where
  name : String
  value : FloatValue K
  nowUs : Int
  saves : Bool

/-- The tunables of a fresh client, with the bound that the configuration puts on the bias. -/
def ServoParams.initial (renderAlignMaxUs : Int) : ServoParams K :=
  { errTauHorizons := .finite 1
    rateFilterLagUs := 0
    ratewhyPpm := .finite ((5 : Nat) : K)
    commonDrainS := .finite 0
    compensateGdFilter := false
    positionNeedsDiff := true
    kpFromDiffSigma := false
    commonTargetUs := 5000
    commonAuthorityPpm := .finite ((50 : Nat) : K)
    splitRampUsPerS := .finite ((100 : Nat) : K)
    rateAuthorityPpm := .finite ((150 : Nat) : K)
    timingTargetUs := 10
    tagStaleMs := 1000
    blankMs := 500
    gapBlankMs := 50
    alignMaxUs := renderAlignMaxUs
    alignApply := true
    alignRecentreUs := 2
    alignGain := .finite (((5033165 : Nat) : K) / ((16777216 : Nat) : K))
    alignDeadbandUs := 1
    alignRejectUs := 500
    alignStepUs := 20
    resyncWinS := .finite ((60 : Nat) : K)
    resyncBlankMs := 1200
    persist := true }

/-- What a branch answers and leaves; none where it converts a value that has no conversion. -/
abbrev ServoAnswer (K : Type) := Option (Bool × Servo K)

namespace Servo

variable (servo : Servo K)

def answer (refused : Bool) (stored : Servo K) : ServoAnswer K :=
  if refused then some (false, servo) else some (true, stored)

def answerInt (refused : Bool) (value : FloatValue K) (stored : Int → Servo K) : ServoAnswer K :=
  if refused then some (false, servo) else value.toInt32?.map fun number => (true, stored number)

def storeFloat (value : FloatValue K) (lo hi : K) (stored : ServoParams K) : ServoAnswer K :=
  servo.answer (value.outside lo hi) { servo with tune := stored }

def storeBetween (value : FloatValue K) (lo hi : K) (stored : ServoParams K) : ServoAnswer K :=
  servo.answer (value.notBetween lo hi) { servo with tune := stored }

def storeInt (value : FloatValue K) (lo hi : Int) (stored : Int → ServoParams K) :
    ServoAnswer K :=
  servo.answerInt (value.notBetween (lo : K) (hi : K)) value fun number =>
    { servo with tune := stored number }

def storeSwitch (value : FloatValue K) (stored : Bool → ServoParams K) : ServoAnswer K :=
  servo.answer (value.outside 0 1)
    { servo with tune := stored (value.ge (1 / ((2 : Nat) : K))) }

def setCrystalPpm (call : ServoCall K) : ServoAnswer K :=
  let engine := servo.state.timingEngine.setCrystalPpm call.value.number?
  servo.answer (!call.value.isFinite || call.value.abs.gt trimClampMaxPpm)
    { servo with
      state :=
        if call.saves then
          { servo.state with
            timingEngine := engine
            dlIntegralPref := some engine.crystalPpm
            crystalSavedPpm := engine.crystalPpm
            crystalSavedAtUs := call.nowUs }
        else { servo.state with timingEngine := engine } }

def setErrTauHorizons (call : ServoCall K) : ServoAnswer K :=
  servo.storeFloat call.value (((13421773 : Nat) : K) / ((134217728 : Nat) : K)) ((4 : Nat) : K)
    { servo.tune with errTauHorizons := call.value }

/-- A filter is off or not shorter than 20 ms. -/
def setRateFilterLagUs (call : ServoCall K) : ServoAnswer K :=
  servo.answerInt
    (call.value.outside ((0 : Int) : K) ((3000000 : Int) : K) ||
      (call.value.gt 0 && call.value.lt ((20000 : Nat) : K)))
    call.value fun number =>
      { servo with tune := { servo.tune with rateFilterLagUs := number } }

def setRatewhyPpm (call : ServoCall K) : ServoAnswer K :=
  servo.storeFloat call.value (1 / ((2 : Nat) : K)) ((500 : Nat) : K)
    { servo.tune with ratewhyPpm := call.value }

/-- A drain is off or takes from 30 s to an hour. -/
def setCommonDrainS (call : ServoCall K) : ServoAnswer K :=
  servo.answer
    (!call.value.isFinite ||
      (call.value.ne 0 && (call.value.lt ((30 : Nat) : K) || call.value.gt ((3600 : Nat) : K))))
    { servo with tune := { servo.tune with commonDrainS := call.value } }

def setCompensateGdFilter (call : ServoCall K) : ServoAnswer K :=
  servo.storeSwitch call.value fun on => { servo.tune with compensateGdFilter := on }

def setPositionNeedsDiff (call : ServoCall K) : ServoAnswer K :=
  servo.storeSwitch call.value fun on => { servo.tune with positionNeedsDiff := on }

def setKpFromDiffSigma (call : ServoCall K) : ServoAnswer K :=
  servo.storeSwitch call.value fun on => { servo.tune with kpFromDiffSigma := on }

def setCommonTargetUs (call : ServoCall K) : ServoAnswer K :=
  servo.answerInt (call.value.outside ((0 : Int) : K) ((40000 : Int) : K)) call.value
    fun number => { servo with tune := { servo.tune with commonTargetUs := number } }

def setCommonAuthorityPpm (call : ServoCall K) : ServoAnswer K :=
  servo.storeFloat call.value 0 ((200 : Nat) : K)
    { servo.tune with commonAuthorityPpm := call.value }

def setSplitRampUsPerS (call : ServoCall K) : ServoAnswer K :=
  servo.storeFloat call.value ((10 : Nat) : K) ((2000 : Nat) : K)
    { servo.tune with splitRampUsPerS := call.value }

def setRateAuthorityPpm (call : ServoCall K) : ServoAnswer K :=
  servo.storeFloat call.value ((30 : Nat) : K) ((180 : Nat) : K)
    { servo.tune with rateAuthorityPpm := call.value }

/-- The one branch without a check. -/
def setTimingTargetUs (call : ServoCall K) : ServoAnswer K :=
  servo.answerInt false call.value fun number =>
    { servo with tune := { servo.tune with timingTargetUs := number } }

def setTagStaleMs (call : ServoCall K) : ServoAnswer K :=
  servo.storeInt call.value 200 10000 fun number => { servo.tune with tagStaleMs := number }

def setBlankMs (call : ServoCall K) : ServoAnswer K :=
  servo.storeInt call.value 100 2000 fun number => { servo.tune with blankMs := number }

def setGapBlankMs (call : ServoCall K) : ServoAnswer K :=
  servo.storeInt call.value 10 500 fun number => { servo.tune with gapBlankMs := number }

/-- Turned off, the channel also takes back the bias that it left, the stored one as well. -/
def setAlignMaxUs (call : ServoCall K) : ServoAnswer K :=
  servo.answerInt (call.value.notBetween ((0 : Int) : K) ((20000 : Int) : K)) call.value
    fun number =>
    { tune := { servo.tune with alignMaxUs := number }
      state :=
        if call.value.ne 0 then servo.state
        else
          { servo.state with
            renderBiasUs := 0
            tsfRenderBiasUs := servo.state.tsfRenderBiasUs.map fun _ => 0
            alignBiasPref := if call.saves then some 0 else servo.state.alignBiasPref } }

def setAlignBiasUs (kick : Bool) (call : ServoCall K) : ServoAnswer K :=
  servo.answerInt (call.value.notBetween ((-20000 : Int) : K) ((20000 : Int) : K)) call.value
    fun after =>
      { servo with
        state :=
          { servo.state with
            renderBiasUs := after
            biasKickRequestUs :=
              if kick then
                servo.state.biasKickRequestUs + ((after - servo.state.renderBiasUs : Int) : K)
              else servo.state.biasKickRequestUs } }

def setAlignApply (call : ServoCall K) : ServoAnswer K :=
  servo.answer false
    { servo with tune := { servo.tune with alignApply := call.value.ne 0 } }

def setAlignRecentreUs (call : ServoCall K) : ServoAnswer K :=
  servo.storeInt call.value 0 20 fun number => { servo.tune with alignRecentreUs := number }

def setAlignGain (call : ServoCall K) : ServoAnswer K :=
  servo.storeBetween call.value 0 1 { servo.tune with alignGain := call.value }

def setAlignDeadbandUs (call : ServoCall K) : ServoAnswer K :=
  servo.storeInt call.value 0 1000 fun number => { servo.tune with alignDeadbandUs := number }

def setAlignRejectUs (call : ServoCall K) : ServoAnswer K :=
  servo.storeInt call.value 10 20000 fun number => { servo.tune with alignRejectUs := number }

def setAlignStepUs (call : ServoCall K) : ServoAnswer K :=
  servo.storeInt call.value 1 200 fun number => { servo.tune with alignStepUs := number }

def setResyncWinS (call : ServoCall K) : ServoAnswer K :=
  servo.storeBetween call.value 0 ((600 : Nat) : K) { servo.tune with resyncWinS := call.value }

def setResyncBlankMs (call : ServoCall K) : ServoAnswer K :=
  servo.storeInt call.value 50 2000 fun number => { servo.tune with resyncBlankMs := number }

def setPersist (call : ServoCall K) : ServoAnswer K :=
  servo.answer false { servo with tune := { servo.tune with persist := call.value.ne 0 } }

end Servo

def servoBranches : List (String × (Servo K → ServoCall K → ServoAnswer K)) :=
  [("crystal_ppm", Servo.setCrystalPpm),
    ("err_tau_horizons", Servo.setErrTauHorizons),
    ("rate_filter_lag_us", Servo.setRateFilterLagUs),
    ("ratewhy_ppm", Servo.setRatewhyPpm),
    ("common_drain_s", Servo.setCommonDrainS),
    ("compensate_gd_filter", Servo.setCompensateGdFilter),
    ("position_needs_diff", Servo.setPositionNeedsDiff),
    ("kp_from_diff_sigma", Servo.setKpFromDiffSigma),
    ("common_target_us", Servo.setCommonTargetUs),
    ("common_authority_ppm", Servo.setCommonAuthorityPpm),
    ("split_ramp_us_per_s", Servo.setSplitRampUsPerS),
    ("rate_authority_ppm", Servo.setRateAuthorityPpm),
    ("timing_target_us", Servo.setTimingTargetUs),
    ("tag_stale_ms", Servo.setTagStaleMs),
    ("blank_ms", Servo.setBlankMs),
    ("gap_blank_ms", Servo.setGapBlankMs),
    ("align_max_us", Servo.setAlignMaxUs),
    ("align_bias_us", fun servo => servo.setAlignBiasUs false),
    ("align_bias_kick_us", fun servo => servo.setAlignBiasUs true),
    ("align_apply", Servo.setAlignApply),
    ("align_recentre_us", Servo.setAlignRecentreUs),
    ("align_gain", Servo.setAlignGain),
    ("align_deadband_us", Servo.setAlignDeadbandUs),
    ("align_reject_us", Servo.setAlignRejectUs),
    ("align_step_us", Servo.setAlignStepUs),
    ("resync_win_s", Servo.setResyncWinS),
    ("resync_blank_ms", Servo.setResyncBlankMs),
    ("persist", Servo.setPersist)]

/-- `set_servo_param`. -/
def Servo.setServoParam (servo : Servo K) (call : ServoCall K) : ServoAnswer K :=
  match servoBranches.find? fun branch => branch.1 = call.name with
  | some branch => branch.2 servo call
  | none => some (false, servo)

namespace ServoParams

def floats (tune : ServoParams K) : List (FloatValue K) :=
  [tune.errTauHorizons, tune.ratewhyPpm, tune.commonDrainS, tune.commonAuthorityPpm,
    tune.splitRampUsPerS, tune.rateAuthorityPpm, tune.alignGain, tune.resyncWinS]

/-- What `timing_step_` loads, where it is numbers. -/
def tuning (tune : ServoParams K) : Option (Tuning K) :=
  match tune.rateAuthorityPpm, tune.errTauHorizons, tune.commonDrainS, tune.commonAuthorityPpm with
  | .finite rateAuthorityPpm, .finite errTauHorizons, .finite commonDrainS,
      .finite commonAuthorityPpm =>
      some
        { rateAuthorityPpm := rateAuthorityPpm
          errTauHorizons := errTauHorizons
          rateFilterLagUs := tune.rateFilterLagUs
          timingTargetUs := tune.timingTargetUs
          commonTargetUs := tune.commonTargetUs
          kpFromDiffSigma := tune.kpFromDiffSigma
          positionNeedsDiff := tune.positionNeedsDiff
          compensateGdFilter := tune.compensateGdFilter
          commonDrainS := commonDrainS
          commonAuthorityPpm := commonAuthorityPpm }
  | _, _, _, _ => none

/-- Finite values, with which no profile is built that has a negative budget, gain, authority or
horizon, or that answers an error with its opposite. -/
structure Sound (tune : ServoParams K) : Prop where
  finite : ∀ value ∈ tune.floats, value.isFinite = true
  profile : ∃ tuning, tune.tuning = some tuning ∧ ∀ depths sampleRate interval,
    (timingProfile tuning depths sampleRate interval).NonNegative ∧
      (timingProfile tuning depths sampleRate interval).Restoring

structure InRange (tune : ServoParams K) : Prop where
  errTauHorizons : tune.errTauHorizons.Within 0 ((4 : Nat) : K)
  ratewhyPpm : tune.ratewhyPpm.Within 0 ((500 : Nat) : K)
  commonDrainS : tune.commonDrainS.Within 0 ((3600 : Nat) : K)
  commonAuthorityPpm : tune.commonAuthorityPpm.Within 0 ((200 : Nat) : K)
  splitRampUsPerS : tune.splitRampUsPerS.Within 0 ((2000 : Nat) : K)
  rateAuthorityPpm : tune.rateAuthorityPpm.Within 0 ((180 : Nat) : K)
  alignGain : tune.alignGain.Within 0 1
  resyncWinS : tune.resyncWinS.Within 0 ((600 : Nat) : K)

section Profile

variable [IsStrictOrderedRing K]

theorem initial_inRange (renderAlignMaxUs : Int) :
    (initial renderAlignMaxUs : ServoParams K).InRange := by
  have natural (low high : Nat) (ordered : low ≤ high) :
      (FloatValue.finite ((low : Nat) : K)).Within 0 ((high : Nat) : K) :=
    ⟨_, rfl, Nat.cast_nonneg low, Nat.cast_le.mpr ordered⟩
  have gain : (FloatValue.finite (((5033165 : Nat) : K) / ((16777216 : Nat) : K))).Within 0
      1 :=
    ⟨_, rfl, by positivity, by norm_num⟩
  have one := natural 1 4 (by decide)
  have off := natural 0 3600 (by decide)
  rw [Nat.cast_one] at one
  rw [Nat.cast_zero] at off
  exact
    { errTauHorizons := one
      ratewhyPpm := natural 5 500 (by decide)
      commonDrainS := off
      commonAuthorityPpm := natural 50 200 (by decide)
      splitRampUsPerS := natural 100 2000 (by decide)
      rateAuthorityPpm := natural 150 180 (by decide)
      alignGain := gain
      resyncWinS := natural 60 600 (by decide) }

omit [FloorRing K] in
theorem observationDelay_nonneg (depths : Depths) : 0 ≤ observationDelayUs depths := by
  rw [observationDelayUs]
  split
  · exact le_max_of_le_right (by decide)
  · exact le_trans (by decide) (Rounding.clamp_mem _ 100000 5000000 (by decide)).1

/-- Between their bounds, the tunables are sound for just the targets that are not negative. -/
theorem InRange.sound_iff {tune : ServoParams K} (inRange : tune.InRange) :
    tune.Sound ↔ 0 ≤ tune.timingTargetUs := by
  obtain ⟨horizons, horizonsIs, horizonsAbove, _⟩ := inRange.errTauHorizons
  obtain ⟨drain, drainIs, drainAbove, _⟩ := inRange.commonDrainS
  obtain ⟨common, commonIs, commonAbove, _⟩ := inRange.commonAuthorityPpm
  obtain ⟨rate, rateIs, rateAbove, _⟩ := inRange.rateAuthorityPpm
  have loaded : tune.tuning = some
      { rateAuthorityPpm := rate
        errTauHorizons := horizons
        rateFilterLagUs := tune.rateFilterLagUs
        timingTargetUs := tune.timingTargetUs
        commonTargetUs := tune.commonTargetUs
        kpFromDiffSigma := tune.kpFromDiffSigma
        positionNeedsDiff := tune.positionNeedsDiff
        compensateGdFilter := tune.compensateGdFilter
        commonDrainS := drain
        commonAuthorityPpm := common } := by
    rw [tuning, rateIs, horizonsIs, drainIs, commonIs]
  have lagged (interval : ObsInterval) : 0 < max interval.timingObsIntervalUs minObsIntervalUs :=
    lt_max_of_lt_right (by decide)
  constructor
  · intro sound
    obtain ⟨tuning, some_, profiles⟩ := sound.profile
    rw [loaded] at some_
    cases some_
    have built := (profiles ⟨0, 0, 0, 0, 0⟩ 44100 ObsInterval.initial).1
    exact (Profile.noiseBudget_nonneg_iff _ (add_pos_of_pos_of_nonneg
      (lagged ObsInterval.initial) built.filterLag)).mp built.noiseBudget
  · intro target
    refine ⟨?_, _, loaded, ?_⟩
    · have number {value : FloatValue K} {lo hi : K} (within : value.Within lo hi) :
          value.isFinite = true := by
        obtain ⟨number, rfl, _⟩ := within
        rfl
      rw [floats, List.forall_mem_cons, List.forall_mem_cons, List.forall_mem_cons,
        List.forall_mem_cons, List.forall_mem_cons, List.forall_mem_cons, List.forall_mem_cons,
        List.forall_mem_singleton]
      exact ⟨number inRange.errTauHorizons, number inRange.ratewhyPpm,
        number inRange.commonDrainS, number inRange.commonAuthorityPpm,
        number inRange.splitRampUsPerS, number inRange.rateAuthorityPpm,
        number inRange.alignGain, number inRange.resyncWinS⟩
    · intro depths sampleRate interval
      refine ⟨?nonNegative, Profile.NonNegative.restoring ?nonNegative⟩
      exact Profile.nonNegative_of _ target rateAbove commonAbove horizonsAbove
        (observationDelay_nonneg depths) (lagged interval)

end Profile

end ServoParams

namespace Servo

def Kept (servo after : Servo K) : Prop :=
  after.tune.InRange ∧ after.tune.timingTargetUs = servo.tune.timingTargetUs

/-- A branch that has an answer to every value, and keeps the bounds and the target. -/
def Validates (branch : Servo K → ServoCall K → ServoAnswer K) : Prop :=
  ∀ servo call, servo.tune.InRange →
    ∃ accepted after, branch servo call = some (accepted, after) ∧ servo.Kept after

section Branches

variable (servo : Servo K) (inRange : servo.tune.InRange)

include inRange

omit [FloorRing K] in
theorem answer_kept (refused : Bool) (stored : Servo K)
    (kept : refused = false → servo.Kept stored) :
    ∃ accepted after, servo.answer refused stored = some (accepted, after) ∧ servo.Kept after := by
  cases refused with
  | true => exact ⟨false, servo, rfl, inRange, rfl⟩
  | false => exact ⟨true, stored, rfl, kept rfl⟩

variable [IsStrictOrderedRing K]

theorem answerInt_kept (refused : Bool) (value : FloatValue K) (lo hi : Int)
    (stored : Int → Servo K) (low : -2 ^ 31 ≤ lo) (high : hi < 2 ^ 31)
    (within : refused = false → value.Within (lo : K) (hi : K))
    (kept : ∀ number, servo.Kept (stored number)) :
    ∃ accepted after, servo.answerInt refused value stored = some (accepted, after) ∧
      servo.Kept after := by
  cases refused with
  | true => exact ⟨false, servo, rfl, inRange, rfl⟩
  | false =>
      obtain ⟨number, converted, _⟩ :=
        FloatValue.Within.toInt32? value lo hi (within rfl) low high
      refine ⟨true, stored number, ?_, kept number⟩
      rw [answerInt, if_neg Bool.false_ne_true, converted, Option.map_some]

theorem storeInt_kept (value : FloatValue K) (lo hi : Int) (stored : Int → ServoParams K)
    (low : -2 ^ 31 ≤ lo) (high : hi < 2 ^ 31) (kept : ∀ number, (stored number).InRange ∧
      (stored number).timingTargetUs = servo.tune.timingTargetUs) :
    ∃ accepted after, servo.storeInt value lo hi stored = some (accepted, after) ∧
      servo.Kept after :=
  servo.answerInt_kept inRange _ value lo hi _ low high (value.notBetween_iff _ _).mp kept

omit [IsStrictOrderedRing K] [FloorRing K] in
theorem storeFloat_kept (value : FloatValue K) (lo hi : K) (stored : ServoParams K)
    (kept : value.Within lo hi →
      stored.InRange ∧ stored.timingTargetUs = servo.tune.timingTargetUs) :
    ∃ accepted after, servo.storeFloat value lo hi stored = some (accepted, after) ∧
      servo.Kept after :=
  servo.answer_kept inRange _ _ fun inside => kept ((value.outside_iff lo hi).mp inside)

omit [IsStrictOrderedRing K] [FloorRing K] in
theorem storeBetween_kept (value : FloatValue K) (lo hi : K) (stored : ServoParams K)
    (kept : value.Within lo hi →
      stored.InRange ∧ stored.timingTargetUs = servo.tune.timingTargetUs) :
    ∃ accepted after, servo.storeBetween value lo hi stored = some (accepted, after) ∧
      servo.Kept after :=
  servo.answer_kept inRange _ _ fun inside => kept ((value.notBetween_iff _ _).mp inside)

omit [IsStrictOrderedRing K] [FloorRing K] in
theorem storeSwitch_kept (value : FloatValue K) (stored : Bool → ServoParams K)
    (kept : ∀ on, (stored on).InRange ∧
      (stored on).timingTargetUs = servo.tune.timingTargetUs) :
    ∃ accepted after, servo.storeSwitch value stored = some (accepted, after) ∧
      servo.Kept after :=
  servo.answer_kept inRange _ _ fun _ => kept _

end Branches

section Validation

section Stored

omit [FloorRing K]

theorem setCrystalPpm_validates : Validates (K := K) setCrystalPpm := by
  intro servo call inRange
  exact servo.answer_kept inRange _ _ fun _ => ⟨{ inRange with }, rfl⟩

theorem setCompensateGdFilter_validates : Validates (K := K) setCompensateGdFilter := by
  intro servo call inRange
  exact servo.storeSwitch_kept inRange _ _ fun _ => ⟨{ inRange with }, rfl⟩

theorem setPositionNeedsDiff_validates : Validates (K := K) setPositionNeedsDiff := by
  intro servo call inRange
  exact servo.storeSwitch_kept inRange _ _ fun _ => ⟨{ inRange with }, rfl⟩

theorem setKpFromDiffSigma_validates : Validates (K := K) setKpFromDiffSigma := by
  intro servo call inRange
  exact servo.storeSwitch_kept inRange _ _ fun _ => ⟨{ inRange with }, rfl⟩

theorem setCommonAuthorityPpm_validates : Validates (K := K) setCommonAuthorityPpm := by
  intro servo call inRange
  exact servo.storeFloat_kept inRange _ _ _ _ fun within =>
    ⟨{ inRange with commonAuthorityPpm := within.mono le_rfl le_rfl }, rfl⟩

theorem setAlignApply_validates : Validates (K := K) setAlignApply := by
  intro servo call inRange
  exact servo.answer_kept inRange _ _ fun _ => ⟨{ inRange with }, rfl⟩

theorem setAlignGain_validates : Validates (K := K) setAlignGain := by
  intro servo call inRange
  exact servo.storeBetween_kept inRange _ _ _ _ fun within =>
    ⟨{ inRange with alignGain := within }, rfl⟩

theorem setResyncWinS_validates : Validates (K := K) setResyncWinS := by
  intro servo call inRange
  exact servo.storeBetween_kept inRange _ _ _ _ fun within =>
    ⟨{ inRange with resyncWinS := within }, rfl⟩

theorem setPersist_validates : Validates (K := K) setPersist := by
  intro servo call inRange
  exact servo.answer_kept inRange _ _ fun _ => ⟨{ inRange with }, rfl⟩

variable [IsStrictOrderedRing K]

theorem drain_within (value : FloatValue K)
    (accepted : (!value.isFinite ||
      (value.ne 0 && (value.lt ((30 : Nat) : K) || value.gt ((3600 : Nat) : K)))) = false) :
    value.Within 0 ((3600 : Nat) : K) := by
  rw [Bool.or_eq_false_iff, Bool.and_eq_false_iff] at accepted
  obtain ⟨finite, off | bounded⟩ := accepted
  · cases value with
    | finite number =>
        rw [FloatValue.ne, decide_eq_false_iff_not, not_not] at off
        exact ⟨number, rfl, off.ge, off.le.trans (Nat.cast_nonneg _)⟩
    | infinite negative => cases finite
    | nan => cases finite
  · have inside : value.outside ((30 : Nat) : K) ((3600 : Nat) : K) = false := by
      rw [FloatValue.outside, Bool.or_assoc, finite, bounded]
      rfl
    exact ((value.outside_iff _ _).mp inside).mono (Nat.cast_nonneg _) le_rfl

theorem setErrTauHorizons_validates : Validates (K := K) setErrTauHorizons := by
  intro servo call inRange
  exact servo.storeFloat_kept inRange _ _ _ _ fun within =>
    ⟨{ inRange with errTauHorizons := within.mono (by positivity) le_rfl }, rfl⟩

theorem setRatewhyPpm_validates : Validates (K := K) setRatewhyPpm := by
  intro servo call inRange
  exact servo.storeFloat_kept inRange _ _ _ _ fun within =>
    ⟨{ inRange with ratewhyPpm := within.mono (by positivity) le_rfl }, rfl⟩

theorem setCommonDrainS_validates : Validates (K := K) setCommonDrainS := by
  intro servo call inRange
  exact servo.answer_kept inRange _ _ fun accepted =>
    ⟨{ inRange with commonDrainS := drain_within call.value accepted }, rfl⟩

theorem setSplitRampUsPerS_validates : Validates (K := K) setSplitRampUsPerS := by
  intro servo call inRange
  exact servo.storeFloat_kept inRange _ _ _ _ fun within =>
    ⟨{ inRange with splitRampUsPerS := within.mono (by positivity) le_rfl }, rfl⟩

theorem setRateAuthorityPpm_validates : Validates (K := K) setRateAuthorityPpm := by
  intro servo call inRange
  exact servo.storeFloat_kept inRange _ _ _ _ fun within =>
    ⟨{ inRange with rateAuthorityPpm := within.mono (by positivity) le_rfl }, rfl⟩

end Stored

variable [IsStrictOrderedRing K]

theorem setRateFilterLagUs_validates : Validates (K := K) setRateFilterLagUs := by
  intro servo call inRange
  refine servo.answerInt_kept inRange _ _ 0 3000000 _ (by decide) (by decide) ?_ fun _ =>
    ⟨{ inRange with }, rfl⟩
  intro accepted
  rw [Bool.or_eq_false_iff] at accepted
  exact (call.value.outside_iff _ _).mp accepted.1

theorem setCommonTargetUs_validates : Validates (K := K) setCommonTargetUs := by
  intro servo call inRange
  exact servo.answerInt_kept inRange _ _ 0 40000 _ (by decide) (by decide)
    (call.value.outside_iff _ _).mp fun _ => ⟨{ inRange with }, rfl⟩

theorem setTagStaleMs_validates : Validates (K := K) setTagStaleMs := by
  intro servo call inRange
  exact servo.storeInt_kept inRange _ _ _ _ (by decide) (by decide) fun _ =>
    ⟨{ inRange with }, rfl⟩

theorem setBlankMs_validates : Validates (K := K) setBlankMs := by
  intro servo call inRange
  exact servo.storeInt_kept inRange _ _ _ _ (by decide) (by decide) fun _ =>
    ⟨{ inRange with }, rfl⟩

theorem setGapBlankMs_validates : Validates (K := K) setGapBlankMs := by
  intro servo call inRange
  exact servo.storeInt_kept inRange _ _ _ _ (by decide) (by decide) fun _ =>
    ⟨{ inRange with }, rfl⟩

theorem setAlignMaxUs_validates : Validates (K := K) setAlignMaxUs := by
  intro servo call inRange
  exact servo.answerInt_kept inRange _ _ 0 20000 _ (by decide) (by decide)
    (call.value.notBetween_iff _ _).mp fun _ => ⟨{ inRange with }, rfl⟩

theorem setAlignBiasUs_validates (kick : Bool) :
    Validates (K := K) fun servo => servo.setAlignBiasUs kick := by
  intro servo call inRange
  exact servo.answerInt_kept inRange _ _ (-20000) 20000 _ (by decide) (by decide)
    (call.value.notBetween_iff _ _).mp fun _ => ⟨inRange, rfl⟩

theorem setAlignRecentreUs_validates : Validates (K := K) setAlignRecentreUs := by
  intro servo call inRange
  exact servo.storeInt_kept inRange _ _ _ _ (by decide) (by decide) fun _ =>
    ⟨{ inRange with }, rfl⟩

theorem setAlignDeadbandUs_validates : Validates (K := K) setAlignDeadbandUs := by
  intro servo call inRange
  exact servo.storeInt_kept inRange _ _ _ _ (by decide) (by decide) fun _ =>
    ⟨{ inRange with }, rfl⟩

theorem setAlignRejectUs_validates : Validates (K := K) setAlignRejectUs := by
  intro servo call inRange
  exact servo.storeInt_kept inRange _ _ _ _ (by decide) (by decide) fun _ =>
    ⟨{ inRange with }, rfl⟩

theorem setAlignStepUs_validates : Validates (K := K) setAlignStepUs := by
  intro servo call inRange
  exact servo.storeInt_kept inRange _ _ _ _ (by decide) (by decide) fun _ =>
    ⟨{ inRange with }, rfl⟩

theorem setResyncBlankMs_validates : Validates (K := K) setResyncBlankMs := by
  intro servo call inRange
  exact servo.storeInt_kept inRange _ _ _ _ (by decide) (by decide) fun _ =>
    ⟨{ inRange with }, rfl⟩

theorem branches_validate (branch : String × (Servo K → ServoCall K → ServoAnswer K))
    (member : branch ∈ servoBranches) (other : branch.1 ≠ "timing_target_us") :
    Validates branch.2 := by
  have all : ∀ branch ∈ (servoBranches : List (String × (Servo K → ServoCall K → ServoAnswer K))),
      branch.1 ≠ "timing_target_us" → Validates branch.2 := by
    simp only [servoBranches, List.forall_mem_cons]
    exact ⟨fun _ => setCrystalPpm_validates,
      fun _ => setErrTauHorizons_validates,
      fun _ => setRateFilterLagUs_validates,
      fun _ => setRatewhyPpm_validates,
      fun _ => setCommonDrainS_validates,
      fun _ => setCompensateGdFilter_validates,
      fun _ => setPositionNeedsDiff_validates,
      fun _ => setKpFromDiffSigma_validates,
      fun _ => setCommonTargetUs_validates,
      fun _ => setCommonAuthorityPpm_validates,
      fun _ => setSplitRampUsPerS_validates,
      fun _ => setRateAuthorityPpm_validates,
      fun same => absurd rfl same,
      fun _ => setTagStaleMs_validates,
      fun _ => setBlankMs_validates,
      fun _ => setGapBlankMs_validates,
      fun _ => setAlignMaxUs_validates,
      fun _ => setAlignBiasUs_validates false,
      fun _ => setAlignBiasUs_validates true,
      fun _ => setAlignApply_validates,
      fun _ => setAlignRecentreUs_validates,
      fun _ => setAlignGain_validates,
      fun _ => setAlignDeadbandUs_validates,
      fun _ => setAlignRejectUs_validates,
      fun _ => setAlignStepUs_validates,
      fun _ => setResyncWinS_validates,
      fun _ => setResyncBlankMs_validates,
      fun _ => setPersist_validates,
      fun _ absent => absurd absent List.not_mem_nil⟩
  exact all branch member other

omit [IsStrictOrderedRing K] in
/-- Every branch refuses before it stores. -/
theorem branches_refuse (branch : String × (Servo K → ServoCall K → ServoAnswer K))
    (member : branch ∈ servoBranches) (servo : Servo K) (call : ServoCall K) :
    (∃ refused stored, branch.2 servo call = servo.answer refused stored) ∨
      ∃ refused stored, branch.2 servo call = servo.answerInt refused call.value stored := by
  have all : ∀ branch ∈ (servoBranches : List (String × (Servo K → ServoCall K → ServoAnswer K))),
      (∃ refused stored, branch.2 servo call = servo.answer refused stored) ∨
        ∃ refused stored, branch.2 servo call = servo.answerInt refused call.value stored := by
    simp only [servoBranches, List.forall_mem_cons]
    exact ⟨Or.inl ⟨_, _, rfl⟩, Or.inl ⟨_, _, rfl⟩, Or.inr ⟨_, _, rfl⟩, Or.inl ⟨_, _, rfl⟩,
      Or.inl ⟨_, _, rfl⟩, Or.inl ⟨_, _, rfl⟩, Or.inl ⟨_, _, rfl⟩, Or.inl ⟨_, _, rfl⟩,
      Or.inr ⟨_, _, rfl⟩, Or.inl ⟨_, _, rfl⟩, Or.inl ⟨_, _, rfl⟩, Or.inl ⟨_, _, rfl⟩,
      Or.inr ⟨_, _, rfl⟩, Or.inr ⟨_, _, rfl⟩, Or.inr ⟨_, _, rfl⟩, Or.inr ⟨_, _, rfl⟩,
      Or.inr ⟨_, _, rfl⟩, Or.inr ⟨_, _, rfl⟩, Or.inr ⟨_, _, rfl⟩, Or.inl ⟨_, _, rfl⟩,
      Or.inr ⟨_, _, rfl⟩, Or.inl ⟨_, _, rfl⟩, Or.inr ⟨_, _, rfl⟩, Or.inr ⟨_, _, rfl⟩,
      Or.inr ⟨_, _, rfl⟩, Or.inl ⟨_, _, rfl⟩, Or.inr ⟨_, _, rfl⟩, Or.inl ⟨_, _, rfl⟩,
      fun _ absent => absurd absent List.not_mem_nil⟩
  exact all branch member

omit [IsStrictOrderedRing K] in
theorem refused_unchanged (servo after : Servo K) (call : ServoCall K)
    (refused : servo.setServoParam call = some (false, after)) : after = servo := by
  rw [setServoParam] at refused
  split at refused
  case h_1 branch found =>
    rcases branches_refuse branch (List.mem_of_find?_eq_some found) servo call with
      ⟨rejects, stored, answered⟩ | ⟨rejects, stored, answered⟩
    · rw [answered, answer] at refused
      split at refused
      · cases refused
        rfl
      · cases refused
    · rw [answered, answerInt] at refused
      split at refused
      · cases refused
        rfl
      · obtain ⟨_, _, stores⟩ := Option.map_eq_some_iff.mp refused
        cases stores
  case h_2 =>
    cases refused
    rfl

theorem setServoParam_kept (servo : Servo K) (call : ServoCall K)
    (inRange : servo.tune.InRange) (other : call.name ≠ "timing_target_us") :
    ∃ accepted after, servo.setServoParam call = some (accepted, after) ∧ servo.Kept after := by
  rw [setServoParam]
  split
  case h_1 branch found =>
    have named : branch.1 = call.name := of_decide_eq_true (List.find?_some found :)
    exact branches_validate branch (List.mem_of_find?_eq_some found)
      (fun same => other (named.symm.trans same)) servo call inRange
  case h_2 => exact ⟨false, servo, rfl, inRange, rfl⟩

omit [IsStrictOrderedRing K] in
theorem setServoParam_target (servo : Servo K) (call : ServoCall K)
    (named : call.name = "timing_target_us") :
    servo.setServoParam call = call.value.toInt32?.map fun number =>
      (true, { servo with tune := { servo.tune with timingTargetUs := number } }) := by
  rw [setServoParam, named]
  rfl

end Validation

end Servo

inductive ServoEvent (K : Type) where
  | set (call : ServoCall K)
  | elsewhere (state : ServoState K)

/-- Nothing is known of the servo once a value without a conversion is converted. -/
def ServoEvent.perform : Option (Servo K) → ServoEvent K → Option (Servo K)
  | none, _ => none
  | some servo, .set call => (servo.setServoParam call).map Prod.snd
  | some servo, .elsewhere state => some { servo with state := state }

/-- The check that the branch of the target does not make. -/
def ServoEvent.Checked (_ : Option (Servo K)) : ServoEvent K → Prop
  | .set call => call.name = "timing_target_us" →
      ∃ number, call.value = .finite number ∧ -1 < number ∧ number < ((2 ^ 31 : Int) : K)
  | .elsewhere _ => True

def SoundServo (servo : Option (Servo K)) : Prop :=
  ∃ known, servo = some known ∧ known.tune.Sound

section Runs

variable [IsStrictOrderedRing K]

namespace ServoEvent

theorem perform_inRange (servo : Servo K) (event : ServoEvent K) (inRange : servo.tune.InRange)
    (after : Servo K) (performed : perform (some servo) event = some after) :
    after.tune.InRange := by
  cases event with
  | set call =>
      obtain ⟨answered, some_, rfl⟩ := Option.map_eq_some_iff.mp performed
      by_cases named : call.name = "timing_target_us"
      · rw [servo.setServoParam_target call named] at some_
        obtain ⟨number, _, rfl⟩ := Option.map_eq_some_iff.mp some_
        exact { inRange with }
      · obtain ⟨accepted, kept, same, keeps⟩ := servo.setServoParam_kept call inRange named
        rw [same] at some_
        cases some_
        exact keeps.1
  | elsewhere state =>
      cases performed
      exact inRange

theorem perform_sound_iff (servo : Servo K) (event : ServoEvent K)
    (inRange : servo.tune.InRange) (target : 0 ≤ servo.tune.timingTargetUs) :
    SoundServo (perform (some servo) event) ↔ Checked (some servo) event := by
  have nonneg : SoundServo (perform (some servo) event) ↔
      ∃ after, perform (some servo) event = some after ∧ 0 ≤ after.tune.timingTargetUs := by
    apply exists_congr
    intro after
    apply and_congr_right
    intro performed
    exact (perform_inRange servo event inRange after performed).sound_iff
  rw [nonneg]
  cases event with
  | set call =>
      by_cases named : call.name = "timing_target_us"
      · rw [Checked, perform, servo.setServoParam_target call named,
          ← FloatValue.toInt32?_nonneg_iff, Option.map_map]
        constructor
        · rintro ⟨after, performed, nonneg⟩ _
          obtain ⟨number, converted, rfl⟩ := Option.map_eq_some_iff.mp performed
          exact ⟨number, converted, nonneg⟩
        · intro checked
          obtain ⟨number, converted, nonneg⟩ := checked named
          exact ⟨_, Option.map_eq_some_iff.mpr ⟨number, converted, rfl⟩, nonneg⟩
      · obtain ⟨accepted, after, same, keeps⟩ := servo.setServoParam_kept call inRange named
        refine iff_of_true ⟨after, ?_, ?_⟩ fun other => absurd other named
        · rw [perform, same, Option.map_some]
        · rw [keeps.2]
          exact target
  | elsewhere state => exact iff_of_true ⟨_, rfl, target⟩ trivial

end ServoEvent

/-- The tunables stay sound through a run exactly when every target that is set in it is a number
above -1 that fits 32 bits; and a call that is refused changes nothing. -/
theorem servo_params_sound_iff (renderAlignMaxUs : Int) (state : ServoState K)
    (events : List (ServoEvent K)) :
    (Run.Visits ServoEvent.perform SoundServo
        (some { tune := ServoParams.initial renderAlignMaxUs, state := state }) events ↔
      Run.Along ServoEvent.perform ServoEvent.Checked
        (some { tune := ServoParams.initial renderAlignMaxUs, state := state }) events) ∧
    ∀ (servo after : Servo K) (call : ServoCall K),
      servo.setServoParam call = some (false, after) → after = servo := by
  refine ⟨?_, fun servo after call refused => servo.refused_unchanged after call refused⟩
  apply Run.visits_iff_along_of_invariant ServoEvent.perform
    fun servo => ∃ known, servo = some known ∧ known.tune.InRange ∧
      0 ≤ known.tune.timingTargetUs
  · rintro _ ⟨known, rfl, inRange, target⟩
    exact ⟨known, rfl, inRange.sound_iff.mpr target⟩
  · rintro _ event ⟨known, rfl, inRange, target⟩
    exact event.perform_sound_iff known inRange target
  · rintro _ event ⟨known, rfl, inRange, target⟩ checked
    obtain ⟨after, performed, sound⟩ :=
      (event.perform_sound_iff known inRange target).mpr checked
    have later := event.perform_inRange known inRange after performed
    exact ⟨after, performed, later, later.sound_iff.mp sound⟩
  · exact ⟨_, rfl, ServoParams.initial_inRange renderAlignMaxUs, Int.natCast_nonneg 10⟩

end Runs

private def idleServo : ServoState Rat :=
  { timingEngine := Engine.create Profile.initial
    dlIntegralPref := none
    crystalSavedPpm := 0
    crystalSavedAtUs := 0
    renderBiasUs := 0
    tsfRenderBiasUs := some 0
    alignBiasPref := none
    biasKickRequestUs := 0 }

private def targetOf (value : FloatValue Rat) : ServoEvent Rat :=
  .set
    { name := "timing_target_us"
      value := value
      nowUs := 1000000
      saves := true }

theorem servo_params_sound_twenty :
    Run.Visits ServoEvent.perform SoundServo
      (some { tune := ServoParams.initial 500, state := idleServo }) [targetOf (.finite 20)] :=
  (servo_params_sound_iff 500 idleServo [targetOf (.finite 20)]).1.mpr
    ⟨fun _ => ⟨20, rfl, by norm_num, by norm_num⟩, trivial⟩

/-- A target of -10 us is stored, and the noise budget is negative with it. -/
theorem negative_target_accepted :
    ¬ ∀ (renderAlignMaxUs : Int) (state : ServoState Rat) (events : List (ServoEvent Rat)),
      Run.Visits ServoEvent.perform SoundServo
        (some { tune := ServoParams.initial renderAlignMaxUs, state := state }) events := by
  intro always
  have last := Run.visits_last ServoEvent.perform SoundServo _ _
    (always 500 idleServo [targetOf (.finite (-10))])
  rw [List.foldl_cons, List.foldl_nil] at last
  have checked := (ServoEvent.perform_sound_iff
    { tune := ServoParams.initial 500, state := idleServo } (targetOf (.finite (-10)))
    (ServoParams.initial_inRange 500) (Int.natCast_nonneg 10)).mp last
  obtain ⟨number, same, above, _⟩ := checked rfl
  cases same
  norm_num at above

end Player
