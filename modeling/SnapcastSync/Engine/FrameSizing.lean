import SnapcastSync.Engine.Calls
import SnapcastSync.Lib.TruncatedPeriod

/-! How many frames a correction is worth. The frame period is truncated to whole microseconds, so
a count of frames stands for more audio than the microseconds it is counted in. -/

namespace Timing

open Rounding

variable {K : Type} [Field K] [LinearOrder K]

def framesUs (rateHz : Nat) (frames : Int) : K :=
  (frames : K) * ((1000000 : Nat) : K) / (rateHz : K)

def framePeriodUs (rateHz : Nat) : K := ((1000000 : Nat) : K) / (rateHz : K)

/-- A command removes the error to within a frame, and so is it recorded. -/
structure SizedExactly (K : Type) [Field K] [LinearOrder K] (rateHz : Nat)
    (ePositionUs frames pendingUs : Int) : Prop where
  command : |(ePositionUs : K) - framesUs rateHz frames| < framePeriodUs rateHz
  pending : |(pendingUs : K) - framesUs rateHz frames| < framePeriodUs rateHz

namespace Profile

variable {K : Type}

/-- What the microseconds of one frame leave out of a second, in microseconds. -/
def leftOutUs (profile : Profile K) : Int := TruncatedPeriod.residue 1000000 profile.frameRateHz

def wholeFrames (profile : Profile K) (us : Int) : Int := Int.tdiv us profile.frameUs

def affordable (profile : Profile K) (bufferUs : Int) : Int :=
  toInt32 (profile.wholeFrames (Int.tdiv bufferUs 2))

def affordableExactly (profile : Profile K) (bufferUs : Int) : Int :=
  bufferUs * profile.frameRateHz / 2000000

theorem frameRateHz_pos (profile : Profile K) (framed : 0 < profile.frameUs) :
    0 < profile.frameRateHz := by
  rcases Nat.eq_zero_or_pos profile.frameRateHz with zero | positive
  · rw [frameUs, zero] at framed
    exact absurd framed (by decide)
  · exact positive

end Profile

namespace Engine

variable [FloorRing K]

def Unclamped (engine : Engine K) (bufferUs : Int) (want : PositionWant K) : Prop :=
  bufferUs ≤ 0 ∨
    toInt32 (engine.profile.wholeFrames want.ePositionUs) ≤ engine.profile.affordable bufferUs

structure Sized (engine : Engine K) (bufferUs : Int) (want : PositionWant K) : Prop where
  frameUs : 0 < engine.profile.frameUs
  gate : want.gateUs ≤ |want.ePositionUs|
  unreachable : engine.profile.rateAuthorityPpm < |want.neededPpm| ∨
    (crystalLimitPpm ≤ engine.crystalPpm ∧ 0 < want.neededPpm) ∨
    (engine.crystalPpm ≤ -crystalLimitPpm ∧ want.neededPpm < 0)
  frames : want.frames =
    if 0 < toInt32 (engine.profile.wholeFrames want.ePositionUs) ∧ 0 < bufferUs ∧
        engine.profile.affordable bufferUs <
          toInt32 (engine.profile.wholeFrames want.ePositionUs) then
      engine.profile.affordable bufferUs
    else toInt32 (engine.profile.wholeFrames want.ePositionUs)

/-- `rate_can_fix`, for what the rate would have to be. -/
def rateCanFix (engine : Engine K) (neededPpm : K) : Bool :=
  !((decide (crystalLimitPpm ≤ engine.crystalPpm) && decide (0 < neededPpm)) ||
      (decide (engine.crystalPpm ≤ -crystalLimitPpm) && decide (neededPpm < 0))) &&
    decide (|neededPpm| ≤ engine.profile.rateAuthorityPpm)

omit [FloorRing K] in
theorem rateCanFix_eq_false (engine : Engine K) (neededPpm : K)
    (cannot : engine.rateCanFix neededPpm = false) :
    engine.profile.rateAuthorityPpm < |neededPpm| ∨
      (crystalLimitPpm ≤ engine.crystalPpm ∧ 0 < neededPpm) ∨
      (engine.crystalPpm ≤ -crystalLimitPpm ∧ neededPpm < 0) := by
  rw [rateCanFix, Bool.and_eq_false_iff, Bool.not_eq_false', Bool.or_eq_true, Bool.and_eq_true,
    Bool.and_eq_true, decide_eq_true_eq, decide_eq_true_eq, decide_eq_true_eq, decide_eq_true_eq,
    decide_eq_false_iff_not, not_le] at cannot
  exact cannot.symm

def sizedFrames (engine : Engine K) (want : PositionWant K) : Int :=
  if 0 < engine.profile.frameUs ∧ want.gateUs ≤ |want.ePositionUs| ∧
      engine.rateCanFix want.neededPpm = false then
    toInt32 (engine.profile.wholeFrames want.ePositionUs)
  else 0

theorem positionWant_frames (engine : Engine K) (libm : Libm K) (nowUs bufferUs : Int)
    (diff : Differential K) :
    let want := engine.positionWant libm nowUs bufferUs diff
    want.frames =
      if 0 < engine.sizedFrames want ∧ 0 < bufferUs ∧ 0 < engine.profile.frameUs then
        if engine.profile.affordable bufferUs < engine.sizedFrames want then
          engine.profile.affordable bufferUs
        else engine.sizedFrames want
      else engine.sizedFrames want := rfl

theorem sized_of_wanted (engine : Engine K) (libm : Libm K) (nowUs bufferUs : Int)
    (diff : Differential K) (wanted : (engine.positionWant libm nowUs bufferUs diff).frames ≠ 0) :
    engine.Sized bufferUs (engine.positionWant libm nowUs bufferUs diff) := by
  have count := engine.positionWant_frames libm nowUs bufferUs diff
  generalize engine.positionWant libm nowUs bufferUs diff = want at wanted count ⊢
  dsimp only at count
  by_cases coarse : 0 < engine.profile.frameUs ∧ want.gateUs ≤ |want.ePositionUs| ∧
      engine.rateCanFix want.neededPpm = false
  · obtain ⟨framed, gate, cannot⟩ := coarse
    have sized : engine.sizedFrames want =
        toInt32 (engine.profile.wholeFrames want.ePositionUs) :=
      if_pos ⟨framed, gate, cannot⟩
    rw [sized] at count
    refine ⟨framed, gate, engine.rateCanFix_eq_false want.neededPpm cannot, ?_⟩
    rw [count]
    by_cases drops : 0 < toInt32 (engine.profile.wholeFrames want.ePositionUs) ∧ 0 < bufferUs
    · rw [if_pos ⟨drops.1, drops.2, framed⟩]
      by_cases limited : engine.profile.affordable bufferUs <
          toInt32 (engine.profile.wholeFrames want.ePositionUs)
      · rw [if_pos limited, if_pos ⟨drops.1, drops.2, limited⟩]
      · rw [if_neg limited, if_neg fun all => limited all.2.2]
    · rw [if_neg fun all => drops ⟨all.1, all.2.1⟩, if_neg fun all => drops ⟨all.1, all.2.1⟩]
  · have none : engine.sizedFrames want = 0 := if_neg coarse
    rw [none, if_neg fun all => lt_irrefl 0 all.1] at count
    exact absurd count wanted

theorem Ready.sized {engine : Engine K} {libm : Libm K} {nowUs : Int} {obs : Observation}
    {group : GroupEvidence} (ready : engine.Ready libm nowUs obs group) :
    (engine.assess libm nowUs obs group).engine.Sized obs.bufferUs
      (engine.assess libm nowUs obs group).want :=
  sized_of_wanted _ libm nowUs obs.bufferUs _ ready.wanted

end Engine

variable [IsStrictOrderedRing K]

/-- Said in integers, in units of one frame's share of a second. -/
theorem sizedExactly_iff (rateHz : Nat) (ePositionUs frames pendingUs : Int)
    (positive : 0 < rateHz) :
    SizedExactly K rateHz ePositionUs frames pendingUs ↔
      |ePositionUs * rateHz - frames * 1000000| < 1000000 ∧
        |pendingUs * rateHz - frames * 1000000| < 1000000 := by
  have rate : (0 : K) < (rateHz : K) := by exact_mod_cast positive
  have scaled (us : Int) : |(us : K) - framesUs rateHz frames| < framePeriodUs rateHz ↔
      |us * rateHz - frames * 1000000| < 1000000 := by
    have apart : (us : K) - framesUs rateHz frames =
        ((us * rateHz - frames * 1000000 : Int) : K) / (rateHz : K) := by
      rw [framesUs]
      push_cast
      field_simp
    rw [apart, framePeriodUs, abs_div, abs_of_pos rate, div_lt_div_iff_of_pos_right rate,
      ← Int.cast_abs]
    exact_mod_cast Iff.rfl
  constructor
  · rintro ⟨command, pending⟩
    exact ⟨(scaled ePositionUs).mp command, (scaled pendingUs).mp pending⟩
  · rintro ⟨command, pending⟩
    exact ⟨(scaled ePositionUs).mpr command, (scaled pendingUs).mpr pending⟩

namespace Engine

variable [FloorRing K]

omit [IsStrictOrderedRing K] in
theorem step_frames_of_ready (engine : Engine K) (libm : Libm K) (nowUs : Int)
    (obs : Observation) (group : GroupEvidence) (ready : engine.Ready libm nowUs obs group) :
    (engine.step libm nowUs obs group).2.frames =
        (engine.assess libm nowUs obs group).want.frames ∧
      (engine.step libm nowUs obs group).1.pendingDispUs =
        (engine.assess libm nowUs obs group).want.frames * engine.profile.frameUs := by
  rw [step_of_ready engine libm nowUs obs group ready,
    ← assess_profile engine libm nowUs obs group]
  exact ⟨rfl, rfl⟩

/-- A correction that the buffer does not limit is sized to within a frame exactly when what its
frames leave out stays below a frame and their number fits its 32 bits. -/
theorem step_sizedExactly_iff (engine : Engine K) (libm : Libm K) (nowUs : Int)
    (obs : Observation) (group : GroupEvidence) (ready : engine.Ready libm nowUs obs group)
    (unclamped : engine.Unclamped obs.bufferUs (engine.assess libm nowUs obs group).want) :
    let ePositionUs := (engine.assess libm nowUs obs group).want.ePositionUs
    let stepped := engine.step libm nowUs obs group
    SizedExactly K engine.profile.frameRateHz ePositionUs stepped.2.frames
        stepped.1.pendingDispUs ↔
      |engine.profile.wholeFrames ePositionUs| * engine.profile.leftOutUs < 1000000 ∧
        -2 ^ 31 ≤ engine.profile.wholeFrames ePositionUs ∧
        engine.profile.wholeFrames ePositionUs < 2 ^ 31 := by
  dsimp only
  have sized := ready.sized
  obtain ⟨frames, pending⟩ := step_frames_of_ready engine libm nowUs obs group ready
  have same := assess_profile engine libm nowUs obs group
  have framed := sized.frameUs
  have count := sized.frames
  rw [same] at framed count
  have rate := engine.profile.frameRateHz_pos framed
  have whole : (engine.assess libm nowUs obs group).want.frames =
      toInt32 (engine.profile.wholeFrames
        (engine.assess libm nowUs obs group).want.ePositionUs) := by
    rw [count, if_neg]
    rintro ⟨_, known, limited⟩
    rcases unclamped with unknown | afforded
    · exact absurd known (not_lt.mpr unknown)
    · exact absurd limited (not_lt.mpr afforded)
  rw [frames, pending, whole, sizedExactly_iff _ _ _ _ rate]
  exact TruncatedPeriod.exact_iff (by decide) (by exact_mod_cast rate) _ framed

/-- A drop takes at most half of a known buffer exactly when the true number of frames in that half
is not exceeded by the frames wanted or by the frames it is taken to afford. -/
theorem step_halfBuffer_iff (engine : Engine K) (libm : Libm K) (nowUs : Int)
    (obs : Observation) (group : GroupEvidence) (known : 0 < obs.bufferUs)
    (drops : 0 < (engine.step libm nowUs obs group).2.frames) :
    framesUs engine.profile.frameRateHz (engine.step libm nowUs obs group).2.frames ≤
        (obs.bufferUs : K) / ((2 : Nat) : K) ↔
      toInt32 (engine.profile.wholeFrames
          (engine.assess libm nowUs obs group).want.ePositionUs) ≤
          engine.profile.affordableExactly obs.bufferUs ∨
        engine.profile.affordable obs.bufferUs ≤
          engine.profile.affordableExactly obs.bufferUs := by
  have ready := (step_frames_ne_zero_iff engine libm nowUs obs group).mp (ne_of_gt drops)
  have sized := ready.sized
  have same := assess_profile engine libm nowUs obs group
  have framed := sized.frameUs
  have count := sized.frames
  rw [same] at framed count
  have rate : (0 : K) < (engine.profile.frameRateHz : K) := by
    exact_mod_cast engine.profile.frameRateHz_pos framed
  have within (frames : Int) : framesUs engine.profile.frameRateHz frames ≤
      (obs.bufferUs : K) / ((2 : Nat) : K) ↔
        frames ≤ engine.profile.affordableExactly obs.bufferUs := by
    rw [Profile.affordableExactly, Int.le_ediv_iff_mul_le (by decide), framesUs,
      div_le_div_iff₀ rate (by norm_num)]
    have scaled : (frames : K) * ((1000000 : Nat) : K) * ((2 : Nat) : K) ≤
        (obs.bufferUs : K) * (engine.profile.frameRateHz : K) ↔
        ((frames * 2000000 : Int) : K) ≤
          ((obs.bufferUs * engine.profile.frameRateHz : Int) : K) := by
      push_cast
      constructor <;> intro less <;> linarith
    rw [scaled, Int.cast_le]
  rw [(step_frames_of_ready engine libm nowUs obs group ready).1] at drops ⊢
  rw [within]
  by_cases limited : engine.profile.affordable obs.bufferUs <
      toInt32 (engine.profile.wholeFrames (engine.assess libm nowUs obs group).want.ePositionUs)
  · by_cases forward : 0 < toInt32 (engine.profile.wholeFrames
        (engine.assess libm nowUs obs group).want.ePositionUs)
    · rw [if_pos ⟨forward, known, limited⟩] at count
      rw [count]
      omega
    · rw [if_neg fun all => forward all.1] at count
      omega
  · rw [if_neg fun all => limited all.2.2] at count
    rw [count]
    omega

private def lateBy (errorUs bufferUs : Int) : Observation :=
  { atUs := 1000000
    errorUs := errorUs
    valid := true
    bufferUs := bufferUs }

private def firstStep (errorUs bufferUs : Int) : Engine Rat × Command Rat :=
  (create Profile.initial).step Libm.rational 1000000 (lateBy errorUs bufferUs) GroupEvidence.none

private theorem ready_firstStep (errorUs bufferUs : Int)
    (issued : (firstStep errorUs bufferUs).2.frames ≠ 0) :
    (create Profile.initial).Ready Libm.rational 1000000 (lateBy errorUs bufferUs)
      GroupEvidence.none :=
  (step_frames_ne_zero_iff _ _ _ _ _).mp issued

/-- A correction of 18 frames, which leave out half a frame. -/
theorem step_sizedExactly_eighteen :
    let late := lateBy 400 0
    let engine := create (Profile.initial : Profile Rat)
    let want := (engine.assess Libm.rational 1000000 late GroupEvidence.none).want
    engine.Ready Libm.rational 1000000 late GroupEvidence.none ∧
      engine.Unclamped late.bufferUs want ∧
      SizedExactly Rat 44100 want.ePositionUs (firstStep 400 0).2.frames
        (firstStep 400 0).1.pendingDispUs := by
  have ready := ready_firstStep 400 0 (by decide +kernel)
  have unclamped : (create (Profile.initial : Profile Rat)).Unclamped 0
      ((create Profile.initial).assess Libm.rational 1000000 (lateBy 400 0)
        GroupEvidence.none).want := Or.inl (le_refl 0)
  exact ⟨ready, unclamped, (step_sizedExactly_iff _ _ _ _ _ ready unclamped).mpr
    (by decide +kernel)⟩

/-- An error of a second is paid with frames worth thirty milliseconds more. -/
theorem second_oversized :
    ¬ ∀ (profile : Profile Rat) (nowUs : Int) (obs : Observation) (group : GroupEvidence),
      (create profile).Ready Libm.rational nowUs obs group →
      (create profile).Unclamped obs.bufferUs
        ((create profile).assess Libm.rational nowUs obs group).want →
      SizedExactly Rat profile.frameRateHz
        ((create profile).assess Libm.rational nowUs obs group).want.ePositionUs
        ((create profile).step Libm.rational nowUs obs group).2.frames
        ((create profile).step Libm.rational nowUs obs group).1.pendingDispUs := by
  intro always
  have exactly := always Profile.initial 1000000 (lateBy 1000000 0) GroupEvidence.none
    (ready_firstStep 1000000 0 (by decide +kernel)) (Or.inl (le_refl 0))
  have paid := ((sizedExactly_iff _ _ _ _ (by decide)).mp exactly).1
  revert paid
  decide +kernel

theorem step_halfBuffer_eighteen :
    0 < (firstStep 400 1000000).2.frames ∧
      framesUs 44100 (firstStep 400 1000000).2.frames ≤
        ((1000000 : Int) : Rat) / ((2 : Nat) : Rat) := by
  have drops : 0 < (firstStep 400 1000000).2.frames := by decide +kernel
  exact ⟨drops, (step_halfBuffer_iff _ Libm.rational 1000000 (lateBy 400 1000000) _ (by decide)
    drops).mpr (by decide +kernel)⟩

/-- Half of a second is taken to afford 22727 frames, which are 515 milliseconds. -/
theorem halfBuffer_exceeded :
    ¬ ∀ (profile : Profile Rat) (nowUs : Int) (obs : Observation) (group : GroupEvidence),
      0 < obs.bufferUs → 0 < ((create profile).step Libm.rational nowUs obs group).2.frames →
      framesUs profile.frameRateHz ((create profile).step Libm.rational nowUs obs group).2.frames ≤
        (obs.bufferUs : Rat) / ((2 : Nat) : Rat) := by
  intro always
  have within := always Profile.initial 1000000 (lateBy 1000000 1000000) GroupEvidence.none
    (by decide) (by decide +kernel)
  revert within
  decide +kernel

end Engine

end Timing
