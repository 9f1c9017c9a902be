import SnapcastSync.Engine.FrameSizing
import SnapcastSync.Engine.Slew
import SnapcastSync.Lib.Run

/-! What has to hold before a frame correction is spent. All of it does, except that the count is
narrowed to 32 bits after it has been judged. -/

namespace Timing

open Rounding

variable {K : Type} [Field K] [LinearOrder K] [FloorRing K]

namespace Engine

/-- A frame correction of a step is justified. -/
structure Justified (engine : Engine K) (libm : Libm K) (nowUs : Int) (obs : Observation)
    (group : GroupEvidence) : Prop where
  sign : (engine.step libm nowUs obs group).2.frames.sign =
    (engine.assess libm nowUs obs group).want.ePositionUs.sign
  gate : (engine.assess libm nowUs obs group).want.gateUs ≤
    |(engine.assess libm nowUs obs group).want.ePositionUs|
  frame : engine.profile.frameUs ≤ (engine.assess libm nowUs obs group).want.gateUs
  unreachable :
    engine.profile.rateAuthorityPpm < |(engine.assess libm nowUs obs group).want.neededPpm| ∨
      (crystalLimitPpm ≤ engine.crystalPpm ∧
        0 < (engine.assess libm nowUs obs group).want.neededPpm) ∨
      (engine.crystalPpm ≤ -crystalLimitPpm ∧
        (engine.assess libm nowUs obs group).want.neededPpm < 0)
  apart : (engine.assess libm nowUs obs group).diff.haveDiff = true →
    engine.profile.targetDiffUs ≤ |(engine.assess libm nowUs obs group).diff.eDiffUs|
  evidence : engine.profile.positionNeedsDiff = true → group.hasPeers = true →
    (engine.assess libm nowUs obs group).diff.haveDiff = true
  free : (engine.assess libm nowUs obs group).engine.inFlight = false
  serialised : engine.serialiseUntilUs ≤ nowUs
  fed : engine.starved obs.bufferUs = false
  afforded : 0 < (engine.step libm nowUs obs group).2.frames → 0 < obs.bufferUs →
    (engine.step libm nowUs obs group).2.frames * engine.profile.frameUs ≤
      Int.tdiv obs.bufferUs 2

def Limited (engine : Engine K) (bufferUs ePositionUs : Int) : Prop :=
  0 < toInt32 (engine.profile.wholeFrames ePositionUs) ∧ 0 < bufferUs ∧
    engine.profile.affordable bufferUs < toInt32 (engine.profile.wholeFrames ePositionUs)

def KeepsSign (engine : Engine K) (us : Int) : Prop :=
  0 < toInt32 (engine.profile.wholeFrames us) ↔ 0 < us

/-- The count of the error keeps its sign; where half of the buffer limits it, both counts do or
neither does. -/
def NarrowsInDirection (engine : Engine K) (bufferUs ePositionUs : Int) : Prop :=
  (¬ engine.Limited bufferUs ePositionUs → engine.KeepsSign ePositionUs) ∧
    (engine.Limited bufferUs ePositionUs →
      (engine.KeepsSign (Int.tdiv bufferUs 2) ↔ engine.KeepsSign ePositionUs))

theorem differential_checked (engine : Engine K) (libm : Libm K) (nowUs : Int)
    (group : GroupEvidence)
    (tracks : (engine.differential libm nowUs group).2.differential = true) :
    ((engine.differential libm nowUs group).2.haveDiff = true →
        engine.profile.targetDiffUs ≤ |(engine.differential libm nowUs group).2.eDiffUs|) ∧
      (engine.profile.positionNeedsDiff = true → group.hasPeers = true →
        (engine.differential libm nowUs group).2.haveDiff = true) := by
  rw [differential] at tracks ⊢
  dsimp only at tracks ⊢
  by_cases measured : (group.present && decide (1 < group.contributors) &&
      !(engine.profile.gateGdOnTransient && group.selfTransient)) = true
  · rw [if_pos measured] at tracks ⊢
    exact ⟨fun _ => of_decide_eq_true tracks, fun _ _ => rfl⟩
  · rw [if_neg measured] at tracks ⊢
    by_cases held :
        (engine.profile.gateGdOnTransient && group.selfTransient && engine.gd.seeded) = true
    · rw [if_pos held] at tracks ⊢
      exact ⟨fun _ => of_decide_eq_true tracks, fun _ _ => rfl⟩
    · rw [if_neg held] at tracks ⊢
      refine ⟨fun measured => Bool.noConfusion measured, fun needs peers => ?_⟩
      dsimp only at tracks
      rw [needs, peers] at tracks
      cases tracks

variable [IsStrictOrderedRing K]

omit [IsStrictOrderedRing K] [Field K] [LinearOrder K] [FloorRing K] in
theorem frameUs_nonneg (profile : Profile K) : 0 ≤ profile.frameUs :=
  Int.tdiv_nonneg (by decide) (Int.natCast_nonneg profile.frameRateHz)

theorem differential_sigma_nonneg (engine : Engine K) (libm : Libm K) (nowUs : Int)
    (group : GroupEvidence) (nonneg : 0 ≤ engine.gdSigmaPrevUs) :
    0 ≤ (engine.differential libm nowUs group).2.gdSigmaUs ∧
      0 ≤ (engine.differential libm nowUs group).1.gdSigmaPrevUs := by
  have quarter : (0 : K) ≤ (engine.profile.frameUs : K) / ((4 : Nat) : K) := by
    have whole : (0 : K) ≤ (engine.profile.frameUs : K) := by
      exact_mod_cast frameUs_nonneg engine.profile
    positivity
  rw [differential]
  dsimp only
  split
  · exact ⟨le_trans quarter (le_max_right _ _), le_trans quarter (le_max_right _ _)⟩
  · split
    · exact ⟨nonneg, nonneg⟩
    · exact ⟨le_refl 0, nonneg⟩

theorem frameUs_le_gateUs (engine : Engine K) (libm : Libm K) (nowUs : Int)
    (diff : Differential K) (nonneg : 0 ≤ diff.gdSigmaUs) :
    engine.profile.frameUs ≤ engine.gateUs libm nowUs diff := by
  have framed : (0 : K) ≤ (engine.profile.frameUs : K) := by
    exact_mod_cast frameUs_nonneg engine.profile
  have sigma : 0 ≤ if diff.haveDiff then diff.gdSigmaUs else engine.sigmaEUs := by
    split
    · exact nonneg
    · exact le_trans framed (le_max_right _ _)
  rw [gateUs]
  apply le_add_of_nonneg_right
  apply llround_nonneg
  exact mul_nonneg (by positivity) (mul_nonneg sigma (libm.sqrt_nonneg _))

omit [IsStrictOrderedRing K] in
theorem filterError_gdSigmaPrevUs (engine : Engine K) (libm : Libm K) (nowUs e : Int) :
    (engine.filterError libm nowUs e).1.gdSigmaPrevUs = engine.gdSigmaPrevUs := by
  rw [filterError]
  split
  · rfl
  · rfl

omit [IsStrictOrderedRing K] in
theorem expireInFlight_gdSigmaPrevUs (engine : Engine K) (nowUs : Int) :
    (engine.expireInFlight nowUs).gdSigmaPrevUs = engine.gdSigmaPrevUs := by
  rw [expireInFlight]
  split
  · rfl
  · rfl

omit [IsStrictOrderedRing K] [Field K] [LinearOrder K] [FloorRing K] in
theorem retirePending_gdSigmaPrevUs (engine : Engine K) (nowUs errorUs : Int) :
    (engine.retirePending nowUs errorUs).gdSigmaPrevUs = engine.gdSigmaPrevUs := by
  obtain ⟨_, _, _, retired⟩ := engine.retirePending_pending nowUs errorUs
  rw [retired]

theorem assess_sigma_nonneg (engine : Engine K) (libm : Libm K) (nowUs : Int)
    (obs : Observation) (group : GroupEvidence) (nonneg : 0 ≤ engine.gdSigmaPrevUs) :
    0 ≤ (engine.assess libm nowUs obs group).diff.gdSigmaUs ∧
      0 ≤ (engine.assess libm nowUs obs group).engine.gdSigmaPrevUs := by
  apply differential_sigma_nonneg
  rw [expireInFlight_gdSigmaPrevUs, filterError_gdSigmaPrevUs, retirePending_gdSigmaPrevUs]
  exact nonneg

omit [IsStrictOrderedRing K] in
theorem integrate_gdSigmaPrevUs (engine : Engine K) (decision : Decision K) (e dtUs : Int)
    (diff : Differential K) :
    (engine.integrate decision e dtUs diff).1.gdSigmaPrevUs = engine.gdSigmaPrevUs := by
  rw [integrate]
  split
  · rfl
  · rfl

theorem step_sigma_nonneg (engine : Engine K) (libm : Libm K) (nowUs : Int)
    (obs : Observation) (group : GroupEvidence) (nonneg : 0 ≤ engine.gdSigmaPrevUs) :
    0 ≤ (engine.step libm nowUs obs group).1.gdSigmaPrevUs := by
  have assessed := (assess_sigma_nonneg engine libm nowUs obs group nonneg).2
  cases engine.step_exit libm nowUs obs group with
  | invalid _ same =>
      rw [same]
      exact nonneg
  | starved _ _ same =>
      rw [same]
      exact le_of_le_of_eq nonneg (retirePending_gdSigmaPrevUs engine nowUs obs.errorUs).symm
  | blocked _ _ _ same =>
      rw [same]
      exact assessed
  | issued _ same =>
      rw [same]
      exact assessed
  | steered _ _ same =>
      rw [same]
      exact le_of_le_of_eq assessed (integrate_gdSigmaPrevUs _ _ _ _ _).symm

end Engine

theorem Call.perform_sigma_nonneg (libm : Libm K) [IsStrictOrderedRing K] (engine : Engine K)
    (call : Call K) (nonneg : 0 ≤ engine.gdSigmaPrevUs) :
    0 ≤ (call.perform libm engine).gdSigmaPrevUs := by
  cases call with
  | setProfile profile => exact nonneg
  | setCrystalPpm ppm =>
      cases ppm with
      | none => exact nonneg
      | some ppm => exact nonneg
  | step nowUs obs group => exact engine.step_sigma_nonneg libm nowUs obs group nonneg
  | confirmPositionLanded correctionId nowUs =>
      obtain ⟨_, _, _, _, _, _, _, only⟩ := engine.confirm_only correctionId nowUs
      change 0 ≤ (engine.confirmPositionLanded correctionId nowUs).gdSigmaPrevUs
      rw [only]
      exact nonneg
  | noteExternalMove appliedUs nowUs =>
      rw [perform, Engine.noteExternalMove]
      split
      · exact nonneg
      · exact nonneg

def Call.reached (libm : Libm K) (profile : Profile K) (calls : List (Call K)) : Engine K :=
  calls.foldl (Call.perform libm) (Engine.create profile)

namespace Engine

variable [IsStrictOrderedRing K]

theorem reached_sigma_nonneg (libm : Libm K) (profile : Profile K) (calls : List (Call K)) :
    0 ≤ (Call.reached libm profile calls).gdSigmaPrevUs :=
  Run.visits_last (Call.perform libm) (fun engine => 0 ≤ engine.gdSigmaPrevUs) _ calls
    (Run.visits_of_preserved _ _ (Call.perform_sigma_nonneg libm) _ calls (le_refl 0))

theorem half_nonneg {bufferUs : Int} (known : 0 < bufferUs) : 0 ≤ Int.tdiv bufferUs 2 :=
  Int.tdiv_nonneg (le_of_lt known) (by omega)

omit [Field K] [LinearOrder K] [FloorRing K] [IsStrictOrderedRing K] in
/-- What half of a buffer is taken to afford never takes more than that half. -/
theorem affordable_mul_le (profile : Profile K) (bufferUs : Int) (known : 0 < bufferUs)
    (framed : 0 < profile.frameUs) :
    profile.affordable bufferUs * profile.frameUs ≤ Int.tdiv bufferUs 2 := by
  have half := half_nonneg known
  have count : 0 ≤ profile.wholeFrames (Int.tdiv bufferUs 2) :=
    Int.tdiv_nonneg half (le_of_lt framed)
  calc profile.affordable bufferUs * profile.frameUs
      ≤ profile.wholeFrames (Int.tdiv bufferUs 2) * profile.frameUs :=
        mul_le_mul_of_nonneg_right (toInt32_le _ count) (le_of_lt framed)
    _ ≤ Int.tdiv bufferUs 2 := by
        rw [mul_comm]
        exact Int.mul_tdiv_self_le half

omit [FloorRing K] [IsStrictOrderedRing K] in
theorem sized_afforded (engine : Engine K) (bufferUs : Int) (want : PositionWant K)
    (sized : engine.Sized bufferUs want) (drops : 0 < want.frames) (known : 0 < bufferUs) :
    want.frames * engine.profile.frameUs ≤ Int.tdiv bufferUs 2 := by
  have less : want.frames ≤ engine.profile.affordable bufferUs := by
    rw [sized.frames] at drops ⊢
    split at drops
    · rename_i limited
      rw [if_pos limited]
    · rename_i unlimited
      rw [if_neg unlimited]
      by_contra more
      exact unlimited ⟨drops, known, not_le.mp more⟩
  exact le_trans (mul_le_mul_of_nonneg_right less (le_of_lt sized.frameUs))
    (affordable_mul_le engine.profile bufferUs known sized.frameUs)

theorem sign_eq_iff (left right : Int) (leftMoves : left ≠ 0) (rightMoves : right ≠ 0) :
    left.sign = right.sign ↔ (0 < left ↔ 0 < right) := by
  rcases lt_or_gt_of_ne leftMoves with leftDown | leftUp
  · rw [Int.sign_eq_neg_one_of_neg leftDown]
    rcases lt_or_gt_of_ne rightMoves with rightDown | rightUp
    · rw [Int.sign_eq_neg_one_of_neg rightDown]
      omega
    · rw [Int.sign_eq_one_of_pos rightUp]
      omega
  · rw [Int.sign_eq_one_of_pos leftUp]
    rcases lt_or_gt_of_ne rightMoves with rightDown | rightUp
    · rw [Int.sign_eq_neg_one_of_neg rightDown]
      omega
    · rw [Int.sign_eq_one_of_pos rightUp]
      omega

omit [Field K] [LinearOrder K] [FloorRing K] [IsStrictOrderedRing K] in
theorem half_pos_of_affordable (profile : Profile K) (bufferUs : Int) (known : 0 < bufferUs)
    (some : profile.affordable bufferUs ≠ 0) : 0 < Int.tdiv bufferUs 2 := by
  apply lt_of_le_of_ne (half_nonneg known)
  intro none
  apply some
  rw [Profile.affordable, Profile.wholeFrames, ← none, Int.zero_tdiv]
  rfl

omit [IsStrictOrderedRing K] [FloorRing K] in
theorem sized_sign_iff (engine : Engine K) (bufferUs : Int) (want : PositionWant K)
    (sized : engine.Sized bufferUs want) (moves : want.frames ≠ 0) (apart : want.ePositionUs ≠ 0) :
    want.frames.sign = want.ePositionUs.sign ↔
      engine.NarrowsInDirection bufferUs want.ePositionUs := by
  rw [sign_eq_iff _ _ moves apart, NarrowsInDirection]
  by_cases limited : engine.Limited bufferUs want.ePositionUs
  · have count : want.frames = engine.profile.affordable bufferUs :=
      sized.frames.trans (if_pos limited)
    rw [count] at moves ⊢
    have half := half_pos_of_affordable engine.profile bufferUs limited.2.1 moves
    have keeps : engine.KeepsSign want.ePositionUs ↔ 0 < want.ePositionUs :=
      iff_true_left limited.1
    have halfKeeps : engine.KeepsSign (Int.tdiv bufferUs 2) ↔
        0 < engine.profile.affordable bufferUs := iff_true_right half
    rw [keeps, halfKeeps]
    exact ⟨fun same => ⟨fun unlimited => absurd limited unlimited, fun _ => same⟩,
      fun both => both.2 limited⟩
  · have count : want.frames = toInt32 (engine.profile.wholeFrames want.ePositionUs) :=
      sized.frames.trans (if_neg limited)
    rw [count]
    exact ⟨fun same => ⟨fun _ => same, fun both => absurd both limited⟩,
      fun both => both.1 limited⟩

omit [IsStrictOrderedRing K] in
theorem assess_serialiseUntilUs (engine : Engine K) (libm : Libm K) (nowUs : Int)
    (obs : Observation) (group : GroupEvidence) :
    (engine.assess libm nowUs obs group).engine.serialiseUntilUs = engine.serialiseUntilUs := by
  obtain ⟨_, _, _, _, same⟩ := assess_refiltered engine libm nowUs obs group
  obtain ⟨_, _, _, retired⟩ := engine.retirePending_pending nowUs obs.errorUs
  rw [same, retired, expireInFlight]
  split
  · rfl
  · rfl

omit [IsStrictOrderedRing K] in
theorem assess_checked (engine : Engine K) (libm : Libm K) (nowUs : Int) (obs : Observation)
    (group : GroupEvidence)
    (tracks : (engine.assess libm nowUs obs group).diff.differential = true) :
    ((engine.assess libm nowUs obs group).diff.haveDiff = true →
        engine.profile.targetDiffUs ≤ |(engine.assess libm nowUs obs group).diff.eDiffUs|) ∧
      (engine.profile.positionNeedsDiff = true → group.hasPeers = true →
        (engine.assess libm nowUs obs group).diff.haveDiff = true) := by
  have checked := differential_checked (engine.prepared libm nowUs obs) libm nowUs group tracks
  rw [(engine.prepared_sameCrystal libm nowUs obs).profile] at checked
  exact checked

theorem frameUs_le_want_gateUs (engine : Engine K) (libm : Libm K) (nowUs : Int)
    (obs : Observation) (group : GroupEvidence) (nonneg : 0 ≤ engine.gdSigmaPrevUs) :
    engine.profile.frameUs ≤ (engine.assess libm nowUs obs group).want.gateUs := by
  rw [← assess_profile engine libm nowUs obs group]
  exact frameUs_le_gateUs _ libm nowUs _ (assess_sigma_nonneg engine libm nowUs obs group nonneg).1

/-- Everything but the direction holds of every correction that is issued. -/
theorem justified_of_sign (engine : Engine K) (libm : Libm K) (nowUs : Int) (obs : Observation)
    (group : GroupEvidence) (nonneg : 0 ≤ engine.gdSigmaPrevUs)
    (ready : engine.Ready libm nowUs obs group)
    (sign : (engine.assess libm nowUs obs group).want.frames.sign =
      (engine.assess libm nowUs obs group).want.ePositionUs.sign) :
    engine.Justified libm nowUs obs group := by
  have sized := ready.sized
  have same := assess_sameLimiter engine libm nowUs obs group
  have frames := (step_frames_of_ready engine libm nowUs obs group ready).1
  have checked := assess_checked engine libm nowUs obs group ready.differential
  have unreachable := sized.unreachable
  rw [same.profile, same.crystalPpm] at unreachable
  refine
    { sign := ?_
      gate := sized.gate
      frame := frameUs_le_want_gateUs engine libm nowUs obs group nonneg
      unreachable := unreachable
      apart := checked.1
      evidence := checked.2
      free := ready.free
      serialised := ?_
      fed := ready.fed
      afforded := ?_ }
  · rw [frames]
    exact sign
  · rw [← assess_serialiseUntilUs engine libm nowUs obs group]
    exact ready.serialised
  · intro drops known
    rw [frames] at drops ⊢
    rw [← same.profile]
    exact sized_afforded _ obs.bufferUs _ sized drops known

theorem ePosition_ne_zero (engine : Engine K) (libm : Libm K) (nowUs : Int) (obs : Observation)
    (group : GroupEvidence) (nonneg : 0 ≤ engine.gdSigmaPrevUs)
    (ready : engine.Ready libm nowUs obs group) :
    (engine.assess libm nowUs obs group).want.ePositionUs ≠ 0 := by
  have framed := frameUs_pos_of_wanted engine libm nowUs obs group ready.wanted
  have frame := frameUs_le_want_gateUs engine libm nowUs obs group nonneg
  have gate := ready.sized.gate
  apply abs_pos.mp
  omega

omit [Field K] [LinearOrder K] [FloorRing K] [IsStrictOrderedRing K] in
theorem keepsSign_of_fits (engine : Engine K) (us : Int) (framed : 0 < engine.profile.frameUs)
    (some : engine.profile.wholeFrames us ≠ 0) (above : -2 ^ 31 ≤ engine.profile.wholeFrames us)
    (below : engine.profile.wholeFrames us < 2 ^ 31) : engine.KeepsSign us := by
  rw [KeepsSign, (toInt32_eq_self_iff _).mpr ⟨above, below⟩]
  rcases le_total us 0 with down | up
  · have mirrored := Int.tdiv_nonneg (neg_nonneg.mpr down) (le_of_lt framed)
    rw [Int.neg_tdiv] at mirrored
    have count : engine.profile.wholeFrames us ≤ 0 := neg_nonneg.mp mirrored
    omega
  · have count : 0 ≤ engine.profile.wholeFrames us := Int.tdiv_nonneg up (le_of_lt framed)
    have apart : us ≠ 0 := by
      rintro rfl
      exact some (Int.zero_tdiv _)
    omega

theorem justified_iff_narrows (engine : Engine K) (libm : Libm K) (nowUs : Int)
    (obs : Observation) (group : GroupEvidence) (nonneg : 0 ≤ engine.gdSigmaPrevUs)
    (ready : engine.Ready libm nowUs obs group) :
    engine.Justified libm nowUs obs group ↔
      engine.NarrowsInDirection obs.bufferUs
        (engine.assess libm nowUs obs group).want.ePositionUs := by
  have frames := (step_frames_of_ready engine libm nowUs obs group ready).1
  have direction := sized_sign_iff _ obs.bufferUs _ ready.sized ready.wanted
    (ePosition_ne_zero engine libm nowUs obs group nonneg ready)
  rw [NarrowsInDirection, Limited, KeepsSign, KeepsSign, assess_profile] at direction
  constructor
  · intro justified
    have sign := justified.sign
    rw [frames] at sign
    exact direction.mp sign
  · intro narrows
    exact justified_of_sign engine libm nowUs obs group nonneg ready (direction.mpr narrows)

theorem justified_of_fits (engine : Engine K) (libm : Libm K) (nowUs : Int) (obs : Observation)
    (group : GroupEvidence) (nonneg : 0 ≤ engine.gdSigmaPrevUs)
    (ready : engine.Ready libm nowUs obs group)
    (above : -2 ^ 31 ≤
      engine.profile.wholeFrames (engine.assess libm nowUs obs group).want.ePositionUs)
    (below : engine.profile.wholeFrames (engine.assess libm nowUs obs group).want.ePositionUs <
      2 ^ 31)
    (half : engine.profile.wholeFrames (Int.tdiv obs.bufferUs 2) < 2 ^ 31) :
    engine.Justified libm nowUs obs group := by
  have framed := frameUs_pos_of_wanted engine libm nowUs obs group ready.wanted
  have wanted := ready.wanted
  rw [ready.sized.frames, assess_profile] at wanted
  rw [justified_iff_narrows engine libm nowUs obs group nonneg ready]
  generalize (engine.assess libm nowUs obs group).want.ePositionUs = ePositionUs at *
  rw [NarrowsInDirection, Limited]
  by_cases limited : 0 < toInt32 (engine.profile.wholeFrames ePositionUs) ∧ 0 < obs.bufferUs ∧
      engine.profile.affordable obs.bufferUs < toInt32 (engine.profile.wholeFrames ePositionUs)
  · rw [if_pos limited] at wanted
    have known := half_pos_of_affordable engine.profile obs.bufferUs limited.2.1 wanted
    have some : engine.profile.wholeFrames ePositionUs ≠ 0 := by
      intro none
      have drops := limited.1
      rw [none] at drops
      exact absurd drops (by decide)
    have halved : engine.profile.wholeFrames (Int.tdiv obs.bufferUs 2) ≠ 0 := by
      intro none
      rw [Profile.affordable, none] at wanted
      exact wanted rfl
    have count : 0 ≤ engine.profile.wholeFrames (Int.tdiv obs.bufferUs 2) :=
      Int.tdiv_nonneg (le_of_lt known) (le_of_lt framed)
    exact ⟨fun unlimited => absurd limited unlimited, fun _ => iff_of_true
      (engine.keepsSign_of_fits _ framed halved (by omega) half)
      (engine.keepsSign_of_fits _ framed some above below)⟩
  · rw [if_neg limited] at wanted
    have some : engine.profile.wholeFrames ePositionUs ≠ 0 := by
      intro none
      rw [none] at wanted
      exact wanted rfl
    exact ⟨fun _ => engine.keepsSign_of_fits _ framed some above below,
      fun both => absurd both limited⟩

/-- In every state that calls can reach, a correction that is issued is justified exactly when the
counts behind it keep their signs in 32 bits. -/
theorem step_justified_iff (libm : Libm K) (profile : Profile K) (calls : List (Call K))
    (nowUs : Int) (obs : Observation) (group : GroupEvidence)
    (issued : ((Call.reached libm profile calls).step libm nowUs obs group).2.frames ≠ 0) :
    (Call.reached libm profile calls).Justified libm nowUs obs group ↔
      (Call.reached libm profile calls).NarrowsInDirection obs.bufferUs
        ((Call.reached libm profile calls).assess libm nowUs obs group).want.ePositionUs :=
  justified_iff_narrows _ libm nowUs obs group (reached_sigma_nonneg libm profile calls)
    ((step_frames_ne_zero_iff _ libm nowUs obs group).mp issued)

private def firstCall (errorUs : Int) : Engine Rat × Command Rat :=
  (Call.reached Libm.rational Profile.initial []).step Libm.rational 1000000
    { atUs := 1000000, errorUs := errorUs, valid := true, bufferUs := 0 } GroupEvidence.none

theorem step_justified_eighteen :
    (firstCall 400).2.frames ≠ 0 ∧
      (Call.reached Libm.rational (Profile.initial : Profile Rat) []).Justified Libm.rational
        1000000 { atUs := 1000000, errorUs := 400, valid := true, bufferUs := 0 }
        GroupEvidence.none := by
  have issued : (firstCall 400).2.frames ≠ 0 := by decide +kernel
  refine ⟨issued, (step_justified_iff _ _ _ _ _ _ issued).mpr
    ⟨fun _ => ?_, fun limited => absurd limited.2.1 (lt_irrefl 0)⟩⟩
  rw [KeepsSign]
  decide +kernel

/-- An error of 2 ^ 31 frames is answered in the other direction. -/
theorem frames_reversed :
    ¬ ∀ (profile : Profile Rat) (calls : List (Call Rat)) (nowUs : Int) (obs : Observation)
      (group : GroupEvidence),
      ((Call.reached Libm.rational profile calls).step Libm.rational nowUs obs group).2.frames ≠ 0 →
      (Call.reached Libm.rational profile calls).Justified Libm.rational nowUs obs group := by
  intro always
  have sign := (always Profile.initial [] 1000000
    { atUs := 1000000, errorUs := 22 * 2 ^ 31, valid := true, bufferUs := 0 } GroupEvidence.none
    (by decide +kernel)).sign
  revert sign
  decide +kernel

end Engine

end Timing
