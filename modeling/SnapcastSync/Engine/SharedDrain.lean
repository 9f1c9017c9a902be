import SnapcastSync.Engine.Attribution

/-! The shared common-mode term in the rate commands of two engines. Both compute the same
number; what reaches a command is what its exit and its slew limiter let through of it. -/

namespace Timing

open Rounding

variable {K : Type} [Field K] [LinearOrder K] [FloorRing K]

def GroupEvidence.unshared (group : GroupEvidence) : GroupEvidence :=
  { group with commonValid := false }

def overlap (low high limit : K) : K := max 0 (min high limit - max low (-limit))

/-- What the limits let through of a term, on top of what is asked for without it. -/
def letThrough (asked term limit : K) : K :=
  if 0 ≤ term then overlap asked (asked + term) limit
  else -overlap (asked + term) asked limit

namespace Engine

/-- The part of a step's rate command that is there because of the consensus. -/
def drainPpm (engine : Engine K) (libm : Libm K) (nowUs : Int) (obs : Observation)
    (group : GroupEvidence) : K :=
  (engine.step libm nowUs obs group).2.ratePpm -
    (engine.step libm nowUs obs group.unshared).2.ratePpm

def soloPpm (engine : Engine K) (libm : Libm K) (nowUs : Int) (obs : Observation)
    (group : GroupEvidence) : K :=
  engine.askedCrystalPpm libm nowUs obs group + engine.askedPPpm libm nowUs obs group

/-- How much of a term a rate command has room for: all of it in the first, and else what the
limiter lets through. -/
def roomPpm (engine : Engine K) (libm : Libm K) (nowUs : Int) (obs : Observation)
    (group : GroupEvidence) (term : K) : K :=
  if engine.rateCmdSeeded then
    letThrough (engine.soloPpm libm nowUs obs group - engine.lastRateCmd) term
      (engine.allowancePpm nowUs)
  else term

/-- The consensus decides neither the exit of a step nor what it asks for by itself. -/
theorem steers_unshared (engine : Engine K) (libm : Libm K) (nowUs : Int) (obs : Observation)
    (group : GroupEvidence) :
    engine.Steers libm nowUs obs group.unshared ↔ engine.Steers libm nowUs obs group :=
  ⟨fun steers => ⟨steers.fed, fun wants => steers.content ⟨wants.frames, wants.differential⟩⟩,
    fun steers => ⟨steers.fed, fun wants => steers.content ⟨wants.frames, wants.differential⟩⟩⟩

theorem askedPpm_unshared (engine : Engine K) (libm : Libm K) (nowUs : Int) (obs : Observation)
    (group : GroupEvidence) :
    engine.askedPpm libm nowUs obs group.unshared = engine.soloPpm libm nowUs obs group := by
  have silent : engine.commonTerm group.unshared = 0 := if_neg (fun on => by cases on.1)
  rw [askedPpm, silent, add_zero]
  rfl

end Engine

section Ordered

variable [IsStrictOrderedRing K]

omit [FloorRing K] in
theorem clamp_sub_clamp (low high limit : K) (ordered : low ≤ high) (nonneg : 0 ≤ limit) :
    clamp high (-limit) limit - clamp low (-limit) limit = overlap low high limit := by
  rw [overlap]
  rcases le_total high (-limit) with below | inside
  · have empty : min high limit - max low (-limit) ≤ 0 := by
      linarith [min_le_left high limit, le_max_right low (-limit)]
    rw [max_eq_left empty, clamp, clamp]
    split_ifs <;> linarith
  · rcases le_total limit low with above | reached
    · have empty : min high limit - max low (-limit) ≤ 0 := by
        linarith [min_le_right high limit, le_max_left low (-limit)]
      rw [max_eq_left empty, clamp, clamp]
      split_ifs <;> linarith
    · have upper : clamp high (-limit) limit = min high limit := by
        rw [clamp, if_neg (not_lt.mpr inside), min_def]
        split_ifs <;> linarith
      have lower : clamp low (-limit) limit = max low (-limit) := by
        rw [clamp, max_def]
        split_ifs <;> linarith
      have nonempty : 0 ≤ min high limit - max low (-limit) := by
        rw [sub_nonneg, max_le_iff, le_min_iff, le_min_iff]
        exact ⟨⟨ordered, reached⟩, inside, neg_le_self nonneg⟩
      rw [max_eq_right nonempty, upper, lower]

omit [FloorRing K] in
/-- A clamp passes on of a term just the part inside its limits. -/
theorem clamp_add_sub_clamp (asked term limit : K) (nonneg : 0 ≤ limit) :
    clamp (asked + term) (-limit) limit - clamp asked (-limit) limit =
      letThrough asked term limit := by
  rw [letThrough]
  split
  · next forward => exact clamp_sub_clamp asked (asked + term) limit (by linarith) nonneg
  · next backward =>
      rw [← clamp_sub_clamp (asked + term) asked limit (by linarith) nonneg, neg_sub]

theorem Engine.allowancePpm_nonneg (engine : Engine K) (nowUs : Int)
    (authority : 0 ≤ engine.profile.rateAuthorityPpm) : 0 ≤ engine.allowancePpm nowUs := by
  by_cases stalled : engine.lastObsUs ≤ 0 ∨ nowUs ≤ engine.lastObsUs
  · rw [engine.allowancePpm_of_stalled nowUs stalled]
  · rw [not_or, not_le, not_le] at stalled
    rw [engine.allowancePpm_eq nowUs stalled.1 stalled.2]
    exact engine.profile.slewPpm_nonneg authority _ (by omega)

omit [FloorRing K] in
theorem letThrough_zero (asked limit : K) : letThrough asked 0 limit = 0 := by
  have empty : min asked limit - max asked (-limit) ≤ 0 := by
    linarith [min_le_left asked limit, le_max_left asked (-limit)]
  rw [letThrough, if_pos (le_refl 0), add_zero, overlap, max_eq_left empty]

/-- The drain in a rate command is what there was room for; elsewhere there is none. -/
theorem Engine.drainPpm_eq (engine : Engine K) (libm : Libm K) (nowUs : Int) (obs : Observation)
    (group : GroupEvidence) (authority : 0 ≤ engine.profile.rateAuthorityPpm) :
    engine.drainPpm libm nowUs obs group =
      if engine.Steers libm nowUs obs group then
        engine.roomPpm libm nowUs obs group (engine.commonTerm group)
      else 0 := by
  rw [Engine.drainPpm, Engine.roomPpm]
  by_cases steers : engine.Steers libm nowUs obs group
  · have bare := (engine.steers_unshared libm nowUs obs group).mpr steers
    rw [if_pos steers, (engine.step_attribution libm nowUs obs group steers).rate,
      (engine.step_attribution libm nowUs obs group.unshared bare).rate,
      engine.askedPpm_unshared libm nowUs obs group]
    have asked : engine.askedPpm libm nowUs obs group =
        engine.soloPpm libm nowUs obs group + engine.commonTerm group := rfl
    by_cases seeded : engine.rateCmdSeeded = true
    · rw [if_pos seeded, if_pos seeded, if_pos seeded, add_sub_add_left_eq_sub, asked,
        add_sub_right_comm]
      exact clamp_add_sub_clamp _ _ _ (engine.allowancePpm_nonneg nowUs authority)
    · rw [if_neg seeded, if_neg seeded, if_neg seeded, asked, add_sub_cancel_left]
  · have bare := (engine.steers_unshared libm nowUs obs group).not.mpr steers
    rw [if_neg steers, (engine.step_of_not_steers libm nowUs obs group steers).1,
      (engine.step_of_not_steers libm nowUs obs group.unshared bare).1, sub_self]

theorem Engine.roomPpm_zero (engine : Engine K) (libm : Libm K) (nowUs : Int)
    (obs : Observation) (group : GroupEvidence) :
    engine.roomPpm libm nowUs obs group 0 = 0 := by
  rw [Engine.roomPpm]
  split
  · exact letThrough_zero _ _
  · rfl

omit [FloorRing K] [IsStrictOrderedRing K] in
/-- One consensus is one term on engines of one profile. -/
theorem commonTerm_shared (left right : Engine K) (same : right.profile = left.profile)
    (leftGroup rightGroup : GroupEvidence) (leftValid : leftGroup.commonValid = true)
    (rightValid : rightGroup.commonValid = true)
    (shared : rightGroup.commonUs = leftGroup.commonUs) :
    right.commonTerm rightGroup = left.commonTerm leftGroup := by
  rw [Engine.commonTerm, Engine.commonTerm, same, leftValid, rightValid, shared]

/-- The drain is the same on two boards just when there is none, or both are on the rate path
and have the same room for it, or a board that is on it alone has no room. -/
theorem drain_common_iff (libm : Libm K) (left right : Engine K)
    (same : right.profile = left.profile) (authority : 0 ≤ left.profile.rateAuthorityPpm)
    (leftUs rightUs : Int) (leftObs rightObs : Observation)
    (leftGroup rightGroup : GroupEvidence) (leftValid : leftGroup.commonValid = true)
    (rightValid : rightGroup.commonValid = true)
    (shared : rightGroup.commonUs = leftGroup.commonUs) :
    left.drainPpm libm leftUs leftObs leftGroup =
        right.drainPpm libm rightUs rightObs rightGroup ↔
      left.commonTerm leftGroup = 0 ∨
        (left.Steers libm leftUs leftObs leftGroup ∧
          right.Steers libm rightUs rightObs rightGroup ∧
          left.roomPpm libm leftUs leftObs leftGroup (left.commonTerm leftGroup) =
            right.roomPpm libm rightUs rightObs rightGroup (left.commonTerm leftGroup)) ∨
        (¬ (left.Steers libm leftUs leftObs leftGroup ∧
            right.Steers libm rightUs rightObs rightGroup) ∧
          (left.Steers libm leftUs leftObs leftGroup →
            left.roomPpm libm leftUs leftObs leftGroup (left.commonTerm leftGroup) = 0) ∧
          (right.Steers libm rightUs rightObs rightGroup →
            right.roomPpm libm rightUs rightObs rightGroup (left.commonTerm leftGroup) = 0)) := by
  have term := commonTerm_shared left right same leftGroup rightGroup leftValid rightValid shared
  rw [left.drainPpm_eq libm leftUs leftObs leftGroup authority,
    right.drainPpm_eq libm rightUs rightObs rightGroup (by rw [same]; exact authority), term]
  have leftZero := left.roomPpm_zero libm leftUs leftObs leftGroup
  have rightZero := right.roomPpm_zero libm rightUs rightObs rightGroup
  generalize left.commonTerm leftGroup = pc
  by_cases none : pc = 0
  · rw [none, leftZero, rightZero, ite_self, ite_self]
    simp
  · by_cases leftSteers : left.Steers libm leftUs leftObs leftGroup
    · by_cases rightSteers : right.Steers libm rightUs rightObs rightGroup
      · simp [none, leftSteers, rightSteers]
      · simp [none, leftSteers, rightSteers]
    · by_cases rightSteers : right.Steers libm rightUs rightObs rightGroup
      · simp [none, leftSteers, rightSteers, eq_comm]
      · simp [none, leftSteers, rightSteers]

end Ordered

private def draining : Profile Rat :=
  { Profile.initial with commonDrainS := 60 }

private def shown (errorUs : Int) : Observation :=
  { atUs := 0
    errorUs := errorUs
    valid := true
    bufferUs := 0 }

private def agreed (deltaUs : Int) : GroupEvidence :=
  { present := true
    deltaUs := deltaUs
    contributors := 2
    commonValid := true
    commonUs := 11000
    commonN := 2
    selfTransient := false
    hasPeers := true }

theorem drain_common_iff_first :
    (0 ≤ draining.rateAuthorityPpm ∧ (agreed 0).commonValid = true) ∧
      (Engine.create draining).drainPpm Libm.rational 1000000 (shown 0) (agreed 0) =
        (Engine.create draining).drainPpm Libm.rational 2000000 (shown 7) (agreed 7) :=
  ⟨⟨by decide +kernel, rfl⟩,
    (drain_common_iff Libm.rational (Engine.create draining) (Engine.create draining) rfl
      (by decide +kernel) 1000000 2000000 (shown 0) (shown 7) (agreed 0) (agreed 7) rfl rfl
      rfl).mpr (Or.inr (Or.inl ⟨by decide +kernel, by decide +kernel, by decide +kernel⟩))⟩

/-- One board drains at the shared rate, the other spends the step on frames and does not. -/
theorem drain_one_sided :
    ¬ ∀ (left right : Engine Rat), right.profile = left.profile →
      ∀ (nowUs : Int) (leftObs rightObs : Observation) (leftGroup rightGroup : GroupEvidence),
        leftGroup.commonValid = true → rightGroup.commonValid = true →
        rightGroup.commonUs = leftGroup.commonUs →
        left.drainPpm Libm.rational nowUs leftObs leftGroup =
          right.drainPpm Libm.rational nowUs rightObs rightGroup := by
  intro common
  have same := common (Engine.create draining) (Engine.create draining) rfl 1000000 (shown 0)
    (shown 40000) (agreed 0) (agreed 40000) rfl rfl rfl
  have drains : (Engine.create draining).drainPpm Libm.rational 1000000 (shown 0) (agreed 0) =
      50 := by decide +kernel
  have corrects : (Engine.create draining).drainPpm Libm.rational 1000000 (shown 40000)
      (agreed 40000) = 0 := by decide +kernel
  rw [drains, corrects] at same
  exact absurd same (by decide)

end Timing
