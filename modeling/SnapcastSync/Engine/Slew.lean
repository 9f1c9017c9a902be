import SnapcastSync.Engine.Calls
import SnapcastSync.Lib.Run

/-! The rate commands of consecutive steps. Only the steps that steer pass through the slew
limiter and leave it their command; every other exit answers the bare crystal estimate. -/

namespace Timing

open Rounding

variable {K : Type} [Field K] [LinearOrder K] [FloorRing K]

structure Spoken (K : Type) where
  atUs : Int
  ratePpm : K

/-- An engine with the last command it returned, from its first rate command on. -/
structure Commanding (K : Type) where
  engine : Engine K
  last : Option (Spoken K)

namespace Profile

def slewHorizonUs (profile : Profile K) : Int := max 1000 profile.rateHorizonUs

theorem slewHorizonUs_pos (profile : Profile K) : 0 < profile.slewHorizonUs :=
  lt_of_lt_of_le (by decide : (0 : Int) < 1000) (le_max_left 1000 profile.rateHorizonUs)

def slewPpm (profile : Profile K) (dtUs : Int) : K :=
  profile.rateAuthorityPpm *
    ((min dtUs profile.slewHorizonUs : Int) : K) / (profile.slewHorizonUs : K)

end Profile

namespace Engine

structure Steers (engine : Engine K) (libm : Libm K) (nowUs : Int) (obs : Observation)
    (group : GroupEvidence) : Prop where
  fed : engine.Fed obs
  content : ¬ engine.Wants libm nowUs obs group

instance (engine : Engine K) (libm : Libm K) (nowUs : Int) (obs : Observation)
    (group : GroupEvidence) : Decidable (engine.Steers libm nowUs obs group) :=
  decidable_of_iff (engine.Fed obs ∧ ¬ engine.Wants libm nowUs obs group)
    ⟨fun both => ⟨both.1, both.2⟩, fun steers => ⟨steers.fed, steers.content⟩⟩

structure SameLimiter (before after : Engine K) : Prop where
  profile : after.profile = before.profile
  crystalPpm : after.crystalPpm = before.crystalPpm
  lastRateCmd : after.lastRateCmd = before.lastRateCmd
  seeded : after.rateCmdSeeded = before.rateCmdSeeded
  lastObsUs : after.lastObsUs = before.lastObsUs

omit [Field K] [LinearOrder K] [FloorRing K] in
theorem retirePending_sameLimiter (engine : Engine K) (nowUs errorUs : Int) :
    SameLimiter engine (engine.retirePending nowUs errorUs) := by
  obtain ⟨until_, disp, ref, retired⟩ := retirePending_pending engine nowUs errorUs
  rw [retired]
  exact ⟨rfl, rfl, rfl, rfl, rfl⟩

theorem assess_sameLimiter (engine : Engine K) (libm : Libm K) (nowUs : Int)
    (obs : Observation) (group : GroupEvidence) :
    SameLimiter engine (engine.assess libm nowUs obs group).engine := by
  obtain ⟨err, gd, sigma, at_, same⟩ := assess_refiltered engine libm nowUs obs group
  obtain ⟨until_, disp, ref, retired⟩ := retirePending_pending engine nowUs obs.errorUs
  rw [same, retired]
  unfold expireInFlight
  split
  · exact ⟨rfl, rfl, rfl, rfl, rfl⟩
  · exact ⟨rfl, rfl, rfl, rfl, rfl⟩

theorem integrate_sameLimiter (engine : Engine K) (decision : Decision K) (e dtUs : Int)
    (diff : Differential K) :
    let integrated := (engine.integrate decision e dtUs diff).1
    integrated.profile = engine.profile ∧ integrated.lastRateCmd = engine.lastRateCmd ∧
      integrated.rateCmdSeeded = engine.rateCmdSeeded := by
  unfold integrate
  split
  · exact ⟨rfl, rfl, rfl⟩
  · exact ⟨rfl, rfl, rfl⟩

/-- A step that does not steer answers the crystal estimate and leaves the limiter alone, but
for the instant of a correction. -/
theorem step_of_not_steers (engine : Engine K) (libm : Libm K) (nowUs : Int)
    (obs : Observation) (group : GroupEvidence)
    (bare : ¬ engine.Steers libm nowUs obs group) :
    (engine.step libm nowUs obs group).2.ratePpm = engine.crystalPpm ∧
      (engine.step libm nowUs obs group).1.rateCmdSeeded = engine.rateCmdSeeded := by
  have assessed := assess_sameLimiter engine libm nowUs obs group
  have retired := retirePending_sameLimiter engine nowUs obs.errorUs
  cases engine.step_exit libm nowUs obs group with
  | invalid _ same =>
      rw [same]
      exact ⟨rfl, rfl⟩
  | starved _ _ same =>
      rw [same]
      exact ⟨retired.crystalPpm, retired.seeded⟩
  | blocked _ _ _ same =>
      rw [same]
      exact ⟨assessed.crystalPpm, assessed.seeded⟩
  | issued _ same =>
      rw [same]
      exact ⟨assessed.crystalPpm, assessed.seeded⟩
  | steered fed content _ => exact absurd ⟨fed, content⟩ bare

/-- What the limiter lets the command of a step move by, in the seconds of the source. -/
def allowancePpm (engine : Engine K) (nowUs : Int) : K :=
  let dtUs := if 0 < engine.lastObsUs then nowUs - engine.lastObsUs else 0
  let horizonS := max millisecond (seconds engine.profile.rateHorizonUs)
  let dtCmdS := if 0 < dtUs then min (seconds dtUs) horizonS else 0
  engine.profile.rateAuthorityPpm * (dtCmdS / horizonS)

theorem step_of_steers (engine : Engine K) (libm : Libm K) (nowUs : Int) (obs : Observation)
    (group : GroupEvidence) (steers : engine.Steers libm nowUs obs group) :
    let stepped := engine.step libm nowUs obs group
    stepped.1.rateCmdSeeded = true ∧ stepped.1.lastObsUs = nowUs ∧
      stepped.1.lastRateCmd = stepped.2.ratePpm ∧
      (engine.rateCmdSeeded = true → ∃ wantPpm, stepped.2.ratePpm =
        engine.lastRateCmd + clamp (wantPpm - engine.lastRateCmd)
          (-engine.allowancePpm nowUs) (engine.allowancePpm nowUs)) := by
  have assessed := assess_sameLimiter engine libm nowUs obs group
  intro stepped
  dsimp only [stepped]
  rw [step_of_content engine libm nowUs obs group steers.fed steers.content]
  generalize (engine.assess libm nowUs obs group).engine = reached at assessed ⊢
  unfold steer
  dsimp only
  generalize integrated : (reached.integrate (engine.weighed libm nowUs obs group)
    (obs.errorUs - (engine.retirePending nowUs obs.errorUs).pendingDispUs)
    (if 0 < reached.lastObsUs then nowUs - reached.lastObsUs else 0)
    (engine.assess libm nowUs obs group).diff) = integral
  obtain ⟨profile, lastRateCmd, seeded⟩ := integrate_sameLimiter reached
    (engine.weighed libm nowUs obs group)
    (obs.errorUs - (engine.retirePending nowUs obs.errorUs).pendingDispUs)
    (if 0 < reached.lastObsUs then nowUs - reached.lastObsUs else 0)
    (engine.assess libm nowUs obs group).diff
  rw [integrated] at profile lastRateCmd seeded
  refine ⟨rfl, rfl, rfl, ?_⟩
  intro commanded
  unfold rateCommand allowancePpm
  dsimp only
  rw [seeded, assessed.seeded, commanded, if_pos rfl, lastRateCmd, assessed.lastRateCmd,
    profile, assessed.profile, assessed.lastObsUs]
  exact ⟨_, rfl⟩

end Engine

section Ordered

variable [IsStrictOrderedRing K]

omit [FloorRing K] in
theorem clamp_abs_le (x bound : K) (nonneg : 0 ≤ bound) : |clamp x (-bound) bound| ≤ bound :=
  abs_le.mpr (clamp_mem x (-bound) bound (neg_le_self nonneg))

omit [FloorRing K] in
theorem seconds_le_iff (left right : Int) :
    (seconds left : K) ≤ seconds right ↔ left ≤ right := by
  have unit : (0 : K) < ((1000000 : Nat) : K) := by positivity
  unfold seconds
  rw [div_le_div_iff_of_pos_right unit]
  exact Int.cast_le

omit [FloorRing K] in
theorem seconds_max (left right : Int) :
    max (seconds left : K) (seconds right) = seconds (max left right) := by
  rcases le_total left right with less | less
  · rw [max_eq_right less, max_eq_right ((seconds_le_iff left right).mpr less)]
  · rw [max_eq_left less, max_eq_left ((seconds_le_iff right left).mpr less)]

omit [FloorRing K] in
theorem seconds_min (left right : Int) :
    min (seconds left : K) (seconds right) = seconds (min left right) := by
  rcases le_total left right with less | less
  · rw [min_eq_left less, min_eq_left ((seconds_le_iff left right).mpr less)]
  · rw [min_eq_right less, min_eq_right ((seconds_le_iff right left).mpr less)]

omit [FloorRing K] in
theorem millisecond_eq_seconds : (millisecond : K) = seconds 1000 := by
  unfold millisecond seconds
  norm_num

theorem slewHorizon_seconds (profile : Profile K) :
    max (millisecond : K) (seconds profile.rateHorizonUs) = seconds profile.slewHorizonUs := by
  rw [millisecond_eq_seconds, seconds_max]
  rfl

omit [FloorRing K] in
theorem seconds_div_seconds (left right : Int) (positive : 0 < right) :
    (seconds left : K) / seconds right = (left : K) / (right : K) := by
  have nonzero : (right : K) ≠ 0 := Int.cast_ne_zero.mpr (ne_of_gt positive)
  have unit : ((1000000 : Nat) : K) ≠ 0 := by positivity
  unfold seconds
  field_simp

theorem Profile.slewPpm_mono (profile : Profile K) (authority : 0 ≤ profile.rateAuthorityPpm)
    (left right : Int) (less : left ≤ right) : profile.slewPpm left ≤ profile.slewPpm right := by
  have positive : (0 : K) < profile.slewHorizonUs := Int.cast_pos.mpr profile.slewHorizonUs_pos
  have shorter : ((min left profile.slewHorizonUs : Int) : K) ≤
      ((min right profile.slewHorizonUs : Int) : K) :=
    Int.cast_le.mpr (min_le_min_right _ less)
  unfold Profile.slewPpm
  gcongr

theorem Engine.allowancePpm_eq (engine : Engine K) (nowUs : Int)
    (observed : 0 < engine.lastObsUs) (later : engine.lastObsUs < nowUs) :
    engine.allowancePpm nowUs = engine.profile.slewPpm (nowUs - engine.lastObsUs) := by
  unfold Engine.allowancePpm Profile.slewPpm
  dsimp only
  rw [if_pos observed, if_pos (by omega : 0 < nowUs - engine.lastObsUs), slewHorizon_seconds,
    seconds_min, seconds_div_seconds _ _ engine.profile.slewHorizonUs_pos, mul_div_assoc]

theorem Profile.slewPpm_nonneg (profile : Profile K)
    (authority : 0 ≤ profile.rateAuthorityPpm) (dtUs : Int) (elapsed : 0 ≤ dtUs) :
    0 ≤ profile.slewPpm dtUs := by
  have positive := profile.slewHorizonUs_pos
  have whole : (0 : Int) ≤ min dtUs profile.slewHorizonUs := le_min elapsed (le_of_lt positive)
  have share : (0 : K) ≤ ((min dtUs profile.slewHorizonUs : Int) : K) := Int.cast_nonneg whole
  have horizon : (0 : K) < profile.slewHorizonUs := Int.cast_pos.mpr positive
  unfold Profile.slewPpm
  positivity

omit [IsStrictOrderedRing K] in
theorem Engine.allowancePpm_of_stalled (engine : Engine K) (nowUs : Int)
    (stalled : engine.lastObsUs ≤ 0 ∨ nowUs ≤ engine.lastObsUs) :
    engine.allowancePpm nowUs = 0 := by
  have elapsed : ¬ 0 < (if 0 < engine.lastObsUs then nowUs - engine.lastObsUs else 0) := by
    split
    · omega
    · exact lt_irrefl 0
  unfold Engine.allowancePpm
  dsimp only
  rw [if_neg elapsed, zero_div, mul_zero]

/-- The limiter, counting from an observation at or after an instant, allows no more than that
instant does. -/
theorem Engine.allowancePpm_le (engine : Engine K) (authority : 0 ≤ engine.profile.rateAuthorityPpm)
    (lastUs nowUs : Int) (later : lastUs < nowUs)
    (remembered : lastUs ≤ engine.lastObsUs ∨ engine.lastObsUs ≤ 0) :
    0 ≤ engine.allowancePpm nowUs ∧
      engine.allowancePpm nowUs ≤ engine.profile.slewPpm (nowUs - lastUs) := by
  have bound := engine.profile.slewPpm_nonneg authority (nowUs - lastUs) (by omega)
  by_cases stalled : engine.lastObsUs ≤ 0 ∨ nowUs ≤ engine.lastObsUs
  · rw [engine.allowancePpm_of_stalled nowUs stalled]
    exact ⟨le_refl 0, bound⟩
  · rw [not_or, not_le, not_le] at stalled
    rw [engine.allowancePpm_eq nowUs stalled.1 stalled.2]
    constructor
    · exact engine.profile.slewPpm_nonneg authority _ (by omega)
    · apply engine.profile.slewPpm_mono authority
      omega

end Ordered

namespace Commanding

def start (profile : Profile K) : Commanding K :=
  { engine := Engine.create profile
    last := none }

def perform (libm : Libm K) (state : Commanding K) (call : Call K) : Commanding K :=
  let engine := call.perform libm state.engine
  { engine := engine
    last :=
      match call with
      | .step nowUs obs group =>
          if engine.rateCmdSeeded then
            some
              { atUs := nowUs
                ratePpm := (state.engine.step libm nowUs obs group).2.ratePpm }
          else none
      | _ => state.last }

/-- A step's command is within the slew of the one before. -/
def Continuous (libm : Libm K) (state : Commanding K) : Call K → Prop
  | .step nowUs obs group =>
      ∀ last, state.last = some last → last.atUs < nowUs →
        |(state.engine.step libm nowUs obs group).2.ratePpm - last.ratePpm| ≤
          state.engine.profile.slewPpm (nowUs - last.atUs)
  | _ => True

/-- A step steers while the limiter remembers the last command, or it leaves by another exit
while the crystal estimate is within the slew of the last command. -/
def Limited (libm : Libm K) (state : Commanding K) : Call K → Prop
  | .step nowUs obs group =>
      ∀ last, state.last = some last → last.atUs < nowUs →
        if state.engine.Steers libm nowUs obs group then
          0 ≤ state.engine.profile.rateAuthorityPpm ∧
            state.engine.lastRateCmd = last.ratePpm ∧
            (last.atUs ≤ state.engine.lastObsUs ∨ state.engine.lastObsUs ≤ 0)
        else
          |state.engine.crystalPpm - last.ratePpm| ≤
            state.engine.profile.slewPpm (nowUs - last.atUs)
  | _ => True

def Recorded (state : Commanding K) : Prop :=
  ∀ last, state.last = some last → state.engine.rateCmdSeeded = true

theorem recorded_perform (libm : Libm K) (state : Commanding K) (call : Call K)
    (recorded : state.Recorded) : (state.perform libm call).Recorded := by
  intro last known
  cases call with
  | setProfile profile => exact recorded last known
  | setCrystalPpm ppm =>
      cases ppm with
      | none => exact recorded last known
      | some ppm => exact recorded last known
  | step nowUs obs group =>
      unfold perform at known
      dsimp only at known
      split at known
      · rename_i seeded
        exact seeded
      · cases known
  | confirmPositionLanded correctionId nowUs =>
      obtain ⟨_, _, _, _, _, _, _, only⟩ := state.engine.confirm_only correctionId nowUs
      change (state.engine.confirmPositionLanded correctionId nowUs).rateCmdSeeded = true
      rw [only]
      exact recorded last known
  | noteExternalMove appliedUs nowUs =>
      change (state.engine.noteExternalMove appliedUs nowUs).rateCmdSeeded = true
      unfold Engine.noteExternalMove
      split
      · exact recorded last known
      · exact recorded last known

/-- Every step steers, under an authority that is not negative. -/
def Steering (libm : Libm K) (state : Commanding K) : Call K → Prop
  | .step nowUs obs group =>
      state.engine.Steers libm nowUs obs group ∧ 0 ≤ state.engine.profile.rateAuthorityPpm
  | _ => True

instance (libm : Libm K) (state : Commanding K) (call : Call K) :
    Decidable (state.Steering libm call) :=
  match call with
  | .step nowUs obs group =>
      inferInstanceAs (Decidable (state.engine.Steers libm nowUs obs group ∧ _))
  | .setProfile _ => isTrue trivial
  | .setCrystalPpm _ => isTrue trivial
  | .confirmPositionLanded _ _ => isTrue trivial
  | .noteExternalMove _ _ => isTrue trivial

def Remembers (state : Commanding K) : Prop :=
  ∀ last, state.last = some last →
    state.engine.lastRateCmd = last.ratePpm ∧ state.engine.lastObsUs = last.atUs

theorem remembers_perform (libm : Libm K) (state : Commanding K) (call : Call K)
    (remembers : state.Remembers) (steering : state.Steering libm call) :
    (state.perform libm call).Remembers := by
  intro last known
  cases call with
  | setProfile profile => exact remembers last known
  | setCrystalPpm ppm =>
      cases ppm with
      | none => exact remembers last known
      | some ppm => exact remembers last known
  | step nowUs obs group =>
      obtain ⟨seeded, observed, command, _⟩ :=
        state.engine.step_of_steers libm nowUs obs group steering.1
      unfold perform Call.perform at known ⊢
      dsimp only at known ⊢
      rw [if_pos seeded] at known
      cases known
      exact ⟨command, observed⟩
  | confirmPositionLanded correctionId nowUs =>
      obtain ⟨_, _, _, _, _, _, _, only⟩ := state.engine.confirm_only correctionId nowUs
      change (state.engine.confirmPositionLanded correctionId nowUs).lastRateCmd = _ ∧
        (state.engine.confirmPositionLanded correctionId nowUs).lastObsUs = _
      rw [only]
      exact remembers last known
  | noteExternalMove appliedUs nowUs =>
      change (state.engine.noteExternalMove appliedUs nowUs).lastRateCmd = _ ∧
        (state.engine.noteExternalMove appliedUs nowUs).lastObsUs = _
      unfold Engine.noteExternalMove
      split
      · exact remembers last known
      · exact remembers last known

theorem limited_of_steering (libm : Libm K) (profile : Profile K) (calls : List (Call K))
    (steering : Run.Along (perform libm) (Steering libm) (start profile) calls) :
    Run.Along (perform libm) (Limited libm) (start profile) calls := by
  apply Run.along_of_along (perform libm) Remembers (Steering libm) (Limited libm) _ _ _ calls
  · intro last known
    cases known
  · exact steering
  · exact fun state call remembers steering => remembers_perform libm state call remembers steering
  · intro state call remembers steering
    cases call with
    | step nowUs obs group =>
        intro last known _
        obtain ⟨command, observed⟩ := remembers last known
        rw [if_pos steering.1]
        exact ⟨steering.2, command, Or.inl (ge_of_eq observed)⟩
    | setProfile profile => exact trivial
    | setCrystalPpm ppm => exact trivial
    | confirmPositionLanded correctionId nowUs => exact trivial
    | noteExternalMove appliedUs nowUs => exact trivial

variable [IsStrictOrderedRing K]

theorem continuous_of_limited (libm : Libm K) (state : Commanding K) (call : Call K)
    (recorded : state.Recorded) (limited : state.Limited libm call) :
    state.Continuous libm call := by
  cases call with
  | step nowUs obs group =>
      intro last known later
      have allowed := limited last known later
      by_cases steers : state.engine.Steers libm nowUs obs group
      · rw [if_pos steers] at allowed
        obtain ⟨authority, remembers, timed⟩ := allowed
        obtain ⟨_, _, _, moved⟩ := state.engine.step_of_steers libm nowUs obs group steers
        obtain ⟨wantPpm, command⟩ := moved (recorded last known)
        obtain ⟨nonneg, within⟩ :=
          state.engine.allowancePpm_le authority last.atUs nowUs later timed
        rw [command, remembers, add_sub_cancel_left]
        exact le_trans (clamp_abs_le _ _ nonneg) within
      · rw [if_neg steers] at allowed
        rw [(state.engine.step_of_not_steers libm nowUs obs group steers).1]
        exact allowed
  | setProfile profile => exact trivial
  | setCrystalPpm ppm => exact trivial
  | confirmPositionLanded correctionId nowUs => exact trivial
  | noteExternalMove appliedUs nowUs => exact trivial

/-- Consecutive commands of a run are within the slew of each other where every step steers from
the last command, or finds the crystal estimate near it; so they are where every step steers. -/
theorem continuous_of_along_limited (libm : Libm K) (profile : Profile K) (calls : List (Call K)) :
    (Run.Along (perform libm) (Limited libm) (start profile) calls →
        Run.Along (perform libm) (Continuous libm) (start profile) calls) ∧
      (Run.Along (perform libm) (Steering libm) (start profile) calls →
        Run.Along (perform libm) (Continuous libm) (start profile) calls) := by
  have continuous : Run.Along (perform libm) (Limited libm) (start profile) calls →
      Run.Along (perform libm) (Continuous libm) (start profile) calls := by
    intro limited
    apply Run.along_of_along (perform libm) Recorded (Limited libm) (Continuous libm) _ _ _ calls
    · intro last known
      cases known
    · exact limited
    · exact fun state call recorded _ => recorded_perform libm state call recorded
    · exact fun state call recorded limited =>
        continuous_of_limited libm state call recorded limited
  exact ⟨continuous, fun steering => continuous (limited_of_steering libm profile calls steering)⟩

private def behind (valid : Bool) : Observation :=
  { atUs := 1000000
    errorUs := 100
    valid := valid
    bufferUs := 0 }

private def steeringRun : List (Call Rat) :=
  [.step 1000000 (behind true) GroupEvidence.none,
    .step 1100000 (behind true) GroupEvidence.none]

theorem continuous_steeringRun :
    Run.Along (perform Libm.rational) (Continuous Libm.rational) (start Profile.initial)
      steeringRun := by
  apply (continuous_of_along_limited Libm.rational Profile.initial steeringRun).2
  decide +kernel

private def lostObservation : List (Call Rat) :=
  [.step 1000000 (behind true) GroupEvidence.none,
    .step 1001000 (behind false) GroupEvidence.none]

theorem discontinuous_of_lost_observation :
    ¬ ∀ (profile : Profile Rat) (calls : List (Call Rat)),
      (∀ call ∈ calls, call.profile = none) →
      Run.Along (perform Libm.rational) (Continuous Libm.rational) (start profile) calls := by
  intro always
  have steady : ∀ call ∈ lostObservation, call.profile = none := by
    intro call member
    rcases List.mem_cons.mp member with rfl | member
    · rfl
    · rw [List.mem_singleton.mp member]
      rfl
  have along := (always Profile.initial lostObservation steady).2.1
  have seeded : ((Call.step 1000000 (behind true) GroupEvidence.none).perform Libm.rational
      (Engine.create Profile.initial)).rateCmdSeeded = true := by decide +kernel
  have close := along _ (if_pos seeded) (by decide)
  exact absurd close (by decide +kernel)

end Commanding

end Timing
