import SnapcastSync.Engine.Calls
import SnapcastSync.Lib.Run

/-! What a step subtracts from an observation, against the moves that have not landed. The
account beside the engine keeps every move that was commanded or announced until an observation
shows it, or its deadline passes; the engine keeps one. -/

namespace Timing

open Rounding

variable {K : Type}

/-- A displacement on its way, with the error recorded for it and the latest time it lands. -/
structure Move where
  dispUs : Int
  refUs : Int
  untilUs : Int

/-- The observation is nearer to the error after the move than to the one before, or is late. -/
def Move.Recognised (move : Move) (nowUs errorUs : Int) : Prop :=
  |errorUs - (move.refUs - move.dispUs)| < |errorUs - move.refUs| ∨ move.untilUs ≤ nowUs

instance (move : Move) (nowUs errorUs : Int) : Decidable (move.Recognised nowUs errorUs) :=
  inferInstanceAs (Decidable (_ ∨ _))

def remaining (moves : List Move) (nowUs errorUs : Int) : List Move :=
  moves.filter fun move => !decide (move.Recognised nowUs errorUs)

def totalUs (moves : List Move) : Int := (moves.map Move.dispUs).sum

structure Underway (K : Type) where
  engine : Engine K
  moves : List Move

namespace Engine

def keptMove (engine : Engine K) (dispUs : Int) : Move :=
  { dispUs := dispUs
    refUs := engine.pendingRefUs
    untilUs := engine.pendingCompUntilUs }

structure Keeps (engine : Engine K) (move : Move) : Prop where
  disp : engine.pendingDispUs = move.dispUs
  ref : engine.pendingRefUs = move.refUs
  until_ : engine.pendingCompUntilUs = move.untilUs

structure Still (engine : Engine K) : Prop where
  disp : engine.pendingDispUs = 0
  until_ : engine.pendingCompUntilUs = 0

def shiftUs (engine : Engine K) (nowUs errorUs : Int) : Int :=
  (engine.retirePending nowUs errorUs).pendingDispUs

theorem shiftUs_of_no_deadline (engine : Engine K) (nowUs errorUs : Int)
    (none_ : engine.pendingCompUntilUs = 0) :
    engine.shiftUs nowUs errorUs = engine.pendingDispUs := by
  unfold shiftUs retirePending
  rw [if_neg (not_not.mpr none_)]

/-- The move that is kept is retired just when it is recognised. -/
theorem retirePending_of_keeps (engine : Engine K) (move : Move) (nowUs errorUs : Int)
    (keeps : engine.Keeps move) (dated : move.untilUs ≠ 0) :
    (move.Recognised nowUs errorUs → (engine.retirePending nowUs errorUs).Still) ∧
      (¬ move.Recognised nowUs errorUs → (engine.retirePending nowUs errorUs).Keeps move) := by
  unfold retirePending Move.Recognised
  rw [keeps.until_, keeps.ref, keeps.disp, if_pos dated]
  constructor
  · intro recognised
    dsimp only
    rw [if_pos recognised]
    exact ⟨rfl, rfl⟩
  · intro unrecognised
    dsimp only
    rw [if_neg unrecognised]
    exact keeps

theorem retirePending_of_still (engine : Engine K) (nowUs errorUs : Int) (still : engine.Still) :
    (engine.retirePending nowUs errorUs).Still := by
  unfold retirePending
  rw [if_neg (not_not.mpr still.until_)]
  exact still

end Engine

namespace Underway

inductive Single (state : Underway K) : Prop where
  | still (none_ : state.moves = []) (still : state.engine.Still)
  | moving (move : Move) (one : state.moves = [move]) (moved : move.dispUs ≠ 0)
      (dated : move.untilUs ≠ 0) (keeps : state.engine.Keeps move)

/-- What a step would subtract is what is left of the moves under way. -/
def Balanced (state : Underway K) : Prop :=
  ∀ nowUs errorUs,
    state.engine.shiftUs nowUs errorUs = totalUs (remaining state.moves nowUs errorUs)

theorem Single.balanced {state : Underway K} (single : state.Single) : state.Balanced := by
  intro nowUs errorUs
  cases single with
  | still none_ still =>
      rw [none_]
      exact (Engine.retirePending_of_still state.engine nowUs errorUs still).disp
  | moving move one moved dated keeps =>
      obtain ⟨retired, kept⟩ :=
        Engine.retirePending_of_keeps state.engine move nowUs errorUs keeps dated
      unfold Engine.shiftUs remaining totalUs
      rw [one]
      by_cases recognised : move.Recognised nowUs errorUs
      · rw [(retired recognised).disp]
        simp [recognised]
      · rw [(kept recognised).disp]
        simp [recognised]

/-- A valid observation retires the one move under way for the engine and the account alike. -/
theorem Single.observed {state : Underway K} (single : state.Single) (nowUs errorUs : Int) :
    Single
      { engine := state.engine.retirePending nowUs errorUs
        moves := remaining state.moves nowUs errorUs } := by
  cases single with
  | still none_ still =>
      apply Single.still
      · rw [none_]
        rfl
      · exact Engine.retirePending_of_still state.engine nowUs errorUs still
  | moving move one moved dated keeps =>
      obtain ⟨retired, kept⟩ :=
        Engine.retirePending_of_keeps state.engine move nowUs errorUs keeps dated
      by_cases recognised : move.Recognised nowUs errorUs
      · apply Single.still
        · rw [one]
          simp [remaining, recognised]
        · exact retired recognised
      · apply Single.moving move
        · rw [one]
          simp [remaining, recognised]
        · exact moved
        · exact dated
        · exact kept recognised

/-- A further move that the engine keeps in place of what it kept before. -/
def joined (state : Underway K) (engine : Engine K) (move : Move) : Underway K :=
  { engine := engine
    moves := state.moves ++ [move] }

theorem single_of_joined (state : Underway K) (single : state.Single) (engine : Engine K)
    (move : Move) (keeps : engine.Keeps move) (moved : move.dispUs ≠ 0)
    (free : state.engine.pendingCompUntilUs = 0) (dated : move.untilUs ≠ 0) :
    (state.joined engine move).Single := by
  cases single with
  | still none_ still =>
      apply Single.moving move
      · unfold joined
        rw [none_, List.nil_append]
      · exact moved
      · exact dated
      · exact keeps
  | moving earlier one _ earlierDated earlierKeeps =>
      exact absurd (earlierKeeps.until_.symm.trans free) earlierDated

/-- Without a deadline the engine keeps subtracting a move that is overdue. -/
theorem unbalanced_of_undated (state : Underway K) (single : state.Single) (engine : Engine K)
    (move : Move) (keeps : engine.Keeps move) (moved : move.dispUs ≠ 0)
    (undated : move.untilUs = 0) : ¬ (state.joined engine move).Balanced := by
  intro balanced
  have overdue : ∃ nowUs : Int, 0 ≤ nowUs ∧ ∀ earlier ∈ state.moves, earlier.untilUs ≤ nowUs := by
    cases single with
    | still none_ _ =>
        refine ⟨0, le_refl 0, ?_⟩
        rw [none_]
        intro earlier member
        cases member
    | moving earlier one _ _ _ =>
        refine ⟨max 0 earlier.untilUs, le_max_left _ _, ?_⟩
        rw [one]
        intro other member
        rw [List.mem_singleton.mp member]
        exact le_max_right _ _
  obtain ⟨nowUs, late, passed⟩ := overdue
  have none_ : remaining (state.joined engine move).moves nowUs 0 = [] := by
    apply List.filter_eq_nil_iff.mpr
    intro other member
    have past : other.untilUs ≤ nowUs := by
      rcases List.mem_append.mp member with earlier | last
      · exact passed other earlier
      · rw [List.mem_singleton.mp last, undated]
        exact late
    have recognised : other.Recognised nowUs 0 := Or.inr past
    simpa using recognised
  have same : engine.shiftUs nowUs 0 =
      totalUs (remaining (state.joined engine move).moves nowUs 0) := balanced nowUs 0
  rw [none_, Engine.shiftUs_of_no_deadline _ _ _ (keeps.until_.trans undated)] at same
  exact moved (keeps.disp.symm.trans same)

/-- While an earlier move is under way its share is lost. -/
theorem unbalanced_of_pending (state : Underway K) (single : state.Single) (engine : Engine K)
    (move : Move) (keeps : engine.Keeps move) (dated : move.untilUs ≠ 0)
    (pending : state.engine.pendingCompUntilUs ≠ 0) : ¬ (state.joined engine move).Balanced := by
  intro balanced
  cases single with
  | still _ still => exact pending still.until_
  | moving earlier one moved _ _ =>
      -- before the deadline and at the recorded error the earlier move has not landed
      have waiting : ¬ earlier.Recognised (earlier.untilUs - 1) earlier.refUs := by
        unfold Move.Recognised
        rw [sub_self, abs_zero]
        have distance := abs_nonneg (earlier.refUs - (earlier.refUs - earlier.dispUs))
        omega
      have same := balanced (earlier.untilUs - 1) earlier.refUs
      obtain ⟨retired, kept⟩ := Engine.retirePending_of_keeps engine move
        (earlier.untilUs - 1) earlier.refUs keeps dated
      unfold joined Engine.shiftUs remaining totalUs at same
      rw [one] at same
      by_cases recognised : move.Recognised (earlier.untilUs - 1) earlier.refUs
      · rw [(retired recognised).disp] at same
        simp [waiting, recognised] at same
        exact moved same.symm
      · rw [(kept recognised).disp] at same
        simp [waiting, recognised] at same
        exact moved same

/-- The account is balanced after a further move exactly when the engine kept none before it and
keeps its deadline. -/
theorem joined_balanced_iff (state : Underway K) (single : state.Single) (engine : Engine K)
    (move : Move) (keeps : engine.Keeps move) (moved : move.dispUs ≠ 0) :
    (state.joined engine move).Balanced ↔
      state.engine.pendingCompUntilUs = 0 ∧ move.untilUs ≠ 0 := by
  constructor
  · intro balanced
    have dated : move.untilUs ≠ 0 := fun undated =>
      unbalanced_of_undated state single engine move keeps moved undated balanced
    refine ⟨?_, dated⟩
    by_contra pending
    exact unbalanced_of_pending state single engine move keeps dated pending balanced
  · rintro ⟨free, dated⟩
    exact (single_of_joined state single engine move keeps moved free dated).balanced

variable [Field K] [LinearOrder K] [FloorRing K]

def start (profile : Profile K) : Underway K :=
  { engine := Engine.create profile
    moves := [] }

/-- A valid observation retires what it recognises; then a frame command and an announcement
each add a move, with the error and the deadline that the engine records for it. -/
def perform (libm : Libm K) (state : Underway K) (call : Call K) : Underway K :=
  let engine := call.perform libm state.engine
  match call with
  | .step nowUs obs group =>
      let command := (state.engine.step libm nowUs obs group).2
      let kept := if obs.valid then remaining state.moves nowUs obs.errorUs else state.moves
      { engine := engine
        moves :=
          if command.frames ≠ 0 then
            kept ++ [engine.keptMove (command.frames * state.engine.profile.frameUs)]
          else kept }
  | .noteExternalMove appliedUs _ =>
      { engine := engine
        moves :=
          if appliedUs ≠ 0 then state.moves ++ [engine.keptMove appliedUs] else state.moves }
  | _ =>
      { engine := engine
        moves := state.moves }

/-- A step on any observation that counts subtracts what is left of the moves under way. -/
def Compensated (libm : Libm K) (state : Underway K) : Prop :=
  ∀ nowUs obs group, state.engine.Fed obs →
    (state.engine.step libm nowUs obs group).2.decision.errorUs =
      obs.errorUs - totalUs (remaining state.moves nowUs obs.errorUs)

/-- A move is commanded or announced only while none is kept, and its deadline is not the instant
zero, which stands for none. -/
def Alone (libm : Libm K) (state : Underway K) : Call K → Prop
  | .step nowUs obs group =>
      state.engine.Ready libm nowUs obs group →
        (state.engine.retirePending nowUs obs.errorUs).pendingCompUntilUs = 0 ∧
          nowUs + state.engine.profile.compensationUs ≠ 0
  | .noteExternalMove appliedUs nowUs =>
      appliedUs ≠ 0 →
        state.engine.pendingCompUntilUs = 0 ∧ nowUs + state.engine.profile.compensationUs ≠ 0
  | _ => True

end Underway

namespace Engine

variable [Field K] [LinearOrder K] [FloorRing K]

theorem integrate_errorUs (engine : Engine K) (decision : Decision K) (e dtUs : Int)
    (diff : Differential K) :
    (engine.integrate decision e dtUs diff).2.errorUs = decision.errorUs := by
  unfold integrate
  split
  · rfl
  · rfl

theorem step_errorUs (engine : Engine K) (libm : Libm K) (nowUs : Int) (obs : Observation)
    (group : GroupEvidence) (fed : engine.Fed obs) :
    (engine.step libm nowUs obs group).2.decision.errorUs =
      obs.errorUs - engine.shiftUs nowUs obs.errorUs := by
  cases engine.step_exit libm nowUs obs group with
  | invalid absent _ => exact absurd (absent.symm.trans fed.valid) Bool.false_ne_true
  | starved _ starved _ => exact absurd (fed.supplied.symm.trans starved) Bool.false_ne_true
  | blocked _ _ _ same =>
      rw [same]
      rfl
  | issued _ same =>
      rw [same]
      rfl
  | steered _ _ same =>
      rw [same]
      exact integrate_errorUs _ _ _ _ _

end Engine

namespace Underway

variable [Field K] [LinearOrder K] [FloorRing K]

theorem compensated_iff_balanced (libm : Libm K) (state : Underway K) :
    state.Compensated libm ↔ state.Balanced := by
  constructor
  · intro compensated nowUs errorUs
    have fed : state.engine.Fed { atUs := nowUs, errorUs := errorUs, valid := true, bufferUs := 0 } :=
      ⟨rfl, rfl⟩
    have same := compensated nowUs _ GroupEvidence.none fed
    rw [Engine.step_errorUs _ _ _ _ _ fed] at same
    exact sub_right_injective same
  · intro balanced nowUs obs group fed
    rw [Engine.step_errorUs _ _ _ _ _ fed, balanced nowUs obs.errorUs]

theorem step_idle_pending (libm : Libm K) (engine : Engine K) (nowUs : Int) (obs : Observation)
    (group : GroupEvidence) (idle : ¬ engine.Ready libm nowUs obs group) :
    let after := (engine.step libm nowUs obs group).1
    let kept := if obs.valid then engine.retirePending nowUs obs.errorUs else engine
    after.pendingDispUs = kept.pendingDispUs ∧ after.pendingRefUs = kept.pendingRefUs ∧
      after.pendingCompUntilUs = kept.pendingCompUntilUs := by
  have assessed : ∀ after : Engine K,
      Engine.Steered (engine.assess libm nowUs obs group).engine after →
      after.pendingDispUs = (engine.retirePending nowUs obs.errorUs).pendingDispUs ∧
        after.pendingRefUs = (engine.retirePending nowUs obs.errorUs).pendingRefUs ∧
        after.pendingCompUntilUs =
          (engine.retirePending nowUs obs.errorUs).pendingCompUntilUs := by
    intro after steered
    rw [steered.pendingDispUs, steered.pendingRefUs, steered.pendingCompUntilUs]
    obtain ⟨err, gd, sigma, at_, same⟩ := engine.assess_refiltered libm nowUs obs group
    rw [same]
    unfold Engine.expireInFlight
    split
    · exact ⟨rfl, rfl, rfl⟩
    · exact ⟨rfl, rfl, rfl⟩
  intro after kept
  dsimp only [after, kept]
  cases engine.step_exit libm nowUs obs group with
  | invalid absent same =>
      rw [same, absent]
      exact ⟨rfl, rfl, rfl⟩
  | starved valid _ same =>
      rw [same, valid]
      exact ⟨rfl, rfl, rfl⟩
  | blocked fed _ _ same =>
      rw [same, fed.valid]
      exact assessed _ (Engine.hold_steered _ _ _)
  | issued ready _ => exact absurd ready idle
  | steered fed _ same =>
      rw [same, fed.valid]
      exact assessed _ (Engine.steer_steered _ _ _ _ _ _ _)

omit [Field K] [LinearOrder K] [FloorRing K] in
theorem Single.congr {state after : Underway K} (single : state.Single)
    (moves : after.moves = state.moves)
    (disp : after.engine.pendingDispUs = state.engine.pendingDispUs)
    (ref : after.engine.pendingRefUs = state.engine.pendingRefUs)
    (until_ : after.engine.pendingCompUntilUs = state.engine.pendingCompUntilUs) :
    after.Single := by
  cases single with
  | still none_ still =>
      exact .still (moves.trans none_) ⟨disp.trans still.disp, until_.trans still.until_⟩
  | moving move one moved dated keeps =>
      exact .moving move (moves.trans one) moved dated
        ⟨disp.trans keeps.disp, ref.trans keeps.ref, until_.trans keeps.until_⟩

/-- What one call does to the account: it keeps a single move, or it adds one to an account that
keeps one. -/
inductive Effect (libm : Libm K) (state : Underway K) (call : Call K) : Prop where
  | kept (single : (state.perform libm call).Single) (alone : state.Alone libm call)
  | added (before : Underway K) (single : before.Single) (engine : Engine K) (move : Move)
      (keeps : engine.Keeps move) (moved : move.dispUs ≠ 0)
      (after : state.perform libm call = before.joined engine move)
      (alone : state.Alone libm call ↔
        before.engine.pendingCompUntilUs = 0 ∧ move.untilUs ≠ 0)

theorem noteExternalMove_effect (libm : Libm K) (state : Underway K) (appliedUs nowUs : Int)
    (single : state.Single) : Effect libm state (.noteExternalMove appliedUs nowUs) := by
  by_cases still : appliedUs = 0
  · have same : state.engine.noteExternalMove appliedUs nowUs = state.engine := if_pos still
    apply Effect.kept
    · exact single.congr (if_neg (not_not.mpr still)) (congrArg _ same) (congrArg _ same)
        (congrArg _ same)
    · exact fun moved => absurd still moved
  · have pending : (state.engine.noteExternalMove appliedUs nowUs).pendingDispUs = appliedUs ∧
        (state.engine.noteExternalMove appliedUs nowUs).pendingCompUntilUs =
          nowUs + state.engine.profile.compensationUs := by
      unfold Engine.noteExternalMove
      rw [if_neg still]
      exact ⟨rfl, rfl⟩
    apply Effect.added state single (state.engine.noteExternalMove appliedUs nowUs)
      ((state.engine.noteExternalMove appliedUs nowUs).keptMove appliedUs)
    · exact ⟨pending.1, rfl, rfl⟩
    · exact still
    · unfold perform joined
      dsimp only
      rw [if_pos still]
      rfl
    · unfold Alone Engine.keptMove
      dsimp only
      rw [pending.2]
      exact imp_iff_right still

theorem step_effect (libm : Libm K) (state : Underway K) (nowUs : Int) (obs : Observation)
    (group : GroupEvidence) (single : state.Single) :
    Effect libm state (.step nowUs obs group) := by
  by_cases ready : state.engine.Ready libm nowUs obs group
  · obtain ⟨disp, _⟩ := Engine.step_shift_of_ready state.engine libm nowUs obs group ready
    have commanded :=
      (Engine.step_frames_ne_zero_iff state.engine libm nowUs obs group).mpr ready
    have framed := Engine.frameUs_pos_of_wanted state.engine libm nowUs obs group ready.wanted
    have until_ : (state.engine.step libm nowUs obs group).1.pendingCompUntilUs =
        nowUs + state.engine.profile.compensationUs := by
      rw [Engine.step_of_ready _ _ _ _ _ ready,
        ← Engine.assess_profile state.engine libm nowUs obs group]
      rfl
    apply Effect.added _ (single.observed nowUs obs.errorUs)
      (state.engine.step libm nowUs obs group).1
      ((state.engine.step libm nowUs obs group).1.keptMove
        ((state.engine.step libm nowUs obs group).2.frames * state.engine.profile.frameUs))
    · exact ⟨disp, rfl, rfl⟩
    · exact mul_ne_zero commanded (ne_of_gt framed)
    · unfold perform joined
      dsimp only
      rw [if_pos commanded, if_pos ready.valid]
      rfl
    · unfold Alone Engine.keptMove
      dsimp only
      rw [until_]
      exact imp_iff_right ready
  · have idle := Engine.step_of_not_ready state.engine libm nowUs obs group ready
    obtain ⟨disp, ref, until_⟩ := step_idle_pending libm state.engine nowUs obs group ready
    have moves : (state.perform libm (.step nowUs obs group)).moves =
        if obs.valid then remaining state.moves nowUs obs.errorUs else state.moves :=
      if_neg (not_not.mpr idle)
    apply Effect.kept
    · cases valid : obs.valid with
      | true =>
          rw [valid] at disp ref until_ moves
          exact (single.observed nowUs obs.errorUs).congr moves disp ref until_
      | false =>
          rw [valid] at disp ref until_ moves
          exact single.congr moves disp ref until_
    · exact fun issues => absurd issues ready

theorem perform_effect (libm : Libm K) (state : Underway K) (call : Call K)
    (single : state.Single) : Effect libm state call := by
  cases call with
  | setProfile profile => exact .kept (single.congr rfl rfl rfl rfl) trivial
  | setCrystalPpm ppm =>
      cases ppm with
      | none => exact .kept (single.congr rfl rfl rfl rfl) trivial
      | some ppm => exact .kept (single.congr rfl rfl rfl rfl) trivial
  | confirmPositionLanded correctionId nowUs =>
      obtain ⟨_, _, _, _, _, _, _, only⟩ := state.engine.confirm_only correctionId nowUs
      have same : state.perform libm (.confirmPositionLanded correctionId nowUs) =
          { state with engine := state.engine.confirmPositionLanded correctionId nowUs } := rfl
      apply Effect.kept
      · rw [same, only]
        exact single.congr rfl rfl rfl rfl
      · exact trivial
  | noteExternalMove appliedUs nowUs =>
      exact noteExternalMove_effect libm state appliedUs nowUs single
  | step nowUs obs group => exact step_effect libm state nowUs obs group single

/-- One call keeps the account balanced exactly when what it moves is alone. -/
theorem perform_compensated_iff (libm : Libm K) (state : Underway K) (call : Call K)
    (single : state.Single) :
    (state.perform libm call).Compensated libm ↔ state.Alone libm call := by
  rw [compensated_iff_balanced]
  cases perform_effect libm state call single with
  | kept kept alone => exact iff_of_true kept.balanced alone
  | added before earlier engine move keeps moved after alone =>
      rw [after, alone]
      exact joined_balanced_iff before earlier engine move keeps moved

theorem single_perform (libm : Libm K) (state : Underway K) (call : Call K)
    (single : state.Single) (alone : state.Alone libm call) :
    (state.perform libm call).Single := by
  cases perform_effect libm state call single with
  | kept kept _ => exact kept
  | added before earlier engine move keeps moved after exactly =>
      obtain ⟨free, dated⟩ := exactly.mp alone
      rw [after]
      exact single_of_joined before earlier engine move keeps moved free dated

/-- Over a run, every step subtracts the moves that are under way exactly when no move is
commanded or announced while another one is. -/
theorem compensated_iff_alone (libm : Libm K) (profile : Profile K) (calls : List (Call K)) :
    Run.Visits (perform libm) (Compensated libm) (start profile) calls ↔
      Run.Along (perform libm) (Alone libm) (start profile) calls :=
  Run.visits_iff_along_of_invariant (perform libm) Single (Compensated libm) (Alone libm)
    (fun state single => (compensated_iff_balanced libm state).mpr single.balanced)
    (fun state call single => perform_compensated_iff libm state call single)
    (fun state call single alone => single_perform libm state call single alone)
    _ calls (.still rfl ⟨rfl, rfl⟩)

private def lateBySecond : Observation :=
  { atUs := 1000000
    errorUs := 1000000
    valid := true
    bufferUs := 0 }

private def resyncedCorrection : List (Call Rat) :=
  [.step 1000000 lateBySecond GroupEvidence.none, .noteExternalMove 20000 1000100]

theorem uncompensated_of_overlap :
    ¬ ∀ (profile : Profile Rat) (calls : List (Call Rat)),
      Run.Visits (perform Libm.rational) (Compensated Libm.rational) (start profile) calls := by
  intro always
  have last := Run.visits_last _ _ _ _ (always Profile.initial resyncedCorrection)
  have same := (compensated_iff_balanced _ _).mp last 1000200 1000000
  exact absurd same (by decide +kernel)

end Underway

end Timing
