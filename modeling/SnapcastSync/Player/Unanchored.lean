import SnapcastSync.Player.Arbiter

/-! Errors beyond what the pipeline can hold. The hard resync refuses them; the engine is
handed them like any other error. -/

namespace Player

open Rounding ClockSync Timing

variable {K : Type}

/-- For a record, the hard resync stayed out, the frame command moved nothing and the error
filter of the engine is as it was. -/
structure Refused (before after : PlayerState K) (input : ChunkInput K) (moves : ChunkMoves K) :
    Prop where
  resync : moves.resync = none
  still : ¬ moves.CommandMoved input.record
  filter : after.timing.engine.err = before.timing.engine.err

section Unanchored

variable [Field K] [LinearOrder K] [FloorRing K]

namespace PlayerState

def RefusesUnanchored (libm : Libm K) (config : Config) (state : PlayerState K) :
    PlayerEvent K → Prop
  | .chunk input =>
      ∀ errorUs, measuredErrorUs input = some errorUs →
        input.coarsePlausible config errorUs = false →
          Refused state (state.playChunk libm config input).1 input
            (state.playChunk libm config input).2
  | _ => True

/-- The engine takes no error from this record: the tags are stale, or the ring is below the
floor under which the engine holds still. -/
def Unfed (input : ChunkInput K) : Prop :=
  input.tagsFresh = false ∨
    (0 < input.depths.ringDepthUs ∧
      input.depths.ringDepthUs < Int.tdiv input.depths.ringCapacityUs 8)

def UnanchoredUnfed (config : Config) (_ : PlayerState K) : PlayerEvent K → Prop
  | .chunk input =>
      ∀ errorUs, measuredErrorUs input = some errorUs →
        input.coarsePlausible config errorUs = false → Unfed input
  | _ => True

omit [Field K] [LinearOrder K] [FloorRing K] in
theorem resync_none_of_unanchored (state : PlayerState K) (config : Config)
    (input : ChunkInput K) (errorUs : Int)
    (unanchored : input.coarsePlausible config errorUs = false) :
    state.resync config input errorUs = none := by
  cases decided : state.resync config input errorUs with
  | none => rfl
  | some direction =>
      have credible := (ResyncGate.decision_eq_some _ _ _ decided).1.1
      change input.coarsePlausible config errorUs = true at credible
      rw [unanchored] at credible
      cases credible

theorem timingStep_of_unfed (state : PlayerState K) (libm : Libm K) (input : ChunkInput K)
    (errorUs : Int) (unfed : Unfed input) :
    (state.timing.timingStep libm (input.timingInput errorUs)).1.engine.err =
        state.timing.engine.err ∧
      (state.command libm input errorUs).frames = 0 := by
  refine Engine.step_of_unfed _ libm _ _ _ ?_
  rcases unfed with stale | ⟨some_, low⟩
  · exact Or.inl stale
  · right
    have floor : 0 < Int.tdiv input.depths.ringCapacityUs 8 := lt_trans some_ low
    change (decide (0 < input.depths.ringDepthUs) &&
      decide (0 < Int.tdiv input.depths.ringCapacityUs 8) &&
        decide (input.depths.ringDepthUs < Int.tdiv input.depths.ringCapacityUs 8)) = true
    rw [decide_eq_true some_, decide_eq_true floor, decide_eq_true low]
    rfl

theorem actuate_err (state : PlayerState K) (input : ChunkInput K) (command : Command K)
    (resync : Option Resync) (resyncSilence : SilencePush) :
    (state.actuate input command resync resyncSilence).1.timing.engine.err =
      state.timing.engine.err := by
  unfold actuate
  dsimp only
  split
  · exact Engine.confirmPositionLanded_err _ _ _
  · rfl

theorem refused_of_unfed (libm : Libm K) (config : Config) (state : PlayerState K)
    (event : PlayerEvent K) (unfed : UnanchoredUnfed config state event) :
    RefusesUnanchored libm config state event := by
  cases event with
  | chunk input =>
      intro errorUs measured unanchored
      obtain ⟨filter, still⟩ :=
        timingStep_of_unfed state libm input errorUs (unfed errorUs measured unanchored)
      have stays := resync_none_of_unanchored state config input errorUs unanchored
      have going : state.resync config input errorUs ≠ some .late := by
        rw [stays]
        decide
      have framed := framed_of_measured input errorUs measured
      rw [playChunk_of_measured state libm config input errorUs measured]
      refine ⟨?_, ?_, ?_⟩
      · rw [playMeasured_moves state libm config input errorUs going]
        exact stays
      · rw [commandMoved_iff state libm config input errorUs framed going, still]
        rintro (⟨drop, _⟩ | ⟨insert, _⟩)
        · exact lt_irrefl 0 drop
        · exact lt_irrefl 0 insert
      · unfold playMeasured
        dsimp only
        rw [stays]
        exact (actuate_err _ _ _ _ _).trans filter
  | setCrystalPpm ppm => exact trivial
  | groupMoved tsfSync => exact trivial
  | armSeedTrace => exact trivial

/-- In a run whose implausible errors never reach the engine, no implausible error moves
audio or enters the error filter. -/
theorem unanchored_refused (libm : Libm K) (config : Config) (state : PlayerState K)
    (events : List (PlayerEvent K))
    (unfed : Run.Along (handle libm config) (UnanchoredUnfed config) state events) :
    Run.Along (handle libm config) (RefusesUnanchored libm config) state events :=
  Run.along_mono (handle libm config) (UnanchoredUnfed config)
    (RefusesUnanchored libm config) (refused_of_unfed libm config) state events unfed

/-- An untagged error of thirteen seconds, which the pipeline of twelve cannot hold. -/
theorem unanchored_refused_untagged :
    Run.Along (handle Libm.rational threeSecondRing)
      (RefusesUnanchored Libm.rational threeSecondRing) (create none)
      [.chunk (untaggedChunk 1000000 (some (-13000000)) 990000)] :=
  unanchored_refused Libm.rational threeSecondRing (create none) _
    ⟨fun _ _ _ => Or.inl rfl, trivial⟩

/-- The same error with a tag: the engine seeds its filter with it and inserts silence. -/
theorem unanchored_moves_on_first_tag :
    ¬ ∀ events : List (PlayerEvent Rat),
      Run.Along (handle Libm.rational threeSecondRing)
        (RefusesUnanchored Libm.rational threeSecondRing) (create none) events := by
  intro always
  have refused := (always [.chunk (taggedChunk 1000000 (-13000000) 10000)]).1 (-13000000) rfl
    (by decide +kernel)
  exact refused.still (by decide +kernel)

end PlayerState

end Unanchored

end Player
