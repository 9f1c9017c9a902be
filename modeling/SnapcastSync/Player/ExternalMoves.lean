import SnapcastSync.Player.Arbiter

/-! The moves that the engine did not command. The hard resync displaces the stream on its
own; the engine keeps its coordinates only if it is told of it before its next step. -/

namespace Player

open Rounding ClockSync Timing

variable {K : Type}

inductive EngineCall (K : Type) where
  | step (nowUs : Int) (obs : Observation) (group : GroupEvidence)
  | confirmPositionLanded (correctionId : Nat) (nowUs : Int)
  | noteExternalMove (appliedUs nowUs : Int)

def EngineCall.announces : EngineCall K → Option Int
  | .noteExternalMove appliedUs _ => some appliedUs
  | _ => none

/-- The displacement of the hard resync of a record: what it discarded or inserted, in
microseconds of audio, forward for a discard. -/
def ChunkMoves.resyncDisplacementUs (moves : ChunkMoves K) (record : ChunkRecord) : Int :=
  match moves.resync with
  | some .late => Int.tdiv (record.frames * 1000000) record.sampleRate
  | some .early => -Int.tdiv (moves.resyncSilence.pushed * 1000000) record.sampleRate
  | none => 0

/-- The frames that the frame command dropped, less those of its silence, as the loop
counts them. -/
def ChunkMoves.commandFrames (moves : ChunkMoves K) (record : ChunkRecord) : Int :=
  (moves.droppedBytes record / record.frameBytes : Nat) - (moves.engineSilence.pushed : Int)

/-- A command for this many frames finds as many on the record, or a speaker that takes as
much silence. -/
def Movable (input : ChunkInput K) (frames : Int) : Prop :=
  if 0 < frames then frames.toNat * input.record.frameBytes ≤ input.record.bytes
  else CountsSilence input.record.frameBytes (-frames).toNat input.commandTurns

theorem movable_zero (input : ChunkInput K) : Movable input 0 := by
  unfold Movable
  rw [if_neg (lt_irrefl 0), ← pushSilence_pushed_eq_iff]
  exact Nat.le_zero.mp (pushSilence_pushed_le input.record.frameBytes 0 input.commandTurns)

variable [Field K] [LinearOrder K] [FloorRing K]

namespace EngineCall

def perform (libm : Libm K) (engine : Engine K) : EngineCall K → Engine K
  | .step nowUs obs group => (engine.step libm nowUs obs group).1
  | .confirmPositionLanded correctionId nowUs => engine.confirmPositionLanded correctionId nowUs
  | .noteExternalMove appliedUs nowUs => engine.noteExternalMove appliedUs nowUs

/-- How far a call shifts the coordinates of the engine: by the frames that a step commands,
or by the displacement that is announced. -/
def shiftUs (libm : Libm K) (engine : Engine K) : EngineCall K → Int
  | .step nowUs obs group =>
      (engine.step libm nowUs obs group).2.frames * engine.profile.frameUs
  | .confirmPositionLanded _ _ => 0
  | .noteExternalMove appliedUs _ => appliedUs

theorem shiftUs_step (libm : Libm K) (engine : Engine K) (nowUs : Int) (obs : Observation)
    (group : GroupEvidence) (ready : engine.Ready libm nowUs obs group) :
    let call := EngineCall.step nowUs obs group
    (call.perform libm engine).pendingDispUs = call.shiftUs libm engine ∧
      (call.perform libm engine).err.meanUs =
        (engine.assess libm nowUs obs group).engine.err.meanUs -
          (call.shiftUs libm engine : K) := by
  obtain ⟨pending, mean⟩ := Engine.step_shift_of_ready engine libm nowUs obs group ready
  rw [pending] at mean
  exact ⟨pending, mean⟩

theorem shiftUs_note (libm : Libm K) (engine : Engine K) (appliedUs nowUs : Int)
    (moved : appliedUs ≠ 0) :
    let call := EngineCall.noteExternalMove appliedUs nowUs
    (call.perform libm engine).pendingDispUs = call.shiftUs libm engine ∧
      (call.perform libm engine).err.meanUs =
        engine.err.meanUs - (call.shiftUs libm engine : K) := by
  unfold perform shiftUs Engine.noteExternalMove
  dsimp only
  rw [if_neg moved]
  exact ⟨rfl, rfl⟩

end EngineCall

def shiftsUs (libm : Libm K) (engine : Engine K) : List (EngineCall K) → Int
  | [] => 0
  | call :: rest =>
      call.shiftUs libm engine + shiftsUs libm (call.perform libm engine) rest

namespace PlayerState

def measuredCalls (state : PlayerState K) (config : Config) (input : ChunkInput K)
    (errorUs : Int) : List (EngineCall K) :=
  .step input.nowUs (input.timingInput errorUs).observation
      (groupEvidence state.timing.tsfSync input.nowUs).2 ::
    if state.resync config input errorUs ≠ some .late ∧ state.landed input = true then
      [.confirmPositionLanded state.pendingCorrectionId input.nowUs]
    else []

/-- The engine after a record is what these calls make of it, and nothing else. -/
theorem engine_of_measuredCalls (state : PlayerState K) (libm : Libm K) (config : Config)
    (input : ChunkInput K) (errorUs : Int) :
    (state.playMeasured libm config input errorUs).1.timing.engine =
      (state.measuredCalls config input errorUs).foldl (fun engine call => call.perform libm engine)
        (state.timing.prepared (input.timingInput errorUs)) := by
  have actuated : ∀ (before : PlayerState K) (resync : Option Resync) (silence : SilencePush),
      before.pendingCorrectionId = state.pendingCorrectionId →
      before.landed input = state.landed input →
      (before.actuate input (state.command libm input errorUs) resync silence).1.timing.engine =
        (if state.landed input = true then
          [EngineCall.confirmPositionLanded state.pendingCorrectionId input.nowUs]
        else []).foldl (fun engine call => call.perform libm engine) before.timing.engine := by
    intro before resync silence same landed
    unfold actuate
    dsimp only
    rw [landed, same]
    split <;> rfl
  unfold playMeasured measuredCalls
  rw [List.foldl_cons]
  cases decided : state.resync config input errorUs with
  | none =>
      simp only [ne_eq, reduceCtorEq, not_false_iff, true_and]
      exact actuated _ _ _ rfl rfl
  | some direction =>
      cases direction with
      | late => rfl
      | early =>
          simp only [ne_eq, Option.some_inj, reduceCtorEq, not_false_iff, true_and]
          exact actuated _ _ _ rfl rfl

theorem measuredCalls_silent (state : PlayerState K) (config : Config) (input : ChunkInput K)
    (errorUs : Int) :
    (state.measuredCalls config input errorUs).filterMap EngineCall.announces = [] := by
  unfold measuredCalls
  split <;> rfl

theorem measuredCalls_shift (state : PlayerState K) (libm : Libm K) (config : Config)
    (input : ChunkInput K) (errorUs : Int) :
    shiftsUs libm (state.timing.prepared (input.timingInput errorUs))
        (state.measuredCalls config input errorUs) =
      (state.command libm input errorUs).frames *
        (state.timing.prepared (input.timingInput errorUs)).profile.frameUs := by
  unfold measuredCalls shiftsUs
  split
  · exact Int.add_zero _
  · exact Int.add_zero _

end PlayerState

/-- The player with the account of its moves: what the hard resync made and what the engine
was told of; how far the frame commands and these moved the audio, and how far the engine's
coordinates were shifted. -/
structure Account (K : Type) where
  player : PlayerState K
  made : List Int
  announced : List Int
  movedUs : Int
  shiftedUs : Int

namespace Account

def start (player : PlayerState K) : Account K :=
  { player := player
    made := []
    announced := []
    movedUs := 0
    shiftedUs := 0 }

def record (libm : Libm K) (config : Config) (account : Account K) (input : ChunkInput K)
    (errorUs : Int) : Account K :=
  let played := account.player.playMeasured libm config input errorUs
  let external :=
    if played.2.ResyncMoved input.record then [played.2.resyncDisplacementUs input.record] else []
  let calls := account.player.measuredCalls config input errorUs
  let engine := account.player.timing.prepared (input.timingInput errorUs)
  let commandedUs := played.2.commandFrames input.record * engine.profile.frameUs
  { player := played.1
    made := account.made ++ external
    announced := account.announced ++ calls.filterMap EngineCall.announces
    movedUs := account.movedUs + commandedUs + external.sum
    shiftedUs := account.shiftedUs + shiftsUs libm engine calls }

def step (libm : Libm K) (config : Config) (account : Account K) (event : PlayerEvent K) :
    Account K :=
  match event with
  | .chunk input =>
      match PlayerState.measuredErrorUs input with
      | some errorUs => account.record libm config input errorUs
      | none => { account with player := (account.player.playChunk libm config input).1 }
  | other => { account with player := account.player.handle libm config other }

/-- The engine was told of every move of the hard resync, and its coordinates are shifted by
the sum of all moves. -/
def Informed (account : Account K) : Prop :=
  account.announced = account.made ∧ account.shiftedUs = account.movedUs

/-- The hard resync moves no audio for this record, and a command that the engine issues for
it can be carried out. -/
def Undisturbed (libm : Libm K) (config : Config) (account : Account K) : PlayerEvent K → Prop
  | .chunk input =>
      ∀ errorUs, PlayerState.measuredErrorUs input = some errorUs →
        ((account.player.resync config input errorUs = some .late → input.record.bytes = 0) ∧
          ¬ account.player.Fills config input errorUs) ∧
        (account.player.timing.Issues libm (input.timingInput errorUs) →
          account.player.resync config input errorUs ≠ some .late ∧
            Movable input (account.player.wantedFrames libm input errorUs))
  | _ => True

theorem resyncMoved_measured_iff (state : PlayerState K) (libm : Libm K) (config : Config)
    (input : ChunkInput K) (errorUs : Int) :
    (state.playMeasured libm config input errorUs).2.ResyncMoved input.record ↔
      ¬ ((state.resync config input errorUs = some .late → input.record.bytes = 0) ∧
        ¬ state.Fills config input errorUs) := by
  by_cases late : state.resync config input errorUs = some .late
  · rw [PlayerState.playMeasured_late state libm config input errorUs late]
    unfold ChunkMoves.ResyncMoved PlayerState.Fills
    rw [late]
    simp [Nat.pos_iff_ne_zero]
  · rw [PlayerState.resyncMoved_iff state libm config input errorUs late]
    simp [late]

theorem commandFrames_eq_iff (state : PlayerState K) (libm : Libm K) (config : Config)
    (input : ChunkInput K) (errorUs : Int) (framed : 0 < input.record.frameBytes)
    (going : state.resync config input errorUs ≠ some .late) :
    (state.playMeasured libm config input errorUs).2.commandFrames input.record =
        (state.command libm input errorUs).frames ↔
      Movable input (state.command libm input errorUs).frames := by
  rw [PlayerState.playMeasured_moves state libm config input errorUs going]
  unfold ChunkMoves.commandFrames ChunkMoves.droppedBytes Movable PlayerState.commandSilence
  dsimp only
  generalize (state.command libm input errorUs).frames = frames
  by_cases drop : 0 < frames
  · have quiet : ¬ frames < 0 := by omega
    rw [if_pos drop, if_neg quiet]
    have whole : min (frames.toNat * input.record.frameBytes) input.record.bytes /
        input.record.frameBytes = frames.toNat ↔
        frames.toNat * input.record.frameBytes ≤ input.record.bytes := by
      constructor
      · intro taken
        have most := Nat.div_mul_le_self
          (min (frames.toNat * input.record.frameBytes) input.record.bytes)
          input.record.frameBytes
        rw [taken] at most
        exact le_trans most (min_le_right _ _)
      · intro fits
        rw [min_eq_left fits]
        exact Nat.mul_div_cancel _ framed
    rw [← whole]
    change ((_ : Nat) : Int) - ((0 : Nat) : Int) = frames ↔ _
    omega
  · rw [if_neg drop, ← pushSilence_pushed_eq_iff]
    have none_ : frames.toNat = 0 := by omega
    rw [none_, Nat.zero_mul, Nat.zero_min, Nat.zero_div]
    by_cases insert : frames < 0
    · rw [if_pos insert]
      omega
    · have still : (-frames).toNat = 0 := by omega
      have taken := pushSilence_pushed_le input.record.frameBytes 0 input.commandTurns
      rw [if_neg insert, still]
      refine iff_of_true ?_ (Nat.le_zero.mp taken)
      change ((0 : Nat) : Int) - ((0 : Nat) : Int) = frames
      omega

theorem commandFrames_of_late (state : PlayerState K) (libm : Libm K) (config : Config)
    (input : ChunkInput K) (errorUs : Int)
    (late : state.resync config input errorUs = some .late) :
    (state.playMeasured libm config input errorUs).2.commandFrames input.record = 0 := by
  rw [PlayerState.playMeasured_late state libm config input errorUs late]
  unfold ChunkMoves.commandFrames ChunkMoves.droppedBytes
  simp [SilencePush.none]

/-- The coordinates follow the frames that are moved for a record exactly when a correction
that is issued for it can be carried out. -/
theorem commandFrames_shift_iff (state : PlayerState K) (libm : Libm K) (config : Config)
    (input : ChunkInput K) (errorUs : Int) (framed : 0 < input.record.frameBytes) :
    let frameUs := (state.timing.prepared (input.timingInput errorUs)).profile.frameUs
    (state.command libm input errorUs).frames * frameUs =
        (state.playMeasured libm config input errorUs).2.commandFrames input.record * frameUs ↔
      (state.timing.Issues libm (input.timingInput errorUs) →
        state.resync config input errorUs ≠ some .late ∧
          Movable input (state.wantedFrames libm input errorUs)) := by
  intro frameUs
  by_cases issues : state.timing.Issues libm (input.timingInput errorUs)
  · have wanted := PlayerState.command_frames_of_issues state libm input errorUs issues
    have unit : frameUs ≠ 0 :=
      ne_of_gt (Engine.frameUs_pos_of_wanted _ libm _ _ _ issues.wanted)
    have nonzero : (state.command libm input errorUs).frames ≠ 0 :=
      (state.timing.timingStep_frames_ne_zero_iff libm _).mpr issues
    rw [mul_left_inj' unit, imp_iff_right issues, ← wanted]
    by_cases late : state.resync config input errorUs = some .late
    · rw [commandFrames_of_late state libm config input errorUs late]
      exact iff_of_false nonzero fun both => both.1 late
    · rw [eq_comm, commandFrames_eq_iff state libm config input errorUs framed late,
        and_iff_right late]
  · have idle := PlayerState.command_frames_of_not_issues state libm input errorUs issues
    refine iff_of_true ?_ fun ready => absurd ready issues
    have unmoved :
        (state.playMeasured libm config input errorUs).2.commandFrames input.record = 0 := by
      by_cases late : state.resync config input errorUs = some .late
      · exact commandFrames_of_late state libm config input errorUs late
      · have carried := commandFrames_eq_iff state libm config input errorUs framed late
        rw [idle] at carried
        exact carried.mpr (movable_zero input)
    rw [idle, unmoved]

/-- One record keeps the engine informed exactly when no hard resync moves audio for it and
its command is carried out. -/
theorem step_informed_iff (libm : Libm K) (config : Config) (account : Account K)
    (event : PlayerEvent K) (informed : account.Informed) :
    (account.step libm config event).Informed ↔ account.Undisturbed libm config event := by
  cases event with
  | chunk input =>
      unfold step Undisturbed
      dsimp only
      cases measured : PlayerState.measuredErrorUs input with
      | none =>
          refine iff_of_true informed ?_
          intro errorUs found
          cases found
      | some errorUs =>
          have moved := resyncMoved_measured_iff account.player libm config input errorUs
          have shifts := commandFrames_shift_iff account.player libm config input errorUs
            (PlayerState.framed_of_measured input errorUs measured)
          simp only [Option.some_inj, forall_eq']
          unfold Informed record
          dsimp only at shifts ⊢
          rw [PlayerState.measuredCalls_silent, PlayerState.measuredCalls_shift,
            List.append_nil, informed.1, informed.2, ← shifts]
          by_cases disturbed : (account.player.playMeasured libm config input
              errorUs).2.ResyncMoved input.record
          · rw [if_pos disturbed]
            refine iff_of_false ?_ fun both => moved.mp disturbed both.1
            rintro ⟨told, _⟩
            have lengths := congrArg List.length told
            rw [List.length_append, List.length_singleton] at lengths
            omega
          · have quiet := not_not.mp (mt moved.mpr disturbed)
            rw [if_neg disturbed, List.append_nil, List.sum_nil, Int.add_zero,
              and_iff_right rfl, and_iff_right quiet]
            exact Int.add_right_inj _
  | setCrystalPpm ppm => exact iff_of_true informed trivial
  | groupMoved tsfSync => exact iff_of_true informed trivial
  | armSeedTrace => exact iff_of_true informed trivial

/-- Over a run, the engine is told of every move before each of its steps, and its coordinates
follow the audio, exactly when the hard resync moves none and every command is carried out. -/
theorem informed_iff_undisturbed (libm : Libm K) (config : Config)
    (tsfSync : Option (TsfSync K)) (events : List (PlayerEvent K)) :
    Run.Visits (step libm config) Informed (start (PlayerState.create tsfSync)) events ↔
      Run.Along (step libm config) (Undisturbed libm config)
        (start (PlayerState.create tsfSync)) events :=
  Run.visits_iff_along (step libm config) Informed (Undisturbed libm config)
    (fun account event informed => step_informed_iff libm config account event informed) _ events
    ⟨rfl, rfl⟩

private def lateTags : List (PlayerEvent Rat) :=
  [.chunk (taggedChunk 1000000 60000 10000),
    .chunk (taggedChunk 1026122 60000 10000),
    .chunk (taggedChunk 1052244 60000 10000)]

/-- The third of them discards a record that the engine never hears of. -/
theorem uninformed_of_late_discard :
    ¬ ∀ events : List (PlayerEvent Rat),
      Run.Visits (step Libm.rational threeSecondRing) Informed (start (PlayerState.create none))
        events := by
  intro always
  have last := Run.visits_last _ Informed _ _ (always lateTags)
  exact absurd last.1 (by decide +kernel)

end Account

end Player
