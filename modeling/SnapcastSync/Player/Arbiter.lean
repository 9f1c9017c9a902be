import SnapcastSync.Player.Loop

/-! Who moves the audio of a chunk: the confirmed hard resync, the frame command of the
engine, or both. -/

namespace Player

open Rounding ClockSync Timing

variable {K : Type}

namespace ChunkMoves

def droppedBytes (moves : ChunkMoves K) (record : ChunkRecord) : Nat :=
  match moves.command, moves.chunk with
  | some command, some _ => min (command.frames.toNat * record.frameBytes) record.bytes
  | _, _ => 0

def ResyncMoved (moves : ChunkMoves K) (record : ChunkRecord) : Prop :=
  match moves.resync with
  | some .late => 0 < record.bytes
  | some .early => 0 < moves.resyncSilence.bytes
  | none => False

def CommandMoved (moves : ChunkMoves K) (record : ChunkRecord) : Prop :=
  0 < moves.engineSilence.bytes ∨ 0 < moves.droppedBytes record

theorem droppedBytes_le (moves : ChunkMoves K) (record : ChunkRecord) :
    moves.droppedBytes record ≤ record.bytes := by
  unfold droppedBytes
  split
  · exact min_le_right _ _
  · exact Nat.zero_le _

def displacedFrames (moves : ChunkMoves K) (record : ChunkRecord) : Int :=
  match moves.resync with
  | some .late => record.frames
  | _ =>
      (moves.droppedBytes record / record.frameBytes : Nat) -
        (moves.resyncSilence.pushed + moves.engineSilence.pushed : Nat)

/-- No further in either direction than the error in that direction and one chunk. -/
def Bounded (moves : ChunkMoves K) (record : ChunkRecord) (coarseErrUs : Int) : Prop :=
  moves.displacedFrames record * 1000000 ≤
      max 0 coarseErrUs * record.sampleRate + record.frames * 1000000 ∧
    -moves.displacedFrames record * 1000000 ≤
      max 0 (-coarseErrUs) * record.sampleRate + record.frames * 1000000

end ChunkMoves

/-- At most one policy moved audio for this record, and no further than its error and one
chunk. -/
def OneArbiter (input : ChunkInput K) (moves : ChunkMoves K) : Prop :=
  (moves.ResyncMoved input.record → ¬ moves.CommandMoved input.record) ∧
    ∀ errorUs, PlayerState.measuredErrorUs input = some errorUs →
      moves.Bounded input.record (input.coarseErrUs errorUs)

variable [Field K] [LinearOrder K] [FloorRing K]

namespace PlayerState

def command (state : PlayerState K) (libm : Libm K) (input : ChunkInput K) (errorUs : Int) :
    Command K :=
  (state.timing.timingStep libm (input.timingInput errorUs)).2

def wantedFrames (state : PlayerState K) (libm : Libm K) (input : ChunkInput K)
    (errorUs : Int) : Int :=
  ((state.timing.prepared (input.timingInput errorUs)).assess libm input.nowUs
    (input.timingInput errorUs).observation
    (groupEvidence state.timing.tsfSync input.nowUs).2).want.frames

def Fills (state : PlayerState K) (config : Config) (input : ChunkInput K) (errorUs : Int) :
    Prop :=
  state.resync config input errorUs = some .early ∧ 0 < input.fillFrames errorUs ∧
    TakesSome input.record.frameBytes input.resyncTurns

def Effective (input : ChunkInput K) (frames : Int) : Prop :=
  (0 < frames ∧ 0 < input.record.bytes) ∨
    (frames < 0 ∧ TakesSome input.record.frameBytes input.commandTurns)

def Commands (state : PlayerState K) (libm : Libm K) (input : ChunkInput K) (errorUs : Int) :
    Prop :=
  state.timing.Issues libm (input.timingInput errorUs) ∧
    Effective input (state.wantedFrames libm input errorUs)

/-- An early resync and a frame command fall on the same record. -/
def Collides (state : PlayerState K) (libm : Libm K) (config : Config) (input : ChunkInput K) :
    Prop :=
  ∃ errorUs, measuredErrorUs input = some errorUs ∧ state.Fills config input errorUs ∧
    state.Commands libm input errorUs

/-- The engine inserts more silence than the error of this record and one chunk: it sizes its
command by the filtered error. -/
def Overshoots (state : PlayerState K) (libm : Libm K) (config : Config)
    (input : ChunkInput K) : Prop :=
  ∃ errorUs, measuredErrorUs input = some errorUs ∧
    state.resync config input errorUs ≠ some .late ∧
    state.timing.Issues libm (input.timingInput errorUs) ∧
    state.wantedFrames libm input errorUs < 0 ∧
    max 0 (-input.coarseErrUs errorUs) * input.record.sampleRate +
        input.record.frames * 1000000 <
      ((pushSilence input.record.frameBytes (-state.wantedFrames libm input errorUs).toNat
        input.commandTurns).pushed : Int) * 1000000

omit [Field K] [LinearOrder K] [FloorRing K] in
theorem framed_of_measured (input : ChunkInput K) (errorUs : Int)
    (measured : measuredErrorUs input = some errorUs) : 0 < input.record.frameBytes := by
  unfold measuredErrorUs at measured
  by_cases early : input.record.frameBytes = 0 ∨ input.outputActive = false ∨
      input.starving = true
  · rw [if_pos early] at measured
    cases measured
  · exact Nat.pos_of_ne_zero fun absent => early (Or.inl absent)

def commandSilence (input : ChunkInput K) (frames : Int) : SilencePush :=
  if frames < 0 then pushSilence input.record.frameBytes (-frames).toNat input.commandTurns
  else SilencePush.none

section Measured

variable (state : PlayerState K) (libm : Libm K) (config : Config) (input : ChunkInput K)
  (errorUs : Int)

theorem playMeasured_moves (going : state.resync config input errorUs ≠ some .late) :
    (state.playMeasured libm config input errorUs).2 =
      { command := some (state.command libm input errorUs)
        resync := state.resync config input errorUs
        resyncSilence :=
          if state.resync config input errorUs = some .early then
            pushSilence input.record.frameBytes (input.fillFrames errorUs) input.resyncTurns
          else SilencePush.none
        engineSilence := commandSilence input (state.command libm input errorUs).frames
        chunk :=
          some (pushChunk input.record.frameBytes input.record.bytes
            (state.command libm input errorUs).frames.toNat input.chunkTurns)
        confirmed :=
          if state.landed input then some state.pendingCorrectionId else none } := by
  unfold playMeasured
  dsimp only
  cases decided : state.resync config input errorUs with
  | none => rfl
  | some direction =>
      cases direction with
      | late => exact absurd decided going
      | early => rfl

theorem playMeasured_late (late : state.resync config input errorUs = some .late) :
    (state.playMeasured libm config input errorUs).2 =
      { command := some (state.command libm input errorUs)
        resync := some .late
        resyncSilence := SilencePush.none
        engineSilence := SilencePush.none
        chunk := none
        confirmed := none } := by
  unfold playMeasured
  rw [late]
  rfl

omit [Field K] [LinearOrder K] [FloorRing K] in
theorem fillFrames_le (early : input.coarseErrUs errorUs < 0) :
    (input.fillFrames errorUs : Int) * 1000000 ≤
      -input.coarseErrUs errorUs * input.record.sampleRate := by
  have gap : 0 ≤ -input.coarseErrUs errorUs * (input.record.sampleRate : Int) :=
    mul_nonneg (by omega) (Int.natCast_nonneg _)
  unfold ChunkInput.fillFrames
  dsimp only
  generalize -input.coarseErrUs errorUs * (input.record.sampleRate : Int) = asked at gap ⊢
  rw [Int.tdiv_eq_ediv_of_nonneg gap]
  omega

theorem command_frames_of_issues
    (issues : state.timing.Issues libm (input.timingInput errorUs)) :
    (state.command libm input errorUs).frames = state.wantedFrames libm input errorUs :=
  congrArg (fun answer => answer.2.frames)
    (Engine.step_of_ready (state.timing.prepared (input.timingInput errorUs)) libm input.nowUs
      (input.timingInput errorUs).observation
      (groupEvidence state.timing.tsfSync input.nowUs).2 issues)

theorem command_frames_of_not_issues
    (idle : ¬ state.timing.Issues libm (input.timingInput errorUs)) :
    (state.command libm input errorUs).frames = 0 := by
  by_contra issued
  exact idle ((state.timing.timingStep_frames_ne_zero_iff libm _).mp issued)

theorem effective_iff_commands :
    Effective input (state.command libm input errorUs).frames ↔
      state.Commands libm input errorUs := by
  unfold Commands
  by_cases issues : state.timing.Issues libm (input.timingInput errorUs)
  · rw [command_frames_of_issues state libm input errorUs issues, and_iff_right issues]
  · rw [command_frames_of_not_issues state libm input errorUs issues]
    refine iff_of_false ?_ fun both => issues both.1
    rintro (⟨drop, _⟩ | ⟨insert, _⟩)
    · exact lt_irrefl 0 drop
    · exact lt_irrefl 0 insert

/-- A frame command moves audio exactly when it finds something to move. -/
theorem commandMoved_iff (framed : 0 < input.record.frameBytes)
    (going : state.resync config input errorUs ≠ some .late) :
    (state.playMeasured libm config input errorUs).2.CommandMoved input.record ↔
      Effective input (state.command libm input errorUs).frames := by
  rw [playMeasured_moves state libm config input errorUs going]
  unfold ChunkMoves.CommandMoved ChunkMoves.droppedBytes Effective commandSilence
  dsimp only
  generalize (state.command libm input errorUs).frames = frames
  rcases lt_trichotomy frames 0 with insert | still | drop
  · have none_ : frames.toNat = 0 := by omega
    have some_ : 0 < (-frames).toNat := by omega
    have dropless : ¬ 0 < frames := by omega
    rw [if_pos insert, none_, Nat.zero_mul, Nat.zero_min, pushSilence_bytes_pos_iff]
    simp only [some_, true_and, lt_irrefl, or_false, dropless, false_and, false_or, insert]
  · rw [still]
    simp [SilencePush.none]
  · have some_ : 0 < frames.toNat := by omega
    have silent : ¬ frames < 0 := by omega
    have taken : 0 < frames.toNat * input.record.frameBytes := Nat.mul_pos some_ framed
    rw [if_neg silent]
    simp only [SilencePush.none, lt_irrefl, false_or, lt_min_iff, taken, true_and, drop, silent,
      false_and, or_false]

theorem resyncMoved_iff (going : state.resync config input errorUs ≠ some .late) :
    (state.playMeasured libm config input errorUs).2.ResyncMoved input.record ↔
      state.Fills config input errorUs := by
  rw [playMeasured_moves state libm config input errorUs going]
  unfold ChunkMoves.ResyncMoved Fills
  dsimp only
  cases decided : state.resync config input errorUs with
  | none => exact iff_of_false id fun fills => by cases fills.1
  | some direction =>
      cases direction with
      | late => exact absurd decided going
      | early =>
          rw [if_pos rfl, and_iff_right rfl]
          exact pushSilence_bytes_pos_iff _ _ _

omit [Field K] [LinearOrder K] [FloorRing K] in
theorem reach_nonneg (coarseErrUs : Int) (sampleRate : Nat) :
    0 ≤ max 0 coarseErrUs * (sampleRate : Int) :=
  mul_nonneg (le_max_left _ _) (Int.natCast_nonneg _)

theorem resyncSilence_le (going : state.resync config input errorUs ≠ some .late) :
    ((state.playMeasured libm config input errorUs).2.resyncSilence.pushed : Int) * 1000000 ≤
      max 0 (-input.coarseErrUs errorUs) * input.record.sampleRate := by
  rw [playMeasured_moves state libm config input errorUs going]
  dsimp only
  by_cases early : state.resync config input errorUs = some .early
  · have negative : input.coarseErrUs errorUs < 0 := by
      have exceeds := (ResyncGate.decision_eq_some _ _ _ early).1.2
      change input.coarseErrUs errorUs < -((_ : Nat) : Int) at exceeds
      omega
    have asked := fillFrames_le input errorUs negative
    have filled := pushSilence_pushed_le input.record.frameBytes (input.fillFrames errorUs)
      input.resyncTurns
    rw [if_pos early, max_eq_right (by omega : 0 ≤ -input.coarseErrUs errorUs)]
    omega
  · rw [if_neg early]
    exact reach_nonneg _ _

theorem bounded_of_late (late : state.resync config input errorUs = some .late) :
    (state.playMeasured libm config input errorUs).2.Bounded input.record
      (input.coarseErrUs errorUs) := by
  have forward := reach_nonneg (input.coarseErrUs errorUs) input.record.sampleRate
  have backward := reach_nonneg (-input.coarseErrUs errorUs) input.record.sampleRate
  rw [playMeasured_late state libm config input errorUs late]
  constructor
  · change (input.record.frames : Int) * 1000000 ≤ _
    omega
  · change -(input.record.frames : Int) * 1000000 ≤ _
    omega

/-- A drop is never longer than the record, so only silence can go too far. -/
theorem bounded_iff_of_going (going : state.resync config input errorUs ≠ some .late) :
    (state.playMeasured libm config input errorUs).2.Bounded input.record
        (input.coarseErrUs errorUs) ↔
      (((state.playMeasured libm config input errorUs).2.resyncSilence.pushed +
            (state.playMeasured libm config input errorUs).2.engineSilence.pushed : Nat) -
          ((state.playMeasured libm config input errorUs).2.droppedBytes input.record /
            input.record.frameBytes : Nat) : Int) * 1000000 ≤
        max 0 (-input.coarseErrUs errorUs) * input.record.sampleRate +
          input.record.frames * 1000000 := by
  have forward := reach_nonneg (input.coarseErrUs errorUs) input.record.sampleRate
  have resynced : (state.playMeasured libm config input errorUs).2.resync =
      state.resync config input errorUs :=
    congrArg ChunkMoves.resync (playMeasured_moves state libm config input errorUs going)
  generalize (state.playMeasured libm config input errorUs).2 = moves at resynced ⊢
  have displaced : moves.displacedFrames input.record =
      (moves.droppedBytes input.record / input.record.frameBytes : Nat) -
        (moves.resyncSilence.pushed + moves.engineSilence.pushed : Nat) := by
    unfold ChunkMoves.displacedFrames
    rw [resynced]
    cases decided : state.resync config input errorUs with
    | none => rfl
    | some direction =>
        cases direction with
        | late => exact absurd decided going
        | early => rfl
  have within : moves.droppedBytes input.record / input.record.frameBytes ≤
      input.record.frames :=
    Nat.div_le_div_right (moves.droppedBytes_le input.record)
  unfold ChunkMoves.Bounded
  rw [displaced]
  omega

theorem resyncSilence_of_not_fills (framed : 0 < input.record.frameBytes)
    (going : state.resync config input errorUs ≠ some .late)
    (dry : ¬ state.Fills config input errorUs) :
    (state.playMeasured libm config input errorUs).2.resyncSilence.pushed = 0 := by
  rw [playMeasured_moves state libm config input errorUs going]
  dsimp only
  by_cases early : state.resync config input errorUs = some .early
  · rw [if_pos early]
    exact pushSilence_pushed_of_refused _ _ _ framed fun taken => dry ⟨early, taken⟩
  · rw [if_neg early]
    rfl

theorem overshoots_iff (measured : measuredErrorUs input = some errorUs)
    (going : state.resync config input errorUs ≠ some .late) :
    state.Overshoots libm config input ↔
      (state.timing.Issues libm (input.timingInput errorUs) ∧
        state.wantedFrames libm input errorUs < 0) ∧
      max 0 (-input.coarseErrUs errorUs) * input.record.sampleRate +
          input.record.frames * 1000000 <
        ((pushSilence input.record.frameBytes (-state.wantedFrames libm input errorUs).toNat
          input.commandTurns).pushed : Int) * 1000000 := by
  constructor
  · rintro ⟨told, measured', _, issues, insert, beyond⟩
    have same : told = errorUs := Option.some.inj (measured'.symm.trans measured)
    subst same
    exact ⟨⟨issues, insert⟩, beyond⟩
  · rintro ⟨⟨issues, insert⟩, beyond⟩
    exact ⟨errorUs, measured, going, issues, insert, beyond⟩

/-- Where at most one policy moves audio, the bound fails only where the engine overshoots. -/
theorem bounded_iff_of_apart (framed : 0 < input.record.frameBytes)
    (measured : measuredErrorUs input = some errorUs)
    (going : state.resync config input errorUs ≠ some .late)
    (apart : ¬ (state.Fills config input errorUs ∧ state.Commands libm input errorUs)) :
    (state.playMeasured libm config input errorUs).2.Bounded input.record
        (input.coarseErrUs errorUs) ↔ ¬ state.Overshoots libm config input := by
  have resynced := resyncSilence_le state libm config input errorUs going
  have dry := resyncSilence_of_not_fills state libm config input errorUs framed going
  have moves := playMeasured_moves state libm config input errorUs going
  have engine : (state.playMeasured libm config input errorUs).2.engineSilence =
      commandSilence input (state.command libm input errorUs).frames :=
    congrArg ChunkMoves.engineSilence moves
  have dropped : (state.playMeasured libm config input errorUs).2.droppedBytes input.record =
      min ((state.command libm input errorUs).frames.toNat * input.record.frameBytes)
        input.record.bytes :=
    congrArg (fun moves => ChunkMoves.droppedBytes moves input.record) moves
  rw [bounded_iff_of_going state libm config input errorUs going, engine, dropped,
    overshoots_iff state libm config input errorUs measured going]
  generalize (state.playMeasured libm config input errorUs).2.resyncSilence.pushed = filled
    at resynced dry ⊢
  by_cases inserts : state.timing.Issues libm (input.timingInput errorUs) ∧
      state.wantedFrames libm input errorUs < 0
  · have undropped : (state.wantedFrames libm input errorUs).toNat = 0 := by
      have insert := inserts.2
      omega
    rw [and_iff_right inserts, not_lt,
      command_frames_of_issues state libm input errorUs inserts.1, commandSilence,
      if_pos inserts.2, undropped, Nat.zero_mul, Nat.zero_min, Nat.zero_div]
    -- either the resync moved nothing, or the speaker took nothing of the engine's silence
    have single : filled = 0 ∨
        (pushSilence input.record.frameBytes (-state.wantedFrames libm input errorUs).toNat
          input.commandTurns).pushed = 0 := by
      by_cases fills : state.Fills config input errorUs
      · refine Or.inr (pushSilence_pushed_of_refused _ _ _ framed fun taken => ?_)
        exact apart ⟨fills, inserts.1, Or.inr ⟨inserts.2, taken.2⟩⟩
      · exact Or.inl (dry fills)
    have backward := reach_nonneg (-input.coarseErrUs errorUs) input.record.sampleRate
    omega
  · have silent : (commandSilence input (state.command libm input errorUs).frames).pushed =
        0 := by
      unfold commandSilence
      rw [if_neg]
      · rfl
      · intro insert
        have issues : state.timing.Issues libm (input.timingInput errorUs) := by
          by_contra idle
          rw [command_frames_of_not_issues state libm input errorUs idle] at insert
          exact lt_irrefl 0 insert
        rw [command_frames_of_issues state libm input errorUs issues] at insert
        exact inserts ⟨issues, insert⟩
    rw [silent]
    generalize min ((state.command libm input errorUs).frames.toNat * input.record.frameBytes)
      input.record.bytes / input.record.frameBytes = taken
    refine iff_of_true ?_ fun beyond => inserts beyond.1
    omega

end Measured

theorem collides_iff (state : PlayerState K) (libm : Libm K) (config : Config)
    (input : ChunkInput K) (errorUs : Int) (measured : measuredErrorUs input = some errorUs) :
    state.Collides libm config input ↔
      state.Fills config input errorUs ∧ state.Commands libm input errorUs := by
  constructor
  · rintro ⟨told, measured', both⟩
    have same : told = errorUs := Option.some.inj (measured'.symm.trans measured)
    rwa [same] at both
  · exact fun both => ⟨errorUs, measured, both⟩

/-- One policy at a time moves audio, and no further than the error and one chunk, except on
the records where an early resync and a frame command collide and on those where the engine
inserts more silence than the error it is told. -/
theorem oneArbiter_iff (state : PlayerState K) (libm : Libm K) (config : Config)
    (input : ChunkInput K) :
    OneArbiter input (state.playChunk libm config input).2 ↔
      ¬ state.Collides libm config input ∧ ¬ state.Overshoots libm config input := by
  cases measured : measuredErrorUs input with
  | none =>
      obtain ⟨recon, chunk, played⟩ := playChunk_unmeasured state libm config input measured
      rw [played]
      refine iff_of_true ⟨fun resynced => absurd resynced id, ?_⟩ ⟨?_, ?_⟩
      · intro errorUs told
        rw [measured] at told
        cases told
      · rintro ⟨errorUs, told, _⟩
        rw [measured] at told
        cases told
      · rintro ⟨errorUs, told, _⟩
        rw [measured] at told
        cases told
  | some errorUs =>
      have framed := framed_of_measured input errorUs measured
      have alone : OneArbiter input (state.playChunk libm config input).2 ↔
          ((state.playMeasured libm config input errorUs).2.ResyncMoved input.record →
            ¬ (state.playMeasured libm config input errorUs).2.CommandMoved input.record) ∧
          (state.playMeasured libm config input errorUs).2.Bounded input.record
            (input.coarseErrUs errorUs) := by
        rw [playChunk_of_measured state libm config input errorUs measured]
        unfold OneArbiter
        simp only [measured, Option.some.injEq, forall_eq']
      rw [alone, collides_iff state libm config input errorUs measured]
      by_cases late : state.resync config input errorUs = some .late
      · refine iff_of_true ⟨?_, bounded_of_late state libm config input errorUs late⟩ ⟨?_, ?_⟩
        · rw [playMeasured_late state libm config input errorUs late]
          intro _ moved
          exact moved.elim (lt_irrefl 0) (lt_irrefl 0)
        · rintro ⟨⟨early, _⟩, _⟩
          rw [late] at early
          cases early
        · rintro ⟨told, measured', going, _⟩
          have same : told = errorUs := Option.some.inj (measured'.symm.trans measured)
          rw [same] at going
          exact going late
      · rw [resyncMoved_iff state libm config input errorUs late,
          commandMoved_iff state libm config input errorUs framed late,
          effective_iff_commands state libm input errorUs, not_and]
        refine and_congr_right fun apart => ?_
        exact bounded_iff_of_apart state libm config input errorUs framed measured late
          fun both => apart both.1 both.2

end PlayerState

instance (moves : ChunkMoves K) (record : ChunkRecord) :
    Decidable (moves.ResyncMoved record) := by
  unfold ChunkMoves.ResyncMoved
  cases moves.resync with
  | none => exact isFalse id
  | some direction => cases direction <;> exact Nat.decLt _ _

instance (moves : ChunkMoves K) (record : ChunkRecord) :
    Decidable (moves.CommandMoved record) := by
  unfold ChunkMoves.CommandMoved
  infer_instance

def threeSecondRing : Config :=
  { bufferSize := 524288
    hardResyncThresholdMs := 50 }

def restingDepths : Depths :=
  { pipeDepthFrames := 8820
    pipeDepthUs := 200000
    ringDepthUs := 1500000
    ringDepthSlowUs := 1500000
    ringCapacityUs := 2972154 }

def untaggedChunk (nowUs : Int) (errorUs : Option Int) (asOfUs : Int) : ChunkInput Rat :=
  { record := ⟨4608, 4, 44100⟩
    nowUs := nowUs
    outputActive := true
    starving := false
    deadlineUs := some (nowUs + 500000)
    predictedUs := errorUs.map fun errorUs => nowUs + 500000 + errorUs
    tags := ⟨false, 0, 0, 0⟩
    resyncWindow := false
    blankUs := 2000000
    tuning := Tuning.initial
    depths := restingDepths
    playedFramesTotal := 0
    answer := some ⟨asOfUs, 0⟩
    resyncTurns := List.replicate 4 ⟨true, 65536⟩
    commandTurns := List.replicate 4 ⟨true, 65536⟩
    chunkTurns := List.replicate 4 ⟨true, 65536⟩ }

def taggedChunk (nowUs errorUs ageUs : Int) : ChunkInput Rat :=
  { untaggedChunk nowUs (some errorUs) nowUs with
    tags := ⟨true, errorUs, nowUs - ageUs, 0⟩ }

namespace PlayerState

private def earlyStart : List (PlayerEvent Rat) :=
  [.chunk (untaggedChunk 1000000 none 990000),
    .chunk (untaggedChunk 1026122 (some (-60000)) 1016122),
    .chunk (untaggedChunk 1052244 (some (-60000)) 1042244),
    .chunk (untaggedChunk 1078366 (some (-60000)) 1068366)]

/-- The third snapshot that confirms the resync is the first tag that reaches the engine. -/
theorem two_policies_on_first_tag :
    ¬ ∀ (events : List (PlayerEvent Rat)) (input : ChunkInput Rat),
      OneArbiter input
        ((events.foldl (handle Libm.rational threeSecondRing) (create none)).playChunk
          Libm.rational threeSecondRing input).2 := by
  intro always
  have single := always earlyStart (taggedChunk 1104488 (-60000) 10000)
  exact single.1 (by decide +kernel) (by decide +kernel)

end PlayerState

end Player
