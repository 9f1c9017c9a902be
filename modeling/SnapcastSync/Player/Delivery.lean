import SnapcastSync.Player.Arbiter

/-! What becomes of the frame commands: a command is in flight for the engine as soon as it
is issued, and the loop has to carry it out in full on the same record. -/

namespace Player

open Rounding ClockSync Timing

variable {K : Type}

namespace ChunkMoves

/-- These frames were taken off the record, or put in front of it as silence, exactly. -/
def Delivered (moves : ChunkMoves K) (record : ChunkRecord) (frames : Int) : Prop :=
  if 0 < frames then
    match moves.chunk with
    | some push => record.bytes - push.written = frames.toNat * record.frameBytes
    | none => False
  else
    moves.engineSilence.pushed = (-frames).toNat ∧
      moves.engineSilence.bytes = (-frames).toNat * record.frameBytes

instance (moves : ChunkMoves K) (record : ChunkRecord) (frames : Int) :
    Decidable (moves.Delivered record frames) := by
  unfold Delivered
  cases moves.chunk <;> infer_instance

def correction (moves : ChunkMoves K) : Option (Int × Nat) :=
  match moves.command with
  | some command =>
      if command.frames ≠ 0 then some (command.frames, command.correctionId) else none
  | none => none

end ChunkMoves

structure Delivery (K : Type) where
  player : PlayerState K
  delivered : List Nat

variable [Field K] [LinearOrder K] [FloorRing K]

namespace Delivery

def start (player : PlayerState K) : Delivery K :=
  { player := player
    delivered := [] }

def deliveredAfter (delivery : Delivery K) (record : ChunkRecord) (moves : ChunkMoves K) :
    List Nat :=
  match moves.correction with
  | some (frames, correctionId) =>
      if moves.Delivered record frames then correctionId :: delivery.delivered
      else delivery.delivered
  | none => delivery.delivered

def step (libm : Libm K) (config : Config) (delivery : Delivery K) (event : PlayerEvent K) :
    Delivery K :=
  { player := delivery.player.handle libm config event
    delivered :=
      match event with
      | .chunk input =>
          delivery.deliveredAfter input.record (delivery.player.playChunk libm config input).2
      | _ => delivery.delivered }

/-- The correction of this record is delivered, and one that is confirmed has been. -/
def InFull (libm : Libm K) (config : Config) (delivery : Delivery K) : PlayerEvent K → Prop
  | .chunk input =>
      let moves := (delivery.player.playChunk libm config input).2
      (∀ frames correctionId, moves.correction = some (frames, correctionId) →
          moves.Delivered input.record frames) ∧
        ∀ correctionId, moves.confirmed = some correctionId → correctionId ∈ delivery.delivered
  | _ => True

end Delivery

namespace PlayerState

/-- A correction of this many frames meets no late resync, a record that is long enough and a
speaker that refuses nothing. -/
def Deliverable (state : PlayerState K) (config : Config) (input : ChunkInput K)
    (errorUs frames : Int) : Prop :=
  state.resync config input errorUs ≠ some .late ∧
    if 0 < frames then
      frames.toNat * input.record.frameBytes ≤ input.record.bytes ∧
        (pushChunk input.record.frameBytes input.record.bytes frames.toNat
          input.chunkTurns).complete = true
    else TakesSilence input.record.frameBytes (-frames).toNat input.commandTurns

section Measured

variable (state : PlayerState K) (libm : Libm K) (config : Config) (input : ChunkInput K)
  (errorUs : Int)

theorem delivered_iff (wanted : (state.command libm input errorUs).frames ≠ 0) :
    (state.playMeasured libm config input errorUs).2.Delivered input.record
        (state.command libm input errorUs).frames ↔
      state.Deliverable config input errorUs (state.command libm input errorUs).frames := by
  unfold Deliverable
  by_cases late : state.resync config input errorUs = some .late
  · rw [playMeasured_late state libm config input errorUs late]
    generalize (state.command libm input errorUs).frames = frames at wanted ⊢
    refine iff_of_false ?_ fun both => both.1 late
    unfold ChunkMoves.Delivered
    by_cases drop : 0 < frames
    · rw [if_pos drop]
      exact id
    · rw [if_neg drop]
      rintro ⟨pushed, _⟩
      change 0 = (-frames).toNat at pushed
      omega
  · rw [playMeasured_moves state libm config input errorUs late, and_iff_right late]
    unfold ChunkMoves.Delivered commandSilence
    dsimp only
    generalize (state.command libm input errorUs).frames = frames at wanted ⊢
    by_cases drop : 0 < frames
    · rw [if_pos drop, if_pos drop]
      obtain ⟨bound, whole⟩ := pushChunk_written input.record.frameBytes input.record.bytes
        frames.toNat input.chunkTurns
      rw [whole]
      have asked : 0 < frames.toNat := by omega
      generalize (pushChunk input.record.frameBytes input.record.bytes frames.toNat
        input.chunkTurns).written = written at bound ⊢
      generalize frames.toNat * input.record.frameBytes = taken at bound ⊢
      omega
    · have insert : frames < 0 := by omega
      rw [if_neg drop, if_neg drop, if_pos insert]
      exact pushSilence_full_iff _ _ _

theorem correction_measured :
    (state.playMeasured libm config input errorUs).2.correction =
      if (state.command libm input errorUs).frames ≠ 0 then
        some ((state.command libm input errorUs).frames,
          (state.command libm input errorUs).correctionId)
      else none := by
  by_cases late : state.resync config input errorUs = some .late
  · rw [playMeasured_late state libm config input errorUs late]
    rfl
  · rw [playMeasured_moves state libm config input errorUs late]
    rfl

theorem confirmed_measured (correctionId : Nat)
    (confirmed :
      (state.playMeasured libm config input errorUs).2.confirmed = some correctionId) :
    state.pendingCorrectionId = correctionId ∧ state.pendingCorrectionId ≠ 0 := by
  by_cases late : state.resync config input errorUs = some .late
  · rw [playMeasured_late state libm config input errorUs late] at confirmed
    cases confirmed
  · rw [playMeasured_moves state libm config input errorUs late] at confirmed
    dsimp only at confirmed
    by_cases played : state.landed input = true
    · rw [if_pos played, Option.some_inj] at confirmed
      unfold landed at played
      rw [Bool.and_eq_true, decide_eq_true_eq] at played
      exact ⟨confirmed, played.1⟩
    · rw [if_neg played] at confirmed
      cases confirmed

theorem pending_measured :
    (state.playMeasured libm config input errorUs).1.pendingCorrectionId = 0 ∨
      (state.playMeasured libm config input errorUs).1.pendingCorrectionId =
        state.pendingCorrectionId ∨
      ((state.command libm input errorUs).frames ≠ 0 ∧
        (state.playMeasured libm config input errorUs).1.pendingCorrectionId =
          (state.command libm input errorUs).correctionId) := by
  have actuated : ∀ (before : PlayerState K) (resync : Option Resync) (silence : SilencePush),
      before.pendingCorrectionId = state.pendingCorrectionId →
      let after := before.actuate input (state.command libm input errorUs) resync silence
      after.1.pendingCorrectionId = 0 ∨
        after.1.pendingCorrectionId = state.pendingCorrectionId ∨
        ((state.command libm input errorUs).frames ≠ 0 ∧
          after.1.pendingCorrectionId = (state.command libm input errorUs).correctionId) := by
    intro before resync silence same
    unfold actuate
    dsimp only
    by_cases wanted : (state.command libm input errorUs).frames ≠ 0
    · rw [if_pos wanted]
      exact Or.inr (Or.inr ⟨wanted, rfl⟩)
    · rw [if_neg wanted]
      split
      · exact Or.inl rfl
      · exact Or.inr (Or.inl same)
  unfold playMeasured
  dsimp only
  cases state.resync config input errorUs with
  | none => exact actuated _ _ _ rfl
  | some direction =>
      cases direction with
      | late => exact Or.inr (Or.inl rfl)
      | early => exact actuated _ _ _ rfl

end Measured

end PlayerState

namespace Delivery

def AllDeliverable (libm : Libm K) (config : Config) (delivery : Delivery K) :
    PlayerEvent K → Prop
  | .chunk input =>
      ∀ errorUs, PlayerState.measuredErrorUs input = some errorUs →
        (delivery.player.command libm input errorUs).frames ≠ 0 →
          delivery.player.Deliverable config input errorUs
            (delivery.player.command libm input errorUs).frames
  | _ => True

def PendingDelivered (delivery : Delivery K) : Prop :=
  delivery.player.pendingCorrectionId ≠ 0 →
    delivery.player.pendingCorrectionId ∈ delivery.delivered

omit [LinearOrder K] [FloorRing K] in
theorem start_pendingDelivered (tsfSync : Option (TsfSync K)) :
    PendingDelivered (start (PlayerState.create tsfSync)) :=
  fun waiting => absurd rfl waiting

theorem deliverable_of_inFull (libm : Libm K) (config : Config) (delivery : Delivery K)
    (event : PlayerEvent K) (full : delivery.InFull libm config event) :
    delivery.AllDeliverable libm config event := by
  cases event with
  | chunk input =>
      intro errorUs measured wanted
      obtain ⟨delivered, _⟩ := full
      rw [PlayerState.playChunk_of_measured _ libm config input errorUs measured,
        PlayerState.correction_measured, if_pos wanted] at delivered
      exact (PlayerState.delivered_iff _ libm config input errorUs wanted).mp
        (delivered _ _ rfl)
  | setCrystalPpm ppm => exact trivial
  | groupMoved tsfSync => exact trivial
  | armSeedTrace => exact trivial

theorem inFull_of_deliverable (libm : Libm K) (config : Config) (delivery : Delivery K)
    (event : PlayerEvent K) (pending : delivery.PendingDelivered)
    (deliverable : delivery.AllDeliverable libm config event) :
    delivery.InFull libm config event := by
  cases event with
  | chunk input =>
      unfold InFull
      dsimp only
      cases measured : PlayerState.measuredErrorUs input with
      | none =>
          obtain ⟨recon, chunk, played⟩ :=
            PlayerState.playChunk_unmeasured delivery.player libm config input measured
          rw [played]
          refine ⟨?_, ?_⟩
          · intro frames correctionId issued
            cases issued
          · intro correctionId confirmed
            cases confirmed
      | some errorUs =>
          rw [PlayerState.playChunk_of_measured _ libm config input errorUs measured]
          refine ⟨?_, ?_⟩
          · intro frames correctionId issued
            rw [PlayerState.correction_measured] at issued
            by_cases wanted : (delivery.player.command libm input errorUs).frames ≠ 0
            · rw [if_pos wanted] at issued
              cases issued
              exact (PlayerState.delivered_iff _ libm config input errorUs wanted).mpr
                (deliverable errorUs measured wanted)
            · rw [if_neg wanted] at issued
              cases issued
          · intro correctionId confirmed
            obtain ⟨same, waiting⟩ :=
              PlayerState.confirmed_measured _ libm config input errorUs correctionId confirmed
            rw [← same]
            exact pending waiting
  | setCrystalPpm ppm => exact trivial
  | groupMoved tsfSync => exact trivial
  | armSeedTrace => exact trivial

theorem step_pendingDelivered (libm : Libm K) (config : Config) (delivery : Delivery K)
    (event : PlayerEvent K) (pending : delivery.PendingDelivered)
    (deliverable : delivery.AllDeliverable libm config event) :
    (delivery.step libm config event).PendingDelivered := by
  cases event with
  | chunk input =>
      have grows : ∀ correctionId ∈ delivery.delivered,
          correctionId ∈ (delivery.step libm config (.chunk input)).delivered := by
        intro correctionId member
        unfold step deliveredAfter
        dsimp only
        split
        · split
          · exact List.mem_cons_of_mem _ member
          · exact member
        · exact member
      intro waiting
      change (delivery.player.playChunk libm config input).1.pendingCorrectionId ≠ 0 at waiting
      change (delivery.player.playChunk libm config input).1.pendingCorrectionId ∈ _
      cases measured : PlayerState.measuredErrorUs input with
      | none =>
          obtain ⟨recon, chunk, played⟩ :=
            PlayerState.playChunk_unmeasured delivery.player libm config input measured
          rw [played] at waiting ⊢
          exact grows _ (pending waiting)
      | some errorUs =>
          rw [PlayerState.playChunk_of_measured _ libm config input errorUs measured]
            at waiting ⊢
          rcases PlayerState.pending_measured delivery.player libm config input errorUs with
            idle | same | ⟨wanted, own⟩
          · exact absurd idle waiting
          · rw [same] at waiting ⊢
            exact grows _ (pending waiting)
          · have delivered :=
              (PlayerState.delivered_iff _ libm config input errorUs wanted).mpr
                (deliverable errorUs measured wanted)
            rw [own]
            unfold step deliveredAfter
            dsimp only
            rw [PlayerState.playChunk_of_measured _ libm config input errorUs measured,
              PlayerState.correction_measured, if_pos wanted]
            dsimp only
            rw [if_pos delivered]
            exact List.mem_cons_self
  | setCrystalPpm ppm => exact pending
  | groupMoved tsfSync => exact pending
  | armSeedTrace => exact pending

/-- The corrections of a run are delivered in full, and only delivered ones are confirmed,
exactly when each can be delivered on the record it is issued for. -/
theorem inFull_iff_deliverable (libm : Libm K) (config : Config)
    (tsfSync : Option (TsfSync K)) (events : List (PlayerEvent K)) :
    Run.Along (step libm config) (InFull libm config) (start (PlayerState.create tsfSync))
        events ↔
      Run.Along (step libm config) (AllDeliverable libm config)
        (start (PlayerState.create tsfSync)) events := by
  constructor
  · exact Run.along_mono (step libm config) (InFull libm config)
      (AllDeliverable libm config) (deliverable_of_inFull libm config) _ events
  · exact Run.along_of_along (step libm config) PendingDelivered (AllDeliverable libm config)
      (InFull libm config) (step_pendingDelivered libm config)
      (inFull_of_deliverable libm config) _ events (start_pendingDelivered tsfSync)

/-- The first tag reads 200 ms late: the engine drops 9090 frames from a record of 1152. -/
theorem command_longer_than_record :
    ¬ ∀ events : List (PlayerEvent Rat),
      Run.Along (step Libm.rational threeSecondRing) (InFull Libm.rational threeSecondRing)
        (start (PlayerState.create none)) events := by
  intro always
  have delivered := (always [.chunk (taggedChunk 1000000 200000 10000)]).1.1 9090 1
    (by decide +kernel)
  exact absurd delivered (by decide +kernel)

end Delivery

end Player
