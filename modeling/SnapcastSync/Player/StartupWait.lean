import SnapcastSync.Player.Arbiter

/-! The wait for the deadline of a chunk that is taken up before playback runs. Its bound is a
mirror of the ring's capacity that only a chunk with playback feedback writes. -/

namespace Player

open ClockSync

def startupLeadUs : Int := 150000
def startupPollUs : Int := 10000

def ringCapacityUs (config : Config) (record : ChunkRecord) : Int :=
  Int.tdiv (config.bufferSize * 1000000) (record.frameBytes * record.sampleRate)

/-- The delays until the deadline is within the lead. -/
def neededDelays (nowUs deadlineUs : Int) : Nat :=
  ((deadlineUs - startupLeadUs - nowUs + startupPollUs - 1) / startupPollUs).toNat

/-- The loop of the wait, with this many delays still needed; `active` says before each of them
whether the output is active without a shutdown. -/
def startupDelays (active : Nat → Bool) : Nat → Nat → Nat
  | 0, _ => 0
  | needed + 1, waited =>
      if active waited then startupDelays active needed (waited + 1) + 1 else 0

def startupWaitUs (active : Nat → Bool) (nowUs deadlineUs : Int) : Int :=
  startupPollUs * startupDelays active (neededDelays nowUs deadlineUs) 0

theorem startupDelays_le_iff (active : Nat → Bool) (needed waited : Nat) (bound : Int) :
    startupPollUs * startupDelays active needed waited ≤ bound ↔
      startupPollUs * needed ≤ bound ∨
        ∃ later : Nat, active (waited + later) = false ∧ startupPollUs * later ≤ bound := by
  rw [startupPollUs]
  induction needed generalizing waited bound with
  | zero =>
      rw [startupDelays]
      constructor
      · exact Or.inl
      · rintro (within | ⟨later, _, within⟩)
        · exact within
        · omega
  | succ needed ih =>
      rw [startupDelays]
      cases going : active waited with
      | false =>
          rw [if_neg Bool.false_ne_true]
          constructor
          · exact fun within => Or.inr ⟨0, going, within⟩
          · rintro (within | ⟨later, _, within⟩) <;> omega
      | true =>
          rw [if_pos rfl]
          have rest := ih (waited + 1) (bound - 10000)
          constructor
          · intro within
            rcases rest.mp (by omega) with needs | ⟨later, gone, soon⟩
            · exact Or.inl (by omega)
            · refine Or.inr ⟨later + 1, ?_, by omega⟩
              rw [show waited + (later + 1) = waited + 1 + later by omega]
              exact gone
          · rintro (needs | ⟨later, gone, soon⟩)
            · have onward := rest.mpr (Or.inl (by omega))
              omega
            · cases later with
              | zero =>
                  rw [Nat.add_zero, going] at gone
                  cases gone
              | succ later =>
                  rw [show waited + (later + 1) = waited + 1 + later by omega] at gone
                  have onward := rest.mpr (Or.inr ⟨later, gone, by omega⟩)
                  omega

structure Startup (K : Type) where
  player : PlayerState K
  ringCapacityUs : Int

/-- A record that is taken up with no playback feedback, and its deadline. -/
def bootDeadline? {K : Type} (input : ChunkInput K) : Option Int :=
  if input.record.frameBytes = 0 ∨ input.outputActive = false ∨ input.starving = true then none
  else
    match input.predictedUs with
    | some _ => none
    | none => input.deadlineUs

section Startup

variable {K : Type} [Field K] [LinearOrder K] [FloorRing K]

omit [Field K] [LinearOrder K] [FloorRing K] in
theorem PlayerState.playBoot_discards_iff (state : PlayerState K) (input : ChunkInput K)
    (deadlineUs : Int) :
    (state.playBoot input deadlineUs).2.chunk = none ↔
      deadlineUs < input.nowUs ∨ (0 < input.depths.ringCapacityUs ∧
        input.depths.ringCapacityUs < deadlineUs - input.nowUs) := by
  unfold playBoot
  dsimp only
  split
  · rename_i refused
    exact iff_of_true rfl refused
  · rename_i taken
    exact iff_of_false nofun taken

namespace Startup

def create (tsfSync : Option (TsfSync K)) : Startup K :=
  { player := PlayerState.create tsfSync
    ringCapacityUs := 0 }

def reads (startup : Startup K) (input : ChunkInput K) : ChunkInput K :=
  { input with depths := { input.depths with ringCapacityUs := startup.ringCapacityUs } }

/-- The record goes on to where the mirror is written: with feedback, and not given up by a
late resync. -/
def Feeds (startup : Startup K) (config : Config) (input : ChunkInput K) : Prop :=
  ∃ errorUs, PlayerState.measuredErrorUs input = some errorUs ∧ input.record.sampleRate ≠ 0 ∧
    startup.player.resync config (startup.reads input) errorUs ≠ some .late

instance (startup : Startup K) (config : Config) (input : ChunkInput K) :
    Decidable (startup.Feeds config input) :=
  match measured : PlayerState.measuredErrorUs input with
  | none => isFalse fun ⟨_, some_, _⟩ => by rw [measured] at some_; cases some_
  | some errorUs =>
      decidable_of_iff
        (input.record.sampleRate ≠ 0 ∧
          startup.player.resync config (startup.reads input) errorUs ≠ some .late)
        ⟨fun rest => ⟨errorUs, measured, rest⟩, fun ⟨other, same, rest⟩ => by
          rw [measured] at same
          cases same
          exact rest⟩

def step (libm : Libm K) (config : Config) (startup : Startup K) : PlayerEvent K → Startup K
  | .chunk input =>
      { player := startup.player.handle libm config (.chunk (startup.reads input))
        ringCapacityUs :=
          if startup.Feeds config input then Player.ringCapacityUs config input.record
          else startup.ringCapacityUs }
  | event => { startup with player := startup.player.handle libm config event }

/-- The format of the last record of a run that wrote the mirror. -/
def lastFed (libm : Libm K) (config : Config) :
    Startup K → Option ChunkRecord → List (PlayerEvent K) → Option ChunkRecord
  | _, fed, [] => fed
  | startup, fed, event :: later =>
      lastFed libm config (startup.step libm config event)
        (match event with
          | .chunk input => if startup.Feeds config input then some input.record else fed
          | _ => fed)
        later

/-- A record without feedback is discarded, or waited for no longer than the ring can hold of its
own format. -/
def WaitBounded (libm : Libm K) (config : Config) (startup : Startup K) (input : ChunkInput K)
    (active : Nat → Bool) : Prop :=
  ∀ deadlineUs, bootDeadline? input = some deadlineUs →
    (startup.player.playChunk libm config (startup.reads input)).2.chunk = none ∨
      startupWaitUs active input.nowUs deadlineUs ≤ Player.ringCapacityUs config input.record

/-- The deadline is past, or near enough for the ring, or the output goes before; or else a record
with feedback came before, in whose format the ring cannot hold it. -/
def Guarded (config : Config) (fed : Option ChunkRecord) (input : ChunkInput K)
    (active : Nat → Bool) : Prop :=
  ∀ deadlineUs, bootDeadline? input = some deadlineUs →
    deadlineUs < input.nowUs ∨
      (∃ record, fed = some record ∧ 0 < Player.ringCapacityUs config record ∧
        Player.ringCapacityUs config record < deadlineUs - input.nowUs) ∨
      startupPollUs * neededDelays input.nowUs deadlineUs ≤
        Player.ringCapacityUs config input.record ∨
      ∃ waited : Nat, active waited = false ∧
        startupPollUs * waited ≤ Player.ringCapacityUs config input.record

def Mirrors (config : Config) (startup : Startup K) (fed : Option ChunkRecord) : Prop :=
  startup.ringCapacityUs = (fed.map (Player.ringCapacityUs config)).getD 0

theorem mirrors_lastFed (libm : Libm K) (config : Config) (startup : Startup K)
    (fed : Option ChunkRecord) (history : List (PlayerEvent K))
    (mirrors : startup.Mirrors config fed) :
    (history.foldl (step libm config) startup).Mirrors config
      (lastFed libm config startup fed history) := by
  induction history generalizing startup fed with
  | nil => exact mirrors
  | cons event later ih =>
      apply ih
      cases event with
      | chunk input =>
          rw [Mirrors, step]
          dsimp only
          by_cases feeds : startup.Feeds config input
          · rw [if_pos feeds, if_pos feeds]
            rfl
          · rw [if_neg feeds, if_neg feeds]
            exact mirrors
      | setCrystalPpm ppm => exact mirrors
      | groupMoved tsfSync => exact mirrors
      | armSeedTrace => exact mirrors

theorem playChunk_of_boot (startup : Startup K) (libm : Libm K) (config : Config)
    (input : ChunkInput K) (deadlineUs : Int) (boots : bootDeadline? input = some deadlineUs) :
    startup.player.playChunk libm config (startup.reads input) =
      startup.player.playBoot (startup.reads input) deadlineUs := by
  rw [bootDeadline?] at boots
  by_cases gone : input.record.frameBytes = 0 ∨ input.outputActive = false ∨ input.starving = true
  · rw [if_pos gone] at boots
    cases boots
  · rw [if_neg gone] at boots
    have unmeasured : PlayerState.measuredErrorUs (startup.reads input) = none := by
      rw [PlayerState.measuredErrorUs]
      cases predicted : input.predictedUs with
      | some predictedUs =>
          rw [predicted] at boots
          cases boots
      | none =>
          have same : (startup.reads input).predictedUs = none := predicted
          rw [same]
          split
          · rfl
          · split <;> rename_i matched <;> first | rfl | cases matched
    have deadline : (startup.reads input).deadlineUs = some deadlineUs := by
      cases predicted : input.predictedUs with
      | some predictedUs =>
          rw [predicted] at boots
          cases boots
      | none =>
          rw [predicted] at boots
          exact boots
    rw [PlayerState.playChunk, unmeasured]
    exact (if_neg gone).trans (by rw [deadline])

theorem waitBounded_iff (libm : Libm K) (config : Config) (tsfSync : Option (TsfSync K))
    (history : List (PlayerEvent K)) (input : ChunkInput K) (active : Nat → Bool) :
    (history.foldl (step libm config) (create tsfSync)).WaitBounded libm config input active ↔
      Guarded config (lastFed libm config (create tsfSync) none history) input active := by
  have mirrors := mirrors_lastFed libm config (create tsfSync) none history rfl
  generalize history.foldl (step libm config) (create tsfSync) = startup at mirrors ⊢
  generalize lastFed libm config (create tsfSync) none history = fed at mirrors ⊢
  rw [WaitBounded, Guarded]
  refine forall_congr' fun deadlineUs => forall_congr' fun boots => ?_
  have waits := startupDelays_le_iff active (neededDelays input.nowUs deadlineUs) 0
    (Player.ringCapacityUs config input.record)
  simp only [Nat.zero_add] at waits
  have armed : (0 < startup.ringCapacityUs ∧
      startup.ringCapacityUs < deadlineUs - input.nowUs) ↔
        ∃ record, fed = some record ∧ 0 < Player.ringCapacityUs config record ∧
          Player.ringCapacityUs config record < deadlineUs - input.nowUs := by
    rw [mirrors]
    cases fed with
    | none =>
        constructor
        · rintro ⟨positive, _⟩
          exact absurd positive (Int.lt_irrefl 0)
        · rintro ⟨_, none_, _⟩
          cases none_
    | some record =>
        constructor
        · exact fun both => ⟨record, rfl, both⟩
        · rintro ⟨_, same, both⟩
          cases same
          exact both
  have discards : (startup.player.playBoot (startup.reads input) deadlineUs).2.chunk = none ↔
      deadlineUs < input.nowUs ∨ (0 < startup.ringCapacityUs ∧
        startup.ringCapacityUs < deadlineUs - input.nowUs) :=
    startup.player.playBoot_discards_iff (startup.reads input) deadlineUs
  rw [playChunk_of_boot startup libm config input deadlineUs boots, startupWaitUs, waits, ← armed,
    discards, or_assoc]

end Startup

end Startup

def farBootChunk : ChunkInput Rat :=
  { untaggedChunk 1000000 none 990000 with deadlineUs := some 11000000 }

/-- The first record after a boot finds the mirror at zero, and waits three times what the ring
can hold. -/
theorem first_chunk_unbounded :
    ¬ (Startup.create none).WaitBounded Libm.rational threeSecondRing farBootChunk fun _ => true := by
  intro bounded
  rcases bounded 11000000 rfl with discarded | within
  · exact absurd discarded (by decide +kernel)
  · exact absurd within (by decide +kernel)

end Player
