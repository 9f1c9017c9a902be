import SnapcastSync.ClockSync.Consensus
import SnapcastSync.ClockSync.OffsetFilter

/-! The deadline that `chunk_deadline_us_` gives a chunk, from the offset that the player's filter
makes of the shared mapping, and how far it is from that of another device on the timebase. -/

namespace ClockSync

open Rounding

variable {K : Type}

structure DeadlineChunk where
  serverTsUs : Int
  bufferMs : Int
  serverLatencyMs : Int
  staticDelayMs : Int
  renderBiasUs : Int
deriving DecidableEq, Repr

def DeadlineChunk.bufferUs (chunk : DeadlineChunk) : Int :=
  max 0 (chunk.bufferMs - chunk.serverLatencyMs - chunk.staticDelayMs) * 1000

structure PlayerClock (K : Type) where
  sync : TsfSync K
  filter : OffsetFilter K
  deadlineOnSharedTsf : Bool
  deadlineSourceSwitched : Bool

/-- What a call finds: the time, the outcome of the TSF read and, if there is one, the estimate of
the time filter. -/
structure ClockReads (K : Type) where
  nowUs : Int
  read : Option TsfRead
  offsetMs : Option K

namespace PlayerClock

variable [Field K] [LinearOrder K] [FloorRing K]

def consensus (clock : PlayerClock K) (localNowUs : Int) : PlayerClock K :=
  { clock with sync := clock.sync.updateConsensus localNowUs }

def chunkDeadlineUs (clock : PlayerClock K) (reads : ClockReads K) (chunk : DeadlineChunk) :
    PlayerClock K × Option Int :=
  let shared := clock.sync.sharedServerOffset clock.filter reads.nowUs reads.read
  let onShared := shared.2.2.isSome
  ({ sync := shared.1
     filter := shared.2.1
     deadlineOnSharedTsf := onShared
     deadlineSourceSwitched :=
       clock.deadlineSourceSwitched || decide (onShared ≠ clock.deadlineOnSharedTsf) },
    match shared.2.2 with
    | some offsetUs =>
        chunkDeadline chunk.serverTsUs chunk.bufferUs true offsetUs chunk.renderBiasUs
    | none =>
        chunkDeadline chunk.serverTsUs chunk.bufferUs reads.offsetMs.isSome
          (truncToInt (reads.offsetMs.getD 0 * 1000)) 0)

end PlayerClock

namespace OffsetFilter

variable [Field K] [LinearOrder K] [FloorRing K]

/-- How far the filtered offset is from the raw one after a read. -/
def lagUs (filter : OffsetFilter K) (driftPpm : K) (read : TsfRead) (rawUs : Int) :
    Int :=
  truncToInt ((filter.prepare driftPpm read).settle rawUs read.sandwichUs).offsetFilterUs - rawUs

/-- The filter has no value yet, or one so far off that it starts over. -/
def TakesRaw (filter : OffsetFilter K) (driftPpm : K) (read : TsfRead)
    (rawUs : Int) : Prop :=
  (filter.prepare driftPpm read).snaps rawUs = true

variable [IsStrictOrderedRing K]

/-- A settled filter is within the step that it would have snapped at. -/
theorem settle_near (filter : OffsetFilter K) (rawUs sandwichUs : Int) :
    |(filter.settle rawUs sandwichUs).offsetFilterUs - rawUs| ≤ offsetSnapUs := by
  have step : (0 : K) ≤ offsetSnapUs := by
    rw [offsetSnapUs]
    positivity
  rw [settle]
  cases held : filter.snaps rawUs with
  | true =>
      rw [if_pos rfl]
      dsimp only
      rw [sub_self, abs_zero]
      exact step
  | false =>
      have near : |(rawUs : K) - filter.offsetFilterUs| ≤ offsetSnapUs := by
        rw [snaps, Bool.or_eq_false_iff, decide_eq_false_iff_not, not_lt] at held
        exact held.2
      rw [abs_sub_comm] at near
      rw [if_neg Bool.false_ne_true]
      split
      · -- an average moves toward the raw offset
        have moved : filter.offsetFilterUs + offsetEwmaAlpha * ((rawUs : K) - filter.offsetFilterUs)
            - rawUs = (1 - offsetEwmaAlpha) * (filter.offsetFilterUs - rawUs) := by ring
        have share : |1 - (offsetEwmaAlpha : K)| ≤ 1 := by
          rw [offsetEwmaAlpha, abs_le]
          constructor
          · norm_num
          · norm_num
        dsimp only
        rw [moved, abs_mul]
        calc |1 - (offsetEwmaAlpha : K)| * |filter.offsetFilterUs - rawUs|
            ≤ 1 * |filter.offsetFilterUs - rawUs| :=
              mul_le_mul_of_nonneg_right share (abs_nonneg _)
          _ ≤ offsetSnapUs := by rw [one_mul]; exact near
      · exact near

theorem lagUs_le (filter : OffsetFilter K) (driftPpm : K) (read : TsfRead) (rawUs : Int) :
    |filter.lagUs driftPpm read rawUs| ≤ 2000 := by
  have near := abs_le.mp (settle_near (filter.prepare driftPpm read) rawUs read.sandwichUs)
  have step : (offsetSnapUs : K) = ((2000 : Int) : K) := by
    rw [offsetSnapUs]
    norm_num
  rw [step] at near
  obtain ⟨above, below⟩ := truncToInt_mem
    ((filter.prepare driftPpm read).settle rawUs read.sandwichUs).offsetFilterUs
    (rawUs - 2000) (rawUs + 2000) (by push_cast at near ⊢; linarith [near.1])
    (by push_cast at near ⊢; linarith [near.2])
  rw [lagUs, abs_le]
  omega

theorem lagUs_of_takesRaw (filter : OffsetFilter K) (driftPpm : K) (read : TsfRead) (rawUs : Int)
    (raw : filter.TakesRaw driftPpm read rawUs) : filter.lagUs driftPpm read rawUs = 0 := by
  have exact_ := truncToInt_mem (rawUs : K) rawUs rawUs (le_refl _) (le_refl _)
  have settled : ((filter.prepare driftPpm read).settle rawUs read.sandwichUs).offsetFilterUs =
      rawUs := by
    rw [settle, show (filter.prepare driftPpm read).snaps rawUs = true from raw, if_pos rfl]
  rw [lagUs, settled]
  omega

end OffsetFilter

namespace PlayerClock

variable [Field K] [LinearOrder K] [FloorRing K]

/-- Two devices read the TSF at one instant, each with a live mapping. -/
structure ReadTogether (left right : PlayerClock K) (leftReads rightReads : ClockReads K)
    (leftTaken rightTaken : TsfRead) : Prop where
  leftRead : leftReads.read = some leftTaken
  rightRead : rightReads.read = some rightTaken
  instant : leftTaken.sample.tsfUs = rightTaken.sample.tsfUs
  leftLive : left.sync.mappingLive leftReads.nowUs = true
  rightLive : right.sync.mappingLive rightReads.nowUs = true

/-- The deadlines of the two devices on the TSF timeline: neither uses the mapping, which is out of
its range, or they are apart by what their filters lag behind it, to a microsecond. -/
def LagApart (left right : PlayerClock K) (leftReads rightReads : ClockReads K)
    (leftTaken rightTaken : TsfRead) (chunk : DeadlineChunk) : Prop :=
  let leftAnswer := left.chunkDeadlineUs leftReads chunk
  let rightAnswer := right.chunkDeadlineUs rightReads chunk
  (leftAnswer.1.deadlineOnSharedTsf = false ∧ rightAnswer.1.deadlineOnSharedTsf = false) ∨
    ∃ leftUs rightUs leftRaw rightRaw leftSpan rightSpan,
      leftAnswer.2 = some leftUs ∧ rightAnswer.2 = some rightUs ∧
        evaluateMapping (some leftTaken.sample) left.sync.mapLine = .ok leftRaw leftSpan ∧
        evaluateMapping (some rightTaken.sample) right.sync.mapLine = .ok rightRaw rightSpan ∧
        let apart := leftTaken.sample.tsfOf leftUs - rightTaken.sample.tsfOf rightUs
        |apart + (left.filter.lagUs left.sync.mapDriftPpm leftTaken leftRaw -
            right.filter.lagUs right.sync.mapDriftPpm rightTaken rightRaw)| ≤ 1 ∧
          (left.filter.TakesRaw left.sync.mapDriftPpm leftTaken leftRaw →
            right.filter.TakesRaw right.sync.mapDriftPpm rightTaken rightRaw → |apart| ≤ 1) ∧
          |apart| ≤ 4001

theorem chunkDeadlineUs_shared (clock : PlayerClock K) (reads : ClockReads K)
    (chunk : DeadlineChunk) (taken : TsfRead) (read : reads.read = some taken)
    (live : clock.sync.mappingLive reads.nowUs = true) (rawUs spanUs : Int)
    (ok : evaluateMapping (some taken.sample) clock.sync.mapLine = .ok rawUs spanUs) :
    (clock.chunkDeadlineUs reads chunk).2 =
      some (chunk.serverTsUs + chunk.bufferUs -
        (rawUs + clock.filter.lagUs clock.sync.mapDriftPpm taken rawUs) + chunk.renderBiasUs) := by
  have shared : (clock.sync.sharedServerOffset clock.filter reads.nowUs reads.read).2.2 =
      some (rawUs + clock.filter.lagUs clock.sync.mapDriftPpm taken rawUs) := by
    unfold TsfSync.sharedServerOffset
    rw [if_pos live, read]
    dsimp only
    rw [ok, OffsetFilter.lagUs]
    dsimp only
    rw [add_sub_cancel]
  rw [chunkDeadlineUs]
  dsimp only
  rw [shared]
  rfl

theorem chunkDeadlineUs_clamped (clock : PlayerClock K) (reads : ClockReads K)
    (chunk : DeadlineChunk) (taken : TsfRead) (read : reads.read = some taken)
    (live : clock.sync.mappingLive reads.nowUs = true) (spanUs : Int)
    (clamped : evaluateMapping (some taken.sample) clock.sync.mapLine = .ageClamp spanUs) :
    (clock.chunkDeadlineUs reads chunk).1.deadlineOnSharedTsf = false := by
  have shared : (clock.sync.sharedServerOffset clock.filter reads.nowUs reads.read).2.2 =
      none := by
    unfold TsfSync.sharedServerOffset
    rw [if_pos live, read]
    dsimp only
    rw [clamped]
  rw [chunkDeadlineUs]
  dsimp only
  rw [shared]
  rfl

variable [IsStrictOrderedRing K]

theorem deadlines_lagApart (left right : PlayerClock K) (leftReads rightReads : ClockReads K)
    (leftTaken rightTaken : TsfRead)
    (together : ReadTogether left right leftReads rightReads leftTaken rightTaken)
    (base : left.sync.mapTsfBaseUs = right.sync.mapTsfBaseUs)
    (drift : left.sync.mapDriftPpm = right.sync.mapDriftPpm)
    (near : |left.sync.mapTsfMinusServerUs - right.sync.mapTsfMinusServerUs| ≤ 1)
    (chunk : DeadlineChunk) :
    LagApart left right leftReads rightReads leftTaken rightTaken chunk := by
  obtain ⟨leftRead, rightRead, instant, leftLive, rightLive⟩ := together
  by_cases aged : rightTaken.sample.tsfUs - right.sync.mapTsfBaseUs < -1000 ∨
      maxExtrapolationUs < rightTaken.sample.tsfUs - right.sync.mapTsfBaseUs
  · have rightClamped : evaluateMapping (some rightTaken.sample) right.sync.mapLine =
        .ageClamp (rightTaken.sample.tsfUs - right.sync.mapTsfBaseUs) := if_pos aged
    rw [← instant, ← base] at aged
    have leftClamped : evaluateMapping (some leftTaken.sample) left.sync.mapLine =
        .ageClamp (leftTaken.sample.tsfUs - left.sync.mapTsfBaseUs) := if_pos aged
    exact Or.inl ⟨left.chunkDeadlineUs_clamped leftReads chunk leftTaken leftRead leftLive _
        leftClamped,
      right.chunkDeadlineUs_clamped rightReads chunk rightTaken rightRead rightLive _
        rightClamped⟩
  · have rightOk : evaluateMapping (some rightTaken.sample) right.sync.mapLine = .ok _ _ :=
      if_neg aged
    rw [← instant, ← base] at aged
    have leftOk : evaluateMapping (some leftTaken.sample) left.sync.mapLine = .ok _ _ :=
      if_neg aged
    refine Or.inr ⟨_, _, _, _, _, _,
      left.chunkDeadlineUs_shared leftReads chunk leftTaken leftRead leftLive _ _ leftOk,
      right.chunkDeadlineUs_shared rightReads chunk rightTaken rightRead rightLive _ _ rightOk,
      leftOk, rightOk, ?_⟩
    -- on one line the raw offsets give deadlines a rounding apart
    have close := truncToInt_add_close
      (right.sync.mapDriftPpm * ppm *
        ((rightTaken.sample.tsfUs - right.sync.mapTsfBaseUs : Int) : K))
      left.sync.mapTsfMinusServerUs right.sync.mapTsfMinusServerUs near
    dsimp only [TsfSync.mapLine, TsfSample.tsfOf]
    rw [drift, base, instant]
    generalize truncToInt ((left.sync.mapTsfMinusServerUs : K) + _) = leftTms at close ⊢
    generalize truncToInt ((right.sync.mapTsfMinusServerUs : K) + _) = rightTms at close ⊢
    have leftLag := left.filter.lagUs_le right.sync.mapDriftPpm leftTaken
      (rightTaken.sample.tsfUs - leftTms - leftTaken.sample.localUs)
    have rightLag := right.filter.lagUs_le right.sync.mapDriftPpm rightTaken
      (rightTaken.sample.tsfUs - rightTms - rightTaken.sample.localUs)
    have leftRaw := left.filter.lagUs_of_takesRaw right.sync.mapDriftPpm leftTaken
      (rightTaken.sample.tsfUs - leftTms - leftTaken.sample.localUs)
    have rightRaw := right.filter.lagUs_of_takesRaw right.sync.mapDriftPpm rightTaken
      (rightTaken.sample.tsfUs - rightTms - rightTaken.sample.localUs)
    generalize left.filter.lagUs _ _ _ = leftLagUs at leftLag leftRaw ⊢
    generalize right.filter.lagUs _ _ _ = rightLagUs at rightLag rightRaw ⊢
    rw [abs_le] at close leftLag rightLag
    refine ⟨?_, fun leftTakes rightTakes => ?_, ?_⟩
    · rw [abs_le]
      omega
    · have leftNone := leftRaw leftTakes
      have rightNone := rightRaw rightTakes
      rw [abs_le]
      omega
    · rw [abs_le]
      omega

/-- Devices that average one set of lines adopt one reference and drift and offsets within a
microsecond, whatever order their slots have and whatever mappings they held; and reads of the TSF
at one instant then give every chunk deadlines that differ by what the two filters still carry of
those mappings, to a microsecond. -/
theorem updateConsensus_agree (left right : PlayerClock K) (leftNow rightNow : Int)
    (same : (left.sync.contributing leftNow).Perm (right.sync.contributing rightNow))
    (nonempty : left.sync.contributing leftNow ≠ []) :
    let leftAfter := left.consensus leftNow
    let rightAfter := right.consensus rightNow
    leftAfter.sync.mappingValid = true ∧ rightAfter.sync.mappingValid = true ∧
      leftAfter.sync.mapTsfBaseUs = rightAfter.sync.mapTsfBaseUs ∧
      leftAfter.sync.mapDriftPpm = rightAfter.sync.mapDriftPpm ∧
      |leftAfter.sync.mapTsfMinusServerUs - rightAfter.sync.mapTsfMinusServerUs| ≤ 1 ∧
      ∀ (leftReads rightReads : ClockReads K) (leftTaken rightTaken : TsfRead),
        ReadTogether leftAfter rightAfter leftReads rightReads leftTaken rightTaken →
          ∀ chunk : DeadlineChunk,
            LagApart leftAfter rightAfter leftReads rightReads leftTaken rightTaken chunk := by
  obtain ⟨leftValid, rightValid, base, drift, near⟩ :=
    updateConsensus_alike left.sync right.sync leftNow rightNow same nonempty
  refine ⟨leftValid, rightValid, base, drift, near, ?_⟩
  intro leftReads rightReads leftTaken rightTaken together chunk
  exact deadlines_lagApart _ _ leftReads rightReads leftTaken rightTaken together base drift near
    chunk

private def pairDevice (ownTsf ownTms : Int) (ownDrift : Rat) (peers : List (Int × Int × Rat))
    (single : peers.length ≤ 1) : TsfSync Rat :=
  { TsfSync.create 100000 with
    pubValid := true
    pubTsfBase := ownTsf
    pubTmsBase := ownTms
    pubDriftPpm := ownDrift
    peer :=
      { slots := peers.map fun line =>
          { Peer.fresh (Vector.replicate 6 1) 0 with
            mapValid := true
            mapSeenUs := 1000000
            tsfBaseUs := line.1
            tmsBaseUs := line.2.1
            driftPpm := line.2.2 }
        bounded := by
          rw [List.length_map]
          exact single.trans (by decide)
        distinct := by
          match peers, single with
          | [], _ => exact List.nodup_nil
          | [_], _ => exact List.nodup_singleton _ } }

private def started (sync : TsfSync Rat) : PlayerClock Rat :=
  { sync := sync
    filter := OffsetFilter.create
    deadlineOnSharedTsf := false
    deadlineSourceSwitched := false }

private def readAt (localUs tsfUs : Int) : ClockReads Rat :=
  { nowUs := localUs
    read := some ⟨⟨tsfUs, localUs⟩, 50⟩
    offsetMs := none }

private def someChunk : DeadlineChunk :=
  { serverTsUs := 9000000
    bufferMs := 1000
    serverLatencyMs := 0
    staticDelayMs := 0
    renderBiasUs := 0 }

/-- Alone until now, with one chunk placed by its own line, and then with the line of the other. -/
private def joined : PlayerClock Rat :=
  let alone := (started (pairDevice 5000000 0 0 [] (by decide))).consensus 2000000
  let placed := (alone.chunkDeadlineUs (readAt 2100000 6100000) someChunk).1
  { placed with
    sync := { placed.sync with peer := (pairDevice 0 0 0 [(5000000, 1000, 0)] (by decide)).peer } }

private def joining : PlayerClock Rat :=
  started (pairDevice 5000000 1000 0 [(5000000, 0, 0)] (by decide))

private theorem joined_contributing :
    (joined.sync.contributing 3000000).Perm (joining.sync.contributing 3500000) ∧
      joined.sync.contributing 3000000 ≠ [] := by
  decide +kernel

private theorem joined_readTogether :
    ReadTogether (joined.consensus 3000000) (joining.consensus 3500000)
      (readAt 3100000 7100000) (readAt 3600000 7100000) ⟨⟨7100000, 3100000⟩, 50⟩
      ⟨⟨7100000, 3600000⟩, 50⟩ :=
  ⟨rfl, rfl, rfl, by decide +kernel, by decide +kernel⟩

theorem updateConsensus_agree_joined :
    LagApart (joined.consensus 3000000) (joining.consensus 3500000) (readAt 3100000 7100000)
      (readAt 3600000 7100000) ⟨⟨7100000, 3100000⟩, 50⟩ ⟨⟨7100000, 3600000⟩, 50⟩ someChunk :=
  (updateConsensus_agree joined joining 3000000 3500000 joined_contributing.1
    joined_contributing.2).2.2.2.2.2 _ _ _ _ joined_readTogether someChunk

/-- The filter of the device that was alone before is still near its own line. -/
theorem deadlines_apart_after_own_line :
    ¬ ∀ (left right : PlayerClock Rat) (leftNow rightNow : Int),
      (left.sync.contributing leftNow).Perm (right.sync.contributing rightNow) →
        left.sync.contributing leftNow ≠ [] →
          ∀ (leftReads rightReads : ClockReads Rat) (leftTaken rightTaken : TsfRead),
            ReadTogether (left.consensus leftNow) (right.consensus rightNow) leftReads rightReads
              leftTaken rightTaken →
            ∀ (chunk : DeadlineChunk) (leftUs rightUs : Int),
              ((left.consensus leftNow).chunkDeadlineUs leftReads chunk).2 = some leftUs →
                ((right.consensus rightNow).chunkDeadlineUs rightReads chunk).2 = some rightUs →
                  |leftTaken.sample.tsfOf leftUs - rightTaken.sample.tsfOf rightUs| ≤ 1 := by
  intro always
  have near := always joined joining 3000000 3500000 joined_contributing.1 joined_contributing.2
    _ _ _ _ joined_readTogether someChunk 6000002 6500500 (by decide +kernel) (by decide +kernel)
  revert near
  decide

end PlayerClock

end ClockSync
