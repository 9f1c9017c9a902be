import Mathlib.Tactic.Linarith
import SnapcastSync.Player.DriftMedian
import SnapcastSync.Player.PlayoutHistory

/-! The frame ledger with everything that its repair goes by: the two playout histories, the
samples that set the accounted queue against the chain's own reading of it, and the report of every
128th error sample, which takes the median of the samples off the ledger. -/

namespace Player

open Rounding
open Ledger

def depthSnapshotCoherentUs : Int := 50000

structure AudioDepth where
  microseconds : Nat
  asOfUs : Int
deriving DecidableEq, Repr

/-- What the report of an error sample reads beside the samples of the split. `escapes` is the
split escape at its end. -/
structure ErrorSample where
  reading : Option AudioDepth
  converged : Bool
  mixResidualUs : Int
  tagsTrusted : Bool
  escapes : Bool
  sampleRate : Nat
  nowUs : Int
deriving DecidableEq, Repr

/-- Where a sample of the split comes from: the stretch of the accounting it was taken in, and the
totals of frames supplied and reported at the marks it was read from. -/
structure SampleOrigin where
  era : Nat
  reading : AudioDepth
  sampleRate : Nat
  accountedFrames : Int
  suppliedAt : Int
  reportedAt : Int
deriving DecidableEq, Repr

/-- What the code does not keep is the number of times the histories were cleared, the frames
written, ramped and reported since boot, a history of these beside each of the code's, and the
origin of every sample. -/
structure Accounting where
  ledger : Ledger
  pushedHistory : PlayoutHistory
  playedHistory : PlayoutHistory
  drift : DriftReport
  era : Nat
  given : Int
  ramped : Int
  reported : Int
  suppliedHistory : PlayoutHistory
  reportedHistory : PlayoutHistory
  origins : List SampleOrigin

namespace SampleOrigin

/-- The drift before it is narrowed to 32 bits. -/
def splitUs (origin : SampleOrigin) : Int :=
  Int.tdiv (origin.accountedFrames * 1000000) origin.sampleRate - origin.reading.microseconds

def heldFrames (origin : SampleOrigin) : Int :=
  origin.reading.microseconds * origin.sampleRate / 1000000

end SampleOrigin

namespace Accounting

def initial : Accounting :=
  { ledger := Ledger.initial
    pushedHistory := clearPlayoutHistory
    playedHistory := clearPlayoutHistory
    drift := DriftReport.initial
    era := 0
    given := 0
    ramped := 0
    reported := 0
    suppliedHistory := clearPlayoutHistory
    reportedHistory := clearPlayoutHistory
    origins := [] }

def supplied (state : Accounting) : Int := state.given + state.ramped

def clearHistories (state : Accounting) : Accounting :=
  { state with
    pushedHistory := clearPlayoutHistory
    playedHistory := clearPlayoutHistory
    suppliedHistory := clearPlayoutHistory
    reportedHistory := clearPlayoutHistory
    drift := state.drift.step .rebaseline
    era := state.era + 1 }

def markPushed (state : Accounting) (tsUs : Int) : Accounting :=
  { state with
    pushedHistory := markPlayout state.pushedHistory tsUs state.ledger.pushedFramesTotal
    suppliedHistory := markPlayout state.suppliedHistory tsUs state.supplied }

def markPlayed (state : Accounting) (tsUs : Int) : Accounting :=
  { state with
    playedHistory := markPlayout state.playedHistory tsUs state.ledger.playedFramesTotal
    reportedHistory := markPlayout state.reportedHistory tsUs state.reported }

def seedHistories (state : Accounting) (tsUs : Int) : Accounting :=
  (state.clearHistories.markPushed tsUs).markPlayed tsUs

def setOutputActive (state : Accounting) (active : Bool) : Accounting :=
  let after := { state with ledger := state.ledger.setOutputActive active }
  if active && !state.ledger.outputActive then after.clearHistories else after

def flushes (state : Accounting) (timestampUs : Int) : Bool :=
  state.ledger.playoutValid &&
    decide (pipelineFlushGapUs < timestampUs - state.ledger.playedLastTsUs)

def notifyAudioPlayed (state : Accounting) (frames : Nat) (timestampUs : Int) : Accounting :=
  let after :=
    { state with
      ledger := state.ledger.notifyAudioPlayed frames timestampUs
      reported := state.reported + frames }
  if state.flushes timestampUs then after.seedHistories timestampUs
  else after.markPlayed timestampUs

def push (state : Accounting) (written frameBytes : Nat) (nowUs : Int) : Accounting :=
  if 0 < written then
    { state with
      ledger := state.ledger.push written frameBytes
      given := state.given + (written / frameBytes : Nat) }.markPushed nowUs
  else state

def rebaselineAfterStarvation (state : Accounting) (queries : DepthQueries) (sampleRate : Nat)
    (nowUs : Int) : Accounting :=
  let after :=
    { state with ledger := state.ledger.rebaselineAfterStarvation queries sampleRate nowUs }
  if state.ledger.pipelineStarved then after.seedHistories nowUs else after

def repays (state : Accounting) (queried : Bool) (nowUs : Int) : Bool :=
  decide (0 < state.ledger.paddingDebtFrames) && decide (state.ledger.paddingRepayAtUs ≤ nowUs) &&
    queried && decide (0 < state.ledger.repay)

def repayPadding (state : Accounting) (queried : Bool) (nowUs : Int) : Accounting :=
  let after := { state with ledger := state.ledger.repayPadding queried nowUs }
  if state.repays queried nowUs then after.seedHistories nowUs else after

def splitRamp (state : Accounting) (chunk : RampChunk) (nowUs : Int) : Accounting :=
  let after :=
    { state with
      ledger := state.ledger.splitRamp chunk
      ramped := state.ramped + state.ledger.rampShift chunk }
  if state.ledger.rampShift chunk ≠ 0 then after.markPushed nowUs else after

def accountedAt (state : Accounting) (asOfUs : Int) : Option Int :=
  Player.accountedAt state.pushedHistory state.playedHistory asOfUs

def sampleOrigin (state : Accounting) (sampleRate : Nat) (reading : AudioDepth) :
    Option SampleOrigin :=
  (state.accountedAt reading.asOfUs).map fun accountedFrames =>
    { era := state.era
      reading := reading
      sampleRate := sampleRate
      accountedFrames := accountedFrames
      suppliedAt := (playoutLevelAt state.suppliedHistory reading.asOfUs).getD 0
      reportedAt := (playoutLevelAt state.reportedHistory reading.asOfUs).getD 0 }

/-- The end of a chunk: every fourth takes a sample. -/
def chunkEnd (state : Accounting) (reading : Option AudioDepth) (sampleRate : Nat) :
    Accounting :=
  let origin := reading.bind (state.sampleOrigin sampleRate)
  { state with
    drift := state.drift.chunkEnd (origin.map fun origin => toInt32 origin.splitUs)
    origins :=
      if state.drift.driftSampleCountdown - 1 = 0 then state.origins ++ origin.toList
      else state.origins }

def fillComparable (state : Accounting) (sample : ErrorSample) : Bool :=
  match sample.reading with
  | none => false
  | some reading =>
      (state.accountedAt reading.asOfUs).isSome &&
        decide (0 ≤ sample.nowUs - reading.asOfUs) &&
        decide (sample.nowUs - reading.asOfUs ≤ depthSnapshotCoherentUs)

def splitReport (state : Accounting) (sample : ErrorSample) : SplitReport :=
  { fillComparable := state.fillComparable sample
    converged := sample.converged
    driftMedUs := state.drift.driftMedUs
    mixResidualUs := sample.mixResidualUs
    tagsTrusted := sample.tagsTrusted
    sampleRate := sample.sampleRate
    nowUs := sample.nowUs }

def report (state : Accounting) (sample : ErrorSample) : Accounting :=
  let after :=
    { state with
      ledger := state.ledger.splitRepair (state.splitReport sample)
      drift := state.drift.logSyncReport }
  if state.ledger.repairs (state.splitReport sample) then after.seedHistories sample.nowUs
  else after

def logSyncReport (state : Accounting) (sample : ErrorSample) : Accounting :=
  if state.drift.reports then
    let after := state.report sample
    if sample.escapes then { after with ledger := after.ledger.prearmRepair sample.nowUs }
    else after
  else { state with drift := state.drift.logSyncReport }

inductive Event where
  | setOutputActive (active : Bool)
  | notifyAudioPlayed (frames : Nat) (timestampUs : Int)
  | push (written frameBytes : Nat) (nowUs : Int)
  | rebaselineAfterStarvation (queries : DepthQueries) (sampleRate : Nat) (nowUs : Int)
  | repayPadding (queried : Bool) (nowUs : Int)
  | splitRamp (chunk : RampChunk) (nowUs : Int)
  | logSyncReport (sample : ErrorSample)
  | chunkEnd (reading : Option AudioDepth) (sampleRate : Nat)
deriving DecidableEq

def step (state : Accounting) : Event → Accounting
  | .setOutputActive active => state.setOutputActive active
  | .notifyAudioPlayed frames timestampUs => state.notifyAudioPlayed frames timestampUs
  | .push written frameBytes nowUs => state.push written frameBytes nowUs
  | .rebaselineAfterStarvation queries sampleRate nowUs =>
      state.rebaselineAfterStarvation queries sampleRate nowUs
  | .repayPadding queried nowUs => state.repayPadding queried nowUs
  | .splitRamp chunk nowUs => state.splitRamp chunk nowUs
  | .logSyncReport sample => state.logSyncReport sample
  | .chunkEnd reading sampleRate => state.chunkEnd reading sampleRate

/-- No more audio is claimed to have rendered than was handed to the speaker. -/
def Covered (state : Accounting) : Prop := state.ledger.Covered

instance (state : Accounting) : Decidable state.Covered := by
  unfold Covered
  infer_instance

/-- The speaker reports at most the frames it was given. -/
def Honest (state : Accounting) : Event → Prop
  | .notifyAudioPlayed frames _ => state.reported + frames ≤ state.given
  | _ => True

instance (state : Accounting) (event : Event) : Decidable (state.Honest event) := by
  cases event <;> unfold Honest <;> infer_instance

/-- The sample is of the current stretch of the accounting, and since it the speaker has reported
no more than the chain then held and was supplied with since. -/
def Stands (state : Accounting) (origin : SampleOrigin) (sampleRate : Nat) : Prop :=
  origin.era = state.era ∧ origin.sampleRate = sampleRate ∧ -2 ^ 31 ≤ origin.splitUs ∧
    state.reported - origin.reportedAt ≤
      state.supplied - origin.suppliedAt + origin.heldFrames

/-- The most that a chunk of the ramp may take, in time: what is carried downward and a budget. -/
def rampReachUs (state : Accounting) (chunk : RampChunk) : Int :=
  max (-state.ledger.splitRampCarryUs) 0 +
    if state.ledger.rampRemaining chunk < 0 then chunk.budget else 0

/-- A repair that takes frames off finds a sample that stands, no smaller than the median; and a
chunk of the ramp finds its reach queued. -/
def Backed (state : Accounting) : Event → Prop
  | .logSyncReport sample => state.drift.reports = true →
      state.ledger.repairs (state.splitReport sample) = true →
        0 < (state.splitReport sample).excessFrames →
          ∃ shown ∈ state.drift.sorted, state.drift.driftMedUs ≤ shown.driftUs ∧
            ∃ origin ∈ state.origins[shown.taken]?, state.Stands origin sample.sampleRate
  | .splitRamp chunk _ => 0 ≤ chunk.budget ∧
      state.rampReachUs chunk * chunk.sampleRate ≤ 1000000 * state.ledger.queued
  | _ => True

instance (state : Accounting) (origin : SampleOrigin) (sampleRate : Nat) :
    Decidable (state.Stands origin sampleRate) := by
  unfold Stands
  infer_instance

instance (state : Accounting) (event : Event) : Decidable (state.Backed event) := by
  cases event <;> unfold Backed <;> infer_instance

/-- What only grows in a stretch of the accounting: the queue, less what was supplied, and what was
reported. -/
def balance (state : Accounting) : Int :=
  state.ledger.queued - state.supplied + state.reported

structure Listed (state : Accounting) : Prop where
  counted : state.drift.Counted
  listed : state.origins.length = state.drift.taken
  drifts : ∀ sample ∈ state.drift.log, ∀ origin ∈ state.origins[sample.taken]?,
    sample.driftUs = toInt32 origin.splitUs
  eras : ∀ origin ∈ state.origins, origin.era ≤ state.era

/-- The invariant of a run: each level that a history holds is as far from the counter as the
totals beside it are, and the balance of a sample of this stretch is no more than the present
one. -/
structure Kept (state : Accounting) : Prop extends Listed state where
  covered : state.ledger.Covered
  pushed : MarkedAlike (fun level beside =>
    state.ledger.pushedFramesTotal - level = state.supplied - beside)
    state.pushedHistory state.suppliedHistory
  played : MarkedAlike (fun level beside =>
    state.ledger.playedFramesTotal - level ≤ state.reported - beside)
    state.playedHistory state.reportedHistory
  balances : ∀ origin ∈ state.origins, origin.era = state.era →
    origin.accountedFrames - origin.suppliedAt + origin.reportedAt ≤ state.balance

theorem initial_kept : initial.Kept := by
  constructor
  · constructor
    · exact DriftReport.initial_counted
    · rfl
    · intro sample member
      cases member
    · intro origin member
      cases member
  · exact le_refl (0 : Int)
  · exact markedAlike_clear
  · exact markedAlike_clear
  · intro origin member
    cases member

section Histories

theorem clearHistories_kept (state : Accounting) (listed : state.Listed)
    (covered : state.ledger.Covered) : state.clearHistories.Kept := by
  constructor
  · constructor
    · exact DriftReport.step_counted state.drift .rebaseline listed.counted
    · exact listed.listed
    · exact listed.drifts
    · intro origin member
      exact (listed.eras origin member).trans (Nat.le_succ _)
  · exact covered
  · exact markedAlike_clear
  · exact markedAlike_clear
  · intro origin member same
    -- every sample is from before
    have before := listed.eras origin member
    change origin.era = state.era + 1 at same
    omega

theorem markPushed_kept (state : Accounting) (tsUs : Int) (kept : state.Kept) :
    (state.markPushed tsUs).Kept :=
  { kept with pushed := kept.pushed.mark tsUs _ _ (by rw [sub_self, sub_self]) }

theorem markPlayed_kept (state : Accounting) (tsUs : Int) (kept : state.Kept) :
    (state.markPlayed tsUs).Kept :=
  { kept with played := kept.played.mark tsUs _ _ (by rw [sub_self, sub_self]) }

theorem seedHistories_kept (state : Accounting) (tsUs : Int) (listed : state.Listed)
    (covered : state.ledger.Covered) : (state.seedHistories tsUs).Kept :=
  markPlayed_kept _ tsUs (markPushed_kept _ tsUs (state.clearHistories_kept listed covered))

end Histories

theorem Kept.move {state : Accounting} (kept : state.Kept) (ledger : Ledger)
    (given ramped reported : Int) (covered : ledger.Covered)
    (supplies : ledger.pushedFramesTotal - state.ledger.pushedFramesTotal =
      given + ramped - state.supplied)
    (credits : ledger.playedFramesTotal - state.ledger.playedFramesTotal ≤
      reported - state.reported) :
    Kept { state with ledger := ledger, given := given, ramped := ramped, reported := reported } := by
  have balanced : state.balance ≤
      ledger.pushedFramesTotal - ledger.playedFramesTotal - (given + ramped) + reported := by
    unfold balance queued
    omega
  refine ⟨⟨kept.counted, kept.listed, kept.drifts, kept.eras⟩, covered, kept.pushed.imp ?_,
    kept.played.imp ?_, fun origin member same => (kept.balances origin member same).trans balanced⟩
  · intro level beside related
    change ledger.pushedFramesTotal - level = given + ramped - beside
    omega
  · intro level beside related
    dsimp only
    omega

theorem Kept.still {state : Accounting} (kept : state.Kept) (ledger : Ledger)
    (pushed : ledger.pushedFramesTotal = state.ledger.pushedFramesTotal)
    (played : ledger.playedFramesTotal = state.ledger.playedFramesTotal) :
    Kept { state with ledger := ledger } := by
  have covered := kept.covered
  refine kept.move ledger state.given state.ramped state.reported ?_ ?_ ?_
  · unfold Ledger.Covered at covered ⊢
    omega
  · unfold supplied
    omega
  · omega

theorem Listed.move {state : Accounting} (listed : state.Listed) (ledger : Ledger)
    (given ramped reported : Int) :
    Listed { state with ledger := ledger, given := given, ramped := ramped, reported := reported } :=
  ⟨listed.counted, listed.listed, listed.drifts, listed.eras⟩

section Steps

theorem setOutputActive_kept (state : Accounting) (active : Bool) (kept : state.Kept) :
    (state.setOutputActive active).Kept := by
  rw [setOutputActive, Ledger.setOutputActive]
  dsimp only
  split
  · exact clearHistories_kept _ (kept.toListed.move _ _ _ _) (le_refl (0 : Int))
  · exact kept.still _ rfl rfl

theorem notifyAudioPlayed_kept (state : Accounting) (frames : Nat) (timestampUs : Int)
    (kept : state.Kept) : (state.notifyAudioPlayed frames timestampUs).Kept := by
  have covered := state.ledger.notifyAudioPlayed_covered frames timestampUs kept.covered
  rw [notifyAudioPlayed]
  split
  · exact seedHistories_kept _ timestampUs (kept.toListed.move _ _ _ _) covered
  · rename_i steady
    have same : state.ledger.flushOnGap frames timestampUs = state.ledger := if_neg steady
    refine markPlayed_kept _ timestampUs (kept.move _ _ _ _ covered ?_ ?_)
    · rw [Ledger.notifyAudioPlayed, same, supplied]
      dsimp only
      omega
    · rw [Ledger.notifyAudioPlayed, same]
      dsimp only
      split
      · rename_i overrun
        rw [decide_eq_true_eq] at overrun
        omega
      · omega

theorem push_kept (state : Accounting) (written frameBytes : Nat) (nowUs : Int)
    (kept : state.Kept) : (state.push written frameBytes nowUs).Kept := by
  have covered := kept.covered
  rw [push]
  split
  · refine markPushed_kept _ nowUs (kept.move _ _ _ _ ?_ ?_ ?_)
    · unfold Ledger.Covered at covered ⊢
      exact covered.trans (le_add_of_nonneg_right (Int.natCast_nonneg (written / frameBytes)))
    · rw [Ledger.push, supplied]
      dsimp only
      omega
    · rw [Ledger.push]
      dsimp only
      omega
  · exact kept

theorem rebaselineAfterStarvation_kept (state : Accounting) (queries : DepthQueries)
    (sampleRate : Nat) (nowUs : Int) (kept : state.Kept) :
    (state.rebaselineAfterStarvation queries sampleRate nowUs).Kept := by
  rw [rebaselineAfterStarvation, Ledger.rebaselineAfterStarvation]
  dsimp only
  split
  · exact seedHistories_kept _ nowUs (kept.toListed.move _ _ _ _) (Int.natCast_nonneg _)
  · exact kept

theorem repayPadding_kept (state : Accounting) (queried : Bool) (nowUs : Int)
    (kept : state.Kept) : (state.repayPadding queried nowUs).Kept := by
  have covered := state.ledger.repayPadding_covered queried nowUs kept.covered
  rw [repayPadding, repays]
  split
  · exact seedHistories_kept _ nowUs (kept.toListed.move _ _ _ _) covered
  · rename_i none
    -- a debt that is written off leaves the counters alone
    have counters : (state.ledger.repayPadding queried nowUs).pushedFramesTotal =
          state.ledger.pushedFramesTotal ∧
        (state.ledger.repayPadding queried nowUs).playedFramesTotal =
          state.ledger.playedFramesTotal := by
      rw [Ledger.repayPadding]
      split
      · rename_i due
        rw [due, Bool.true_and, decide_eq_true_eq] at none
        exact ⟨if_neg none, rfl⟩
      · exact ⟨rfl, rfl⟩
    exact kept.still _ counters.1 counters.2

theorem rampIncrement_ge (ledger : Ledger) (chunk : RampChunk) (budgeted : 0 ≤ chunk.budget) :
    -(if ledger.rampRemaining chunk < 0 then chunk.budget else 0) ≤ ledger.rampIncrement chunk := by
  rw [Ledger.rampIncrement, clamp]
  split_ifs <;> omega

/-- A chunk of the ramp takes no more frames than its reach comes to. -/
theorem rampShift_ge (state : Accounting) (chunk : RampChunk) (budgeted : 0 ≤ chunk.budget)
    (takes : state.ledger.rampShift chunk < 0) :
    -(1000000 * state.ledger.rampShift chunk) ≤
      state.rampReachUs chunk * chunk.sampleRate := by
  have increment := rampIncrement_ge state.ledger chunk budgeted
  have carried := le_max_left (-state.ledger.splitRampCarryUs) 0
  have within : -(state.ledger.splitRampCarryUs + state.ledger.rampIncrement chunk) ≤
      state.rampReachUs chunk := by
    rw [rampReachUs]
    omega
  have scaled := mul_le_mul_of_nonneg_right within (Int.natCast_nonneg chunk.sampleRate)
  rw [Ledger.rampShift] at takes ⊢
  split at takes
  · exact absurd takes (lt_irrefl 0)
  · rename_i pending
    rw [if_neg pending]
    rw [neg_mul] at scaled
    generalize (state.ledger.splitRampCarryUs + state.ledger.rampIncrement chunk) *
      (chunk.sampleRate : Int) = product at *
    generalize state.rampReachUs chunk * (chunk.sampleRate : Int) = reach at *
    have negative : product < 0 := by
      by_contra nonneg
      exact absurd takes (not_lt.mpr (Int.tdiv_nonneg (not_lt.mp nonneg) (by decide)))
    have rounded : product.tdiv 1000000 = -(-product / 1000000) := by
      rw [← Int.tdiv_eq_ediv_of_nonneg (by omega), Int.neg_tdiv, neg_neg]
    omega

theorem splitRamp_kept (state : Accounting) (chunk : RampChunk) (nowUs : Int) (kept : state.Kept)
    (backed : state.Backed (.splitRamp chunk nowUs)) : (state.splitRamp chunk nowUs).Kept := by
  obtain ⟨budgeted, reach⟩ := backed
  have covered := kept.covered
  have depth := Ledger.splitRamp_queued state.ledger chunk
  have played := (splitRamp_counters state.ledger chunk).1
  have moved : Kept
      { state with
        ledger := state.ledger.splitRamp chunk
        ramped := state.ramped + state.ledger.rampShift chunk } := by
    unfold queued at depth reach
    refine kept.move _ state.given _ state.reported ?_ ?_ ?_
    · unfold Ledger.Covered at covered ⊢
      by_cases takes : state.ledger.rampShift chunk < 0
      · have taken := state.rampShift_ge chunk budgeted takes
        omega
      · omega
    · unfold supplied
      omega
    · omega
  rw [splitRamp]
  split
  · exact markPushed_kept _ nowUs moved
  · exact moved

theorem sampleOrigin_balance (state : Accounting) (sampleRate : Nat) (reading : AudioDepth)
    (origin : SampleOrigin) (kept : state.Kept)
    (sampled : state.sampleOrigin sampleRate reading = some origin) :
    origin.era = state.era ∧
      origin.accountedFrames - origin.suppliedAt + origin.reportedAt ≤ state.balance := by
  rw [sampleOrigin, accountedAt, Player.accountedAt] at sampled
  cases pushed : playoutLevelAt state.pushedHistory reading.asOfUs with
  | none =>
      rw [pushed] at sampled
      cases sampled
  | some pushedAt =>
      cases played : playoutLevelAt state.playedHistory reading.asOfUs with
      | none =>
          rw [pushed, played] at sampled
          cases sampled
      | some playedAt =>
          obtain ⟨suppliedAt, supplied, suppliedSame⟩ := kept.pushed.levels _ _ pushed
          obtain ⟨reportedAt, reported, reportedSame⟩ := kept.played.levels _ _ played
          rw [pushed, played, supplied, reported] at sampled
          cases sampled
          refine ⟨rfl, ?_⟩
          change pushedAt - playedAt - suppliedAt + reportedAt ≤ state.balance
          unfold balance queued
          omega

theorem addSample_listed (state : Accounting) (origin : SampleOrigin) (listed : state.Listed)
    (current : origin.era = state.era) :
    Listed { state with
      drift := state.drift.addSample (toInt32 origin.splitUs)
      origins := state.origins ++ [origin] } := by
  have length := listed.listed
  constructor
  · exact DriftReport.addSample_counted state.drift _ listed.counted
  · change (state.origins ++ [origin]).length = state.drift.taken + 1
    rw [List.length_append, List.length_singleton, length]
  · intro sample member one found
    rcases List.mem_cons.mp member with fresh | older
    · subst fresh
      change one ∈ (state.origins ++ [origin])[state.drift.taken]? at found
      rw [← length, List.getElem?_concat_length, Option.mem_some_iff] at found
      rw [← found]
    · refine listed.drifts sample older one ?_
      obtain ⟨place, present⟩ := List.mem_iff_getElem?.mp older
      have numbered := listed.counted.2.2.2.2.1 place sample present
      change one ∈ (state.origins ++ [origin])[sample.taken]? at found
      rwa [List.getElem?_append_left (by omega)] at found
  · intro one member
    rcases List.mem_append.mp member with older | fresh
    · exact listed.eras one older
    · rw [List.mem_singleton.mp fresh, current]

theorem chunkEnd_kept (state : Accounting) (reading : Option AudioDepth) (sampleRate : Nat)
    (kept : state.Kept) : (state.chunkEnd reading sampleRate).Kept := by
  rw [chunkEnd, DriftReport.chunkEnd]
  by_cases due : state.drift.driftSampleCountdown - 1 = 0
  · rw [if_pos due, if_pos due]
    cases sampled : reading.bind (state.sampleOrigin sampleRate) with
    | none =>
        rw [Option.map_none, Option.toList_none, List.append_nil]
        exact { kept with counted := kept.counted }
    | some origin =>
        obtain ⟨read, _, fresh⟩ := Option.bind_eq_some_iff.mp sampled
        obtain ⟨current, balanced⟩ :=
          state.sampleOrigin_balance sampleRate read origin kept fresh
        have again : Listed { state with drift :=
            { state.drift with driftSampleCountdown := driftSampleEveryChunks } } :=
          ⟨kept.counted, kept.listed, kept.drifts, kept.eras⟩
        rw [Option.map_some, Option.toList_some]
        refine ⟨addSample_listed _ origin again current, kept.covered, kept.pushed, kept.played, ?_⟩
        intro one member same
        rcases List.mem_append.mp member with older | newest
        · exact kept.balances one older same
        · rw [List.mem_singleton.mp newest]
          exact balanced
  · rw [if_neg due, if_neg due]
    exact { kept with counted := kept.counted }

theorem driftFrames_le (origin : SampleOrigin) (medUs : Int) (fits : -2 ^ 31 ≤ origin.splitUs)
    (median : medUs ≤ toInt32 origin.splitUs)
    (takes : 0 < Int.tdiv (medUs * origin.sampleRate) 1000000) :
    Int.tdiv (medUs * origin.sampleRate) 1000000 + origin.heldFrames ≤ origin.accountedFrames := by
  have product : 0 < medUs * origin.sampleRate := by
    by_contra none
    have rounded : Int.tdiv (medUs * origin.sampleRate) 1000000 ≤ 0 := by
      rw [← neg_nonneg, ← Int.neg_tdiv]
      exact Int.tdiv_nonneg (by omega) (by decide)
    omega
  have rate : (0 : Int) < origin.sampleRate := by
    refine (Int.natCast_nonneg _).lt_of_ne fun zero => ?_
    rw [← zero, mul_zero] at product
    exact lt_irrefl 0 product
  have positive : 0 < medUs := (pos_iff_pos_of_mul_pos product).mpr rate
  have narrowed : toInt32 origin.splitUs ≤ origin.splitUs := by
    by_cases nonneg : 0 ≤ origin.splitUs
    · exact toInt32_le _ nonneg
    · exact ((toInt32_eq_self_iff _).mpr ⟨fits, by omega⟩).le
  have split : medUs + origin.reading.microseconds ≤
      Int.tdiv (origin.accountedFrames * 1000000) origin.sampleRate := by
    unfold SampleOrigin.splitUs at narrowed median
    omega
  have accounted : 0 ≤ origin.accountedFrames * 1000000 := by
    by_contra negative
    have rounded : Int.tdiv (origin.accountedFrames * 1000000) origin.sampleRate ≤ 0 := by
      rw [← neg_nonneg, ← Int.neg_tdiv]
      exact Int.tdiv_nonneg (by omega) rate.le
    omega
  rw [Int.tdiv_eq_ediv_of_nonneg accounted] at split
  have whole := (mul_le_mul_of_nonneg_right split rate.le).trans (Int.ediv_mul_le _ rate.ne')
  rw [add_mul] at whole
  rw [Int.tdiv_eq_ediv_of_nonneg product.le, SampleOrigin.heldFrames]
  generalize medUs * (origin.sampleRate : Int) = taken at *
  generalize (origin.reading.microseconds : Int) * (origin.sampleRate : Int) = held at *
  omega

/-- Where a sample stands, the frames of a median no larger are still queued. -/
theorem excess_queued (state : Accounting) (sample : ErrorSample) (kept : state.Kept)
    (shown : DriftSample) (member : shown ∈ state.drift.sorted)
    (median : state.drift.driftMedUs ≤ shown.driftUs) (origin : SampleOrigin)
    (found : origin ∈ state.origins[shown.taken]?) (stands : state.Stands origin sample.sampleRate)
    (takes : 0 < (state.splitReport sample).excessFrames) :
    (state.splitReport sample).excessFrames ≤ state.ledger.queued := by
  obtain ⟨era, sampleRate, fits, reported⟩ := stands
  obtain ⟨slot, within, present⟩ := (state.drift.mem_sorted_iff shown).mp member
  have logged : shown ∈ state.drift.log := by
    obtain ⟨_, samples, _, _, _, copied⟩ := kept.counted
    exact copied slot shown present (by omega)
  have drift := kept.drifts shown logged origin found
  have balanced := kept.balances origin (List.mem_of_getElem? found) era
  rw [drift] at median
  unfold SplitReport.excessFrames splitReport at takes ⊢
  dsimp only at takes ⊢
  rw [← sampleRate] at takes ⊢
  have frames := driftFrames_le origin state.drift.driftMedUs fits median takes
  unfold balance at balanced
  omega

theorem logSyncReport_counted (state : Accounting) (kept : state.Kept) :
    Listed { state with drift := state.drift.logSyncReport } := by
  have counted := DriftReport.step_counted state.drift .logSyncReport kept.counted
  have log : state.drift.logSyncReport.log = state.drift.log ∧
      state.drift.logSyncReport.taken = state.drift.taken := by
    rw [DriftReport.logSyncReport]
    split <;> exact ⟨rfl, rfl⟩
  exact ⟨counted, kept.listed.trans log.2.symm, fun sample member =>
    kept.drifts sample (log.1 ▸ member), kept.eras⟩

theorem report_kept (state : Accounting) (sample : ErrorSample) (kept : state.Kept)
    (backed : state.Backed (.logSyncReport sample)) (reports : state.drift.reports = true) :
    (state.report sample).Kept := by
  have listed := state.logSyncReport_counted kept
  have depth := splitRepair_queued state.ledger (state.splitReport sample)
  have played := (splitRepair_counters state.ledger (state.splitReport sample)).1
  have covered := kept.covered
  rw [report]
  split
  · rename_i repairs
    refine seedHistories_kept _ sample.nowUs (listed.move _ _ _ _) ?_
    rw [if_pos repairs] at depth
    have queued' : (state.splitReport sample).excessFrames ≤ state.ledger.queued := by
      by_cases takes : 0 < (state.splitReport sample).excessFrames
      · obtain ⟨shown, member, median, origin, found, stands⟩ := backed reports repairs takes
        exact state.excess_queued sample kept shown member median origin found stands takes
      · unfold Ledger.Covered at covered
        unfold queued
        omega
    unfold Ledger.Covered
    unfold queued at depth queued'
    dsimp only
    omega
  · rename_i rests
    rw [if_neg rests] at depth
    have reported : Kept { state with drift := state.drift.logSyncReport } :=
      ⟨listed, kept.covered, kept.pushed, kept.played, kept.balances⟩
    refine reported.still _ ?_ played
    unfold queued at depth
    dsimp only
    omega

theorem logSyncReport_kept (state : Accounting) (sample : ErrorSample) (kept : state.Kept)
    (backed : state.Backed (.logSyncReport sample)) : (state.logSyncReport sample).Kept := by
  rw [logSyncReport]
  split
  · rename_i reports
    have reported := state.report_kept sample kept backed reports
    dsimp only
    split
    · exact reported.still _ rfl rfl
    · exact reported
  · exact ⟨state.logSyncReport_counted kept, kept.covered, kept.pushed, kept.played, kept.balances⟩

theorem step_kept (state : Accounting) (event : Event) (kept : state.Kept)
    (backed : state.Backed event) : (state.step event).Kept := by
  cases event with
  | setOutputActive active => exact state.setOutputActive_kept active kept
  | notifyAudioPlayed frames timestampUs =>
      exact state.notifyAudioPlayed_kept frames timestampUs kept
  | push written frameBytes nowUs => exact state.push_kept written frameBytes nowUs kept
  | rebaselineAfterStarvation queries sampleRate nowUs =>
      exact state.rebaselineAfterStarvation_kept queries sampleRate nowUs kept
  | repayPadding queried nowUs => exact state.repayPadding_kept queried nowUs kept
  | splitRamp chunk nowUs => exact state.splitRamp_kept chunk nowUs kept backed
  | logSyncReport sample => exact state.logSyncReport_kept sample kept backed
  | chunkEnd reading sampleRate => exact state.chunkEnd_kept reading sampleRate kept

end Steps

end Accounting

end Player
