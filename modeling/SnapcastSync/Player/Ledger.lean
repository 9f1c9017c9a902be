import SnapcastSync.Lib.Rounding
import Mathlib.Data.Rat.Floor

/-! The frame ledger of the player: frames handed to the speaker against frames the
speaker reported as played, with every operation that writes either counter. The depth
`pushed - played` feeds the deadline prediction. Histories and diagnostics are left out. -/

namespace Player

open Rounding

def pipelineFlushGapUs : Int := 500000
def driftRepairUs : Int := 2000
def driftSteadyBandUs : Int := 2000
def mixResidualMatchUs : Int := 2000
def driftRepairHoldUs : Int := 3000000
def driftUnknown : Int := -2 ^ 31

structure Ledger where
  pushedFramesTotal : Int
  playedFramesTotal : Int
  playedLastTsUs : Int
  playoutValid : Bool
  playoutEpoch : Nat
  starvedLatched : Bool
  pipelineStarved : Bool
  starveSuppressUntilUs : Int
  outputActive : Bool
  paddingDebtFrames : Int
  paddingRepayAtUs : Int
  driftExcessSinceUs : Int
  driftExcessMinUs : Int
  driftExcessMaxUs : Int
  splitRampRemainingUs : Int
  splitRampCarryUs : Int
deriving DecidableEq, Repr

namespace Ledger

def initial : Ledger :=
  { pushedFramesTotal := 0
    playedFramesTotal := 0
    playedLastTsUs := 0
    playoutValid := false
    playoutEpoch := 0
    starvedLatched := false
    pipelineStarved := false
    starveSuppressUntilUs := 0
    outputActive := false
    paddingDebtFrames := 0
    paddingRepayAtUs := 0
    driftExcessSinceUs := 0
    driftExcessMinUs := 0
    driftExcessMaxUs := 0
    splitRampRemainingUs := 0
    splitRampCarryUs := 0 }

def bumpEpoch (ledger : Ledger) : Ledger :=
  { ledger with playoutEpoch := (ledger.playoutEpoch + 1) % 2 ^ 32 }

def setOutputActive (ledger : Ledger) (active : Bool) : Ledger :=
  if active && !ledger.outputActive then
    { ledger.bumpEpoch with
      playoutValid := false
      playedFramesTotal := 0
      pushedFramesTotal := 0
      outputActive := active }
  else { ledger with outputActive := active }

/-- The feedback-gap branch of `notify_audio_played`. -/
def flushOnGap (ledger : Ledger) (frames : Nat) (timestampUs : Int) : Ledger :=
  if ledger.playoutValid && decide (pipelineFlushGapUs < timestampUs - ledger.playedLastTsUs)
  then { ledger.bumpEpoch with pushedFramesTotal := ledger.playedFramesTotal + frames }
  else ledger

def notifyAudioPlayed (ledger : Ledger) (frames : Nat) (timestampUs : Int) : Ledger :=
  let flushed := ledger.flushOnGap frames timestampUs
  let availableFrames := flushed.pushedFramesTotal - flushed.playedFramesTotal
  let overrun := decide (availableFrames < (frames : Int))
  let drained := overrun && decide (availableFrames ≤ 0) && decide (0 < frames) &&
    !flushed.starvedLatched && !decide (timestampUs < flushed.starveSuppressUntilUs)
  let credited : Int := if overrun then max availableFrames 0 else frames
  { flushed with
    starvedLatched :=
      if drained then true
      else if !overrun && decide (0 < frames) then false
      else flushed.starvedLatched
    pipelineStarved := drained || flushed.pipelineStarved
    playedFramesTotal := flushed.playedFramesTotal + credited
    playedLastTsUs := timestampUs
    playoutValid := true }

def push (ledger : Ledger) (written frameBytes : Nat) : Ledger :=
  { ledger with pushedFramesTotal := ledger.pushedFramesTotal + (written / frameBytes : Nat) }

structure DepthQueries where
  latencyUs : Option Nat
  ownAudioUs : Option Nat
deriving DecidableEq, Repr

def rebaselineAfterStarvation (ledger : Ledger) (queries : DepthQueries) (sampleRate : Nat)
    (nowUs : Int) : Ledger :=
  if ledger.pipelineStarved then
    let latencyUs := queries.latencyUs.getD 0
    let inFlightFrames : Int := ((latencyUs * sampleRate / 1000000 : Nat) : Int)
    let debt : Int :=
      match queries.latencyUs, queries.ownAudioUs with
      | some latency, some own =>
          if own < latency then (((latency - own) * sampleRate / 1000000 : Nat) : Int) else 0
      | _, _ => 0
    { ledger with
      pipelineStarved := false
      paddingDebtFrames := debt
      paddingRepayAtUs := if 0 < debt then nowUs + latencyUs else 0
      starveSuppressUntilUs := nowUs + max (2 * (latencyUs : Int)) 1000000
      playoutValid := false
      playedFramesTotal := 0
      pushedFramesTotal := inFlightFrames }
  else ledger

/-- The part of the padding debt that is still queued; never takes `pushed` below `played`. -/
def repay (ledger : Ledger) : Int :=
  min ledger.paddingDebtFrames (ledger.pushedFramesTotal - ledger.playedFramesTotal)

def repayPadding (ledger : Ledger) (queried : Bool) (nowUs : Int) : Ledger :=
  if decide (0 < ledger.paddingDebtFrames) && decide (ledger.paddingRepayAtUs ≤ nowUs) &&
      queried then
    { ledger with
      pushedFramesTotal :=
        if 0 < ledger.repay then ledger.pushedFramesTotal - ledger.repay
        else ledger.pushedFramesTotal
      paddingDebtFrames := 0
      paddingRepayAtUs := 0 }
  else ledger

structure SplitReport where
  fillComparable : Bool
  converged : Bool
  driftMedUs : Int
  mixResidualUs : Int
  tagsTrusted : Bool
  sampleRate : Nat
  nowUs : Int
deriving DecidableEq, Repr

namespace SplitReport

def residualExplains (report : SplitReport) : Bool :=
  decide (report.driftMedUs ≠ driftUnknown) &&
    decide (Int.tdiv driftRepairUs 2 ≤ |report.mixResidualUs|) &&
    decide (|report.driftMedUs - report.mixResidualUs| ≤ mixResidualMatchUs)

def excessFrames (report : SplitReport) : Int :=
  Int.tdiv (report.driftMedUs * report.sampleRate) 1000000

end SplitReport

def armRepair (ledger : Ledger) (report : SplitReport) : Ledger :=
  if report.residualExplains then { ledger with driftExcessSinceUs := 0 }
  else if decide (report.driftMedUs ≠ driftUnknown) &&
      decide (driftRepairUs ≤ |report.driftMedUs|) && decide (ledger.driftExcessSinceUs = 0) then
    { ledger with
      driftExcessSinceUs := report.nowUs
      driftExcessMinUs := report.driftMedUs
      driftExcessMaxUs := report.driftMedUs }
  else ledger

def widenWindow (ledger : Ledger) (report : SplitReport) : Ledger :=
  { ledger with
    driftExcessMinUs := min ledger.driftExcessMinUs report.driftMedUs
    driftExcessMaxUs := max ledger.driftExcessMaxUs report.driftMedUs }

/-- The repair acts: the window is open, steady, not overruled by the tags and old enough. -/
def repairs (ledger : Ledger) (report : SplitReport) : Bool :=
  let armed := ledger.armRepair report
  let widened := armed.widenWindow report
  report.fillComparable && report.converged && decide (armed.driftExcessSinceUs ≠ 0) &&
    decide (report.driftMedUs ≠ driftUnknown) && !report.residualExplains &&
    !decide (driftSteadyBandUs < widened.driftExcessMaxUs - widened.driftExcessMinUs) &&
    !report.tagsTrusted &&
    decide (driftRepairHoldUs ≤ report.nowUs - armed.driftExcessSinceUs)

/-- The accounting-split repair of `log_sync_report_`. -/
def splitRepair (ledger : Ledger) (report : SplitReport) : Ledger :=
  if report.fillComparable && report.converged then
    let armed := ledger.armRepair report
    if decide (armed.driftExcessSinceUs ≠ 0) && decide (report.driftMedUs ≠ driftUnknown) &&
        !report.residualExplains then
      let widened := armed.widenWindow report
      if driftSteadyBandUs < widened.driftExcessMaxUs - widened.driftExcessMinUs then
        { widened with
          driftExcessSinceUs :=
            if driftRepairUs ≤ |report.driftMedUs| then report.nowUs else 0
          driftExcessMinUs := report.driftMedUs
          driftExcessMaxUs := report.driftMedUs }
      else if report.tagsTrusted then { widened with driftExcessSinceUs := 0 }
      else if driftRepairHoldUs ≤ report.nowUs - widened.driftExcessSinceUs then
        { widened with
          pushedFramesTotal := widened.pushedFramesTotal - report.excessFrames
          driftExcessSinceUs := 0 }
      else widened
    else armed
  else { ledger with driftExcessSinceUs := 0 }

def prearmRepair (ledger : Ledger) (nowUs : Int) : Ledger :=
  { ledger with driftExcessSinceUs := nowUs - driftRepairHoldUs }

structure RampChunk where
  splitReq : Int
  frames : Nat
  sampleRate : Nat
  splitRampUsPerS : ℚ
deriving DecidableEq, Repr

namespace RampChunk

def budget (chunk : RampChunk) : Int :=
  truncToInt (chunk.splitRampUsPerS * ((chunk.frames : ℚ) / chunk.sampleRate) + 1 / 2)

end RampChunk

def rampRemaining (ledger : Ledger) (chunk : RampChunk) : Int :=
  ledger.splitRampRemainingUs + chunk.splitReq

def rampIncrement (ledger : Ledger) (chunk : RampChunk) : Int :=
  clamp (ledger.rampRemaining chunk) (-chunk.budget) chunk.budget

def rampShift (ledger : Ledger) (chunk : RampChunk) : Int :=
  if ledger.rampRemaining chunk = 0 then 0
  else
    Int.tdiv ((ledger.splitRampCarryUs + ledger.rampIncrement chunk) * chunk.sampleRate) 1000000

def splitRamp (ledger : Ledger) (chunk : RampChunk) : Ledger :=
  let remaining := ledger.rampRemaining chunk
  if remaining ≠ 0 then
    let inc := ledger.rampIncrement chunk
    let carry := ledger.splitRampCarryUs + inc
    let whole := Int.tdiv (carry * chunk.sampleRate) 1000000
    if whole ≠ 0 then
      { ledger with
        splitRampCarryUs := carry - Int.tdiv (whole * 1000000) chunk.sampleRate
        pushedFramesTotal := ledger.pushedFramesTotal + whole
        splitRampRemainingUs := remaining - inc }
    else
      { ledger with
        splitRampCarryUs := carry
        splitRampRemainingUs := remaining - inc }
  else { ledger with splitRampRemainingUs := remaining }

/-- The operations that reach the counters, from the player task, the speaker callback and
the main loop, in any order. -/
inductive Operation where
  | setOutputActive (active : Bool)
  | notifyAudioPlayed (frames : Nat) (timestampUs : Int)
  | push (written frameBytes : Nat)
  | rebaselineAfterStarvation (queries : DepthQueries) (sampleRate : Nat) (nowUs : Int)
  | repayPadding (queried : Bool) (nowUs : Int)
  | splitRepair (report : SplitReport)
  | prearmRepair (nowUs : Int)
  | splitRamp (chunk : RampChunk)
deriving DecidableEq, Repr

def step (ledger : Ledger) : Operation → Ledger
  | .setOutputActive active => ledger.setOutputActive active
  | .notifyAudioPlayed frames timestampUs => ledger.notifyAudioPlayed frames timestampUs
  | .push written frameBytes => ledger.push written frameBytes
  | .rebaselineAfterStarvation queries sampleRate nowUs =>
      ledger.rebaselineAfterStarvation queries sampleRate nowUs
  | .repayPadding queried nowUs => ledger.repayPadding queried nowUs
  | .splitRepair report => ledger.splitRepair report
  | .prearmRepair nowUs => ledger.prearmRepair nowUs
  | .splitRamp chunk => ledger.splitRamp chunk

def queued (ledger : Ledger) : Int := ledger.pushedFramesTotal - ledger.playedFramesTotal

/-- No more audio is claimed to have rendered than was handed to the speaker. -/
def Covered (ledger : Ledger) : Prop := ledger.playedFramesTotal ≤ ledger.pushedFramesTotal

instance (ledger : Ledger) : Decidable ledger.Covered := by
  unfold Covered
  infer_instance

theorem splitRepair_queued (ledger : Ledger) (report : SplitReport) :
    (ledger.splitRepair report).queued =
      ledger.queued - (if ledger.repairs report then report.excessFrames else 0) := by
  have armedQueued : (ledger.armRepair report).queued = ledger.queued := by
    unfold armRepair
    split
    · rfl
    · split <;> rfl
  unfold splitRepair repairs
  by_cases eligible : (report.fillComparable && report.converged) = true
  · rw [if_pos eligible]
    simp only [eligible, Bool.true_and]
    by_cases window : (decide ((ledger.armRepair report).driftExcessSinceUs ≠ 0) &&
        decide (report.driftMedUs ≠ driftUnknown) && !report.residualExplains) = true
    · simp only [window, Bool.true_and, if_true]
      by_cases moving : driftSteadyBandUs <
          ((ledger.armRepair report).widenWindow report).driftExcessMaxUs -
            ((ledger.armRepair report).widenWindow report).driftExcessMinUs
      · simp only [if_pos moving, decide_eq_true moving, Bool.not_true, Bool.false_and,
          Bool.false_eq_true, if_false, sub_zero]
        exact armedQueued
      · simp only [if_neg moving, decide_eq_false moving, Bool.not_false, Bool.true_and]
        cases report.tagsTrusted with
        | true =>
            simp only [if_true, Bool.not_true, Bool.false_and, Bool.false_eq_true, if_false,
              sub_zero]
            exact armedQueued
        | false =>
            simp only [Bool.false_eq_true, if_false, Bool.not_false, Bool.true_and,
              decide_eq_true_eq]
            by_cases held : driftRepairHoldUs ≤
                report.nowUs - (ledger.armRepair report).driftExcessSinceUs
            · have widenedHeld : driftRepairHoldUs ≤ report.nowUs -
                  ((ledger.armRepair report).widenWindow report).driftExcessSinceUs := held
              rw [if_pos held, if_pos widenedHeld, ← armedQueued]
              change (ledger.armRepair report).pushedFramesTotal - report.excessFrames -
                (ledger.armRepair report).playedFramesTotal = _
              unfold queued
              omega
            · have widenedHeld : ¬ driftRepairHoldUs ≤ report.nowUs -
                  ((ledger.armRepair report).widenWindow report).driftExcessSinceUs := held
              rw [if_neg held, if_neg widenedHeld, sub_zero]
              exact armedQueued
    · simp only [Bool.not_eq_true] at window
      simp only [window, Bool.false_and, Bool.false_eq_true, if_false, sub_zero]
      exact armedQueued
  · simp only [Bool.not_eq_true] at eligible
    simp only [eligible, Bool.false_and, Bool.false_eq_true, if_false, sub_zero]
    rfl

theorem splitRamp_queued (ledger : Ledger) (chunk : RampChunk) :
    (ledger.splitRamp chunk).queued = ledger.queued + ledger.rampShift chunk := by
  unfold splitRamp rampShift
  by_cases pending : ledger.rampRemaining chunk = 0
  · simp only [pending, ne_eq, not_true, if_false, if_true, add_zero]
    rfl
  · simp only [ne_eq, pending, not_false_iff, if_true, if_false]
    split
    · simp only [queued]
      omega
    · rename_i none
      rw [not_not] at none
      rw [none, add_zero]
      rfl

theorem armRepair_counters (ledger : Ledger) (report : SplitReport) :
    (ledger.armRepair report).playedFramesTotal = ledger.playedFramesTotal ∧
      (ledger.armRepair report).playoutEpoch = ledger.playoutEpoch := by
  unfold armRepair
  split
  · exact ⟨rfl, rfl⟩
  · split <;> exact ⟨rfl, rfl⟩

theorem splitRepair_counters (ledger : Ledger) (report : SplitReport) :
    (ledger.splitRepair report).playedFramesTotal = ledger.playedFramesTotal ∧
      (ledger.splitRepair report).playoutEpoch = ledger.playoutEpoch := by
  have armed := ledger.armRepair_counters report
  unfold splitRepair
  split
  · dsimp only
    split
    · split
      · exact armed
      · split
        · exact armed
        · split <;> exact armed
    · exact armed
  · exact ⟨rfl, rfl⟩

theorem splitRamp_counters (ledger : Ledger) (chunk : RampChunk) :
    (ledger.splitRamp chunk).playedFramesTotal = ledger.playedFramesTotal ∧
      (ledger.splitRamp chunk).playoutEpoch = ledger.playoutEpoch := by
  unfold splitRamp
  dsimp only
  split
  · split <;> exact ⟨rfl, rfl⟩
  · exact ⟨rfl, rfl⟩

theorem notifyAudioPlayed_covered (ledger : Ledger) (frames : Nat) (timestampUs : Int)
    (covered : ledger.Covered) : (ledger.notifyAudioPlayed frames timestampUs).Covered := by
  have flushed : (ledger.flushOnGap frames timestampUs).Covered := by
    unfold flushOnGap
    split
    · change ledger.playedFramesTotal ≤ ledger.playedFramesTotal + frames
      omega
    · exact covered
  unfold Covered at flushed ⊢
  simp only [notifyAudioPlayed]
  split
  · omega
  · rename_i fits
    simp only [decide_eq_true_eq] at fits
    omega

theorem repayPadding_covered (ledger : Ledger) (queried : Bool) (nowUs : Int)
    (covered : ledger.Covered) : (ledger.repayPadding queried nowUs).Covered := by
  have capped : ledger.repay ≤ ledger.pushedFramesTotal - ledger.playedFramesTotal :=
    min_le_right _ _
  unfold Covered at covered
  unfold repayPadding
  split
  · unfold Covered
    dsimp only
    split
    · omega
    · exact covered
  · exact covered

end Ledger

end Player
