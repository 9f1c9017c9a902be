import SnapcastSync.Lib.Run
import SnapcastSync.Lib.Smoothing
import SnapcastSync.Player.Ledger

/-! When the next frame that is pushed will render: the pivot that the playback reports are
smoothed into, and the prediction through it along the nominal sample rate. -/

namespace Player

open Rounding Smoothing

/-- The smoothed reports; without samples the means are not yet set. -/
structure Pivot (K : Type) where
  samples : Nat
  meanFrames : K
  meanTs : K

def pivotSamples : Nat := 8

structure Playout (K : Type) where
  ledger : Ledger
  pivot : Pivot K

namespace Pivot

variable {K : Type} [Field K]

def alpha : K := 1 / 64

def sample (pivot : Pivot K) (frames timestampUs : K) : Pivot K :=
  if pivot.samples = 0 then
    { samples := 1
      meanFrames := frames
      meanTs := timestampUs }
  else
    { samples := pivot.samples + 1
      meanFrames := smooth alpha pivot.meanFrames frames
      meanTs := smooth alpha pivot.meanTs timestampUs }

def forget (pivot : Pivot K) : Pivot K := { pivot with samples := 0 }

end Pivot

namespace Playout

variable {K : Type} [Field K] [LinearOrder K] [FloorRing K]

def flushes (ledger : Ledger) (timestampUs : Int) : Bool :=
  ledger.playoutValid && decide (pipelineFlushGapUs < timestampUs - ledger.playedLastTsUs)

def startsOver (ledger : Ledger) : Ledger.Operation → Bool
  | .setOutputActive active => active && !ledger.outputActive
  | .notifyAudioPlayed _ timestampUs => flushes ledger timestampUs
  | .rebaselineAfterStarvation _ _ _ => ledger.pipelineStarved
  | _ => false

def step (playout : Playout K) (operation : Ledger.Operation) : Playout K :=
  let ledger := playout.ledger.step operation
  let pivot := if startsOver playout.ledger operation then playout.pivot.forget else playout.pivot
  { ledger := ledger
    pivot :=
      match operation with
      | .notifyAudioPlayed _ timestampUs =>
          pivot.sample (ledger.playedFramesTotal : K) (timestampUs : K)
      | _ => pivot }

def run (playout : Playout K) (operations : List Ledger.Operation) : Playout K :=
  operations.foldl step playout

def nominalSlope (sampleRate : Nat) : K := 1000000 / sampleRate

def predictNextPlayUs (playout : Playout K) (sampleRate : Nat) : Option Int :=
  let ledger := playout.ledger
  if ledger.playoutValid then
    if pivotSamples ≤ playout.pivot.samples then
      some (truncToInt (playout.pivot.meanTs +
        nominalSlope sampleRate * ((ledger.pushedFramesTotal : K) - playout.pivot.meanFrames)))
    else
      some (ledger.playedLastTsUs + Int.tdiv (ledger.queued * 1000000) sampleRate)
  else none

end Playout

theorem Ledger.flushOnGap_eq (ledger : Ledger) (frames : Nat) (timestampUs : Int) :
    ledger.flushOnGap frames timestampUs =
      if Playout.flushes ledger timestampUs = true then
        { ledger.bumpEpoch with pushedFramesTotal := ledger.playedFramesTotal + frames }
      else ledger := rfl

theorem Ledger.notifyAudioPlayed_played (ledger : Ledger) (frames : Nat) (timestampUs : Int) :
    ledger.playedFramesTotal ≤ (ledger.notifyAudioPlayed frames timestampUs).playedFramesTotal ∧
      (ledger.notifyAudioPlayed frames timestampUs).playedFramesTotal ≤
        ledger.playedFramesTotal + frames := by
  have kept : (ledger.flushOnGap frames timestampUs).playedFramesTotal =
      ledger.playedFramesTotal := by
    rw [flushOnGap_eq]
    split
    · rfl
    · rfl
  simp only [notifyAudioPlayed, kept]
  split
  · next finished =>
      rw [decide_eq_true_eq] at finished
      omega
  · omega

theorem Ledger.step_playback (ledger : Ledger) (operation : Operation)
    (unreported : ∀ frames timestampUs, operation ≠ .notifyAudioPlayed frames timestampUs)
    (goesOn : Playout.startsOver ledger operation = false) :
    (ledger.step operation).playedFramesTotal = ledger.playedFramesTotal ∧
      (ledger.step operation).playedLastTsUs = ledger.playedLastTsUs ∧
      (ledger.step operation).playoutValid = ledger.playoutValid := by
  cases operation with
  | setOutputActive active =>
      have idle : (active && !ledger.outputActive) = false := goesOn
      simp only [step, setOutputActive, idle, Bool.false_eq_true, if_false, and_self]
  | notifyAudioPlayed frames timestampUs => exact absurd rfl (unreported frames timestampUs)
  | push written frameBytes => exact ⟨rfl, rfl, rfl⟩
  | rebaselineAfterStarvation queries sampleRate nowUs =>
      have fed : ledger.pipelineStarved = false := goesOn
      simp only [step, rebaselineAfterStarvation, fed, Bool.false_eq_true, if_false, and_self]
  | repayPadding queried nowUs =>
      simp only [step, repayPadding]
      split
      · exact ⟨rfl, rfl, rfl⟩
      · exact ⟨rfl, rfl, rfl⟩
  | splitRepair report =>
      have armed : (ledger.armRepair report).playedFramesTotal = ledger.playedFramesTotal ∧
          (ledger.armRepair report).playedLastTsUs = ledger.playedLastTsUs ∧
          (ledger.armRepair report).playoutValid = ledger.playoutValid := by
        unfold armRepair
        split
        · exact ⟨rfl, rfl, rfl⟩
        · split
          · exact ⟨rfl, rfl, rfl⟩
          · exact ⟨rfl, rfl, rfl⟩
      simp only [step, splitRepair]
      repeat' split
      all_goals first
        | exact armed
        | exact ⟨rfl, rfl, rfl⟩
  | prearmRepair nowUs => exact ⟨rfl, rfl, rfl⟩
  | splitRamp chunk =>
      simp only [step, splitRamp]
      repeat' split
      all_goals exact ⟨rfl, rfl, rfl⟩

namespace Playout

variable {K : Type} [Field K] [LinearOrder K]

/-- A level of the counter against a clock that runs at `slope` microseconds a frame: the stamp is
no earlier than `lo` and no later than `hi`. -/
def OnClock (slope lo hi frames timestampUs : K) : Prop :=
  lo ≤ timestampUs - slope * frames ∧ timestampUs - slope * frames ≤ hi

structure Tracks (slope lo hi reach : K) (playout : Playout K) : Prop where
  last : playout.ledger.playoutValid = true →
    OnClock slope lo hi (playout.ledger.playedFramesTotal : K) (playout.ledger.playedLastTsUs : K)
  mean : playout.pivot.samples ≠ 0 →
    OnClock slope lo hi playout.pivot.meanFrames playout.pivot.meanTs
  lag : playout.pivot.samples ≠ 0 →
    0 ≤ (playout.ledger.playedFramesTotal : K) - playout.pivot.meanFrames ∧
      (playout.ledger.playedFramesTotal : K) - playout.pivot.meanFrames ≤ 63 * reach

/-- Every report is on the clock and of no more frames than `reach`. -/
def Reports (slope lo hi reach : K) (playout : Playout K) : Ledger.Operation → Prop
  | .notifyAudioPlayed frames timestampUs =>
      (frames : K) ≤ reach ∧
        OnClock slope lo hi
          ((playout.ledger.notifyAudioPlayed frames timestampUs).playedFramesTotal : K)
          (timestampUs : K)
  | _ => True

def StartsOver (playout : Playout K) (operations : List Ledger.Operation) : Prop :=
  (playout.ledger.playoutValid = false ∧ playout.pivot.samples = 0) ∨
    ∃ frames timestampUs rest, operations = .notifyAudioPlayed frames timestampUs :: rest ∧
      flushes playout.ledger timestampUs = true

variable [IsStrictOrderedRing K]

theorem OnClock.smooth {slope lo hi heldFrames heldTs frames timestampUs : K}
    (held : OnClock slope lo hi heldFrames heldTs)
    (sampled : OnClock slope lo hi frames timestampUs) :
    OnClock slope lo hi (Smoothing.smooth Pivot.alpha heldFrames frames)
      (Smoothing.smooth Pivot.alpha heldTs timestampUs) := by
  have within := smooth_mem (Pivot.alpha : K) _ _ lo hi (by norm_num [Pivot.alpha])
    (by norm_num [Pivot.alpha]) held sampled
  unfold OnClock
  rw [smooth_sub_mul]
  exact within

variable [FloorRing K]

omit [FloorRing K] in
theorem sample_tracks (slope lo hi reach before after timestampUs : K) (pivot : Pivot K)
    (nonneg : 0 ≤ reach) (clocked : OnClock slope lo hi after timestampUs)
    (grows : 0 ≤ after - before) (few : after - before ≤ reach)
    (held : pivot.samples ≠ 0 → OnClock slope lo hi pivot.meanFrames pivot.meanTs ∧
      0 ≤ before - pivot.meanFrames ∧ before - pivot.meanFrames ≤ 63 * reach) :
    let sampled := pivot.sample after timestampUs
    OnClock slope lo hi sampled.meanFrames sampled.meanTs ∧
      0 ≤ after - sampled.meanFrames ∧ after - sampled.meanFrames ≤ 63 * reach := by
  rw [Pivot.sample]
  by_cases none_ : pivot.samples = 0
  · rw [if_pos none_]
    dsimp only
    rw [sub_self]
    exact ⟨clocked, le_refl 0, by linarith⟩
  · obtain ⟨mean, lag⟩ := held none_
    rw [if_neg none_]
    dsimp only
    refine ⟨mean.smooth clocked, ?_⟩
    refine smooth_lag (Pivot.alpha : K) _ before after reach _ (by norm_num [Pivot.alpha]) lag
      ⟨grows, few⟩ ?_
    rw [Pivot.alpha]
    linarith

theorem notify_tracks (slope lo hi reach : K) (playout : Playout K) (frames : Nat)
    (timestampUs : Int) (nonneg : 0 ≤ reach)
    (tracks : flushes playout.ledger timestampUs = false → Tracks slope lo hi reach playout)
    (reports : Reports slope lo hi reach playout (.notifyAudioPlayed frames timestampUs)) :
    Tracks slope lo hi reach (playout.step (.notifyAudioPlayed frames timestampUs)) := by
  obtain ⟨few, clocked⟩ := reports
  obtain ⟨least, most⟩ := playout.ledger.notifyAudioPlayed_played frames timestampUs
  have grows : (0 : K) ≤ ((playout.ledger.notifyAudioPlayed frames timestampUs).playedFramesTotal :
      K) - (playout.ledger.playedFramesTotal : K) := sub_nonneg.mpr (Int.cast_le.mpr least)
  have bounded : ((playout.ledger.notifyAudioPlayed frames timestampUs).playedFramesTotal : K) -
      (playout.ledger.playedFramesTotal : K) ≤ reach := by
    have bound : ((playout.ledger.notifyAudioPlayed frames timestampUs).playedFramesTotal : K) ≤
        ((playout.ledger.playedFramesTotal + frames : Int) : K) := Int.cast_le.mpr most
    rw [Int.cast_add, Int.cast_natCast] at bound
    linarith
  have both := sample_tracks slope lo hi reach (playout.ledger.playedFramesTotal : K) _
    (timestampUs : K)
    (if flushes playout.ledger timestampUs then playout.pivot.forget else playout.pivot)
    nonneg clocked grows bounded (by
      cases flushes : flushes playout.ledger timestampUs with
      | true => exact fun some_ => absurd rfl some_
      | false => exact fun some_ => ⟨(tracks flushes).mean some_, (tracks flushes).lag some_⟩)
  exact ⟨fun _ => clocked, fun _ => both.1, fun _ => both.2⟩

omit [LinearOrder K] [IsStrictOrderedRing K] [FloorRing K] in
theorem step_restarted (playout : Playout K) (operation : Ledger.Operation)
    (unreported : ∀ frames timestampUs, operation ≠ .notifyAudioPlayed frames timestampUs)
    (restarts : startsOver playout.ledger operation = true) :
    (playout.step operation).ledger.playoutValid = false ∧
      (playout.step operation).pivot.samples = 0 := by
  cases operation with
  | setOutputActive active =>
      have starts : (active && !playout.ledger.outputActive) = true := restarts
      simp only [step, startsOver, starts, if_true, Ledger.step, Ledger.setOutputActive,
        Pivot.forget, and_self]
  | rebaselineAfterStarvation queries sampleRate nowUs =>
      have starved : playout.ledger.pipelineStarved = true := restarts
      simp only [step, startsOver, starved, if_true, Ledger.step,
        Ledger.rebaselineAfterStarvation, Pivot.forget, and_self]
  | notifyAudioPlayed frames timestampUs => exact absurd rfl (unreported frames timestampUs)
  | push written frameBytes => cases restarts
  | repayPadding queried nowUs => cases restarts
  | splitRepair report => cases restarts
  | prearmRepair nowUs => cases restarts
  | splitRamp chunk => cases restarts

omit [LinearOrder K] [IsStrictOrderedRing K] [FloorRing K] in
theorem step_pivot (playout : Playout K) (operation : Ledger.Operation)
    (unreported : ∀ frames timestampUs, operation ≠ .notifyAudioPlayed frames timestampUs)
    (goesOn : startsOver playout.ledger operation = false) :
    (playout.step operation).pivot = playout.pivot := by
  cases operation with
  | notifyAudioPlayed frames timestampUs => exact absurd rfl (unreported frames timestampUs)
  | _ =>
      simp only [step, goesOn, Bool.false_eq_true, if_false]

theorem step_tracks (slope lo hi reach : K) (playout : Playout K) (operation : Ledger.Operation)
    (nonneg : 0 ≤ reach)
    (tracks : (∃ frames timestampUs, operation = .notifyAudioPlayed frames timestampUs ∧
      flushes playout.ledger timestampUs = true) ∨ Tracks slope lo hi reach playout)
    (reports : Reports slope lo hi reach playout operation) :
    Tracks slope lo hi reach (playout.step operation) := by
  by_cases reported : ∃ frames timestampUs, operation = .notifyAudioPlayed frames timestampUs
  · obtain ⟨frames, timestampUs, rfl⟩ := reported
    refine notify_tracks slope lo hi reach playout frames timestampUs nonneg (fun whole => ?_)
      reports
    rcases tracks with ⟨_, _, same, flushed⟩ | before
    · cases same
      rw [whole] at flushed
      cases flushed
    · exact before
  · have unreported : ∀ frames timestampUs,
        operation ≠ .notifyAudioPlayed frames timestampUs := fun frames timestampUs same =>
      reported ⟨frames, timestampUs, same⟩
    have before : Tracks slope lo hi reach playout := by
      rcases tracks with ⟨frames, timestampUs, same, _⟩ | before
      · exact absurd same (unreported frames timestampUs)
      · exact before
    cases restarts : startsOver playout.ledger operation with
    | true =>
        obtain ⟨unknown, empty⟩ := playout.step_restarted operation unreported restarts
        refine ⟨fun valid => ?_, fun some_ => absurd empty some_, fun some_ => absurd empty some_⟩
        rw [unknown] at valid
        cases valid
    | false =>
        obtain ⟨played, last, valid⟩ :=
          playout.ledger.step_playback operation unreported restarts
        have pivot := playout.step_pivot operation unreported restarts
        have ledger : (playout.step operation).ledger = playout.ledger.step operation := rfl
        refine ⟨?_, ?_, ?_⟩
        · rw [ledger, played, last, valid]
          exact before.last
        · rw [pivot]
          exact before.mean
        · rw [pivot, ledger, played]
          exact before.lag

theorem run_tracks (slope lo hi reach : K) (playout : Playout K)
    (operations : List Ledger.Operation) (nonneg : 0 ≤ reach)
    (tracks : Tracks slope lo hi reach playout)
    (along : Run.Along step (Reports slope lo hi reach) playout operations) :
    Tracks slope lo hi reach (playout.run operations) := by
  induction operations generalizing playout with
  | nil => exact tracks
  | cons operation rest ih =>
      exact ih _ (playout.step_tracks slope lo hi reach operation nonneg (Or.inr tracks) along.1)
        along.2

theorem truncToInt_near (x : K) : x - 1 ≤ (truncToInt x : K) ∧ (truncToInt x : K) ≤ x + 1 := by
  unfold truncToInt
  split
  · have below := Int.lt_floor_add_one x
    have above := Int.floor_le x
    constructor
    · linarith
    · linarith
  · have below := Int.le_ceil x
    have above := Int.ceil_lt_add_one x
    constructor
    · linarith
    · linarith

theorem starts_tracks (slope lo hi reach : K) (playout : Playout K)
    (operations : List Ledger.Operation) (nonneg : 0 ≤ reach)
    (starts : playout.StartsOver operations)
    (along : Run.Along step (Reports slope lo hi reach) playout operations) :
    Tracks slope lo hi reach (playout.run operations) := by
  rcases starts with ⟨unknown, empty⟩ | ⟨frames, timestampUs, rest, rfl, flushed⟩
  · refine playout.run_tracks slope lo hi reach operations nonneg ⟨fun valid => ?_,
      fun some_ => absurd empty some_, fun some_ => absurd empty some_⟩ along
    rw [unknown] at valid
    cases valid
  · refine run_tracks slope lo hi reach _ rest nonneg ?_ along.2
    exact playout.step_tracks slope lo hi reach _ nonneg
      (Or.inl ⟨frames, timestampUs, rfl, flushed⟩) along.1

omit [LinearOrder K] [IsStrictOrderedRing K] [FloorRing K] in
theorem queued_cast (ledger : Ledger) : (ledger.queued : K) =
    (ledger.pushedFramesTotal : K) - (ledger.playedFramesTotal : K) := by
  rw [Ledger.queued, Int.cast_sub]

theorem smoothed_error (slope lo hi reach : K) (playout : Playout K) (sampleRate : Nat)
    (tracks : Tracks slope lo hi reach playout) (some_ : playout.pivot.samples ≠ 0) :
    let ledger := playout.ledger
    let skew := (nominalSlope sampleRate - slope) *
      ((ledger.queued : K) + ((ledger.playedFramesTotal : K) - playout.pivot.meanFrames))
    let predicted := truncToInt (playout.pivot.meanTs + nominalSlope sampleRate *
      ((ledger.pushedFramesTotal : K) - playout.pivot.meanFrames))
    lo + slope * ledger.pushedFramesTotal + skew - 1 ≤ predicted ∧
      (predicted : K) ≤ hi + slope * ledger.pushedFramesTotal + skew + 1 := by
  intro ledger skew predicted
  obtain ⟨early, late⟩ := tracks.mean some_
  have line : playout.pivot.meanTs + nominalSlope sampleRate *
      ((ledger.pushedFramesTotal : K) - playout.pivot.meanFrames) =
        playout.pivot.meanTs - slope * playout.pivot.meanFrames +
          slope * ledger.pushedFramesTotal + skew := by
    rw [show skew = (nominalSlope sampleRate - slope) * ((ledger.queued : K) +
      ((ledger.playedFramesTotal : K) - playout.pivot.meanFrames)) from rfl, queued_cast]
    ring
  have near := truncToInt_near (playout.pivot.meanTs + nominalSlope sampleRate *
    ((ledger.pushedFramesTotal : K) - playout.pivot.meanFrames))
  obtain ⟨low, high⟩ : _ ≤ (predicted : K) ∧ (predicted : K) ≤ _ := near
  rw [line] at low high
  constructor
  · linarith
  · linarith

theorem unsmoothed_error (slope lo hi reach : K) (playout : Playout K) (sampleRate : Nat)
    (rated : 0 < sampleRate) (tracks : Tracks slope lo hi reach playout)
    (valid : playout.ledger.playoutValid = true) :
    let ledger := playout.ledger
    let skew := (nominalSlope sampleRate - slope) * ((ledger.queued : K) + 0)
    let predicted := ledger.playedLastTsUs + Int.tdiv (ledger.queued * 1000000) sampleRate
    lo + slope * ledger.pushedFramesTotal + skew - 1 ≤ predicted ∧
      (predicted : K) ≤ hi + slope * ledger.pushedFramesTotal + skew + 1 := by
  intro ledger skew predicted
  obtain ⟨early, late⟩ := tracks.last valid
  obtain ⟨low, high⟩ := tdiv_near (K := K) (ledger.queued * 1000000) sampleRate rated
  have rate : ((ledger.queued * 1000000 : Int) : K) / sampleRate =
      nominalSlope sampleRate * ((ledger.pushedFramesTotal : K) -
        (ledger.playedFramesTotal : K)) := by
    rw [← queued_cast, nominalSlope]
    push_cast
    ring
  have turned : skew = (nominalSlope sampleRate - slope) *
      ((ledger.pushedFramesTotal : K) - (ledger.playedFramesTotal : K)) := by
    rw [← queued_cast, ← add_zero (ledger.queued : K)]
  rw [rate] at low high
  rw [Int.cast_add, turned]
  constructor
  · linarith
  · linarith

/-- The prediction is off the clock by no more than the reports are, apart from what the nominal
rate is off it over the frames that are queued and the lag of the pivot. -/
theorem prediction_error (slope lo hi reach : K) (playout : Playout K)
    (operations : List Ledger.Operation) (sampleRate : Nat) (nonneg : 0 ≤ reach)
    (rated : 0 < sampleRate) (starts : playout.StartsOver operations)
    (along : Run.Along step (Reports slope lo hi reach) playout operations) (predicted : Int)
    (answered : (playout.run operations).predictNextPlayUs sampleRate = some predicted) :
    let ledger := (playout.run operations).ledger
    ∃ lag : K, 0 ≤ lag ∧ lag ≤ 63 * reach ∧
      let skew := (nominalSlope sampleRate - slope) * ((ledger.queued : K) + lag)
      lo + slope * ledger.pushedFramesTotal + skew - 1 ≤ predicted ∧
        (predicted : K) ≤ hi + slope * ledger.pushedFramesTotal + skew + 1 := by
  have tracks := starts_tracks slope lo hi reach playout operations nonneg starts along
  generalize playout.run operations = final at answered tracks
  intro ledger
  unfold predictNextPlayUs at answered
  dsimp only at answered
  cases valid : final.ledger.playoutValid with
  | false =>
      rw [valid] at answered
      cases answered
  | true =>
      rw [valid, if_pos rfl] at answered
      by_cases smoothed : pivotSamples ≤ final.pivot.samples
      · rw [if_pos smoothed, Option.some.injEq] at answered
        have some_ : final.pivot.samples ≠ 0 := by
          unfold pivotSamples at smoothed
          omega
        obtain ⟨ahead, behind⟩ := tracks.lag some_
        refine ⟨(ledger.playedFramesTotal : K) - final.pivot.meanFrames, ahead, behind, ?_⟩
        rw [← answered]
        exact smoothed_error slope lo hi reach final sampleRate tracks some_
      · rw [if_neg smoothed, Option.some.injEq] at answered
        refine ⟨0, le_refl 0, by linarith, ?_⟩
        rw [← answered]
        exact unsmoothed_error slope lo hi reach final sampleRate rated tracks valid

/-- Ten reports of a DAC that is 300 ppm slow, each five microseconds early or late, while twice as
much is pushed. -/
def slowReports : List Ledger.Operation := (List.range 10).flatMap fun turn : Nat =>
  [.push 3528 4,
    .notifyAudioPlayed 441 (10003 * (turn + 1) + if turn % 2 = 0 then 5 else -5)]

def unplayed : Playout ℚ :=
  { ledger := Ledger.initial
    pivot :=
      { samples := 0
        meanFrames := 0
        meanTs := 0 } }

instance (slope lo hi reach : ℚ) (playout : Playout ℚ) (operation : Ledger.Operation) :
    Decidable (Reports slope lo hi reach playout operation) := by
  cases operation <;> unfold Reports OnClock <;> infer_instance

theorem prediction_error_slow :
    pivotSamples ≤ (unplayed.run slowReports).pivot.samples ∧
      let ledger := (unplayed.run slowReports).ledger
      ∃ lag : ℚ, 0 ≤ lag ∧ lag ≤ 63 * 441 ∧
        let skew := (nominalSlope 44100 - 10003 / 441) * ((ledger.queued : ℚ) + lag)
        (-5 : ℚ) + 10003 / 441 * ledger.pushedFramesTotal + skew - 1 ≤ (200009 : Int) ∧
          ((200009 : Int) : ℚ) ≤ 5 + 10003 / 441 * ledger.pushedFramesTotal + skew + 1 := by
  refine ⟨by decide +kernel, ?_⟩
  exact prediction_error (10003 / 441) (-5) 5 441 unplayed slowReports 44100 (by norm_num)
    (by norm_num) (Or.inl ⟨rfl, rfl⟩) (by decide +kernel) 200009 (by decide +kernel)

end Playout

end Player
