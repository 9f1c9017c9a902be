import Mathlib.Algebra.BigOperators.Group.List.Basic
import Mathlib.Data.Rat.Floor
import SnapcastSync.ClockSync.Mapping
import SnapcastSync.Lib.FloatRounding

/-! The tagged playback reports and what the delay loop measures with them: a report is turned into
a render error at the speaker callback, summed up, and drained by the player; in between the sum is
discarded wherever the audio in flight was scheduled against another deadline. -/

namespace Player

open Rounding
open FloatRounding

/-- A tagged report: how many frames rendered up to this time, the identity of the first, and
whether the tag calls itself valid, which is decided by its own library. -/
structure TagArrival where
  frames : Nat
  adjustedTs : Int
  serverTs : Nat
  offsetFrames : Nat
  valid : Bool
deriving DecidableEq, Repr

structure TagStream (K : Type) where
  sampleRate : Nat
  anchorServerTs : Int
  anchorDeadlineUs : Int
  blankUntilUs : Int
  accN : Nat
  accSumUs : K
  accLastUs : Int

/-- What the tasks do with it, each under the mutex: a chunk of some rate is pushed, a deadline is
set, a report comes, the tags are blanked with what was summed discarded, or are only blanked for
longer, and the sum is drained. -/
inductive TagEvent
  | setRate (sampleRate : Nat)
  | setAnchor (serverTs deadlineUs : Int)
  | arrival (tag : TagArrival)
  | blank (untilUs : Int)
  | extendBlank (untilUs : Int)
  | measure (nowUs staleUs : Int)
deriving DecidableEq, Repr

namespace TagArrival

def firstFrameLocal (arrival : TagArrival) (rate : Nat) : Int :=
  arrival.adjustedTs - Int.tdiv ((arrival.frames : Int) * 1000000) rate

def frameServerUs (arrival : TagArrival) (rate : Nat) : Int :=
  arrival.serverTs + Int.tdiv ((arrival.offsetFrames : Int) * 1000000) rate

end TagArrival

namespace TagStream

variable {K : Type} [Field K]

def errTagUs (stream : TagStream K) (arrival : TagArrival) : Int :=
  arrival.firstFrameLocal stream.sampleRate -
    (stream.anchorDeadlineUs +
      (arrival.frameServerUs stream.sampleRate - stream.anchorServerTs))

/-- A report that counts: tagged, against an anchor, and rendered after the blank. -/
def counts (stream : TagStream K) (arrival : TagArrival) : Bool :=
  decide (arrival.frames ≠ 0) && arrival.valid && decide (stream.sampleRate ≠ 0) &&
    decide (stream.anchorServerTs ≠ 0) &&
    decide (stream.blankUntilUs ≤ arrival.firstFrameLocal stream.sampleRate)

/-- The accumulator in `notify_audio_played_tagged`. -/
def notifyTagged (stream : TagStream K) (arrival : TagArrival) : TagStream K :=
  if stream.counts arrival then
    { stream with
      accN := stream.accN + 1
      accSumUs := stream.accSumUs + (stream.errTagUs arrival : K)
      accLastUs := arrival.adjustedTs }
  else stream

def discard (stream : TagStream K) : TagStream K :=
  { stream with
    accN := 0
    accSumUs := 0 }

def step (stream : TagStream K) : TagEvent → TagStream K
  | .setRate sampleRate => { stream with sampleRate := sampleRate }
  | .setAnchor serverTs deadlineUs =>
      { stream with
        anchorServerTs := serverTs
        anchorDeadlineUs := deadlineUs }
  | .arrival tag => stream.notifyTagged tag
  | .blank untilUs => { stream.discard with blankUntilUs := untilUs }
  | .extendBlank untilUs => { stream with blankUntilUs := max stream.blankUntilUs untilUs }
  | .measure _ _ => stream.discard

def run (stream : TagStream K) (events : List TagEvent) : TagStream K := events.foldl step stream

def tagsLive (stream : TagStream K) (nowUs staleUs : Int) : Bool :=
  decide (0 < stream.accLastUs) && decide (nowUs - stream.accLastUs < staleUs)

def measures (stream : TagStream K) (nowUs staleUs : Int) : Bool :=
  stream.tagsLive nowUs staleUs && decide (0 < stream.accN)

variable [LinearOrder K] [FloorRing K]

section Source

-- how a quotient of doubles comes out as a float
variable (narrow : Mode K 24)

/-- The error that `delay_measure_` hands on, if it has one. -/
def delayMeasure (stream : TagStream K) (nowUs staleUs : Int) : Option Int :=
  if stream.measures nowUs staleUs then
    some (llround (narrow (stream.accSumUs / (stream.accN : K))))
  else none

def accepts (stream : TagStream K) : TagEvent → List Int
  | .arrival tag => if stream.counts tag then [stream.errTagUs tag] else []
  | _ => []

def drains : TagEvent → Bool
  | .blank _ => true
  | .measure _ _ => true
  | _ => false

def observation (stream : TagStream K) : TagEvent → List (Option Int)
  | .measure nowUs staleUs => [stream.delayMeasure narrow nowUs staleUs]
  | .blank _ => [none]
  | _ => []

def observations (stream : TagStream K) : List TagEvent → List (Option Int)
  | [] => []
  | event :: rest => stream.observation narrow event ++ (stream.step event).observations rest

def liveness (stream : TagStream K) : TagEvent → List Bool
  | .measure nowUs staleUs => [stream.tagsLive nowUs staleUs]
  | .blank _ => [false]
  | _ => []

def measured (stream : TagStream K) : List TagEvent → List Bool
  | [] => []
  | event :: rest => stream.liveness event ++ (stream.step event).measured rest

/-- The errors batch by batch, the last of them not yet ended. -/
def batches (stream : TagStream K) (held : List Int) : List TagEvent → List (List Int)
  | [] => [held]
  | event :: rest =>
      if drains event then held :: (stream.step event).batches [] rest
      else (stream.step event).batches (held ++ stream.accepts event) rest

def accepted (stream : TagStream K) : List TagEvent → List Int
  | [] => []
  | event :: rest => stream.accepts event ++ (stream.step event).accepted rest

def batchMean (batch : List Int) : Int :=
  llround (narrow (((batch.sum : Int) : K) / (batch.length : K)))

def Sums (stream : TagStream K) (held : List Int) : Prop :=
  stream.accN = held.length ∧ stream.accSumUs = ((held.sum : Int) : K)

def handOn (live : Bool) (batch : List Int) : Option Int :=
  if live && !batch.isEmpty then some (batchMean narrow batch) else none

end Source

omit [LinearOrder K] [FloorRing K] in
theorem Sums.accepts {stream : TagStream K} {held : List Int} (sums : stream.Sums held)
    (event : TagEvent) (goesOn : drains event = false) :
    (stream.step event).Sums (held ++ stream.accepts event) := by
  obtain ⟨count, total⟩ := sums
  cases event with
  | arrival tag =>
      simp only [step, notifyTagged, TagStream.accepts]
      cases stream.counts tag with
      | true =>
          simp only [if_true]
          refine ⟨?_, ?_⟩
          · rw [List.length_append, ← count]
            rfl
          · rw [List.sum_append, List.sum_singleton, Int.cast_add, ← total]
      | false =>
          simp only [Bool.false_eq_true, if_false, List.append_nil]
          exact ⟨count, total⟩
  | blank untilUs => cases goesOn
  | measure nowUs staleUs => cases goesOn
  | _ =>
      simp only [TagStream.accepts, List.append_nil]
      exact ⟨count, total⟩

omit [LinearOrder K] [FloorRing K] in
theorem step_drained (stream : TagStream K) (event : TagEvent) (ends : drains event = true) :
    (stream.step event).Sums [] ∧ stream.accepts event = [] := by
  have empty : (stream.discard).Sums [] := ⟨rfl, by rw [List.sum_nil, Int.cast_zero]; rfl⟩
  cases event with
  | blank untilUs => exact ⟨empty, rfl⟩
  | measure nowUs staleUs => exact ⟨empty, rfl⟩
  | _ => cases ends

theorem delayMeasure_eq (narrow : Mode K 24) {stream : TagStream K} {held : List Int}
    (sums : stream.Sums held) (nowUs staleUs : Int) :
    stream.delayMeasure narrow nowUs staleUs =
      handOn narrow (stream.tagsLive nowUs staleUs) held := by
  obtain ⟨count, total⟩ := sums
  unfold delayMeasure measures handOn batchMean
  rw [count, total]
  cases stream.tagsLive nowUs staleUs with
  | false => rfl
  | true =>
      cases held with
      | nil => rfl
      | cons first rest => rfl

theorem observation_eq (narrow : Mode K 24) {stream : TagStream K} {held : List Int}
    (sums : stream.Sums held) (event : TagEvent) :
    stream.observation narrow event =
      (stream.liveness event).map fun live => handOn narrow live held := by
  cases event with
  | measure nowUs staleUs =>
      rw [observation, delayMeasure_eq narrow sums]
      rfl
  | _ => rfl

theorem observations_batched (narrow : Mode K 24) (stream : TagStream K) (held : List Int)
    (events : List TagEvent) (sums : stream.Sums held) :
    stream.observations narrow events =
        List.zipWith (handOn narrow) (stream.measured events) (stream.batches held events) ∧
      (stream.batches held events).flatten = held ++ stream.accepted events ∧
      ∃ last ∈ (stream.batches held events).getLast?, (stream.run events).Sums last := by
  induction events generalizing stream held with
  | nil =>
      refine ⟨rfl, ?_, held, rfl, sums⟩
      rw [batches, accepted, List.append_nil, List.flatten_singleton]
  | cons event rest ih =>
      have onward : stream.run (event :: rest) = (stream.step event).run rest := rfl
      rw [observations, observation_eq narrow sums, measured, batches, accepted, onward]
      cases ends : drains event with
      | false =>
          have unhanded : stream.liveness event = [] := by
            cases event with
            | blank untilUs => cases ends
            | measure nowUs staleUs => cases ends
            | _ => rfl
          obtain ⟨handed, whole, last⟩ := ih _ _ (sums.accepts event ends)
          rw [unhanded, if_neg Bool.false_ne_true, ← List.append_assoc]
          exact ⟨handed, whole, last⟩
      | true =>
          obtain ⟨empty, none_⟩ := stream.step_drained event ends
          obtain ⟨handed, whole, final, ended, lastSums⟩ := ih _ _ empty
          obtain ⟨live, one⟩ : ∃ live, stream.liveness event = [live] := by
            cases event with
            | blank untilUs => exact ⟨_, rfl⟩
            | measure nowUs staleUs => exact ⟨_, rfl⟩
            | _ => cases ends
          rw [one, if_pos rfl, none_]
          refine ⟨?_, ?_, final, ?_, lastSums⟩
          · rw [handed]
            rfl
          · rw [List.flatten_cons, whole]
          · rw [List.getLast?_cons]
            rw [Option.mem_def] at ended
            rw [ended]
            rfl

/-- Every error that counts is in one batch, in order, and every batch is handed on as its mean,
narrowed and rounded, or discarded as a whole. -/
theorem tag_observations [IsStrictOrderedRing K] (narrow : Mode K 24) (stream : TagStream K)
    (held : List Int) (events : List TagEvent) (sums : stream.Sums held) :
    stream.observations narrow events =
        List.zipWith (handOn narrow) (stream.measured events) (stream.batches held events) ∧
      (stream.batches held events).flatten = held ++ stream.accepted events ∧
      (∃ last ∈ (stream.batches held events).getLast?, (stream.run events).Sums last) ∧
      ∀ batch ∈ stream.batches held events,
        |((batch.sum : Int) : K) / (batch.length : K)| ≤ 2 ^ 24 →
          |(batchMean narrow batch : K) - ((batch.sum : Int) : K) / (batch.length : K)| <
            3 / 2 := by
  obtain ⟨handed, whole, last⟩ := observations_batched narrow stream held events sums
  exact ⟨handed, whole, last, fun batch _ => narrow.llround_near _⟩

omit [Field K] [LinearOrder K] [FloorRing K] in
/-- A counted error is the distance of the frame's rendering from its own deadline, where the
anchor is a deadline of the same buffer and offsets. -/
theorem errTagUs_deadline (stream : TagStream K) (arrival : TagArrival)
    (bufferUs offsetUs biasUs : Int)
    (anchored : ClockSync.chunkDeadline stream.anchorServerTs bufferUs true offsetUs biasUs =
      some stream.anchorDeadlineUs) :
    ClockSync.chunkDeadline (arrival.frameServerUs stream.sampleRate) bufferUs true offsetUs
        biasUs =
      some (arrival.firstFrameLocal stream.sampleRate - stream.errTagUs arrival) := by
  rw [ClockSync.chunkDeadline] at anchored ⊢
  simp only [if_true, Option.some.injEq] at anchored ⊢
  unfold errTagUs
  omega

def silent : TagStream ℚ :=
  { sampleRate := 44100
    anchorServerTs := 0
    anchorDeadlineUs := 0
    blankUntilUs := 0
    accN := 0
    accSumUs := 0
    accLastUs := 0 }

def firstTags : List TagEvent :=
  [.setAnchor 1000000 5000000, .arrival ⟨441, 5020007, 1000000, 441, true⟩,
    .arrival ⟨441, 5030008, 1000000, 882, true⟩, .measure 5035000 100000,
    .arrival ⟨441, 5040009, 1000000, 1323, true⟩, .blank 5100000]

def nearestFloat : Mode ℚ 24 := Mode.nearestEven 24 (by decide)

theorem tag_observations_first :
    silent.observations nearestFloat firstTags =
        List.zipWith (handOn nearestFloat) (silent.measured firstTags)
          (silent.batches [] firstTags) ∧
      (silent.batches [] firstTags).flatten = [] ++ silent.accepted firstTags ∧
      (∃ last ∈ (silent.batches [] firstTags).getLast?, (silent.run firstTags).Sums last) ∧
      ∀ batch ∈ silent.batches [] firstTags,
        |((batch.sum : Int) : ℚ) / (batch.length : ℚ)| ≤ 2 ^ 24 →
          |(batchMean nearestFloat batch : ℚ) - ((batch.sum : Int) : ℚ) / (batch.length : ℚ)| <
            3 / 2 :=
  tag_observations nearestFloat silent [] firstTags ⟨rfl, by rw [List.sum_nil, Int.cast_zero]; rfl⟩

end TagStream

end Player
