import Mathlib.Algebra.Order.Group.Unbundled.Int
import Mathlib.Data.List.Induction
import SnapcastSync.Lib.AnchoredWindow
import SnapcastSync.Player.UnmuteGate

/-! What takes a playing device off the air: the hard resyncs that come in a storm or past the
server's buffer, under the resilience the room is set to, and the stale stream that is given up. -/

namespace Player

def resyncStormCount : Nat := 8
def resyncStormWindowUs : Int := 2000000
def staleBailoutUs : Int := 3000000

inductive SyncResilience where
  | muteOnStorm
  | playThroughStorms
  | neverMute
deriving DecidableEq, Repr

structure MeasuredChunk where
  evaluation : Evaluation
  resilience : SyncResilience
  bufferMs : Int
  errorUs : Int
  coarseOnTags : Bool
  tagErrUs : Int
  syncDeadbandUs : Int
  group : Option GroupView
  driftMedLastUs : Int
  nowUs : Int
deriving DecidableEq, Repr

namespace MeasuredChunk

def staleUs (chunk : MeasuredChunk) (hardResyncThresholdMs : Nat) : Int :=
  max chunk.bufferMs hardResyncThresholdMs * 1000

def mutes (chunk : MeasuredChunk) (hardResyncThresholdMs stormResyncs : Nat) : Bool :=
  decide (chunk.resilience = .muteOnStorm) && decide (resyncStormCount ≤ stormResyncs) ||
    decide (chunk.resilience ≠ .neverMute) &&
      decide (chunk.staleUs hardResyncThresholdMs < |chunk.errorUs|)

def gateChunk (chunk : MeasuredChunk) (resync : Option Resync) (muteNow : Bool) : GateChunk :=
  { errorUs := chunk.errorUs
    coarseOnTags := chunk.coarseOnTags
    tagErrUs := chunk.tagErrUs
    resync := resync
    muteNow := muteNow
    syncDeadbandUs := chunk.syncDeadbandUs
    group := chunk.group
    driftMedLastUs := chunk.driftMedLastUs
    nowUs := chunk.nowUs }

end MeasuredChunk

/-- The confirmation, the storm and the gate, with the instants of the hard resyncs so far, newest
first. -/
structure Muting where
  confirm : ResyncGate
  storm : AnchoredWindow Int
  gate : UnmuteGate
  resyncs : List Int

namespace Muting

def boot : Muting :=
  { confirm := ResyncGate.initial
    storm := { start := 0, count := 0 }
    gate := UnmuteGate.initial
    resyncs := [] }

def excursion (muting : Muting) (evaluation : Evaluation) : Bool :=
  decide ((evaluation.hardUs : Int) < |evaluation.coarseErrUs|) &&
    (muting.confirm.observe evaluation).confirmed evaluation

def stormed (muting : Muting) (chunk : MeasuredChunk) : AnchoredWindow Int :=
  if muting.excursion chunk.evaluation then
    muting.storm.mark resyncStormWindowUs chunk.nowUs
  else muting.storm

def muteNow (muting : Muting) (hardResyncThresholdMs : Nat) (chunk : MeasuredChunk) : Bool :=
  muting.excursion chunk.evaluation &&
    chunk.mutes hardResyncThresholdMs (muting.stormed chunk).count

def chunk (muting : Muting) (hardResyncThresholdMs : Nat) (chunk : MeasuredChunk) : Muting :=
  { confirm := muting.confirm.observe chunk.evaluation
    storm := muting.stormed chunk
    gate :=
      muting.gate.chunk
        (chunk.gateChunk (muting.confirm.decision chunk.evaluation)
          (muting.muteNow hardResyncThresholdMs chunk))
    resyncs :=
      if muting.excursion chunk.evaluation then chunk.nowUs :: muting.resyncs
      else muting.resyncs }

inductive Event where
  | chunk (chunk : MeasuredChunk)
  | rebaselineAfterStarvation
deriving DecidableEq, Repr

def step (hardResyncThresholdMs : Nat) (muting : Muting) : Event → Muting
  | .chunk chunk => muting.chunk hardResyncThresholdMs chunk
  | .rebaselineAfterStarvation => { muting with gate := muting.gate.reset false }

def run (muting : Muting) (hardResyncThresholdMs : Nat) (events : List Event) : Muting :=
  events.foldl (step hardResyncThresholdMs) muting

def startupSilent (muting : Muting) (resilience : SyncResilience) : Bool :=
  !muting.gate.converged && decide (resilience ≠ .neverMute)

/-- Whether the push of a chunk is silent, by what `predict_next_play_us_` answered: without a
playback report to go by, -1, it is a start-up push and silent whatever is set. -/
def pushSilent (muting : Muting) (predictedUs : Int) (resilience : SyncResilience) : Bool :=
  if predictedUs < 0 then true else muting.startupSilent resilience

theorem excursion_eq (muting : Muting) (evaluation : Evaluation) :
    muting.excursion evaluation = (muting.confirm.decision evaluation).isSome := by
  rw [excursion, ResyncGate.decision]
  cases confirmed : (muting.confirm.observe evaluation).confirmed evaluation with
  | false => simp only [Bool.and_false, Bool.false_eq_true, if_false, Option.isSome_none]
  | true =>
      simp only [Bool.and_true, decide_eq_true_eq, lt_abs]
      by_cases late : (evaluation.hardUs : Int) < evaluation.coarseErrUs
      · rw [if_pos late]
        exact decide_eq_true (Or.inl late)
      · rw [if_neg late]
        by_cases early : evaluation.coarseErrUs < -(evaluation.hardUs : Int)
        · rw [if_pos early]
          exact decide_eq_true (Or.inr (by omega))
        · rw [if_neg early]
          exact decide_eq_false (by omega)

/-- A hard resync empties the error window, and the chunk it is made on cannot open the gate. -/
theorem chunk_converged_of_resync (gate : UnmuteGate) (chunk : GateChunk)
    (resyncs : chunk.resync.isSome = true) :
    (gate.chunk chunk).converged = (gate.converged && !chunk.muteNow) := by
  obtain ⟨direction, acts⟩ := Option.isSome_iff_exists.mp resyncs
  have reached : gate.reached chunk =
      (gate.sample chunk.errorUs).reset (gate.converged && !chunk.muteNow) := by
    rw [UnmuteGate.reached, acts]
    rfl
  rw [UnmuteGate.chunk, reached]
  split
  · rfl
  · rw [UnmuteGate.evaluate]
    split
    · have closed : ((gate.sample chunk.errorUs).reset
          (gate.converged && !chunk.muteNow)).counts chunk = false := by
        rw [UnmuteGate.counts, UnmuteGate.reset]
        simp only [medianWindow, Nat.reduceEqDiff, decide_false, Bool.and_false, Bool.false_and]
      rw [closed, if_neg Bool.false_ne_true]
      rfl
    · rfl

/-- Without a hard resync a chunk closes nothing. -/
theorem chunk_converged_of_calm (gate : UnmuteGate) (chunk : GateChunk)
    (calm : chunk.resync = none) (open_ : gate.converged = true) :
    (gate.chunk chunk).converged = true := by
  have reached : gate.reached chunk = gate.sample chunk.errorUs := by
    rw [UnmuteGate.reached, calm]
  have late : chunk.resync ≠ some .late := by
    rw [calm]
    exact (Option.some_ne_none _).symm
  rw [UnmuteGate.chunk, if_neg late, reached, UnmuteGate.evaluate]
  split
  · split
    · split
      · split
        · rfl
        · exact open_
      · exact open_
    · exact open_
  · exact open_

/-- A chunk takes an open gate down exactly where it mutes. -/
theorem chunk_closes (muting : Muting) (hardResyncThresholdMs : Nat) (chunk : MeasuredChunk)
    (open_ : muting.gate.converged = true) :
    (muting.chunk hardResyncThresholdMs chunk).gate.converged =
      !muting.muteNow hardResyncThresholdMs chunk := by
  rw [Muting.chunk]
  dsimp only
  cases acts : muting.confirm.decision chunk.evaluation with
  | none =>
      have calm : muting.muteNow hardResyncThresholdMs chunk = false := by
        rw [muteNow, excursion_eq, acts, Option.isSome_none, Bool.false_and]
      rw [calm]
      exact chunk_converged_of_calm _ _ rfl open_
  | some direction =>
      rw [chunk_converged_of_resync _ _ rfl, open_, Bool.true_and]
      rfl

theorem chunk_closed_of_muteNow (muting : Muting) (hardResyncThresholdMs : Nat)
    (chunk : MeasuredChunk) (mutes : muting.muteNow hardResyncThresholdMs chunk = true) :
    (muting.chunk hardResyncThresholdMs chunk).gate.converged = false := by
  have acts : muting.excursion chunk.evaluation = true := by
    rw [muteNow, Bool.and_eq_true] at mutes
    exact mutes.1
  rw [excursion_eq] at acts
  rw [Muting.chunk]
  dsimp only
  rw [chunk_converged_of_resync _ _ acts]
  dsimp only [MeasuredChunk.gateChunk]
  rw [mutes, Bool.not_true, Bool.and_false]

def Forward (nowUs : Int) : List Event → Prop
  | [] => True
  | .chunk chunk :: rest => nowUs ≤ chunk.nowUs ∧ Forward chunk.nowUs rest
  | .rebaselineAfterStarvation :: rest => Forward nowUs rest

instance decidableForward (nowUs : Int) : (events : List Event) → Decidable (Forward nowUs events)
  | [] => isTrue trivial
  | .chunk chunk :: rest =>
      have := decidableForward chunk.nowUs rest
      inferInstanceAs (Decidable (nowUs ≤ chunk.nowUs ∧ Forward chunk.nowUs rest))
  | .rebaselineAfterStarvation :: rest => decidableForward nowUs rest

structure Standing (muting : Muting) (nowUs : Int) : Prop where
  counts : muting.storm.Counts muting.resyncs
  started : muting.storm.start ≤ nowUs

theorem boot_standing : boot.Standing 0 where
  counts := ⟨le_refl 0, fun _ member => absurd member List.not_mem_nil⟩
  started := le_refl 0

theorem chunk_standing (muting : Muting) (hardResyncThresholdMs : Nat) (nowUs : Int)
    (chunk : MeasuredChunk) (standing : muting.Standing nowUs) (later : nowUs ≤ chunk.nowUs) :
    (muting.chunk hardResyncThresholdMs chunk).Standing chunk.nowUs := by
  have started := standing.started.trans later
  rw [Muting.chunk]
  cases counted : muting.excursion chunk.evaluation with
  | false =>
      constructor
      · simpa only [stormed, counted, Bool.false_eq_true, if_false] using standing.counts
      · simpa only [stormed, counted, Bool.false_eq_true, if_false] using started
  | true =>
      constructor
      · simpa only [stormed, counted, if_true] using
          AnchoredWindow.mark_counts _ _ _ _ standing.counts started
      · simpa only [stormed, counted, if_true] using
          AnchoredWindow.mark_start_le _ _ _ started

/-- Eight hard resyncs at least, the last eight of them within the window. -/
def Stormy (muting : Muting) (nowUs : Int) : Prop :=
  resyncStormCount ≤ muting.resyncs.length ∧
    ∀ instant ∈ muting.resyncs.take resyncStormCount, nowUs - resyncStormWindowUs ≤ instant

/-- What is good enough to take an open gate down. -/
def Founded (hardResyncThresholdMs : Nat) (muting : Muting) : Event → Prop
  | .rebaselineAfterStarvation => True
  | .chunk chunk =>
      (muting.confirm.decision chunk.evaluation).isSome = true ∧ chunk.resilience ≠ .neverMute ∧
        (chunk.staleUs hardResyncThresholdMs < |chunk.errorUs| ∨
          chunk.resilience = .muteOnStorm ∧
            (muting.chunk hardResyncThresholdMs chunk).Stormy chunk.nowUs)

theorem stormy_of_count (muting : Muting) (hardResyncThresholdMs : Nat) (nowUs : Int)
    (chunk : MeasuredChunk) (standing : muting.Standing nowUs) (later : nowUs ≤ chunk.nowUs)
    (acts : muting.excursion chunk.evaluation = true)
    (many : resyncStormCount ≤ (muting.stormed chunk).count) :
    (muting.chunk hardResyncThresholdMs chunk).Stormy chunk.nowUs := by
  have counted := (chunk_standing muting hardResyncThresholdMs nowUs chunk standing later).counts
  have within := AnchoredWindow.counted_within resyncStormWindowUs muting.storm muting.resyncs
    chunk.nowUs (by decide) standing.counts (standing.started.trans later)
  have logged : (muting.chunk hardResyncThresholdMs chunk).resyncs =
      chunk.nowUs :: muting.resyncs := if_pos acts
  rw [stormed, if_pos acts] at many
  constructor
  · have enough := counted.enough
    rw [Muting.chunk] at enough
    dsimp only at enough
    rw [stormed, if_pos acts, if_pos acts] at enough
    rw [logged]
    exact many.trans enough
  · rw [logged]
    intro instant member
    exact within instant (List.take_subset_take_left _ many member)

theorem chunk_founded (muting : Muting) (hardResyncThresholdMs : Nat) (nowUs : Int)
    (chunk : MeasuredChunk) (standing : muting.Standing nowUs) (later : nowUs ≤ chunk.nowUs)
    (mutes : muting.muteNow hardResyncThresholdMs chunk = true) :
    muting.Founded hardResyncThresholdMs (.chunk chunk) := by
  rw [muteNow, Bool.and_eq_true] at mutes
  obtain ⟨acts, decided⟩ := mutes
  rw [MeasuredChunk.mutes, Bool.or_eq_true, Bool.and_eq_true, Bool.and_eq_true,
    decide_eq_true_eq, decide_eq_true_eq, decide_eq_true_eq, decide_eq_true_eq] at decided
  refine ⟨by rw [← excursion_eq]; exact acts, ?_⟩
  rcases decided with ⟨storms, many⟩ | ⟨may, stale⟩
  · refine ⟨by rw [storms]; decide, Or.inr ⟨storms, ?_⟩⟩
    exact stormy_of_count muting hardResyncThresholdMs nowUs chunk standing later acts many
  · exact ⟨may, Or.inl stale⟩

/-- Whatever takes an open gate down is founded, at any point of a run. -/
theorem run_founded (muting : Muting) (hardResyncThresholdMs : Nat) (nowUs : Int)
    (early : List Event) (event : Event) (late : List Event) (standing : muting.Standing nowUs)
    (forward : Forward nowUs (early ++ event :: late))
    (open_ : (muting.run hardResyncThresholdMs early).gate.converged = true)
    (closes : (step hardResyncThresholdMs (muting.run hardResyncThresholdMs early)
      event).gate.converged = false) :
    (muting.run hardResyncThresholdMs early).Founded hardResyncThresholdMs event := by
  induction early generalizing muting nowUs with
  | nil =>
      cases event with
      | rebaselineAfterStarvation => exact trivial
      | chunk chunk =>
          have mutes := (chunk_closes muting hardResyncThresholdMs chunk open_).symm.trans closes
          rw [Bool.not_eq_false'] at mutes
          exact chunk_founded muting hardResyncThresholdMs nowUs chunk standing forward.1 mutes
  | cons first rest ih =>
      cases first with
      | rebaselineAfterStarvation =>
          exact ih _ nowUs ⟨standing.counts, standing.started⟩ forward open_ closes
      | chunk chunk =>
          exact ih _ chunk.nowUs
            (chunk_standing muting hardResyncThresholdMs nowUs chunk standing forward.1)
            forward.2 open_ closes

/-- Nothing has locked yet or, since the last lock, a starvation, a storm or an error past the
server's buffer took the device off the air. -/
def OffAir (hardResyncThresholdMs : Nat) (events : List Event) : Prop :=
  let closed := fun muting : Muting => muting.gate.converged = false
  Run.Visits (step hardResyncThresholdMs) closed boot events ∨
    ∃ early event late, events = early ++ event :: late ∧
      (boot.run hardResyncThresholdMs early).gate.converged = true ∧
      (boot.run hardResyncThresholdMs early).Founded hardResyncThresholdMs event ∧
      Run.Visits (step hardResyncThresholdMs) closed
        (boot.run hardResyncThresholdMs (early ++ [event])) late

theorem closed_iff_offAir (hardResyncThresholdMs : Nat) (events : List Event)
    (forward : Forward 0 events) :
    (boot.run hardResyncThresholdMs events).gate.converged = false ↔
      OffAir hardResyncThresholdMs events := by
  let closed := fun muting : Muting => muting.gate.converged = false
  refine ⟨fun ends => ?_, ?_⟩
  · rcases Run.visits_or_began (step hardResyncThresholdMs) closed boot events ends with
      throughout | ⟨early, event, late, split, before, since⟩
    · exact Or.inl throughout
    · have open_ : (boot.run hardResyncThresholdMs early).gate.converged = true :=
        Bool.not_eq_false _ |>.mp before
      refine Or.inr ⟨early, event, late, split, open_, ?_, ?_⟩
      · rw [split] at forward
        have closes : (step hardResyncThresholdMs (boot.run hardResyncThresholdMs early)
            event).gate.converged = false := by
          cases late with
          | nil => exact since
          | cons next rest => exact since.1
        exact run_founded boot hardResyncThresholdMs 0 early event late boot_standing forward
          open_ closes
      · rw [run, List.foldl_append]
        exact since
  · rintro (throughout | ⟨early, event, late, split, _, _, since⟩)
    · exact Run.visits_last (step hardResyncThresholdMs) closed boot events throughout
    · have last := Run.visits_last (step hardResyncThresholdMs) closed _ late since
      rw [run, ← List.foldl_append, List.append_assoc, List.singleton_append, ← split] at last
      exact last

/-- In every run from boot a chunk is pushed silent exactly where there is no playback report to
predict from, or the room allows it and the device is off the air. -/
theorem silent_iff_founded (hardResyncThresholdMs : Nat) (events : List Event)
    (predictedUs : Int) (resilience : SyncResilience) (forward : Forward 0 events) :
    (boot.run hardResyncThresholdMs events).pushSilent predictedUs resilience = true ↔
      predictedUs < 0 ∨ resilience ≠ .neverMute ∧ OffAir hardResyncThresholdMs events := by
  rw [pushSilent]
  by_cases unheard : predictedUs < 0
  · rw [if_pos unheard]
    exact ⟨fun _ => Or.inl unheard, fun _ => rfl⟩
  · rw [if_neg unheard, startupSilent, Bool.and_eq_true, Bool.not_eq_true', decide_eq_true_eq,
      closed_iff_offAir hardResyncThresholdMs events forward, and_comm]
    exact ⟨Or.inr, fun either => either.resolve_left unheard⟩

def lateChunk (nowUs : Nat) : MeasuredChunk :=
  { evaluation :=
      { coarseErrUs := 60000
        coarseAtUs := nowUs
        hardUs := 50000
        coarsePlausible := true
        coarseOk := true }
    resilience := .muteOnStorm
    bufferMs := 1000
    errorUs := 60000
    coarseOnTags := true
    tagErrUs := 60000
    syncDeadbandUs := 100
    group := none
    driftMedLastUs := 0
    nowUs := nowUs }

def resyncTimes (muting : Muting) (hardResyncThresholdMs : Nat) : List Event → List Int
  | [] => []
  | .rebaselineAfterStarvation :: rest =>
      (step hardResyncThresholdMs muting .rebaselineAfterStarvation).resyncTimes
        hardResyncThresholdMs rest
  | .chunk chunk :: rest =>
      let later := (muting.chunk hardResyncThresholdMs chunk).resyncTimes hardResyncThresholdMs rest
      if muting.excursion chunk.evaluation then chunk.nowUs :: later else later

theorem run_storm (muting : Muting) (hardResyncThresholdMs : Nat) (events : List Event) :
    (muting.run hardResyncThresholdMs events).storm =
      (muting.resyncTimes hardResyncThresholdMs events).foldl
        (AnchoredWindow.mark resyncStormWindowUs) muting.storm := by
  induction events generalizing muting with
  | nil => rfl
  | cons event rest ih =>
      cases event with
      | rebaselineAfterStarvation => exact ih _
      | chunk chunk =>
          refine (ih (muting.chunk hardResyncThresholdMs chunk)).trans ?_
          have next : (muting.chunk hardResyncThresholdMs chunk).storm = muting.stormed chunk := rfl
          rw [resyncTimes, next, stormed]
          split <;> rfl

theorem resyncTimes_split (muting : Muting) (hardResyncThresholdMs : Nat) (events : List Event)
    (before : List Int) (instant : Int) (after : List Int)
    (split : muting.resyncTimes hardResyncThresholdMs events = before ++ instant :: after) :
    ∃ early chunk late, events = early ++ .chunk chunk :: late ∧ chunk.nowUs = instant ∧
      muting.resyncTimes hardResyncThresholdMs early = before ∧
      (muting.run hardResyncThresholdMs early).excursion chunk.evaluation = true := by
  induction events generalizing muting before with
  | nil => cases before <;> cases split
  | cons event rest ih =>
      cases event with
      | rebaselineAfterStarvation =>
          obtain ⟨early, chunk, late, shape, time, earlier, acts⟩ := ih _ before split
          exact ⟨.rebaselineAfterStarvation :: early, chunk, late, by rw [shape]; rfl, time, earlier,
            acts⟩
      | chunk first =>
          rw [resyncTimes] at split
          by_cases counted : muting.excursion first.evaluation = true
          · rw [if_pos counted] at split
            cases before with
            | nil =>
                rw [List.nil_append, List.cons.injEq] at split
                exact ⟨[], first, rest, rfl, split.1, rfl, counted⟩
            | cons time times =>
                rw [List.cons_append, List.cons.injEq] at split
                obtain ⟨early, chunk, late, shape, at_, earlier, acts⟩ := ih _ times split.2
                refine ⟨.chunk first :: early, chunk, late, by rw [shape]; rfl, at_, ?_, acts⟩
                rw [resyncTimes, if_pos counted, earlier, split.1]
          · rw [if_neg counted] at split
            obtain ⟨early, chunk, late, shape, at_, earlier, acts⟩ := ih _ before split
            refine ⟨.chunk first :: early, chunk, late, by rw [shape]; rfl, at_, ?_, acts⟩
            rw [resyncTimes, if_neg counted, earlier]

/-- Fifteen hard resyncs within one window's span do not stay audible, from whatever state. -/
theorem storm_silences (muting : Muting) (hardResyncThresholdMs : Nat) (events : List Event)
    (startUs : Int)
    (tolerant : ∀ chunk, .chunk chunk ∈ events → chunk.resilience = .muteOnStorm)
    (near : ∀ instant ∈ muting.resyncTimes hardResyncThresholdMs events,
      startUs ≤ instant ∧ instant ≤ startUs + resyncStormWindowUs)
    (many : 2 * resyncStormCount ≤
      (muting.resyncTimes hardResyncThresholdMs events).length + 1) :
    ∃ early chunk late, events = early ++ .chunk chunk :: late ∧
      (muting.run hardResyncThresholdMs early).excursion chunk.evaluation = true ∧
      (muting.run hardResyncThresholdMs (early ++ [.chunk chunk])).startupSilent
        chunk.resilience = true := by
  obtain ⟨before, instant, after, split, complete⟩ :=
    AnchoredWindow.exists_complete resyncStormWindowUs startUs resyncStormCount muting.storm
      (muting.resyncTimes hardResyncThresholdMs events) (by decide)
      (by rw [resyncStormCount] at many ⊢; omega) (by omega)
      (fun time member => (near time member).1)
      (fun time member => by have bound := (near time member).2; omega)
  obtain ⟨early, chunk, late, shape, at_, earlier, acts⟩ :=
    resyncTimes_split muting hardResyncThresholdMs events before instant after split
  have mutes : (muting.run hardResyncThresholdMs early).muteNow hardResyncThresholdMs chunk =
      true := by
    have counted : resyncStormCount ≤
        ((muting.run hardResyncThresholdMs early).stormed chunk).count := by
      rw [stormed, if_pos acts, run_storm, earlier, at_]
      exact complete
    rw [muteNow, acts, Bool.true_and, MeasuredChunk.mutes, tolerant chunk (by rw [shape]; simp),
      decide_eq_true counted]
    rfl
  refine ⟨early, chunk, late, shape, acts, ?_⟩
  have closed := chunk_closed_of_muteNow _ hardResyncThresholdMs chunk mutes
  have last : muting.run hardResyncThresholdMs (early ++ [.chunk chunk]) =
      (muting.run hardResyncThresholdMs early).chunk hardResyncThresholdMs chunk := by
    rw [run, List.foldl_append]
    rfl
  rw [startupSilent, last, closed, tolerant chunk (by rw [shape]; simp)]
  rfl

def stormChunks : List Event := (List.range 17).map fun index => .chunk (lateChunk (index + 1))

theorem storm_silences_seventeen :
    ∃ early chunk late, stormChunks = early ++ .chunk chunk :: late ∧
      (boot.run 50 early).excursion chunk.evaluation = true ∧
      (boot.run 50 (early ++ [.chunk chunk])).startupSilent chunk.resilience = true := by
  refine storm_silences boot 50 stormChunks 1 ?_ (by decide) (by decide)
  intro chunk member
  obtain ⟨index, _, same⟩ := List.mem_map.mp member
  rw [← Event.chunk.inj same]
  rfl

def lockedStorm : List Event :=
  List.replicate 61 (.chunk
    { lateChunk 0 with
      evaluation :=
        { coarseErrUs := 40
          coarseAtUs := 0
          hardUs := 50000
          coarsePlausible := true
          coarseOk := true }
      errorUs := 40
      coarseOnTags := false }) ++ stormChunks

theorem silent_iff_founded_locked :
    ((boot.run 50 lockedStorm).pushSilent 1000000 .muteOnStorm = true ↔
      (1000000 : Int) < 0 ∨ SyncResilience.muteOnStorm ≠ .neverMute ∧ OffAir 50 lockedStorm) ∧
      (boot.run 50 (lockedStorm.take 61)).gate.converged = true ∧
      (boot.run 50 lockedStorm).pushSilent 1000000 .muteOnStorm = true :=
  ⟨silent_iff_founded 50 lockedStorm 1000000 .muteOnStorm (by decide +kernel), by decide +kernel,
    by decide +kernel⟩

end Muting

/-! `check_stale_bailout_`: the instant since which every chunk was stale is kept, zero for none. -/

namespace MeasuredChunk

def stale (chunk : MeasuredChunk) (hardResyncThresholdMs : Nat) : Bool :=
  decide (chunk.staleUs hardResyncThresholdMs < chunk.errorUs)

def bailsOut (chunk : MeasuredChunk) (hardResyncThresholdMs : Nat) (staleSinceUs : Int) : Bool :=
  chunk.stale hardResyncThresholdMs && decide (staleSinceUs ≠ 0) &&
    decide (staleBailoutUs ≤ chunk.nowUs - staleSinceUs)

def checkStaleBailout (hardResyncThresholdMs : Nat) (staleSinceUs : Int)
    (chunk : MeasuredChunk) : Int :=
  if chunk.stale hardResyncThresholdMs then
    if staleSinceUs = 0 then chunk.nowUs
    else if chunk.bailsOut hardResyncThresholdMs staleSinceUs then 0
    else staleSinceUs
  else 0

end MeasuredChunk

/-- `stale_since_us` after these chunks. -/
def staleSinceUs (hardResyncThresholdMs : Nat) (chunks : List MeasuredChunk) : Int :=
  chunks.foldl (MeasuredChunk.checkStaleBailout hardResyncThresholdMs) 0

def StaleThrough (hardResyncThresholdMs : Nat) : Int → List MeasuredChunk → Prop :=
  Run.Along (MeasuredChunk.checkStaleBailout hardResyncThresholdMs) fun sinceUs chunk =>
    chunk.stale hardResyncThresholdMs = true ∧
      chunk.bailsOut hardResyncThresholdMs sinceUs = false

theorem staleSinceUs_concat (hardResyncThresholdMs : Nat) (chunks : List MeasuredChunk)
    (chunk : MeasuredChunk) :
    staleSinceUs hardResyncThresholdMs (chunks ++ [chunk]) =
      MeasuredChunk.checkStaleBailout hardResyncThresholdMs
        (staleSinceUs hardResyncThresholdMs chunks) chunk := by
  rw [staleSinceUs, List.foldl_append]
  rfl

/-- The instant that is kept is that of a chunk from which on all were stale. -/
theorem staleSinceUs_began (hardResyncThresholdMs : Nat) (chunks : List MeasuredChunk)
    (runs : staleSinceUs hardResyncThresholdMs chunks ≠ 0) :
    ∃ before first rest, chunks = before ++ first :: rest ∧
      first.nowUs = staleSinceUs hardResyncThresholdMs chunks ∧
      StaleThrough hardResyncThresholdMs (staleSinceUs hardResyncThresholdMs before)
        (first :: rest) := by
  induction chunks using List.reverseRecOn with
  | nil => exact absurd rfl runs
  | append_singleton chunks chunk ih =>
      rw [staleSinceUs_concat, MeasuredChunk.checkStaleBailout] at runs ⊢
      cases stale : chunk.stale hardResyncThresholdMs with
      | false =>
          rw [stale, if_neg Bool.false_ne_true] at runs
          exact absurd rfl runs
      | true =>
          rw [stale, if_pos rfl] at runs
          rw [if_pos rfl]
          by_cases none_ : staleSinceUs hardResyncThresholdMs chunks = 0
          · have quiet : chunk.bailsOut hardResyncThresholdMs
                (staleSinceUs hardResyncThresholdMs chunks) = false := by
              rw [MeasuredChunk.bailsOut, none_]
              simp
            exact ⟨chunks, chunk, [], rfl, (if_pos none_).symm, ⟨stale, quiet⟩, trivial⟩
          · rw [if_neg none_] at runs ⊢
            cases bails : chunk.bailsOut hardResyncThresholdMs
                (staleSinceUs hardResyncThresholdMs chunks) with
            | true =>
                rw [bails, if_pos rfl] at runs
                exact absurd rfl runs
            | false =>
                obtain ⟨before, first, rest, shape, began, through⟩ := ih none_
                refine ⟨before, first, rest ++ [chunk], ?_, ?_, ?_⟩
                · rw [shape, List.append_assoc, List.cons_append]
                · rw [if_neg Bool.false_ne_true, began]
                · have stands : (first :: rest).foldl
                      (MeasuredChunk.checkStaleBailout hardResyncThresholdMs)
                      (staleSinceUs hardResyncThresholdMs before) =
                      staleSinceUs hardResyncThresholdMs chunks := by
                    rw [shape, staleSinceUs, staleSinceUs, List.foldl_append]
                  refine (Run.along_append _ _ _ (first :: rest) [chunk]).mpr ⟨through, ?_⟩
                  rw [stands]
                  exact ⟨⟨stale, bails⟩, trivial⟩

theorem MeasuredChunk.bailsOut_eq_true_iff (hardResyncThresholdMs : Nat) (chunk : MeasuredChunk)
    (sinceUs : Int) :
    chunk.bailsOut hardResyncThresholdMs sinceUs = true ↔
      chunk.stale hardResyncThresholdMs = true ∧ sinceUs ≠ 0 ∧
        staleBailoutUs ≤ chunk.nowUs - sinceUs := by
  rw [MeasuredChunk.bailsOut, Bool.and_eq_true, Bool.and_eq_true, decide_eq_true_eq,
    decide_eq_true_eq, and_assoc]

theorem MeasuredChunk.checkStaleBailout_keeps (hardResyncThresholdMs : Nat) (chunk : MeasuredChunk)
    (sinceUs : Int) (stale : chunk.stale hardResyncThresholdMs = true)
    (quiet : chunk.bailsOut hardResyncThresholdMs sinceUs = false) (runs : sinceUs ≠ 0) :
    chunk.checkStaleBailout hardResyncThresholdMs sinceUs = sinceUs := by
  rw [MeasuredChunk.checkStaleBailout, if_pos stale, if_neg runs, quiet,
    if_neg Bool.false_ne_true]

theorem staleThrough_keeps (hardResyncThresholdMs : Nat) (sinceUs : Int)
    (stretch : List MeasuredChunk) (runs : sinceUs ≠ 0)
    (through : StaleThrough hardResyncThresholdMs sinceUs stretch) :
    stretch.foldl (MeasuredChunk.checkStaleBailout hardResyncThresholdMs) sinceUs = sinceUs := by
  induction stretch with
  | nil => rfl
  | cons chunk rest ih =>
      obtain ⟨⟨stale, quiet⟩, later⟩ := through
      have same := chunk.checkStaleBailout_keeps hardResyncThresholdMs sinceUs stale quiet runs
      rw [same] at later
      rw [List.foldl_cons, same]
      exact ih later

theorem staleThrough_since (hardResyncThresholdMs : Nat) (before : List MeasuredChunk)
    (first : MeasuredChunk) (rest : List MeasuredChunk) (positive : 0 < first.nowUs)
    (ordered : ((before ++ first :: rest).map MeasuredChunk.nowUs).Pairwise (· ≤ ·))
    (through : StaleThrough hardResyncThresholdMs (staleSinceUs hardResyncThresholdMs before)
      (first :: rest)) :
    staleSinceUs hardResyncThresholdMs (before ++ first :: rest) ≠ 0 ∧
      staleSinceUs hardResyncThresholdMs (before ++ first :: rest) ≤ first.nowUs := by
  have onward : staleSinceUs hardResyncThresholdMs (before ++ first :: rest) =
      rest.foldl (MeasuredChunk.checkStaleBailout hardResyncThresholdMs)
        (first.checkStaleBailout hardResyncThresholdMs
          (staleSinceUs hardResyncThresholdMs before)) := by
    rw [staleSinceUs, List.foldl_append]
    rfl
  obtain ⟨⟨stale, quiet⟩, later⟩ := through
  by_cases none_ : staleSinceUs hardResyncThresholdMs before = 0
  · have begins : first.checkStaleBailout hardResyncThresholdMs
        (staleSinceUs hardResyncThresholdMs before) = first.nowUs := by
      rw [MeasuredChunk.checkStaleBailout, if_pos stale, if_pos none_]
    rw [begins] at later onward
    rw [onward, staleThrough_keeps hardResyncThresholdMs _ rest (by omega) later]
    exact ⟨by omega, le_refl _⟩
  · have stays := first.checkStaleBailout_keeps hardResyncThresholdMs _ stale quiet none_
    rw [stays] at later onward
    rw [onward, staleThrough_keeps hardResyncThresholdMs _ rest none_ later]
    refine ⟨none_, ?_⟩
    obtain ⟨older, start, tail, shape, began, _⟩ :=
      staleSinceUs_began hardResyncThresholdMs before none_
    rw [← began]
    rw [shape, List.map_append, List.pairwise_append] at ordered
    exact ordered.2.2 _ (by simp) _ (by simp)

def lateStale (nowUs : Nat) : MeasuredChunk :=
  { Muting.lateChunk nowUs with errorUs := 2000000 }

/-- A chunk requests the reconnect exactly where it and all before it since three seconds were
stale, and none of these has requested it. -/
theorem bailsOut_iff (hardResyncThresholdMs : Nat) (chunks : List MeasuredChunk)
    (chunk : MeasuredChunk) (booted : ∀ earlier ∈ chunks, 0 < earlier.nowUs)
    (ordered : (chunks.map MeasuredChunk.nowUs).Pairwise (· ≤ ·)) :
    chunk.bailsOut hardResyncThresholdMs (staleSinceUs hardResyncThresholdMs chunks) = true ↔
      chunk.stale hardResyncThresholdMs = true ∧
        ∃ before first rest, chunks = before ++ first :: rest ∧
          StaleThrough hardResyncThresholdMs (staleSinceUs hardResyncThresholdMs before)
            (first :: rest) ∧
          first.nowUs + staleBailoutUs ≤ chunk.nowUs := by
  rw [chunk.bailsOut_eq_true_iff]
  refine and_congr_right fun _ => ⟨fun ⟨runs, elapsed⟩ => ?_, ?_⟩
  · obtain ⟨before, first, rest, shape, began, through⟩ :=
      staleSinceUs_began hardResyncThresholdMs chunks runs
    exact ⟨before, first, rest, shape, through, by omega⟩
  · rintro ⟨before, first, rest, rfl, through, elapsed⟩
    obtain ⟨runs, since⟩ := staleThrough_since hardResyncThresholdMs before first rest
      (booted first (by simp)) ordered through
    exact ⟨runs, by omega⟩

theorem bailsOut_iff_late :
    (lateStale 3000001).bailsOut 50 (staleSinceUs 50 [lateStale 1]) = true ↔
      (lateStale 3000001).stale 50 = true ∧
        ∃ before first rest, [lateStale 1] = before ++ first :: rest ∧
          StaleThrough 50 (staleSinceUs 50 before) (first :: rest) ∧
          first.nowUs + staleBailoutUs ≤ (lateStale 3000001).nowUs :=
  bailsOut_iff 50 [lateStale 1] (lateStale 3000001) (by decide) (by decide)

end Player
