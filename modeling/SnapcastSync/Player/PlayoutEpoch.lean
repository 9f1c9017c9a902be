import SnapcastSync.Lib.Run
import SnapcastSync.Player.Ledger

/-! The epoch number of the playout accounting and its two readers: the achieved-rate fit and
the rebased comparison of pushed with received frames. Both keep what they remember for as long
as the number they loaded stays the same. -/

namespace Player

def rateWindowUs : Int := 120000000
def rpushValidFrames : Int := 10000

namespace Ledger

def rebaselines (ledger : Ledger) : Operation → Bool
  | .setOutputActive active => active && !ledger.outputActive
  | .notifyAudioPlayed _ timestampUs =>
      ledger.playoutValid && decide (pipelineFlushGapUs < timestampUs - ledger.playedLastTsUs)
  | .rebaselineAfterStarvation _ _ _ => ledger.pipelineStarved
  | _ => false

def reseedsStarved (ledger : Ledger) : Operation → Bool
  | .rebaselineAfterStarvation _ _ _ => ledger.pipelineStarved
  | _ => false

def Marks (ledger : Ledger) (operation : Operation) : Prop :=
  ledger.rebaselines operation = true →
    (ledger.step operation).playoutEpoch ≠ ledger.playoutEpoch

theorem repayPadding_counters (ledger : Ledger) (queried : Bool) (nowUs : Int) :
    (ledger.repayPadding queried nowUs).playedFramesTotal = ledger.playedFramesTotal ∧
      (ledger.repayPadding queried nowUs).playoutEpoch = ledger.playoutEpoch := by
  unfold repayPadding
  split <;> exact ⟨rfl, rfl⟩

theorem flushOnGap_played (ledger : Ledger) (frames : Nat) (timestampUs : Int) :
    (ledger.flushOnGap frames timestampUs).playedFramesTotal = ledger.playedFramesTotal := by
  unfold flushOnGap
  split <;> rfl

theorem played_le_of_counting (ledger : Ledger) (operation : Operation)
    (counting : ledger.rebaselines operation = false) :
    ledger.playedFramesTotal ≤ (ledger.step operation).playedFramesTotal := by
  cases operation with
  | setOutputActive active =>
      have branch : ¬ (active && !ledger.outputActive) = true :=
        Bool.eq_false_iff.mp counting
      rw [step, setOutputActive, if_neg branch]
  | notifyAudioPlayed frames timestampUs =>
      have same := ledger.flushOnGap_played frames timestampUs
      rw [step, notifyAudioPlayed]
      dsimp only
      rw [same]
      split
      · have := le_max_right ((ledger.flushOnGap frames timestampUs).pushedFramesTotal -
          ledger.playedFramesTotal) 0
        omega
      · omega
  | push written frameBytes => exact le_refl _
  | rebaselineAfterStarvation queries sampleRate nowUs =>
      have branch : ¬ ledger.pipelineStarved = true := Bool.eq_false_iff.mp counting
      rw [step, rebaselineAfterStarvation, if_neg branch]
  | repayPadding queried nowUs => exact (ledger.repayPadding_counters queried nowUs).1.ge
  | splitRepair report => exact (ledger.splitRepair_counters report).1.ge
  | prearmRepair nowUs => exact le_refl _
  | splitRamp chunk => exact (ledger.splitRamp_counters chunk).1.ge

theorem step_epoch (ledger : Ledger) (operation : Operation) :
    (ledger.step operation).playoutEpoch =
      if ledger.rebaselines operation && !ledger.reseedsStarved operation then
        (ledger.playoutEpoch + 1) % 2 ^ 32
      else ledger.playoutEpoch := by
  cases operation with
  | setOutputActive active =>
      change (ledger.setOutputActive active).playoutEpoch =
        if (active && !ledger.outputActive && !false) = true then _ else _
      rw [Bool.not_false, Bool.and_true, setOutputActive]
      split <;> rfl
  | notifyAudioPlayed frames timestampUs =>
      change (ledger.flushOnGap frames timestampUs).playoutEpoch =
        if (ledger.playoutValid &&
          decide (pipelineFlushGapUs < timestampUs - ledger.playedLastTsUs) && !false) = true
        then _ else _
      rw [Bool.not_false, Bool.and_true, flushOnGap]
      split <;> rfl
  | push written frameBytes => rfl
  | rebaselineAfterStarvation queries sampleRate nowUs =>
      rw [step, rebaselines, reseedsStarved, Bool.and_not_self, if_neg Bool.false_ne_true,
        rebaselineAfterStarvation]
      split <;> rfl
  | repayPadding queried nowUs => exact (ledger.repayPadding_counters queried nowUs).2
  | splitRepair report => exact (ledger.splitRepair_counters report).2
  | prearmRepair nowUs => rfl
  | splitRamp chunk => exact (ledger.splitRamp_counters chunk).2

theorem rebaselines_of_reseedsStarved (ledger : Ledger) (operation : Operation)
    (reseeds : ledger.reseedsStarved operation = true) :
    ledger.rebaselines operation = true := by
  cases operation with
  | rebaselineAfterStarvation queries sampleRate nowUs => exact reseeds
  | _ => cases reseeds

/-- Of the three, only the re-seed after a starvation leaves the epoch as it was. -/
theorem marks_iff (ledger : Ledger) (operation : Operation) :
    ledger.Marks operation ↔ ledger.reseedsStarved operation = false := by
  rw [Marks, step_epoch]
  cases reseeds : ledger.reseedsStarved operation with
  | true =>
      have rebased := ledger.rebaselines_of_reseedsStarved operation reseeds
      simp [rebased]
  | false =>
      simp only [Bool.not_false, Bool.and_true, iff_true]
      intro rebased
      rw [if_pos rebased]
      omega

end Ledger

open Ledger

/-- The ledger, and how often it has been re-baselined. The code has no such count: it is what
the epoch number stands for. -/
structure Counters where
  ledger : Ledger
  generation : Nat
deriving DecidableEq, Repr

def Counters.operate (counters : Counters) (operation : Operation) : Counters :=
  { ledger := counters.ledger.step operation
    generation :=
      if counters.ledger.rebaselines operation then counters.generation + 1
      else counters.generation }

def Counters.meanwhile (counters : Counters) (operations : List Operation) : Counters :=
  operations.foldl Counters.operate counters

structure RateSample where
  generation : Nat
  playedTsUs : Int
  serverTsUs : Int
  played : Int
deriving DecidableEq, Repr

/-- The two counters of a comparison and the generation in which each of them was read. -/
structure PushReading where
  pushed : Int
  srcReceived : Int
  pushedIn : Nat
  receivedIn : Nat
deriving DecidableEq, Repr

structure EpochReaders where
  counters : Counters
  rateEpoch : Nat
  rateServer : List RateSample
  rateLastFbTs : Int
  rateWindowStartUs : Int
  rateClosed : List RateSample
  rpushBaseValid : Bool
  rpushEpoch : Nat
  rpushBase : PushReading
  rpushBadReb : Nat
  rpushCompared : Option (PushReading × PushReading)
deriving DecidableEq, Repr

/-- A chunk at `accumulate_achieved_rate_`, with what the other threads do between its load of
the epoch and its reading of the counters. -/
structure RateChunk where
  sampleRate : Nat
  meanwhile : List Operation
  sharedOffsetUs : Option Int
  nowUs : Int
deriving DecidableEq, Repr

structure PushCheck where
  srcReceived : Int
  beforePushed : List Operation
  beforeEpoch : List Operation
deriving DecidableEq, Repr

namespace EpochReaders

def initial : EpochReaders :=
  { counters := { ledger := Ledger.initial, generation := 0 }
    rateEpoch := 0
    rateServer := []
    rateLastFbTs := 0
    rateWindowStartUs := 0
    rateClosed := []
    rpushBaseValid := false
    rpushEpoch := 0
    rpushBase := { pushed := 0, srcReceived := 0, pushedIn := 0, receivedIn := 0 }
    rpushBadReb := 0
    rpushCompared := none }

def others (readers : EpochReaders) (operations : List Operation) : EpochReaders :=
  { readers with counters := readers.counters.meanwhile operations }

def checkEpoch (readers : EpochReaders) : EpochReaders :=
  let epoch := readers.counters.ledger.playoutEpoch
  if epoch ≠ readers.rateEpoch then
    { readers with
      rateEpoch := epoch
      rateServer := []
      rateLastFbTs := 0
      rateWindowStartUs := 0 }
  else readers

def newFeedback (readers : EpochReaders) : Bool :=
  let ledger := readers.counters.ledger
  ledger.playoutValid && decide (ledger.playedLastTsUs ≠ 0) &&
    decide (ledger.playedLastTsUs ≠ readers.rateLastFbTs)

def rateSample (readers : EpochReaders) (sharedOffsetUs : Int) : RateSample :=
  { generation := readers.counters.generation
    playedTsUs := readers.counters.ledger.playedLastTsUs
    serverTsUs := readers.counters.ledger.playedLastTsUs + sharedOffsetUs
    played := readers.counters.ledger.playedFramesTotal }

def addSample (readers : EpochReaders) (sharedOffsetUs nowUs : Int) : EpochReaders :=
  { readers with
    rateServer := readers.rateServer ++ [readers.rateSample sharedOffsetUs]
    rateWindowStartUs := if readers.rateServer = [] then nowUs else readers.rateWindowStartUs }

def closeWindow (readers : EpochReaders) (nowUs : Int) : EpochReaders :=
  if nowUs - readers.rateWindowStartUs < rateWindowUs then readers
  else
    { readers with
      rateClosed := readers.rateServer
      rateServer := []
      rateWindowStartUs := nowUs }

def takeFeedback (readers : EpochReaders) : EpochReaders :=
  { readers with rateLastFbTs := readers.counters.ledger.playedLastTsUs }

def readFeedback (readers : EpochReaders) (chunk : RateChunk) : EpochReaders :=
  if readers.newFeedback then
    match chunk.sharedOffsetUs with
    | none => readers.takeFeedback
    | some sharedOffsetUs =>
        (readers.takeFeedback.addSample sharedOffsetUs chunk.nowUs).closeWindow chunk.nowUs
  else readers

def accumulateAchievedRate (readers : EpochReaders) (chunk : RateChunk) : EpochReaders :=
  if chunk.sampleRate = 0 then readers.others chunk.meanwhile
  else (readers.checkEpoch.others chunk.meanwhile).readFeedback chunk

def pushReading (readers : EpochReaders) (check : PushCheck) : PushReading :=
  { pushed := (readers.counters.meanwhile check.beforePushed).ledger.pushedFramesTotal
    srcReceived := check.srcReceived
    pushedIn := (readers.counters.meanwhile check.beforePushed).generation
    receivedIn := readers.counters.generation }

def keepsBase (readers : EpochReaders) : Bool :=
  readers.rpushBaseValid && decide (readers.counters.ledger.playoutEpoch = readers.rpushEpoch)

def rebase (readers : EpochReaders) (now : PushReading) : EpochReaders :=
  if readers.keepsBase then readers
  else
    { readers with
      rpushEpoch := readers.counters.ledger.playoutEpoch
      rpushBase := now
      rpushBaseValid := true }

def compare (readers : EpochReaders) (now : PushReading) : EpochReaders :=
  let rPushReb := (now.pushed - readers.rpushBase.pushed) -
    (now.srcReceived - readers.rpushBase.srcReceived)
  { readers with
    rpushBadReb :=
      if rPushReb < -rpushValidFrames || rpushValidFrames < rPushReb then
        readers.rpushBadReb + 1
      else readers.rpushBadReb
    rpushCompared := some (now, readers.rpushBase) }

def checkPush (readers : EpochReaders) (check : PushCheck) : EpochReaders :=
  let now := readers.pushReading check
  ((readers.others (check.beforePushed ++ check.beforeEpoch)).rebase now).compare now

inductive Event where
  | operate (operation : Operation)
  | accumulateAchievedRate (chunk : RateChunk)
  | checkPush (check : PushCheck)
deriving DecidableEq, Repr

def Event.operations : Event → List Operation
  | .operate operation => [operation]
  | .accumulateAchievedRate chunk => chunk.meanwhile
  | .checkPush check => check.beforePushed ++ check.beforeEpoch

def step (readers : EpochReaders) : Event → EpochReaders
  | .operate operation => readers.others [operation]
  | .accumulateAchievedRate chunk => readers.accumulateAchievedRate chunk
  | .checkPush check => readers.checkPush check

/-- Values of one generation: none of them from the other side of a re-baseline. -/
def Together (generations : List Nat) : Prop :=
  ∀ one ∈ generations, ∀ other ∈ generations, one = other

instance (generations : List Nat) : Decidable (Together generations) := by
  unfold Together
  infer_instance

def comparedIn : Option (PushReading × PushReading) → List Nat
  | none => []
  | some (now, base) => [now.pushedIn, now.receivedIn, base.pushedIn, base.receivedIn]

/-- No fit window, open or closed, and no comparison straddles a re-baseline. -/
def Uniform (readers : EpochReaders) : Prop :=
  Together (readers.rateServer.map RateSample.generation) ∧
    Together (readers.rateClosed.map RateSample.generation) ∧
    Together (comparedIn readers.rpushCompared)

instance (readers : EpochReaders) : Decidable readers.Uniform := by
  unfold Uniform
  infer_instance

def Marked (readers : EpochReaders) (event : Event) : Prop :=
  Run.Along Ledger.step Ledger.Marks readers.counters.ledger event.operations

def Reseedless (readers : EpochReaders) (event : Event) : Prop :=
  Run.Along Ledger.step (fun ledger operation => ledger.reseedsStarved operation = false)
    readers.counters.ledger event.operations

def Current (readers : EpochReaders) : Event → Prop
  | .operate _ => True
  | .accumulateAchievedRate chunk =>
      let reading := readers.checkEpoch.others chunk.meanwhile
      chunk.sampleRate ≠ 0 → reading.newFeedback = true → chunk.sharedOffsetUs ≠ none →
        ∀ sample ∈ reading.rateServer, sample.generation = reading.counters.generation
  | .checkPush check =>
      let now := readers.pushReading check
      now.receivedIn = now.pushedIn ∧
        ((readers.others (check.beforePushed ++ check.beforeEpoch)).keepsBase = true →
          readers.rpushBase.pushedIn = now.pushedIn)

def Keeps (readers : EpochReaders) (event : Event) : Prop :=
  readers.Reseedless event ∧ readers.Current event

theorem together_concat (generations : List Nat) (last : Nat) :
    Together (generations ++ [last]) ↔
      Together generations ∧ ∀ generation ∈ generations, generation = last := by
  constructor
  · intro together
    constructor
    · intro one oneMember other otherMember
      exact together one (List.mem_append_left _ oneMember) other
        (List.mem_append_left _ otherMember)
    · intro generation member
      exact together generation (List.mem_append_left _ member) last
        (List.mem_append_right _ (List.mem_singleton_self last))
  · rintro ⟨together, same⟩ one oneMember other otherMember
    rcases List.mem_append.mp oneMember with one_ | one_
    · rcases List.mem_append.mp otherMember with other_ | other_
      · exact together one one_ other other_
      · rw [List.mem_singleton.mp other_]
        exact same one one_
    · rw [List.mem_singleton.mp one_]
      rcases List.mem_append.mp otherMember with other_ | other_
      · exact (same other other_).symm
      · exact (List.mem_singleton.mp other_).symm

theorem together_cons (first : Nat) (rest : List Nat) :
    Together (first :: rest) ↔ ∀ other ∈ rest, other = first := by
  constructor
  · intro together other member
    exact together other (List.mem_cons_of_mem first member) first List.mem_cons_self
  · intro same
    have all : ∀ generation ∈ first :: rest, generation = first := by
      intro generation member
      rcases List.mem_cons.mp member with rfl | later
      · rfl
      · exact same generation later
    intro one oneMember other otherMember
    rw [all one oneMember, all other otherMember]

theorem together_nil : Together [] := fun _ impossible => nomatch impossible

def Invariant (readers : EpochReaders) : Prop :=
  readers.Uniform ∧
    (readers.rpushBaseValid = true → readers.rpushBase.receivedIn = readers.rpushBase.pushedIn)

@[simp] theorem checkEpoch_counters (readers : EpochReaders) :
    readers.checkEpoch.counters = readers.counters := by
  rw [checkEpoch]
  split <;> rfl

theorem checkEpoch_invariant (readers : EpochReaders) (invariant : readers.Invariant) :
    readers.checkEpoch.Invariant := by
  obtain ⟨⟨_, closed, compared⟩, base⟩ := invariant
  rw [checkEpoch]
  split
  · exact ⟨⟨together_nil, closed, compared⟩, base⟩
  · exact ⟨⟨by assumption, closed, compared⟩, base⟩

theorem addSample_uniform_iff (readers : EpochReaders) (sharedOffsetUs nowUs : Int)
    (uniform : readers.Uniform) :
    (readers.addSample sharedOffsetUs nowUs).Uniform ↔
      ∀ sample ∈ readers.rateServer, sample.generation = readers.counters.generation := by
  have split := together_concat (readers.rateServer.map RateSample.generation)
    readers.counters.generation
  have same : (readers.addSample sharedOffsetUs nowUs).rateServer.map RateSample.generation =
      readers.rateServer.map RateSample.generation ++ [readers.counters.generation] :=
    List.map_append
  rw [List.forall_mem_map] at split
  constructor
  · rintro ⟨open_, _, _⟩
    rw [same] at open_
    exact (split.mp open_).2
  · intro current
    refine ⟨?_, uniform.2⟩
    rw [same]
    exact split.mpr ⟨uniform.1, current⟩

theorem closeWindow_uniform_iff (readers : EpochReaders) (nowUs : Int)
    (closed : Together (readers.rateClosed.map RateSample.generation)) :
    (readers.closeWindow nowUs).Uniform ↔ readers.Uniform := by
  rw [closeWindow]
  split
  · exact Iff.rfl
  · constructor
    · rintro ⟨_, closes, compared⟩
      exact ⟨closes, closed, compared⟩
    · rintro ⟨open_, _, compared⟩
      exact ⟨together_nil, open_, compared⟩

theorem readFeedback_uniform_iff (readers : EpochReaders) (chunk : RateChunk)
    (uniform : readers.Uniform) :
    (readers.readFeedback chunk).Uniform ↔
      (readers.newFeedback = true → chunk.sharedOffsetUs ≠ none →
        ∀ sample ∈ readers.rateServer, sample.generation = readers.counters.generation) := by
  rw [readFeedback]
  by_cases fresh : readers.newFeedback = true
  · rw [if_pos fresh]
    cases shared : chunk.sharedOffsetUs with
    | none => exact ⟨fun _ _ some_ => absurd rfl some_, fun _ => uniform⟩
    | some sharedOffsetUs =>
        have taken : readers.takeFeedback.Uniform := uniform
        rw [closeWindow_uniform_iff (readers.takeFeedback.addSample sharedOffsetUs chunk.nowUs) _
          uniform.2.1, addSample_uniform_iff _ _ _ taken]
        exact ⟨fun current _ _ => current, fun current => current fresh (Option.some_ne_none _)⟩
  · rw [if_neg fresh]
    exact ⟨fun _ newer => absurd newer fresh, fun _ => uniform⟩

theorem readFeedback_base (readers : EpochReaders) (chunk : RateChunk) :
    (readers.readFeedback chunk).rpushBaseValid = readers.rpushBaseValid ∧
      (readers.readFeedback chunk).rpushBase = readers.rpushBase := by
  rw [readFeedback]
  split
  · split
    · exact ⟨rfl, rfl⟩
    · rw [closeWindow]
      split <;> exact ⟨rfl, rfl⟩
  · exact ⟨rfl, rfl⟩

theorem accumulateAchievedRate_uniform_iff (readers : EpochReaders) (chunk : RateChunk)
    (invariant : readers.Invariant) :
    (readers.accumulateAchievedRate chunk).Uniform ↔
      readers.Current (.accumulateAchievedRate chunk) := by
  rw [accumulateAchievedRate, Current]
  by_cases formatless : chunk.sampleRate = 0
  · rw [if_pos formatless]
    exact ⟨fun _ some_ => absurd formatless some_, fun _ => invariant.1⟩
  · rw [if_neg formatless]
    have uniform : (readers.checkEpoch.others chunk.meanwhile).Uniform :=
      (readers.checkEpoch_invariant invariant).1
    rw [readFeedback_uniform_iff _ chunk uniform]
    exact ⟨fun current _ => current, fun current => current formatless⟩

theorem accumulateAchievedRate_base (readers : EpochReaders) (chunk : RateChunk)
    (invariant : readers.Invariant) :
    (readers.accumulateAchievedRate chunk).rpushBaseValid = true →
      (readers.accumulateAchievedRate chunk).rpushBase.receivedIn =
        (readers.accumulateAchievedRate chunk).rpushBase.pushedIn := by
  rw [accumulateAchievedRate]
  split
  · exact invariant.2
  · obtain ⟨valid, base⟩ :=
      (readers.checkEpoch.others chunk.meanwhile).readFeedback_base chunk
    rw [valid, base]
    exact (readers.checkEpoch_invariant invariant).2

theorem compared_together_iff (now base : PushReading) (one : base.receivedIn = base.pushedIn) :
    Together (comparedIn (some (now, base))) ↔
      now.receivedIn = now.pushedIn ∧ base.pushedIn = now.pushedIn := by
  rw [comparedIn, together_cons, one]
  simp

theorem compared_self_iff (now : PushReading) :
    Together (comparedIn (some (now, now))) ↔ now.receivedIn = now.pushedIn := by
  rw [comparedIn, together_cons]
  simp

theorem checkPush_uniform_iff (readers : EpochReaders) (check : PushCheck)
    (invariant : readers.Invariant) :
    (readers.checkPush check).Uniform ↔ readers.Current (.checkPush check) := by
  have windows : (readers.checkPush check).Uniform ↔
      Together (comparedIn (readers.checkPush check).rpushCompared) := by
    have server : (readers.checkPush check).rateServer = readers.rateServer ∧
        (readers.checkPush check).rateClosed = readers.rateClosed := by
      rw [checkPush, rebase]
      split <;> exact ⟨rfl, rfl⟩
    rw [Uniform, server.1, server.2]
    exact ⟨fun uniform => uniform.2.2,
      fun compared => ⟨invariant.1.1, invariant.1.2.1, compared⟩⟩
  rw [windows, checkPush, rebase, Current]
  by_cases kept :
      (readers.others (check.beforePushed ++ check.beforeEpoch)).keepsBase = true
  · rw [if_pos kept]
    have valid : readers.rpushBaseValid = true := (Bool.and_eq_true_iff.mp kept).1
    exact (compared_together_iff _ _ (invariant.2 valid)).trans
      (and_congr_right fun _ => ⟨fun base _ => base, fun base => base kept⟩)
  · rw [if_neg kept]
    exact (compared_self_iff _).trans
      ⟨fun reading => ⟨reading, fun keeps => absurd keeps kept⟩, fun current => current.1⟩

theorem checkPush_base (readers : EpochReaders) (check : PushCheck)
    (invariant : readers.Invariant) (reading : readers.Current (.checkPush check)) :
    (readers.checkPush check).rpushBaseValid = true →
      (readers.checkPush check).rpushBase.receivedIn =
        (readers.checkPush check).rpushBase.pushedIn := by
  rw [checkPush, rebase]
  split
  · exact invariant.2
  · exact fun _ => reading.1

theorem step_uniform_iff (readers : EpochReaders) (event : Event)
    (invariant : readers.Invariant) :
    (readers.step event).Uniform ↔ readers.Current event := by
  cases event with
  | operate operation => exact ⟨fun _ => trivial, fun _ => invariant.1⟩
  | accumulateAchievedRate chunk =>
      exact readers.accumulateAchievedRate_uniform_iff chunk invariant
  | checkPush check => exact readers.checkPush_uniform_iff check invariant

theorem step_invariant (readers : EpochReaders) (event : Event) (invariant : readers.Invariant)
    (current : readers.Current event) : (readers.step event).Invariant := by
  refine ⟨(readers.step_uniform_iff event invariant).mpr current, ?_⟩
  cases event with
  | operate operation => exact invariant.2
  | accumulateAchievedRate chunk =>
      exact readers.accumulateAchievedRate_base chunk invariant
  | checkPush check => exact readers.checkPush_base check invariant current

theorem marked_iff (readers : EpochReaders) (event : Event) :
    readers.Marked event ↔ readers.Reseedless event :=
  Run.along_congr Ledger.step _ _ _ _ fun operation _ ledger => ledger.marks_iff operation

theorem initial_invariant : initial.Invariant :=
  ⟨⟨together_nil, together_nil, together_nil⟩, fun impossible => nomatch impossible⟩

/-- No starvation re-seeds the ledger, no re-baseline falls between what a reader loads, and the
epoch has not come round. -/
def Undisturbed (readers : EpochReaders) (event : Event) : Prop :=
  readers.counters.generation < 2 ^ 32 ∧
    match event with
    | .operate operation => readers.counters.ledger.reseedsStarved operation = false
    | .accumulateAchievedRate chunk =>
        Run.Along Ledger.step (fun ledger operation => ledger.rebaselines operation = false)
          readers.counters.ledger chunk.meanwhile
    | .checkPush check =>
        Run.Along Ledger.step (fun ledger operation => ledger.rebaselines operation = false)
          readers.counters.ledger (check.beforePushed ++ check.beforeEpoch)

/-- The epochs are the generations, as far as 32 bits hold them. -/
def Synced (readers : EpochReaders) : Prop :=
  readers.counters.ledger.playoutEpoch = readers.counters.generation % 2 ^ 32 ∧
    (∀ sample ∈ readers.rateServer, sample.generation ≤ readers.counters.generation ∧
      sample.generation % 2 ^ 32 = readers.rateEpoch) ∧
    (readers.rpushBaseValid = true → readers.rpushBase.pushedIn ≤ readers.counters.generation ∧
      readers.rpushBase.pushedIn % 2 ^ 32 = readers.rpushEpoch)

theorem reseedless_of_counting (ledger : Ledger) (operations : List Operation)
    (counting : Run.Along Ledger.step
      (fun ledger operation => ledger.rebaselines operation = false) ledger operations) :
    Run.Along Ledger.step (fun ledger operation => ledger.reseedsStarved operation = false)
      ledger operations := by
  refine Run.along_mono Ledger.step _ _ (fun ledger operation counts => ?_) _ _ counting
  cases reseeds : ledger.reseedsStarved operation with
  | false => rfl
  | true =>
      rw [ledger.rebaselines_of_reseedsStarved operation reseeds] at counts
      exact counts

theorem meanwhile_of_counting (counters : Counters) (operations : List Operation)
    (counting : Run.Along Ledger.step
      (fun ledger operation => ledger.rebaselines operation = false) counters.ledger operations) :
    (counters.meanwhile operations).generation = counters.generation ∧
      (counters.meanwhile operations).ledger.playoutEpoch = counters.ledger.playoutEpoch := by
  induction operations generalizing counters with
  | nil => exact ⟨rfl, rfl⟩
  | cons operation rest ih =>
      obtain ⟨generation, epoch⟩ := ih (counters.operate operation) counting.2
      have here : (counters.operate operation).generation = counters.generation := by
        rw [Counters.operate, counting.1, if_neg Bool.false_ne_true]
      have epochHere :
          (counters.operate operation).ledger.playoutEpoch = counters.ledger.playoutEpoch := by
        rw [Counters.operate, step_epoch, counting.1, Bool.false_and, if_neg Bool.false_ne_true]
      exact ⟨generation.trans here, epoch.trans epochHere⟩

theorem operate_synced (counters : Counters) (operation : Operation)
    (marked : counters.ledger.reseedsStarved operation = false)
    (synced : counters.ledger.playoutEpoch = counters.generation % 2 ^ 32) :
    (counters.operate operation).ledger.playoutEpoch =
        (counters.operate operation).generation % 2 ^ 32 ∧
      counters.generation ≤ (counters.operate operation).generation := by
  rw [Counters.operate]
  dsimp only
  rw [step_epoch, marked, Bool.not_false, Bool.and_true, synced]
  split
  · omega
  · omega

theorem checkEpoch_synced (readers : EpochReaders) (synced : readers.Synced) :
    readers.checkEpoch.Synced ∧
      readers.checkEpoch.rateEpoch = readers.counters.generation % 2 ^ 32 := by
  obtain ⟨epoch, samples, base⟩ := synced
  rw [checkEpoch]
  split
  · refine ⟨⟨epoch, ?_, base⟩, epoch⟩
    intro sample impossible
    cases impossible
  · rename_i same
    rw [not_not] at same
    exact ⟨⟨epoch, samples, base⟩, same ▸ epoch⟩

theorem others_synced (readers : EpochReaders) (operations : List Operation)
    (counting : Run.Along Ledger.step
      (fun ledger operation => ledger.rebaselines operation = false)
      readers.counters.ledger operations)
    (synced : readers.Synced) : (readers.others operations).Synced := by
  obtain ⟨generation, epoch⟩ := meanwhile_of_counting readers.counters operations counting
  rw [Synced, others]
  dsimp only
  rw [generation, epoch]
  exact synced

theorem readFeedback_synced (readers : EpochReaders) (chunk : RateChunk)
    (loaded : readers.rateEpoch = readers.counters.generation % 2 ^ 32)
    (synced : readers.Synced) : (readers.readFeedback chunk).Synced := by
  rw [readFeedback]
  split
  · split
    · exact synced
    · rename_i sharedOffsetUs _
      obtain ⟨epoch, samples, base⟩ := synced
      have added : (readers.takeFeedback.addSample sharedOffsetUs chunk.nowUs).Synced := by
        refine ⟨epoch, ?_, base⟩
        intro sample member
        rcases List.mem_append.mp member with before | last
        · exact samples sample before
        · rw [List.mem_singleton.mp last]
          exact ⟨le_refl _, loaded.symm⟩
      rw [closeWindow]
      split
      · exact added
      · refine ⟨epoch, ?_, base⟩
        intro sample impossible
        cases impossible
  · exact synced

theorem checkPush_synced (readers : EpochReaders) (check : PushCheck)
    (counting : Run.Along Ledger.step
      (fun ledger operation => ledger.rebaselines operation = false)
      readers.counters.ledger (check.beforePushed ++ check.beforeEpoch))
    (synced : readers.Synced) : (readers.checkPush check).Synced := by
  have after := readers.others_synced _ counting synced
  obtain ⟨generation, _⟩ := meanwhile_of_counting readers.counters _ counting
  have early := ((Run.along_append Ledger.step _ _ _ _).mp counting).1
  obtain ⟨read, _⟩ := meanwhile_of_counting readers.counters _ early
  rw [checkPush, rebase]
  split
  · exact after
  · refine ⟨after.1, after.2.1, fun _ => ⟨?_, ?_⟩⟩
    · change (readers.counters.meanwhile check.beforePushed).generation ≤
        (readers.counters.meanwhile (check.beforePushed ++ check.beforeEpoch)).generation
      rw [read, generation]
    · change (readers.counters.meanwhile check.beforePushed).generation % 2 ^ 32 =
        (readers.counters.meanwhile
          (check.beforePushed ++ check.beforeEpoch)).ledger.playoutEpoch
      rw [read, ← generation]
      exact after.1.symm

theorem step_synced (readers : EpochReaders) (event : Event) (synced : readers.Synced)
    (undisturbed : readers.Undisturbed event) : (readers.step event).Synced := by
  cases event with
  | operate operation =>
      obtain ⟨epoch, later⟩ :=
        operate_synced readers.counters operation undisturbed.2 synced.1
      refine ⟨epoch, ?_, ?_⟩
      · intro sample member
        obtain ⟨earlier, loaded⟩ := synced.2.1 sample member
        exact ⟨earlier.trans later, loaded⟩
      · intro valid
        obtain ⟨earlier, loaded⟩ := synced.2.2 valid
        exact ⟨earlier.trans later, loaded⟩
  | accumulateAchievedRate chunk =>
      rw [step, accumulateAchievedRate]
      split
      · exact readers.others_synced _ undisturbed.2 synced
      · obtain ⟨checked, loaded⟩ := readers.checkEpoch_synced synced
        have counting := undisturbed.2
        rw [← checkEpoch_counters] at counting loaded
        apply readFeedback_synced
        · change readers.checkEpoch.rateEpoch = _ % 2 ^ 32
          rw [loaded]
          exact congrArg (· % 2 ^ 32)
            (meanwhile_of_counting readers.checkEpoch.counters _ counting).1.symm
        · exact readers.checkEpoch.others_synced _ counting checked
  | checkPush check => exact readers.checkPush_synced check undisturbed.2 synced

theorem keeps_of_undisturbed (readers : EpochReaders) (event : Event) (synced : readers.Synced)
    (undisturbed : readers.Undisturbed event) : readers.Keeps event := by
  obtain ⟨within, undisturbed⟩ := undisturbed
  cases event with
  | operate operation => exact ⟨⟨undisturbed, trivial⟩, trivial⟩
  | accumulateAchievedRate chunk =>
      refine ⟨reseedless_of_counting _ _ undisturbed, fun _ _ _ sample member => ?_⟩
      obtain ⟨checked, loaded⟩ := readers.checkEpoch_synced synced
      obtain ⟨generation, _⟩ := meanwhile_of_counting readers.counters _ undisturbed
      obtain ⟨earlier, sampled⟩ := checked.2.1 sample member
      change sample.generation = (readers.checkEpoch.counters.meanwhile chunk.meanwhile).generation
      rw [checkEpoch_counters] at earlier ⊢
      rw [generation]
      omega
  | checkPush check =>
      obtain ⟨generation, epoch⟩ := meanwhile_of_counting readers.counters _ undisturbed
      have early := ((Run.along_append Ledger.step _ _ _ _).mp undisturbed).1
      obtain ⟨read, _⟩ := meanwhile_of_counting readers.counters _ early
      refine ⟨reseedless_of_counting _ _ undisturbed, read.symm, fun keeps => ?_⟩
      have kept := Bool.and_eq_true_iff.mp keeps
      obtain ⟨earlier, based⟩ := synced.2.2 kept.1
      have loaded := of_decide_eq_true kept.2
      change (readers.counters.meanwhile _).ledger.playoutEpoch = readers.rpushEpoch at loaded
      change readers.rpushBase.pushedIn =
        (readers.counters.meanwhile check.beforePushed).generation
      rw [epoch, synced.1] at loaded
      rw [read]
      omega

theorem initial_synced : initial.Synced := by
  refine ⟨rfl, ?_, ?_⟩
  · intro sample impossible
    cases impossible
  · intro impossible
    cases impossible

/-- The epoch marks every re-baseline, and no window and no comparison straddles one, in just
those runs in which no starvation re-seeds the ledger and each reader finds what it kept still
current; an undisturbed run is one of them. -/
theorem epoch_marks_iff (events : List Event) :
    ((Run.Along step Marked initial events ∧ Run.Visits step Uniform initial events) ↔
        Run.Along step Keeps initial events) ∧
      (Run.Along step Undisturbed initial events → Run.Along step Keeps initial events) := by
  have marks : Run.Along step Marked initial events ↔
      Run.Along step Reseedless initial events :=
    Run.along_congr step _ _ _ _ fun event _ readers => readers.marked_iff event
  have keeps : Run.Along step Keeps initial events ↔
      Run.Along step Reseedless initial events ∧ Run.Along step Current initial events :=
    Run.along_and step Reseedless Current initial events
  constructor
  · rw [marks, keeps, Run.visits_iff_along_of_invariant step Invariant Uniform Current
      (fun _ invariant => invariant.1) step_uniform_iff step_invariant _ _ initial_invariant]
  · exact Run.along_of_along step Synced Undisturbed Keeps step_synced keeps_of_undisturbed _ _
      initial_synced

def starvedBetweenSamples : List Event :=
  [.operate (.setOutputActive true),
    .operate (.push 35280 4),
    .operate (.notifyAudioPlayed 8820 1000000),
    .accumulateAchievedRate ⟨44100, [], some 0, 1000000⟩,
    .operate (.notifyAudioPlayed 441 1010000),
    .operate (.rebaselineAfterStarvation ⟨some 20000, some 20000⟩ 44100 1020000),
    .operate (.push 35280 4),
    .operate (.notifyAudioPlayed 441 1030000),
    .accumulateAchievedRate ⟨44100, [], some 0, 1030000⟩]

theorem starvation_straddled :
    ¬ ∀ events : List Event,
      Run.Along step Marked initial events ∧ Run.Visits step Uniform initial events := by
  intro always
  have uniform := Run.visits_last step Uniform _ _ (always starvedBetweenSamples).2
  revert uniform
  decide

end EpochReaders

end Player
