import SnapcastSync.Engine.Calls
import SnapcastSync.Lib.OneSlot

/-! One frame correction at a time. The engine is read as a slot: a command takes it, a
confirmation settles it and adds its frames to the rate credit, and a step drops it once it is
overdue. What the engine does to the slot is logged from its observable effects. -/

namespace Timing

open OneSlot Rounding

variable {K : Type}

/-- A correction where it is issued or given up: when, under which settle horizon, and which. -/
structure Stamp where
  atUs : Int
  settleUs : Int
  id : Nat
  frames : Int

namespace Stamp

structure Names (issue receipt : Stamp) : Prop where
  id : receipt.id = issue.id
  frames : receipt.frames = issue.frames

def Overdue (issue receipt : Stamp) : Prop :=
  maxInFlightHorizons * receipt.settleUs < receipt.atUs - issue.atUs

structure Succeeds (first second : Stamp) : Prop where
  settled : first.atUs + first.settleUs ≤ second.atUs
  id : second.id = (first.id + 1) % 2 ^ 64

def rules : Rules Stamp Stamp :=
  { follows := Succeeds
    settles := Names
    drops := fun issue receipt => Names issue receipt ∧ Overdue issue receipt }

end Stamp

abbrev FlightLog : Type := List (Mark Stamp Stamp)

namespace FlightLog

structure Consecutive (log : FlightLog) (first second : Stamp) (between : FlightLog) : Prop where
  split : ∃ early late, log = early ++ .taken first :: (between ++ .taken second :: late)
  untaken : ∀ mark ∈ between, mark.takes = none

/-- Consecutive commands are apart, the first was given up once before the second, and every
correction that is credited was still in flight. -/
structure OneAtATime (log : FlightLog) : Prop where
  apart : ∀ first second between, log.Consecutive first second between →
    Stamp.Succeeds first second ∧
      ∃ receipt, Stamp.Names first receipt ∧
        (between = [.settled receipt] ∨
          (between = [.dropped receipt] ∧ Stamp.Overdue first receipt))
  creditedOnce : ∀ receipt early late, log = early ++ .settled receipt :: late →
    ∃ earlier issue, early = earlier ++ [.taken issue] ∧ Stamp.Names issue receipt

def IdsIncrease (log : FlightLog) : Prop :=
  ∀ first second between, log.Consecutive first second between → first.id < second.id

theorem oneAtATime_of_orderly (log : FlightLog) (orderly : Orderly Stamp.rules Slot.free log) :
    log.OneAtATime := by
  constructor
  · intro first second between consecutive
    obtain ⟨early, late, rfl⟩ := consecutive.split
    obtain ⟨succeeds, receipt, given⟩ := givenUp_between Stamp.rules Slot.free first second early
      between late consecutive.untaken orderly
    refine ⟨succeeds, receipt, ?_⟩
    rcases given with ⟨settled, names⟩ | ⟨dropped, names, overdue⟩
    · exact ⟨names, Or.inl settled⟩
    · exact ⟨names, Or.inr ⟨dropped, overdue⟩⟩
  · rintro receipt early late rfl
    exact taken_before_settled Stamp.rules receipt early late orderly

end FlightLog

variable [Field K] [LinearOrder K] [FloorRing K]

namespace Engine

def stamp (engine : Engine K) (nowUs : Int) : Stamp :=
  { atUs := nowUs
    settleUs := engine.profile.settleUs
    id := engine.inFlightId
    frames := engine.inFlightFrames }

inductive FlightStep (nowUs : Int) (before after : Engine K) (command : Command K) : Prop where
  | kept (idle : command.frames = 0)
      (inFlight : after.inFlight = before.inFlight)
      (id : after.inFlightId = before.inFlightId)
      (frames : after.inFlightFrames = before.inFlightFrames)
      (since : after.inFlightSinceUs = before.inFlightSinceUs)
      (serialise : after.serialiseUntilUs = before.serialiseUntilUs)
      (next : after.nextId = before.nextId)
  | expired (idle : command.frames = 0)
      (held : before.inFlight = true)
      (overdue : maxInFlightHorizons * before.profile.settleUs < nowUs - before.inFlightSinceUs)
      (inFlight : after.inFlight = false)
      (serialise : after.serialiseUntilUs = before.serialiseUntilUs)
      (next : after.nextId = before.nextId)
  | issued (commanded : command.frames ≠ 0)
      (overdue : before.inFlight = true →
        maxInFlightHorizons * before.profile.settleUs < nowUs - before.inFlightSinceUs)
      (serialised : before.serialiseUntilUs ≤ nowUs)
      (named : command.correctionId = before.nextId)
      (inFlight : after.inFlight = true)
      (id : after.inFlightId = before.nextId)
      (frames : after.inFlightFrames = command.frames)
      (since : after.inFlightSinceUs = nowUs)
      (serialise : after.serialiseUntilUs = nowUs + before.profile.settleUs)
      (next : after.nextId = (before.nextId + 1) % 2 ^ 64)

structure Awaited (nowUs : Int) (before after : Engine K) : Prop where
  profile : after.profile = before.profile
  serialise : after.serialiseUntilUs = before.serialiseUntilUs
  next : after.nextId = before.nextId
  flight : (after.inFlight = before.inFlight ∧ after.inFlightId = before.inFlightId ∧
      after.inFlightFrames = before.inFlightFrames ∧
      after.inFlightSinceUs = before.inFlightSinceUs) ∨
    (after.inFlight = false ∧ before.inFlight = true ∧
      maxInFlightHorizons * before.profile.settleUs < nowUs - before.inFlightSinceUs)

theorem assess_awaited (engine : Engine K) (libm : Libm K) (nowUs : Int) (obs : Observation)
    (group : GroupEvidence) :
    Awaited nowUs engine (engine.assess libm nowUs obs group).engine := by
  obtain ⟨err, gd, sigma, at_, same⟩ := assess_refiltered engine libm nowUs obs group
  obtain ⟨until_, disp, ref, retired⟩ := retirePending_pending engine nowUs obs.errorUs
  rw [same, retired]
  unfold expireInFlight
  split
  · rename_i overdue
    exact ⟨rfl, rfl, rfl, Or.inr ⟨rfl, overdue.1, overdue.2⟩⟩
  · exact ⟨rfl, rfl, rfl, Or.inl ⟨rfl, rfl, rfl, rfl⟩⟩

theorem Awaited.flightStep {nowUs : Int} {before awaited after : Engine K} {command : Command K}
    (awaits : Awaited nowUs before awaited) (same : Steered awaited after)
    (idle : command.frames = 0) : FlightStep nowUs before after command := by
  have serialise := same.serialiseUntilUs.trans awaits.serialise
  have next := same.nextId.trans awaits.next
  rcases awaits.flight with ⟨inFlight, id, frames, since⟩ | ⟨free, held, overdue⟩
  · exact .kept idle (same.inFlight.trans inFlight) (same.inFlightId.trans id)
      (same.inFlightFrames.trans frames) (same.inFlightSinceUs.trans since) serialise next
  · exact .expired idle held overdue (same.inFlight.trans free) serialise next

theorem step_flightStep (engine : Engine K) (libm : Libm K) (nowUs : Int) (obs : Observation)
    (group : GroupEvidence) :
    FlightStep nowUs engine (engine.step libm nowUs obs group).1
      (engine.step libm nowUs obs group).2 := by
  have awaits := assess_awaited engine libm nowUs obs group
  cases engine.step_exit libm nowUs obs group with
  | invalid _ same =>
      rw [same]
      exact .kept rfl rfl rfl rfl rfl rfl rfl
  | starved _ _ same =>
      obtain ⟨until_, disp, ref, retired⟩ := retirePending_pending engine nowUs obs.errorUs
      rw [same, retired]
      exact .kept rfl rfl rfl rfl rfl rfl rfl
  | blocked _ _ _ same =>
      rw [same]
      exact awaits.flightStep (hold_steered _ _ _) rfl
  | issued ready same =>
      rw [same]
      have overdue : engine.inFlight = true →
          maxInFlightHorizons * engine.profile.settleUs < nowUs - engine.inFlightSinceUs := by
        intro held
        rcases awaits.flight with ⟨inFlight, _⟩ | ⟨_, _, overdue⟩
        · exact absurd (ready.free.symm.trans (inFlight.trans held)) Bool.false_ne_true
        · exact overdue
      have serialised := ready.serialised
      rw [awaits.serialise] at serialised
      have serialise : nowUs + (engine.assess libm nowUs obs group).engine.profile.settleUs =
          nowUs + engine.profile.settleUs := by rw [awaits.profile]
      have next : ((engine.assess libm nowUs obs group).engine.nextId + 1) % 2 ^ 64 =
          (engine.nextId + 1) % 2 ^ 64 := by rw [awaits.next]
      exact .issued ready.wanted overdue serialised awaits.next rfl awaits.next rfl rfl serialise
        next
  | steered _ _ same =>
      rw [same]
      exact awaits.flightStep (steer_steered _ _ _ _ _ _ _) rfl

end Engine

namespace Call

/-- The marks of a call: a step that finds a correction in flight and leaves none, or another,
drops it; a frame command takes the slot; a confirmation that frees the slot settles it. -/
def marks (libm : Libm K) (engine : Engine K) : Call K → FlightLog
  | .step nowUs obs group =>
      let stepped := engine.step libm nowUs obs group
      (if engine.inFlight = true ∧ (stepped.1.inFlight = false ∨ stepped.2.frames ≠ 0) then
        [.dropped (engine.stamp nowUs)]
      else []) ++
        if stepped.2.frames ≠ 0 then
          [.taken
            { atUs := nowUs
              settleUs := engine.profile.settleUs
              id := stepped.2.correctionId
              frames := stepped.2.frames }]
        else []
  | .confirmPositionLanded correctionId nowUs =>
      if engine.inFlight = true ∧
          (engine.confirmPositionLanded correctionId nowUs).inFlight = false then
        [.settled { engine.stamp nowUs with id := correctionId }]
      else []
  | _ => []

end Call

def flightLog (libm : Libm K) (engine : Engine K) : List (Call K) → FlightLog
  | [] => []
  | call :: rest => call.marks libm engine ++ flightLog libm (call.perform libm engine) rest

/-- The slot tells what the engine has in flight, and the serialisation and the next id come from
the last correction. -/
structure Tracks (engine : Engine K) (slot : Slot Stamp) : Prop where
  busy : slot.busy = engine.inFlight
  known : engine.inFlight = true → ∃ issue, slot.last = some issue
  last : ∀ issue, slot.last = some issue →
    engine.serialiseUntilUs = issue.atUs + issue.settleUs ∧
      engine.nextId = (issue.id + 1) % 2 ^ 64 ∧
      (engine.inFlight = true → engine.inFlightId = issue.id ∧
        engine.inFlightFrames = issue.frames ∧ engine.inFlightSinceUs = issue.atUs)

abbrev heldAfter (slot : Slot Stamp) (log : FlightLog) : Slot Stamp := log.foldl Slot.record slot

omit [Field K] [LinearOrder K] [FloorRing K] in
theorem Tracks.kept {before after : Engine K} {slot : Slot Stamp} (tracks : Tracks before slot)
    (inFlight : after.inFlight = before.inFlight)
    (id : after.inFlightId = before.inFlightId)
    (frames : after.inFlightFrames = before.inFlightFrames)
    (since : after.inFlightSinceUs = before.inFlightSinceUs)
    (serialise : after.serialiseUntilUs = before.serialiseUntilUs)
    (next : after.nextId = before.nextId) : Tracks after slot := by
  constructor
  · rw [inFlight]
    exact tracks.busy
  · rw [inFlight]
    exact tracks.known
  · rw [inFlight, id, frames, since, serialise, next]
    exact tracks.last

omit [Field K] [LinearOrder K] [FloorRing K] in
theorem Tracks.freed {before after : Engine K} {slot : Slot Stamp} (tracks : Tracks before slot)
    (inFlight : after.inFlight = false)
    (serialise : after.serialiseUntilUs = before.serialiseUntilUs)
    (next : after.nextId = before.nextId) : Tracks after { slot with busy := false } := by
  constructor
  · exact inFlight.symm
  · intro held
    exact absurd (inFlight.symm.trans held) Bool.false_ne_true
  · intro issue last
    obtain ⟨serialised, id, _⟩ := tracks.last issue last
    rw [serialise, next]
    exact ⟨serialised, id, fun held => absurd (inFlight.symm.trans held) Bool.false_ne_true⟩

omit [Field K] [LinearOrder K] [FloorRing K] in
theorem Tracks.issued {before after : Engine K} {slot : Slot Stamp}
    (tracks : Tracks before slot) (issue : Stamp)
    (named : issue.id = before.nextId)
    (inFlight : after.inFlight = true)
    (id : after.inFlightId = issue.id)
    (frames : after.inFlightFrames = issue.frames)
    (since : after.inFlightSinceUs = issue.atUs)
    (serialise : after.serialiseUntilUs = issue.atUs + issue.settleUs)
    (next : after.nextId = (issue.id + 1) % 2 ^ 64)
    (serialised : before.serialiseUntilUs ≤ issue.atUs) :
    (∀ last, slot.last = some last → Stamp.Succeeds last issue) ∧
      Tracks after { last := some issue, busy := true } := by
  constructor
  · intro last known
    obtain ⟨until_, nextId, _⟩ := tracks.last last known
    rw [until_] at serialised
    rw [nextId] at named
    exact ⟨serialised, named⟩
  · constructor
    · exact inFlight.symm
    · intro _
      exact ⟨issue, rfl⟩
    · intro other same
      cases same
      exact ⟨serialise, next, fun _ => ⟨id, frames, since⟩⟩

theorem Tracks.names {engine : Engine K} {slot : Slot Stamp} (tracks : Tracks engine slot)
    (held : engine.inFlight = true) (nowUs : Int) :
    ∃ issue, slot.last = some issue ∧ Stamp.Names issue (engine.stamp nowUs) ∧
      engine.inFlightSinceUs = issue.atUs := by
  obtain ⟨issue, known⟩ := tracks.known held
  obtain ⟨_, _, flight⟩ := tracks.last issue known
  obtain ⟨id, frames, since⟩ := flight held
  exact ⟨issue, known, ⟨id, frames⟩, since⟩

theorem tracks_step (libm : Libm K) (engine : Engine K) (slot : Slot Stamp)
    (tracks : Tracks engine slot) (nowUs : Int) (obs : Observation) (group : GroupEvidence) :
    let call := Call.step nowUs obs group
    Orderly Stamp.rules slot (call.marks libm engine) ∧
      Tracks (call.perform libm engine) (heldAfter slot (call.marks libm engine)) := by
  have dropped : engine.inFlight = true →
      maxInFlightHorizons * engine.profile.settleUs < nowUs - engine.inFlightSinceUs →
      Slot.Permits Stamp.rules slot (.dropped (engine.stamp nowUs)) := by
    intro held overdue
    obtain ⟨issue, known, names, since⟩ := tracks.names held nowUs
    rw [since] at overdue
    exact ⟨tracks.busy.trans held, issue, known, names, overdue⟩
  intro call
  unfold Call.marks Call.perform
  dsimp only [call]
  cases engine.step_flightStep libm nowUs obs group with
  | kept idle inFlight id frames since serialise next =>
      have quiet : ¬ (engine.inFlight = true ∧
          ((engine.step libm nowUs obs group).1.inFlight = false ∨
            (engine.step libm nowUs obs group).2.frames ≠ 0)) := by
        rintro ⟨held, free | commanded⟩
        · rw [inFlight, held] at free
          cases free
        · exact commanded idle
      rw [if_neg quiet, if_neg (not_not.mpr idle)]
      exact ⟨trivial, tracks.kept inFlight id frames since serialise next⟩
  | expired idle held overdue inFlight serialise next =>
      rw [if_pos ⟨held, Or.inl inFlight⟩, if_neg (not_not.mpr idle)]
      exact ⟨⟨dropped held overdue, trivial⟩, tracks.freed inFlight serialise next⟩
  | issued commanded overdue serialised named inFlight id frames since serialise next =>
      have following : (engine.step libm nowUs obs group).1.nextId =
          ((engine.step libm nowUs obs group).2.correctionId + 1) % 2 ^ 64 := by
        rw [named]
        exact next
      have taken := tracks.issued
        { atUs := nowUs
          settleUs := engine.profile.settleUs
          id := (engine.step libm nowUs obs group).2.correctionId
          frames := (engine.step libm nowUs obs group).2.frames }
        named inFlight (id.trans named.symm) frames since serialise following serialised
      rw [if_pos commanded]
      by_cases held : engine.inFlight = true
      · rw [if_pos ⟨held, Or.inr commanded⟩]
        exact ⟨⟨dropped held (overdue held), ⟨rfl, taken.1⟩, trivial⟩, taken.2⟩
      · rw [if_neg fun both => held both.1]
        have free : slot.busy = false := tracks.busy.trans (by simpa using held)
        exact ⟨⟨⟨free, taken.1⟩, trivial⟩, taken.2⟩

theorem tracks_confirm (libm : Libm K) (engine : Engine K) (slot : Slot Stamp)
    (tracks : Tracks engine slot) (correctionId : Nat) (nowUs : Int) :
    let call := Call.confirmPositionLanded correctionId nowUs
    Orderly Stamp.rules slot (call.marks libm engine) ∧
      Tracks (call.perform libm engine) (heldAfter slot (call.marks libm engine)) := by
  intro call
  unfold Call.marks Call.perform
  dsimp only [call]
  rcases Engine.confirm_cases engine correctionId nowUs with same | ⟨held, named⟩
  · rw [same]
    have quiet : ¬ (engine.inFlight = true ∧ engine.inFlight = false) := by
      rintro ⟨held, free⟩
      exact absurd (free.symm.trans held) Bool.false_ne_true
    rw [if_neg quiet]
    exact ⟨trivial, tracks⟩
  · obtain ⟨crystal, frames, since, count, credited⟩ :=
      Engine.credit_only engine engine.inFlightFrames nowUs
    obtain ⟨issue, known, names, _⟩ := tracks.names held nowUs
    rw [Engine.confirm_of_named engine correctionId nowUs held named, credited, if_pos ⟨held, rfl⟩]
    refine ⟨⟨⟨tracks.busy.trans held, issue, known, ?_⟩, trivial⟩, tracks.freed rfl rfl rfl⟩
    exact ⟨named.trans names.id, names.frames⟩

/-- One call keeps the log orderly and the slot true, unless it announces a move. -/
theorem tracks_perform (libm : Libm K) (engine : Engine K) (slot : Slot Stamp) (call : Call K)
    (tracks : Tracks engine slot) (unmoved : call.announces = none) :
    Orderly Stamp.rules slot (call.marks libm engine) ∧
      Tracks (call.perform libm engine) (heldAfter slot (call.marks libm engine)) := by
  cases call with
  | setProfile profile => exact ⟨trivial, tracks.kept rfl rfl rfl rfl rfl rfl⟩
  | setCrystalPpm ppm =>
      cases ppm with
      | none => exact ⟨trivial, tracks⟩
      | some ppm => exact ⟨trivial, tracks.kept rfl rfl rfl rfl rfl rfl⟩
  | step nowUs obs group => exact tracks_step libm engine slot tracks nowUs obs group
  | confirmPositionLanded correctionId nowUs =>
      exact tracks_confirm libm engine slot tracks correctionId nowUs
  | noteExternalMove appliedUs nowUs => cases unmoved

theorem orderly_flightLog (libm : Libm K) (calls : List (Call K)) (engine : Engine K)
    (slot : Slot Stamp) (tracks : Tracks engine slot)
    (unmoved : ∀ call ∈ calls, call.announces = none) :
    Orderly Stamp.rules slot (flightLog libm engine calls) := by
  induction calls generalizing engine slot with
  | nil => exact trivial
  | cons call rest ih =>
      obtain ⟨here, next⟩ :=
        tracks_perform libm engine slot call tracks (unmoved call List.mem_cons_self)
      apply (orderly_append Stamp.rules slot _ _).mpr
      refine ⟨here, ih _ _ next ?_⟩
      intro other member
      exact unmoved other (List.mem_cons_of_mem call member)

namespace Engine

structure SameCredit (before after : Engine K) : Prop where
  frames : after.creditFrames = before.creditFrames
  count : after.creditCount = before.creditCount
  since : after.creditSinceUs = before.creditSinceUs

theorem assess_sameCredit (engine : Engine K) (libm : Libm K) (nowUs : Int) (obs : Observation)
    (group : GroupEvidence) :
    SameCredit engine (engine.assess libm nowUs obs group).engine := by
  obtain ⟨err, gd, sigma, at_, same⟩ := assess_refiltered engine libm nowUs obs group
  obtain ⟨until_, disp, ref, retired⟩ := retirePending_pending engine nowUs obs.errorUs
  rw [same, retired]
  unfold expireInFlight
  split
  · exact ⟨rfl, rfl, rfl⟩
  · exact ⟨rfl, rfl, rfl⟩

omit [Field K] [LinearOrder K] [FloorRing K] in
theorem SameCredit.steered {before middle after : Engine K} (credit : SameCredit before middle)
    (same : Steered middle after) : SameCredit before after :=
  ⟨same.creditFrames.trans credit.frames, same.creditCount.trans credit.count,
    same.creditSinceUs.trans credit.since⟩

theorem step_sameCredit (engine : Engine K) (libm : Libm K) (nowUs : Int) (obs : Observation)
    (group : GroupEvidence) : SameCredit engine (engine.step libm nowUs obs group).1 := by
  have assessed := assess_sameCredit engine libm nowUs obs group
  cases engine.step_exit libm nowUs obs group with
  | invalid _ same =>
      rw [same]
      exact ⟨rfl, rfl, rfl⟩
  | starved _ _ same =>
      obtain ⟨until_, disp, ref, retired⟩ := retirePending_pending engine nowUs obs.errorUs
      rw [same, retired]
      exact ⟨rfl, rfl, rfl⟩
  | blocked _ _ _ same =>
      rw [same]
      exact assessed.steered (hold_steered _ _ _)
  | issued _ same =>
      rw [same]
      exact ⟨assessed.frames, assessed.count, assessed.since⟩
  | steered _ _ same =>
      rw [same]
      exact assessed.steered (steer_steered _ _ _ _ _ _ _)

end Engine

/-- The rate credit changes by the frames of a correction that settles, and otherwise not. -/
def CreditsSettled (libm : Libm K) (engine : Engine K) (call : Call K) : Prop :=
  match call.marks libm engine with
  | [.settled receipt] =>
      let credited := engine.creditPositionCorrection receipt.frames receipt.atUs
      Engine.SameCredit credited (call.perform libm engine) ∧
        (call.perform libm engine).crystalPpm = credited.crystalPpm
  | _ => Engine.SameCredit engine (call.perform libm engine)

theorem creditsSettled (libm : Libm K) (engine : Engine K) (call : Call K) :
    CreditsSettled libm engine call := by
  unfold CreditsSettled
  cases call with
  | setProfile profile => exact ⟨rfl, rfl, rfl⟩
  | setCrystalPpm ppm =>
      cases ppm with
      | none => exact ⟨rfl, rfl, rfl⟩
      | some ppm => exact ⟨rfl, rfl, rfl⟩
  | step nowUs obs group =>
      have credit := Engine.step_sameCredit engine libm nowUs obs group
      unfold Call.marks
      dsimp only
      by_cases given : engine.inFlight = true ∧
          ((engine.step libm nowUs obs group).1.inFlight = false ∨
            (engine.step libm nowUs obs group).2.frames ≠ 0)
      · rw [if_pos given]
        split
        · rename_i settled
          split at settled <;> cases settled
        · exact credit
      · rw [if_neg given]
        split
        · rename_i settled
          split at settled <;> cases settled
        · exact credit
  | confirmPositionLanded correctionId nowUs =>
      unfold Call.marks Call.perform
      dsimp only
      rcases Engine.confirm_cases engine correctionId nowUs with same | ⟨held, named⟩
      · rw [same]
        have quiet : ¬ (engine.inFlight = true ∧ engine.inFlight = false) := by
          rintro ⟨held, free⟩
          exact absurd (free.symm.trans held) Bool.false_ne_true
        rw [if_neg quiet]
        exact ⟨rfl, rfl, rfl⟩
      · rw [Engine.confirm_of_named engine correctionId nowUs held named, if_pos ⟨held, rfl⟩]
        exact ⟨⟨rfl, rfl, rfl⟩, rfl⟩
  | noteExternalMove appliedUs nowUs =>
      unfold Call.marks Call.perform Engine.noteExternalMove
      dsimp only
      split
      · exact ⟨rfl, rfl, rfl⟩
      · exact ⟨rfl, rfl, rfl⟩

/-- Over a run that announces no external move, commands wait for the settle horizon of the one
before, which was confirmed under its own id or expired; every correction is credited once at
most, before it expires; and an id is the next of the one before, on 64 bits. -/
theorem oneAtATime (libm : Libm K) (profile : Profile K) (calls : List (Call K))
    (unmoved : ∀ call ∈ calls, call.announces = none) :
    (flightLog libm (Engine.create profile) calls).OneAtATime ∧
      Run.Along (Call.perform libm) (CreditsSettled libm) (Engine.create profile) calls := by
  constructor
  · apply FlightLog.oneAtATime_of_orderly
    apply orderly_flightLog libm calls _ Slot.free _ unmoved
    constructor
    · rfl
    · intro held
      cases held
    · intro issue last
      cases last
  · exact Run.along_of_forall _ _ (creditsSettled libm) _ calls

/-- No visibility delay and no filter lag: corrections may follow at once. -/
private def instantProfile : Profile Rat :=
  { Profile.initial with
    measurementLagUs := 1000
    positionDelayUs := -1000
    gateGdOnTransient := true }

private def farBehind : Observation :=
  { atUs := 1000000
    errorUs := 1000000
    valid := true
    bufferUs := 0 }

private def farBehindGroup (selfTransient : Bool) : GroupEvidence :=
  { GroupEvidence.none with
    present := true
    deltaUs := 1000000
    contributors := 2
    selfTransient := selfTransient
    hasPeers := true }

private def confirmedRun : List (Call Rat) :=
  [.step 1000000 farBehind (farBehindGroup false), .confirmPositionLanded 1 1000000]

/-- A correction that is confirmed. -/
theorem oneAtATime_confirmed :
    (flightLog Libm.rational (Engine.create instantProfile) confirmedRun).OneAtATime ∧
      Run.Along (Call.perform Libm.rational) (CreditsSettled Libm.rational)
        (Engine.create instantProfile) confirmedRun := by
  apply oneAtATime
  intro call member
  rcases List.mem_cons.mp member with rfl | member
  · rfl
  · rw [List.mem_singleton.mp member]
    rfl

private def heldDifferential : Differential Rat :=
  { differential := true
    eDiffUs := 1000000
    haveDiff := true
    gdSigmaUs := diffToSigma * 22
    gdSnapUs := 0 }

/-- The engine waits for its next observation with a group differential of a second, and the
next correction is `id`. -/
structure Poised (id : Nat) (engine : Engine Rat) : Prop where
  profile : engine.profile = instantProfile
  seeded : engine.gd.seeded = true
  mean : engine.gd.meanUs = 1000000
  sigma : engine.gdSigmaPrevUs = diffToSigma * 22
  obs : engine.lastObsUs = 1000000
  free : engine.inFlight = false
  serialised : engine.serialiseUntilUs = 1000000
  next : engine.nextId = id

/-- What a group differential of a second asks for, twenty-two microseconds a frame. -/
theorem want_of_held (engine : Engine Rat) (nowUs : Int)
    (profile : engine.profile = instantProfile) (last : engine.lastObsUs = 1000000)
    (soon : nowUs = 1000000 ∨ nowUs = 1000001) :
    (engine.positionWant Libm.rational nowUs 0 heldDifferential).frames = 45454 := by
  have frameUs : instantProfile.frameUs = 22 := by decide
  have gate : engine.gateUs Libm.rational nowUs heldDifferential ≤ 1000000 := by
    unfold Engine.gateUs
    rw [profile, last, if_pos (show heldDifferential.haveDiff = true from rfl)]
    rcases soon with rfl | rfl
    · decide +kernel
    · decide +kernel
  have far : ¬ |((1000000 : Int) : Rat) / seconds instantProfile.rateHorizonUs| ≤
      instantProfile.rateAuthorityPpm := by decide +kernel
  have reach : (0 : Rat) < seconds instantProfile.rateHorizonUs := by decide +kernel
  unfold Engine.positionWant
  rw [profile, frameUs]
  simp only [heldDifferential, if_true, reach, far, decide_false, Bool.and_false]
  have unbuffered : ∀ sized : Int, ¬ (0 < sized ∧ (0 : Int) < 0 ∧ (0 : Int) < 22) := by
    rintro sized ⟨_, fills, _⟩
    exact absurd fills (lt_irrefl 0)
  have wide : |(1000000 : Int)| = 1000000 := by decide
  have framed : (0 : Int) < 22 := by decide
  unfold heldDifferential at gate
  rw [if_neg (unbuffered _), wide, if_pos ⟨framed, gate, trivial⟩]
  decide

theorem differential_of_poised (id : Nat) (engine : Engine Rat) (poised : Poised id engine)
    (nowUs : Int) :
    engine.differential Libm.rational nowUs (farBehindGroup true) =
      ({ engine with gdLastAtUs := nowUs }, heldDifferential) := by
  have rounded : llround (1000000 : Rat) = 1000000 := by decide +kernel
  unfold Engine.differential
  rw [poised.profile, poised.seeded, poised.mean, poised.sigma, rounded]
  rfl

theorem assess_of_poised (id : Nat) (engine : Engine Rat) (poised : Poised id engine)
    (nowUs : Int) :
    ∃ waiting, Poised id waiting ∧
      (engine.assess Libm.rational nowUs farBehind (farBehindGroup true)).engine = waiting ∧
      (engine.assess Libm.rational nowUs farBehind (farBehindGroup true)).diff =
        heldDifferential := by
  obtain ⟨until_, disp, ref, retired⟩ :=
    Engine.retirePending_pending engine nowUs farBehind.errorUs
  have kept : ∃ err, ((engine.retirePending nowUs farBehind.errorUs).filterError Libm.rational
      nowUs (farBehind.errorUs -
        (engine.retirePending nowUs farBehind.errorUs).pendingDispUs)).1 =
        { engine with
          err := err
          pendingCompUntilUs := until_
          pendingDispUs := disp
          pendingRefUs := ref } := by
    rw [retired]
    unfold Engine.filterError
    split
    · exact ⟨_, rfl⟩
    · exact ⟨_, rfl⟩
  obtain ⟨err, filtered⟩ := kept
  have waits : Poised id
      { engine with
        err := err
        pendingCompUntilUs := until_
        pendingDispUs := disp
        pendingRefUs := ref } :=
    ⟨poised.profile, poised.seeded, poised.mean, poised.sigma, poised.obs, poised.free,
      poised.serialised, poised.next⟩
  generalize ({ engine with
    err := err
    pendingCompUntilUs := until_
    pendingDispUs := disp
    pendingRefUs := ref } : Engine Rat) = waiting at filtered waits
  have unexpired : waiting.expireInFlight nowUs = waiting := by
    unfold Engine.expireInFlight
    rw [waits.free, if_neg fun both => Bool.false_ne_true both.1]
  refine ⟨{ waiting with gdLastAtUs := nowUs }, ?_, ?_, ?_⟩
  · exact ⟨waits.profile, waits.seeded, waits.mean, waits.sigma, waits.obs, waits.free,
      waits.serialised, waits.next⟩
  · unfold Engine.assess
    dsimp only
    rw [filtered, unexpired, differential_of_poised id waiting waits nowUs]
  · unfold Engine.assess
    dsimp only
    rw [filtered, unexpired, differential_of_poised id waiting waits nowUs]

theorem step_of_poised (id : Nat) (engine : Engine Rat) (poised : Poised id engine)
    (nowUs : Int) (soon : nowUs = 1000000 ∨ nowUs = 1000001) :
    ∃ decision waiting, Poised id waiting ∧
      engine.step Libm.rational nowUs farBehind (farBehindGroup true) =
        waiting.issue decision nowUs (farBehindGroup true) heldDifferential 45454 := by
  obtain ⟨waiting, waits, staged, differed⟩ := assess_of_poised id engine poised nowUs
  have frames : (engine.assess Libm.rational nowUs farBehind (farBehindGroup true)).want.frames =
      45454 := by
    rw [← want_of_held waiting nowUs waits.profile waits.obs soon, ← differed, ← staged]
    rfl
  have serialised : engine.serialiseUntilUs ≤ nowUs := by
    rw [poised.serialised]
    omega
  have ready : engine.Ready Libm.rational nowUs farBehind (farBehindGroup true) :=
    { valid := rfl
      fed := rfl
      wanted := by
        rw [frames]
        decide
      differential := by
        rw [differed]
        rfl
      free := by
        rw [staged]
        exact waits.free
      serialised := by
        rw [staged, waits.serialised]
        omega }
  have stepped := Engine.step_of_ready engine _ _ _ _ ready
  rw [frames, staged, differed] at stepped
  exact ⟨_, waiting, waits, stepped⟩

theorem issue_of_poised (id : Nat) (waiting : Engine Rat) (waits : Poised id waiting)
    (decision : Decision Rat) (nowUs : Int) :
    let issued := waiting.issue decision nowUs (farBehindGroup true) heldDifferential 45454
    issued.1.gd = waiting.gd ∧ issued.1.serialiseUntilUs = nowUs ∧
      issued.1.inFlightId = id ∧ issued.1.nextId = (id + 1) % 2 ^ 64 := by
  have settle : instantProfile.settleUs = 0 := by decide +kernel
  have uncompensated : ¬ (heldDifferential.haveDiff = true ∧
      1 < (farBehindGroup true).contributors ∧ waiting.profile.compensateGdFilter = true) := by
    rw [waits.profile]
    rintro ⟨_, _, compensates⟩
    cases compensates
  unfold Engine.issue
  dsimp only
  rw [if_neg uncompensated, waits.profile, waits.next, settle, Int.add_zero]
  exact ⟨rfl, rfl, rfl, rfl⟩

theorem cycle_of_poised (id : Nat) (engine : Engine Rat) (poised : Poised id engine) :
    Poised ((id + 1) % 2 ^ 64)
      ((engine.step Libm.rational 1000000 farBehind
        (farBehindGroup true)).1.confirmPositionLanded id 1000000) := by
  obtain ⟨decision, waiting, waits, stepped⟩ :=
    step_of_poised id engine poised 1000000 (Or.inl rfl)
  obtain ⟨gd, serialised, named, next⟩ := issue_of_poised id waiting waits decision 1000000
  rw [stepped, Engine.confirm_of_named _ id 1000000 rfl named.symm]
  obtain ⟨crystal, frames, since, count, credited⟩ := Engine.credit_only
    (waiting.issue decision 1000000 (farBehindGroup true) heldDifferential 45454).1
    (waiting.issue decision 1000000 (farBehindGroup true) heldDifferential 45454).1.inFlightFrames
    1000000
  rw [credited]
  exact
    { profile := waits.profile
      seeded := (congrArg JumpFilter.seeded gd).trans waits.seeded
      mean := (congrArg JumpFilter.meanUs gd).trans waits.mean
      sigma := waits.sigma
      obs := rfl
      free := rfl
      serialised := serialised
      next := next }

private def cycles : Nat → Nat → List (Call Rat)
  | 0, _ => []
  | count + 1, id =>
      .step 1000000 farBehind (farBehindGroup true) :: .confirmPositionLanded id 1000000 ::
        cycles count ((id + 1) % 2 ^ 64)

theorem cycles_of_poised (count id : Nat) (engine : Engine Rat) (poised : Poised id engine)
    (small : id < 2 ^ 64) :
    Poised ((id + count) % 2 ^ 64)
      ((cycles count id).foldl (Call.perform Libm.rational) engine) := by
  induction count generalizing id engine with
  | zero =>
      rw [Nat.add_zero, Nat.mod_eq_of_lt small]
      exact poised
  | succ count ih =>
      have next := ih _ _ (cycle_of_poised id engine poised) (Nat.mod_lt _ (by decide))
      have shift : ((id + 1) % 2 ^ 64 + count) % 2 ^ 64 = (id + (count + 1)) % 2 ^ 64 := by
        omega
      rw [shift] at next
      exact next

theorem cycles_calls (count id : Nat) (call : Call Rat) (member : call ∈ cycles count id) :
    call.announces = none ∧ call.profile = none ∧ call.atUs = some 1000000 := by
  induction count generalizing id with
  | zero => cases member
  | succ count ih =>
      rcases List.mem_cons.mp member with rfl | member
      · exact ⟨rfl, rfl, rfl⟩
      · rcases List.mem_cons.mp member with rfl | member
        · exact ⟨rfl, rfl, rfl⟩
        · exact ih _ member

theorem marks_of_poised (id : Nat) (engine : Engine Rat) (poised : Poised id engine)
    (nowUs : Int) (soon : nowUs = 1000000 ∨ nowUs = 1000001) :
    (Call.step nowUs farBehind (farBehindGroup true)).marks Libm.rational engine =
      [.taken
        { atUs := nowUs
          settleUs := instantProfile.settleUs
          id := id
          frames := 45454 }] := by
  obtain ⟨decision, waiting, waits, stepped⟩ := step_of_poised id engine poised nowUs soon
  have quiet : ¬ (engine.inFlight = true ∧
      ((engine.step Libm.rational nowUs farBehind (farBehindGroup true)).1.inFlight = false ∨
        (engine.step Libm.rational nowUs farBehind (farBehindGroup true)).2.frames ≠ 0)) := by
    rw [poised.free]
    exact fun both => Bool.false_ne_true both.1
  have commanded :
      (engine.step Libm.rational nowUs farBehind (farBehindGroup true)).2.frames ≠ 0 := by
    rw [stepped]
    change (45454 : Int) ≠ 0
    decide
  unfold Call.marks
  dsimp only
  rw [if_neg quiet, if_pos commanded, stepped, poised.profile, ← waits.next]
  rfl

theorem confirm_untaken (libm : Libm K) (engine : Engine K) (correctionId : Nat) (nowUs : Int) :
    ∀ mark ∈ (Call.confirmPositionLanded correctionId nowUs).marks libm engine,
      mark.takes = none := by
  intro mark member
  unfold Call.marks at member
  dsimp only at member
  split at member
  · rw [List.mem_singleton.mp member]
    rfl
  · cases member

theorem flightLog_cons (libm : Libm K) (engine : Engine K) (call : Call K)
    (rest : List (Call K)) :
    flightLog libm engine (call :: rest) =
      call.marks libm engine ++ flightLog libm (call.perform libm engine) rest := rfl

theorem flightLog_append (libm : Libm K) (early late : List (Call K)) (engine : Engine K) :
    flightLog libm engine (early ++ late) =
      flightLog libm engine early ++ flightLog libm (early.foldl (Call.perform libm) engine) late := by
  induction early generalizing engine with
  | nil => rfl
  | cons call rest ih =>
      rw [List.cons_append, flightLog_cons, flightLog_cons, List.foldl_cons, List.append_assoc, ih]

private def lastCorrections : List (Call Rat) :=
  [.step 1000000 farBehind (farBehindGroup true),
    .confirmPositionLanded (2 ^ 64 - 1) 1000000,
    .step 1000001 farBehind (farBehindGroup true)]

private def firstCorrections : List (Call Rat) := confirmedRun ++ cycles (2 ^ 64 - 3) 2

theorem poised_of_firstCorrections :
    Poised (2 ^ 64 - 1)
      (firstCorrections.foldl (Call.perform Libm.rational) (Engine.create instantProfile)) := by
  have started : Poised 2
      (confirmedRun.foldl (Call.perform Libm.rational) (Engine.create instantProfile)) :=
    { profile := by
        unfold confirmedRun
        rw [List.foldl_cons, List.foldl_cons, List.foldl_nil, Call.perform_profile _ _ _ rfl,
          Call.perform_profile _ _ _ rfl]
        rfl
      seeded := by decide +kernel
      mean := by decide +kernel
      sigma := by decide +kernel
      obs := by decide +kernel
      free := by decide +kernel
      serialised := by decide +kernel
      next := by decide +kernel }
  unfold firstCorrections
  rw [List.foldl_append]
  exact cycles_of_poised (2 ^ 64 - 3) 2 _ started (by decide)

theorem wraps_of_poised (engine : Engine Rat) (poised : Poised (2 ^ 64 - 1) engine) :
    ∃ first second : Stamp, ∃ between, first.id = 2 ^ 64 - 1 ∧ second.id = 0 ∧
      flightLog Libm.rational engine lastCorrections =
        .taken first :: (between ++ [.taken second]) ∧
      ∀ mark ∈ between, mark.takes = none := by
  have next := cycle_of_poised _ engine poised
  have taken := marks_of_poised _ engine poised 1000000 (Or.inl rfl)
  have again : (Call.step 1000001 farBehind (farBehindGroup true)).marks Libm.rational
      ((Call.confirmPositionLanded (2 ^ 64 - 1) 1000000).perform Libm.rational
        ((Call.step 1000000 farBehind (farBehindGroup true)).perform Libm.rational engine)) =
      [.taken
        { atUs := 1000001
          settleUs := instantProfile.settleUs
          id := (2 ^ 64 - 1 + 1) % 2 ^ 64
          frames := 45454 }] := marks_of_poised _ _ next 1000001 (Or.inr rfl)
  have untaken := confirm_untaken Libm.rational
    (engine.step Libm.rational 1000000 farBehind (farBehindGroup true)).1 (2 ^ 64 - 1) 1000000
  have logged : flightLog Libm.rational engine lastCorrections =
      (Call.step 1000000 farBehind (farBehindGroup true)).marks Libm.rational engine ++
        ((Call.confirmPositionLanded (2 ^ 64 - 1) 1000000).marks Libm.rational
          (engine.step Libm.rational 1000000 farBehind (farBehindGroup true)).1 ++
          ((Call.step 1000001 farBehind (farBehindGroup true)).marks Libm.rational
            ((Call.confirmPositionLanded (2 ^ 64 - 1) 1000000).perform Libm.rational
              ((Call.step 1000000 farBehind (farBehindGroup true)).perform Libm.rational
                engine)) ++ [])) := rfl
  rw [taken, again, List.append_nil] at logged
  exact ⟨_, _, _, rfl, rfl, logged, untaken⟩

theorem lastCorrections_late (call : Call Rat)
    (member : call ∈ firstCorrections ++ lastCorrections) :
    call.announces = none ∧ call.profile = none := by
  rcases List.mem_append.mp member with first | last
  · rcases List.mem_append.mp first with confirmed | cycled
    · rcases List.mem_cons.mp confirmed with rfl | confirmed
      · exact ⟨rfl, rfl⟩
      · rw [List.mem_singleton.mp confirmed]
        exact ⟨rfl, rfl⟩
    · obtain ⟨announces, profile, _⟩ := cycles_calls _ _ call cycled
      exact ⟨announces, profile⟩
  · rcases List.mem_cons.mp last with rfl | last
    · exact ⟨rfl, rfl⟩
    · rcases List.mem_cons.mp last with rfl | last
      · exact ⟨rfl, rfl⟩
      · rw [List.mem_singleton.mp last]
        exact ⟨rfl, rfl⟩

theorem firstCorrections_atUs (nowUs : Int)
    (member : nowUs ∈ firstCorrections.filterMap Call.atUs) : nowUs = 1000000 := by
  obtain ⟨call, here, at_⟩ := List.mem_filterMap.mp member
  rcases List.mem_append.mp here with confirmed | cycled
  · rcases List.mem_cons.mp confirmed with rfl | confirmed
    · exact (Option.some.inj at_).symm
    · rw [List.mem_singleton.mp confirmed] at at_
      exact (Option.some.inj at_).symm
  · obtain ⟨_, _, timed⟩ := cycles_calls _ _ call cycled
    rw [timed] at at_
    exact (Option.some.inj at_).symm

theorem corrections_in_order :
    ((firstCorrections ++ lastCorrections).filterMap Call.atUs).Pairwise (· ≤ ·) := by
  have last : lastCorrections.filterMap Call.atUs = [1000000, 1000000, 1000001] := rfl
  rw [List.filterMap_append, last, List.pairwise_append]
  refine ⟨?_, by decide, ?_⟩
  · apply List.pairwise_of_forall_mem_list
    intro early first late second
    rw [firstCorrections_atUs early first, firstCorrections_atUs late second]
  · intro early first late second
    rw [firstCorrections_atUs early first]
    revert late
    decide

/-- An engine that corrects without delay comes to the end of its ids. -/
theorem ids_wrap :
    ¬ ∀ (profile : Profile Rat) (calls : List (Call Rat)),
      (∀ call ∈ calls, call.announces = none) →
      (calls.filterMap Call.atUs).Pairwise (· ≤ ·) →
      0 ≤ profile.settleUs →
      (∀ call ∈ calls, ∀ changed, call.profile = some changed → 0 ≤ changed.settleUs) →
      (flightLog Libm.rational (Engine.create profile) calls).IdsIncrease := by
  intro increase
  have log := increase instantProfile (firstCorrections ++ lastCorrections)
    (fun call member => (lastCorrections_late call member).1) corrections_in_order
    (by decide +kernel) (by
      intro call member changed sets
      rw [(lastCorrections_late call member).2] at sets
      cases sets)
  obtain ⟨first, second, between, largest, zero, logged, untaken⟩ :=
    wraps_of_poised _ poised_of_firstCorrections
  rw [flightLog_append, logged] at log
  have less := log first second between
    { split := ⟨_, [], rfl⟩
      untaken := untaken }
  rw [zero] at less
  exact Nat.not_lt_zero _ less

end Timing
