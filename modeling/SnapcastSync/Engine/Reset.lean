import SnapcastSync.Engine.Attribution
import SnapcastSync.Engine.Innovation
import SnapcastSync.Engine.MissingDelta
import SnapcastSync.Lib.Unwinding

/-! What `reset` leaves behind. An engine that has been reset answers like a new one while it has
never commanded a rate, never taken a group delta, has no run of jumps pending and its error mean
rounds to nothing; the ids of its corrections go on from where they were. -/

namespace Timing

open Rounding

variable {K : Type}

namespace JumpFilter

/-- Two filters that go on alike: the same once they are seeded, and before it the same run of
jumps and means that round to the same wherever they are moved to. -/
structure Alike [Field K] [LinearOrder K] [FloorRing K] (first second : JumpFilter K) : Prop where
  seeded : second.seeded = first.seeded
  run : second.jumpRun = first.jumpRun
  dir : second.jumpDir = first.jumpDir
  known : first.seeded = true → second = first
  rounded : ∀ moved : Int,
    llround (second.meanUs - (moved : K)) = llround (first.meanUs - (moved : K))

end JumpFilter

namespace Engine

def carrying (engine : Engine K) (err : JumpFilter K) (nextId inFlightId : Nat) : Engine K :=
  { engine with
    err := err
    nextId := nextId
    inFlightId := inFlightId }

def renumbered (engine : Engine K) (nextId inFlightId : Nat) : Engine K :=
  engine.carrying engine.err nextId inFlightId

theorem retirePending_carrying (engine : Engine K) (err : JumpFilter K)
    (nextId inFlightId : Nat) (nowUs errorUs : Int) :
    (engine.carrying err nextId inFlightId).retirePending nowUs errorUs =
      (engine.retirePending nowUs errorUs).carrying err nextId inFlightId := by
  rw [retirePending_eq, retirePending_eq]
  symm
  exact apply_ite (fun other : Engine K => other.carrying err nextId inFlightId) _ _ _

variable [Field K] [LinearOrder K] [FloorRing K]

theorem filteredErr_of_alike (engine : Engine K) (err : JumpFilter K) (nextId inFlightId : Nat)
    (alike : JumpFilter.Alike engine.err err) (libm : Libm K) (nowUs e : Int) :
    (engine.carrying err nextId inFlightId).filteredErr libm nowUs e =
      engine.filteredErr libm nowUs e := by
  by_cases seeded : engine.err.seeded = true
  · rw [alike.known seeded]
    rfl
  · have unseeded : err.seeded = false := by
      rw [alike.seeded]
      exact Bool.eq_false_iff.mpr seeded
    have run := alike.run
    have dir := alike.dir
    rw [filteredErr, filteredErr]
    change (if !err.seeded then _ else _) = _
    rw [unseeded, Bool.eq_false_iff.mpr seeded]
    change (err.seed (e : K) (engine.profile.frameUs : K), 0) =
      (engine.err.seed (e : K) (engine.profile.frameUs : K), 0)
    rw [JumpFilter.seed, JumpFilter.seed, run, dir]

theorem filterError_of_alike (engine : Engine K) (err : JumpFilter K) (nextId inFlightId : Nat)
    (alike : JumpFilter.Alike engine.err err) (libm : Libm K) (nowUs e : Int) :
    (engine.carrying err nextId inFlightId).filterError libm nowUs e =
      ((engine.filterError libm nowUs e).1.renumbered nextId inFlightId,
        (engine.filterError libm nowUs e).2) := by
  rw [filterError_eq, filterError_eq, filteredErr_of_alike engine err nextId inFlightId alike]
  rfl

theorem expireInFlight_renumbered (engine : Engine K) (nextId inFlightId : Nat) (nowUs : Int) :
    (engine.renumbered nextId inFlightId).expireInFlight nowUs =
      (engine.expireInFlight nowUs).renumbered nextId inFlightId := by
  rw [expireInFlight, expireInFlight]
  symm
  exact apply_ite (fun other : Engine K => other.renumbered nextId inFlightId) _ _ _

theorem differential_renumbered (engine : Engine K) (nextId inFlightId : Nat) (libm : Libm K)
    (nowUs : Int) (group : GroupEvidence) :
    (engine.renumbered nextId inFlightId).differential libm nowUs group =
      ((engine.differential libm nowUs group).1.renumbered nextId inFlightId,
        (engine.differential libm nowUs group).2) := by
  have profile : (engine.renumbered nextId inFlightId).profile = engine.profile := rfl
  have filter : (engine.renumbered nextId inFlightId).gd = engine.gd := rfl
  rw [differential, differential, profile, filter]
  dsimp only
  split
  · rfl
  · split
    · rfl
    · rfl

theorem integrate_renumbered (engine : Engine K) (nextId inFlightId : Nat)
    (decision : Decision K) (e dtUs : Int) (diff : Differential K) :
    (engine.renumbered nextId inFlightId).integrate decision e dtUs diff =
      ((engine.integrate decision e dtUs diff).1.renumbered nextId inFlightId,
        (engine.integrate decision e dtUs diff).2) := by
  rw [integrate, integrate]
  split
  · rfl
  · rfl

theorem steer_renumbered (engine : Engine K) (nextId inFlightId : Nat) (decision : Decision K)
    (nowUs e : Int) (group : GroupEvidence) (diff : Differential K) (want : PositionWant K) :
    (engine.renumbered nextId inFlightId).steer decision nowUs e group diff want =
      ((engine.steer decision nowUs e group diff want).1.renumbered nextId inFlightId,
        (engine.steer decision nowUs e group diff want).2) := by
  have since : (engine.renumbered nextId inFlightId).sinceObsUs nowUs = engine.sinceObsUs nowUs :=
    rfl
  have integrated := engine.integrate_renumbered nextId inFlightId decision e
    (engine.sinceObsUs nowUs) diff
  have poised : (engine.renumbered nextId inFlightId).poised decision nowUs e diff =
      (engine.poised decision nowUs e diff).renumbered nextId inFlightId := by
    rw [Engine.poised, since, integrated]
    rfl
  rw [steer_eq_rateCommand, steer_eq_rateCommand, poised, since, integrated]
  rfl

theorem assess_of_alike (engine : Engine K) (err : JumpFilter K) (nextId inFlightId : Nat)
    (alike : JumpFilter.Alike engine.err err) (libm : Libm K) (nowUs : Int) (obs : Observation)
    (group : GroupEvidence) :
    (engine.carrying err nextId inFlightId).assess libm nowUs obs group =
      { engine.assess libm nowUs obs group with
        engine := (engine.assess libm nowUs obs group).engine.renumbered nextId inFlightId } := by
  have retired := engine.retirePending_carrying err nextId inFlightId nowUs obs.errorUs
  have settled : JumpFilter.Alike (engine.retirePending nowUs obs.errorUs).err err := by
    rw [retirePending_err]
    exact alike
  have filtered := filterError_of_alike (engine.retirePending nowUs obs.errorUs) err nextId
    inFlightId settled libm nowUs
    (obs.errorUs - (engine.retirePending nowUs obs.errorUs).pendingDispUs)
  rw [assess, assess, retired]
  dsimp only
  change Assessment.mk _ _ _ _ = Assessment.mk _ _ _ _
  have pending : ((engine.retirePending nowUs obs.errorUs).carrying err nextId
      inFlightId).pendingDispUs = (engine.retirePending nowUs obs.errorUs).pendingDispUs := rfl
  rw [pending, filtered]
  dsimp only
  rw [expireInFlight_renumbered, differential_renumbered]
  rfl

structure Numbered (shift : Nat) (engine : Engine K) (nextId inFlightId : Nat) : Prop where
  bounded : engine.nextId < 2 ^ 64
  next : nextId = (engine.nextId + shift) % 2 ^ 64
  held : engine.inFlight = true → engine.inFlightId < 2 ^ 64 ∧
    inFlightId = (engine.inFlightId + shift) % 2 ^ 64

inductive Alike (shift : Nat) (first : Engine K) : Engine K → Prop where
  | carrying (err : JumpFilter K) (nextId inFlightId : Nat)
      (filters : JumpFilter.Alike first.err err)
      (ids : Numbered shift first nextId inFlightId) :
      Alike shift first (first.carrying err nextId inFlightId)

omit [FloorRing K] [LinearOrder K] [Field K] in
theorem Numbered.of_ids {shift : Nat} {engine other : Engine K} {nextId inFlightId : Nat}
    (ids : Numbered shift engine nextId inFlightId) (next : other.nextId = engine.nextId)
    (held : other.inFlight = true → engine.inFlight = true ∧
      other.inFlightId = engine.inFlightId) : Numbered shift other nextId inFlightId where
  bounded := by
    rw [next]
    exact ids.bounded
  next := by
    rw [next]
    exact ids.next
  held := by
    intro flying
    obtain ⟨flew, same⟩ := held flying
    rw [same]
    exact ids.held flew

omit [FloorRing K] [LinearOrder K] [Field K] in
theorem Numbered.landed {shift : Nat} {engine other : Engine K} {nextId inFlightId : Nat}
    (ids : Numbered shift engine nextId inFlightId) (next : other.nextId = engine.nextId)
    (landed : other.inFlight = false) : Numbered shift other nextId 0 where
  bounded := by
    rw [next]
    exact ids.bounded
  next := by
    rw [next]
    exact ids.next
  held := by
    intro flying
    rw [landed] at flying
    cases flying

theorem JumpFilter.Alike.refl (filter : JumpFilter K) : JumpFilter.Alike filter filter :=
  ⟨rfl, rfl, rfl, fun _ => rfl, fun _ => rfl⟩

theorem alike_renumbered {shift : Nat} (engine : Engine K) {nextId inFlightId : Nat}
    (ids : Numbered shift engine nextId inFlightId) :
    Alike shift engine (engine.renumbered nextId inFlightId) :=
  .carrying engine.err nextId inFlightId (JumpFilter.Alike.refl engine.err) ids

theorem Numbered.issue {shift : Nat} {engine : Engine K} {nextId inFlightId : Nat}
    (ids : Numbered shift engine nextId inFlightId) (decision : Decision K) (nowUs : Int)
    (group : GroupEvidence) (diff : Differential K) (frames : Int) :
    Numbered shift (engine.issue decision nowUs group diff frames).1 ((nextId + 1) % 2 ^ 64)
      nextId where
  bounded := Nat.mod_lt _ (by decide)
  next := by
    have next := ids.next
    change _ = ((engine.nextId + 1) % 2 ^ 64 + shift) % 2 ^ 64
    omega
  held := fun _ => ⟨ids.bounded, ids.next⟩

theorem assess_ids (engine : Engine K) (libm : Libm K) (nowUs : Int) (obs : Observation)
    (group : GroupEvidence) :
    (engine.assess libm nowUs obs group).engine.nextId = engine.nextId ∧
      ((engine.assess libm nowUs obs group).engine.inFlight = true →
        engine.inFlight = true ∧
          (engine.assess libm nowUs obs group).engine.inFlightId = engine.inFlightId) := by
  obtain ⟨err, gd, sigma, at_, same⟩ := assess_refiltered engine libm nowUs obs group
  obtain ⟨until_, disp, ref, retired⟩ := retirePending_pending engine nowUs obs.errorUs
  rw [same, retired, expireInFlight]
  split
  · exact ⟨rfl, fun impossible => Bool.noConfusion impossible⟩
  · exact ⟨rfl, fun flying => ⟨flying, rfl⟩⟩

end Engine

structure Answer (K : Type) where
  ratePpm : K
  frames : Int
  act : Act
  why : Why
deriving DecidableEq

def Command.answer (command : Command K) : Answer K :=
  { ratePpm := command.ratePpm
    frames := command.frames
    act := command.decision.act
    why := command.decision.why }

namespace Engine

variable [Field K] [LinearOrder K] [FloorRing K]

theorem wants_of_alike (engine : Engine K) (err : JumpFilter K) (nextId inFlightId : Nat)
    (alike : JumpFilter.Alike engine.err err) (libm : Libm K) (nowUs : Int) (obs : Observation)
    (group : GroupEvidence) :
    (engine.carrying err nextId inFlightId).Wants libm nowUs obs group ↔
      engine.Wants libm nowUs obs group := by
  have assessed := assess_of_alike engine err nextId inFlightId alike libm nowUs obs group
  constructor
  · rintro ⟨frames, differential⟩
    rw [assessed] at frames differential
    exact ⟨frames, differential⟩
  · rintro ⟨frames, differential⟩
    constructor
    · rw [assessed]
      exact frames
    · rw [assessed]
      exact differential

theorem ready_of_alike (engine : Engine K) (err : JumpFilter K) (nextId inFlightId : Nat)
    (alike : JumpFilter.Alike engine.err err) (libm : Libm K) (nowUs : Int) (obs : Observation)
    (group : GroupEvidence) :
    (engine.carrying err nextId inFlightId).Ready libm nowUs obs group ↔
      engine.Ready libm nowUs obs group := by
  have assessed := assess_of_alike engine err nextId inFlightId alike libm nowUs obs group
  constructor
  · rintro ⟨valid, fed, wanted, differential, free, serialised⟩
    rw [assessed] at wanted differential free serialised
    exact ⟨valid, fed, wanted, differential, free, serialised⟩
  · rintro ⟨valid, fed, wanted, differential, free, serialised⟩
    refine ⟨valid, fed, ?_, ?_, ?_, ?_⟩
    · rw [assessed]
      exact wanted
    · rw [assessed]
      exact differential
    · rw [assessed]
      exact free
    · rw [assessed]
      exact serialised

theorem weighed_of_alike (engine : Engine K) (err : JumpFilter K) (nextId inFlightId : Nat)
    (alike : JumpFilter.Alike engine.err err) (libm : Libm K) (nowUs : Int) (obs : Observation)
    (group : GroupEvidence) :
    (engine.carrying err nextId inFlightId).weighed libm nowUs obs group =
      engine.weighed libm nowUs obs group := by
  rw [weighed, weighed, assess_of_alike engine err nextId inFlightId alike,
    retirePending_carrying]
  rfl

theorem Alike.step {shift : Nat} {first second : Engine K} (alike : Alike shift first second)
    (libm : Libm K) (nowUs : Int) (obs : Observation) (group : GroupEvidence) :
    Alike shift (first.step libm nowUs obs group).1 (second.step libm nowUs obs group).1 ∧
      (first.step libm nowUs obs group).2.answer =
        (second.step libm nowUs obs group).2.answer := by
  obtain ⟨err, nextId, inFlightId, filters, ids⟩ := alike
  have assessed := assess_of_alike first err nextId inFlightId filters libm nowUs obs group
  have weighed := weighed_of_alike first err nextId inFlightId filters libm nowUs obs group
  have retired := first.retirePending_carrying err nextId inFlightId nowUs obs.errorUs
  obtain ⟨next, held⟩ := first.assess_ids libm nowUs obs group
  have assessedIds := ids.of_ids next held
  cases first.step_exit libm nowUs obs group with
  | invalid absent exit =>
      rw [exit, (first.carrying err nextId inFlightId).step_of_invalid libm nowUs obs group absent]
      exact ⟨.carrying err nextId inFlightId filters (ids.of_ids rfl fun flying => ⟨flying, rfl⟩),
        rfl⟩
  | starved valid starved exit =>
      obtain ⟨until_, disp, ref, only⟩ := retirePending_pending first nowUs obs.errorUs
      rw [exit, (first.carrying err nextId inFlightId).step_of_starved libm nowUs obs group valid
        starved, retired, only]
      exact ⟨.carrying err nextId inFlightId filters (ids.of_ids rfl fun flying => ⟨flying, rfl⟩),
        rfl⟩
  | blocked fed wants unready exit =>
      rw [exit, (first.carrying err nextId inFlightId).step_of_blocked libm nowUs obs group
        ⟨fed.valid, fed.supplied⟩
        ((wants_of_alike first err nextId inFlightId filters libm nowUs obs group).mpr wants)
        (fun ready => unready
          ((ready_of_alike first err nextId inFlightId filters libm nowUs obs group).mp ready)),
        assessed, weighed]
      exact ⟨alike_renumbered _ (assessedIds.of_ids rfl fun flying => ⟨flying, rfl⟩), rfl⟩
  | issued ready exit =>
      rw [exit, (first.carrying err nextId inFlightId).step_of_ready libm nowUs obs group
        ((ready_of_alike first err nextId inFlightId filters libm nowUs obs group).mpr ready)]
      change Alike shift _ (((first.carrying err nextId inFlightId).assess libm nowUs obs
        group).engine.issue ((first.carrying err nextId inFlightId).weighed libm nowUs obs group)
          _ _ _ _).1 ∧ _ = (((first.carrying err nextId inFlightId).assess libm nowUs obs
        group).engine.issue ((first.carrying err nextId inFlightId).weighed libm nowUs obs group)
          _ _ _ _).2.answer
      rw [assessed, weighed]
      exact ⟨alike_renumbered _ (assessedIds.issue _ nowUs group _ _), rfl⟩
  | steered fed content exit =>
      rw [exit, (first.carrying err nextId inFlightId).step_of_content libm nowUs obs group
        ⟨fed.valid, fed.supplied⟩
        (fun wants => content
          ((wants_of_alike first err nextId inFlightId filters libm nowUs obs group).mp wants)),
        assessed, weighed, retired]
      dsimp only
      rw [steer_renumbered]
      have steered := steer_steered (first.assess libm nowUs obs group).engine
        (first.weighed libm nowUs obs group) nowUs
        (obs.errorUs - (first.retirePending nowUs obs.errorUs).pendingDispUs) group
        (first.assess libm nowUs obs group).diff (first.assess libm nowUs obs group).want
      refine ⟨alike_renumbered _ (assessedIds.of_ids steered.nextId ?_), rfl⟩
      intro flying
      rw [steered.inFlight] at flying
      exact ⟨flying, steered.inFlightId⟩

omit [FloorRing K] in
theorem setCrystalPpm_carrying (engine : Engine K) (err : JumpFilter K)
    (nextId inFlightId : Nat) (ppm : Option K) :
    (engine.carrying err nextId inFlightId).setCrystalPpm ppm =
      (engine.setCrystalPpm ppm).carrying err nextId inFlightId := by
  cases ppm with
  | none => rfl
  | some ppm => rfl

theorem creditPositionCorrection_carrying (engine : Engine K) (err : JumpFilter K)
    (nextId inFlightId : Nat) (frames nowUs : Int) :
    (engine.carrying err nextId inFlightId).creditPositionCorrection frames nowUs =
      (engine.creditPositionCorrection frames nowUs).carrying err nextId inFlightId := by
  rw [creditPositionCorrection, creditPositionCorrection]
  symm
  exact apply_ite (fun other : Engine K => other.carrying err nextId inFlightId) _ _ _

theorem Alike.confirmPositionLanded {shift : Nat} {first second : Engine K}
    (alike : Alike shift first second) (correctionId : Nat) (nowUs : Int)
    (bounded : correctionId < 2 ^ 64) :
    Alike shift (first.confirmPositionLanded correctionId nowUs)
      (second.confirmPositionLanded ((correctionId + shift) % 2 ^ 64) nowUs) := by
  obtain ⟨err, nextId, inFlightId, filters, ids⟩ := alike
  by_cases named : first.inFlight = true ∧ correctionId = first.inFlightId
  · obtain ⟨flying, same⟩ := named
    have renamed : (correctionId + shift) % 2 ^ 64 = inFlightId := by
      rw [(ids.held flying).2, same]
    obtain ⟨crystal, frames, since, count, credited⟩ :=
      first.credit_only first.inFlightFrames nowUs
    rw [first.confirm_of_named correctionId nowUs flying same,
      (first.carrying err nextId inFlightId).confirm_of_named _ nowUs flying renamed]
    change Alike shift _ { (first.carrying err nextId inFlightId).creditPositionCorrection
      first.inFlightFrames nowUs with
        inFlight := false
        inFlightId := 0
        inFlightFrames := 0 }
    rw [creditPositionCorrection_carrying, credited]
    exact .carrying err nextId 0 filters (ids.landed rfl rfl)
  · have unnamed : ¬ (first.inFlight = true ∧ (correctionId + shift) % 2 ^ 64 = inFlightId) := by
      rintro ⟨flying, renamed⟩
      obtain ⟨range, shifted⟩ := ids.held flying
      refine named ⟨flying, ?_⟩
      omega
    rcases first.confirm_cases correctionId nowUs with same | held
    · rcases (first.carrying err nextId inFlightId).confirm_cases
        ((correctionId + shift) % 2 ^ 64) nowUs with twin | held
      · rw [same, twin]
        exact .carrying err nextId inFlightId filters ids
      · exact absurd held unnamed
    · exact absurd held named

theorem Alike.noteExternalMove {shift : Nat} {first second : Engine K}
    (alike : Alike shift first second) (appliedUs nowUs : Int) :
    Alike shift (first.noteExternalMove appliedUs nowUs)
      (second.noteExternalMove appliedUs nowUs) := by
  obtain ⟨err, nextId, inFlightId, filters, ids⟩ := alike
  rw [Engine.noteExternalMove, Engine.noteExternalMove]
  split
  · exact .carrying err nextId inFlightId filters ids
  · have rounded := filters.rounded appliedUs
    have moved : JumpFilter.Alike { first.err with meanUs := first.err.meanUs - (appliedUs : K) }
        { err with meanUs := err.meanUs - (appliedUs : K) } :=
      { seeded := filters.seeded
        run := filters.run
        dir := filters.dir
        known := by
          intro seeded
          rw [filters.known seeded]
        rounded := by
          intro further
          have both := filters.rounded (appliedUs + further)
          rw [Int.cast_add, ← sub_sub, ← sub_sub] at both
          exact both }
    change Alike shift _ { first.carrying err nextId inFlightId with
      err := { err with meanUs := err.meanUs - (appliedUs : K) }
      pendingDispUs := appliedUs
      pendingRefUs := llround (err.meanUs - (appliedUs : K)) + appliedUs
      pendingCompUntilUs := nowUs + first.profile.compensationUs
      serialiseUntilUs := nowUs + first.profile.settleUs }
    rw [rounded]
    exact .carrying _ nextId inFlightId moved (ids.of_ids rfl fun flying => ⟨flying, rfl⟩)

theorem Alike.reset {shift : Nat} {first second : Engine K} (alike : Alike shift first second) :
    Alike shift first.reset second.reset := by
  obtain ⟨err, nextId, inFlightId, filters, ids⟩ := alike
  have unseeded : JumpFilter.Alike { first.err with seeded := false }
      { err with seeded := false } :=
    { seeded := rfl
      run := filters.run
      dir := filters.dir
      known := fun impossible => Bool.noConfusion impossible
      rounded := filters.rounded }
  exact .carrying _ nextId 0 unseeded (ids.landed rfl rfl)

end Engine

namespace AnyCall

def renumbered (shift : Nat) : AnyCall K → AnyCall K
  | .other (.confirmPositionLanded correctionId nowUs) =>
      .other (.confirmPositionLanded ((correctionId + shift) % 2 ^ 64) nowUs)
  | call => call

def Numbered : AnyCall K → Prop
  | .other (.confirmPositionLanded correctionId _) => correctionId < 2 ^ 64
  | _ => True

variable [Field K] [LinearOrder K] [FloorRing K]

def answer (libm : Libm K) (engine : Engine K) : AnyCall K → Option (Answer K)
  | .other (.step nowUs obs group) => some (engine.step libm nowUs obs group).2.answer
  | _ => none

def respond (libm : Libm K) (engine : Engine K) (call : AnyCall K) : Engine K × Option (Answer K) :=
  (call.perform libm engine, call.answer libm engine)

end AnyCall

variable [Field K] [LinearOrder K] [FloorRing K]

/-- Engines that are alike take the same calls and stay so, with the same answers. -/
theorem Engine.Alike.respond {shift : Nat} {first second : Engine K}
    (alike : Engine.Alike shift first second) (libm : Libm K) (call : AnyCall K)
    (numbered : call.Numbered) :
    Engine.Alike shift (call.respond libm first).1
        ((call.renumbered shift).respond libm second).1 ∧
      (call.respond libm first).2 = ((call.renumbered shift).respond libm second).2 := by
  cases call with
  | reset => exact ⟨alike.reset, rfl⟩
  | other call =>
      cases call with
      | setProfile profile =>
          obtain ⟨err, nextId, inFlightId, filters, ids⟩ := alike
          exact ⟨.carrying err nextId inFlightId filters
            (ids.of_ids rfl fun flying => ⟨flying, rfl⟩), rfl⟩
      | setCrystalPpm ppm =>
          obtain ⟨err, nextId, inFlightId, filters, ids⟩ := alike
          refine ⟨?_, rfl⟩
          change Engine.Alike shift (first.setCrystalPpm ppm)
            ((first.carrying err nextId inFlightId).setCrystalPpm ppm)
          rw [Engine.setCrystalPpm_carrying]
          cases ppm with
          | none => exact .carrying err nextId inFlightId filters ids
          | some ppm =>
              exact .carrying err nextId inFlightId filters
                (ids.of_ids rfl fun flying => ⟨flying, rfl⟩)
      | step nowUs obs group =>
          obtain ⟨still, same⟩ := alike.step libm nowUs obs group
          exact ⟨still, congrArg some same⟩
      | confirmPositionLanded correctionId nowUs =>
          exact ⟨alike.confirmPositionLanded correctionId nowUs numbered, rfl⟩
      | noteExternalMove appliedUs nowUs => exact ⟨alike.noteExternalMove appliedUs nowUs, rfl⟩

namespace Engine

structure Unused (engine : Engine K) : Prop where
  gd : engine.gd.seeded = false →
    engine.gd = JumpFilter.initial ∧ engine.gdSigmaPrevUs = 0 ∧ engine.gdLastAtUs = 0
  rate : engine.rateCmdSeeded = false →
    engine.lastRateCmd = 0 ∧ engine.lastCrystalPpm = 0 ∧ engine.lastPPpm = 0
  run : engine.err.jumpRun = 0 → engine.err.jumpDir = 0
  nextId : engine.nextId < 2 ^ 64

theorem filteredErr_idle (engine : Engine K) (libm : Libm K) (nowUs e : Int)
    (run : engine.err.jumpRun = 0 → engine.err.jumpDir = 0) :
    (engine.filteredErr libm nowUs e).1.jumpRun = 0 →
      (engine.filteredErr libm nowUs e).1.jumpDir = 0 := by
  rw [filteredErr]
  split
  · exact run
  · exact engine.err.track_idle _ _ _ _

theorem filterDifferential_seeded (engine : Engine K) (libm : Libm K) (nowUs deltaUs : Int) :
    (engine.filterDifferential libm nowUs deltaUs).1.gd.seeded = true := by
  rw [filterDifferential]
  dsimp only
  split
  · rfl
  · rename_i seeded
    rw [JumpFilter.track_seeded]
    simpa using seeded

theorem differential_seeded (engine : Engine K) (libm : Libm K) (nowUs : Int)
    (group : GroupEvidence) (have_ : (engine.differential libm nowUs group).2.haveDiff = true) :
    (engine.differential libm nowUs group).1.gd.seeded = true := by
  revert have_
  rw [differential]
  dsimp only
  split
  · exact fun _ => filterDifferential_seeded engine libm nowUs group.deltaUs
  · split
    · rename_i held
      exact fun _ => (Bool.and_eq_true_iff.mp held).2
    · exact fun impossible => Bool.noConfusion impossible

theorem Unused.differential {engine : Engine K} (unused : Unused engine) (libm : Libm K)
    (nowUs : Int) (group : GroupEvidence) : Unused (engine.differential libm nowUs group).1 := by
  rw [Engine.differential]
  dsimp only
  split
  · have seeded := filterDifferential_seeded engine libm nowUs group.deltaUs
    exact
      { gd := fun unseeded => Bool.noConfusion (seeded.symm.trans unseeded)
        rate := unused.rate
        run := unused.run
        nextId := unused.nextId }
  · split
    · rename_i held
      have seeded := (Bool.and_eq_true_iff.mp held).2
      exact
        { gd := fun unseeded => Bool.noConfusion (seeded.symm.trans unseeded)
          rate := unused.rate
          run := unused.run
          nextId := unused.nextId }
    · exact unused

theorem Unused.prepared {engine : Engine K} (unused : Unused engine) (libm : Libm K)
    (nowUs : Int) (obs : Observation) : Unused (engine.prepared libm nowUs obs) := by
  obtain ⟨until_, disp, ref, retired⟩ := retirePending_pending engine nowUs obs.errorUs
  rw [Engine.prepared, filterError_eq, retired, expireInFlight]
  have idle := filteredErr_idle { engine with
    pendingCompUntilUs := until_
    pendingDispUs := disp
    pendingRefUs := ref } libm nowUs (obs.errorUs - disp) unused.run
  split
  · exact ⟨unused.gd, unused.rate, idle, unused.nextId⟩
  · exact ⟨unused.gd, unused.rate, idle, unused.nextId⟩

theorem Unused.step {engine : Engine K} (unused : Unused engine) (libm : Libm K) (nowUs : Int)
    (obs : Observation) (group : GroupEvidence) :
    Unused (engine.step libm nowUs obs group).1 := by
  have assessed : Unused (engine.assess libm nowUs obs group).engine :=
    (unused.prepared libm nowUs obs).differential libm nowUs group
  cases engine.step_exit libm nowUs obs group with
  | invalid absent exit =>
      rw [exit]
      exact ⟨unused.gd, unused.rate, unused.run, unused.nextId⟩
  | starved valid starved exit =>
      obtain ⟨until_, disp, ref, only⟩ := retirePending_pending engine nowUs obs.errorUs
      rw [exit, only]
      exact ⟨unused.gd, unused.rate, unused.run, unused.nextId⟩
  | blocked fed wants unready exit =>
      rw [exit]
      exact ⟨assessed.gd, assessed.rate, assessed.run, assessed.nextId⟩
  | issued ready exit =>
      rw [exit]
      refine ⟨?_, assessed.rate, assessed.run, Nat.mod_lt _ (by decide)⟩
      rw [issue]
      dsimp only
      split
      · rename_i compensates
        have seeded := differential_seeded (engine.prepared libm nowUs obs) libm nowUs group
          compensates.1
        exact fun unseeded => Bool.noConfusion (seeded.symm.trans unseeded)
      · exact assessed.gd
  | steered fed content exit =>
      have only := integrate_only (engine.assess libm nowUs obs group).engine
        (engine.weighed libm nowUs obs group)
        (obs.errorUs - (engine.retirePending nowUs obs.errorUs).pendingDispUs)
        ((engine.assess libm nowUs obs group).engine.sinceObsUs nowUs)
        (engine.assess libm nowUs obs group).diff
      rw [exit, steer_eq_rateCommand, poised, only]
      exact ⟨assessed.gd, fun impossible => Bool.noConfusion impossible, assessed.run,
        assessed.nextId⟩

omit [FloorRing K] [LinearOrder K] in
theorem create_unused (profile : Profile K) : Unused (create profile) :=
  ⟨fun _ => ⟨rfl, rfl, rfl⟩, fun _ => ⟨rfl, rfl, rfl⟩, fun _ => rfl, Nat.one_lt_two_pow (by decide)⟩

end Engine

theorem AnyCall.perform_unused (libm : Libm K) (engine : Engine K) (call : AnyCall K)
    (unused : engine.Unused) : (call.perform libm engine).Unused := by
  cases call with
  | reset => exact ⟨unused.gd, unused.rate, unused.run, unused.nextId⟩
  | other call =>
      cases call with
      | setProfile profile => exact ⟨unused.gd, unused.rate, unused.run, unused.nextId⟩
      | setCrystalPpm ppm =>
          cases ppm with
          | none => exact unused
          | some ppm => exact ⟨unused.gd, unused.rate, unused.run, unused.nextId⟩
      | step nowUs obs group => exact unused.step libm nowUs obs group
      | confirmPositionLanded correctionId nowUs =>
          obtain ⟨_, _, _, _, _, _, _, only⟩ := engine.confirm_only correctionId nowUs
          change (engine.confirmPositionLanded correctionId nowUs).Unused
          rw [only]
          exact ⟨unused.gd, unused.rate, unused.run, unused.nextId⟩
      | noteExternalMove appliedUs nowUs =>
          change (engine.noteExternalMove appliedUs nowUs).Unused
          rw [Engine.noteExternalMove]
          split
          · exact unused
          · exact ⟨unused.gd, unused.rate, unused.run, unused.nextId⟩

namespace Engine

def idShift (engine : Engine K) : Nat := (engine.nextId + (2 ^ 64 - 1)) % 2 ^ 64

/-- What `reset` leaves has not been used: no rate was commanded and no group delta was taken,
no run of jumps is pending, and the error mean is within half a microsecond of nothing. -/
structure Forgettable (engine : Engine K) : Prop where
  uncommanded : engine.rateCmdSeeded = false
  ungrouped : engine.gd.seeded = false
  unjumped : engine.err.jumpRun = 0
  centred : |engine.err.meanUs| < 1 / 2

/-- The answers to the later calls are those of a new engine with the profile. -/
def Forgets (libm : Libm K) (engine : Engine K) (later : List (AnyCall K)) : Prop :=
  Unwinding.answers (fun engine (call : AnyCall K) => call.respond libm engine)
      (create engine.profile) later =
    Unwinding.answers (fun engine (call : AnyCall K) => call.respond libm engine) engine.reset
      (later.map (AnyCall.renumbered engine.idShift))

variable [IsStrictOrderedRing K]

theorem reset_alike (engine : Engine K) (unused : engine.Unused)
    (forgettable : engine.Forgettable) :
    Alike engine.idShift (create engine.profile) engine.reset := by
  obtain ⟨gd, sigma, at_⟩ := unused.gd forgettable.ungrouped
  obtain ⟨rate, crystal, proportional⟩ := unused.rate forgettable.uncommanded
  have same : engine.reset = (create engine.profile).carrying { engine.err with seeded := false }
      engine.nextId 0 := by
    rw [Engine.reset, carrying, create, gd, sigma, at_, rate, crystal, proportional,
      forgettable.uncommanded]
  have filters : JumpFilter.Alike (JumpFilter.initial : JumpFilter K)
      { engine.err with seeded := false } :=
    { seeded := rfl
      run := forgettable.unjumped
      dir := unused.run forgettable.unjumped
      known := fun impossible => Bool.noConfusion impossible
      rounded := by
        intro moved
        have fresh : llround ((JumpFilter.initial : JumpFilter K).meanUs - (moved : K)) = -moved := by
          have whole : llround (((-moved : Int) : K)) = -moved := llround_intCast (-moved)
          rw [← whole, Int.cast_neg]
          exact congrArg llround (zero_sub (moved : K))
        rw [fresh]
        apply llround_eq_of_near
        rw [Int.cast_neg, sub_neg_eq_add, sub_add_cancel]
        exact forgettable.centred }
  have ids : Numbered engine.idShift (create engine.profile) engine.nextId 0 :=
    { bounded := Nat.one_lt_two_pow (by decide)
      next := by
        have range := unused.nextId
        change engine.nextId = (1 + (engine.nextId + (2 ^ 64 - 1)) % 2 ^ 64) % 2 ^ 64
        omega
      held := fun impossible => Bool.noConfusion impossible }
  rw [same]
  exact .carrying _ engine.nextId 0 filters ids

/-- After any history that has left nothing in use, `reset` forgets everything. -/
theorem reset_forgets (libm : Libm K) (profile : Profile K) (history later : List (AnyCall K))
    (forgettable : (history.foldl (AnyCall.perform libm) (create profile)).Forgettable)
    (numbered : ∀ call ∈ later, call.Numbered) :
    (history.foldl (AnyCall.perform libm) (create profile)).Forgets libm later := by
  have unused := Run.visits_last (AnyCall.perform libm) Unused (create profile) history
    (Run.visits_of_preserved (AnyCall.perform libm) Unused
      (fun engine call unused => call.perform_unused libm engine unused) _ history
      (create_unused profile))
  have start := reset_alike _ unused forgettable
  exact Unwinding.answers_translated _ _ (AnyCall.renumbered _) (Alike _) AnyCall.Numbered
    (fun first second call alike admitted => (alike.respond libm call admitted).2)
    (fun first second call alike admitted => (alike.respond libm call admitted).1)
    _ _ later start numbered

end Engine

private def noErrorAt (nowUs : Int) (valid : Bool) : AnyCall Rat :=
  .other (.step nowUs
    { atUs := nowUs
      errorUs := 0
      valid := valid
      bufferUs := 0 } GroupEvidence.none)

namespace Engine

/-- A crystal estimate that was only held is forgotten. -/
theorem reset_forgets_held :
    ([.other (.setCrystalPpm (some 50)), noErrorAt 1000000 false].foldl
      (AnyCall.perform Libm.rational) (create Profile.initial)).Forgets Libm.rational
      [noErrorAt 2000000 true] := by
  apply reset_forgets
  · exact
      { uncommanded := by decide +kernel
        ungrouped := by decide +kernel
        unjumped := by decide +kernel
        centred := by decide +kernel }
  · intro call member
    rw [List.mem_singleton.mp member]
    exact trivial

/-- One that was commanded goes on being commanded. -/
theorem reset_remembers_command :
    ¬ ∀ (profile : Profile Rat) (history later : List (AnyCall Rat)),
      (∀ call ∈ later, call.Numbered) →
      (history.foldl (AnyCall.perform Libm.rational) (create profile)).Forgets Libm.rational
        later := by
  intro always
  have numbered : ∀ call ∈ [noErrorAt 2000000 true], call.Numbered := by
    intro call member
    rw [List.mem_singleton.mp member]
    exact trivial
  have forgets := always Profile.initial
    [.other (.setCrystalPpm (some 50)), noErrorAt 1000000 true] [noErrorAt 2000000 true] numbered
  exact absurd forgets (by rw [Forgets]; decide +kernel)

end Engine

end Timing
