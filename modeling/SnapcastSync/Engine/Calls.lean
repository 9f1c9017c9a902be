import SnapcastSync.Engine.Step

/-! The calls on an engine, and what one step of it can do: it holds before or after its
filters have run, it holds for a correction in flight, it issues one, or it steers. -/

namespace Timing

variable {K : Type}

inductive Call (K : Type) where
  | setProfile (profile : Profile K)
  | setCrystalPpm (ppm : Option K)
  | step (nowUs : Int) (obs : Observation) (group : GroupEvidence)
  | confirmPositionLanded (correctionId : Nat) (nowUs : Int)
  | noteExternalMove (appliedUs nowUs : Int)

def Call.atUs : Call K → Option Int
  | .step nowUs _ _ => some nowUs
  | .confirmPositionLanded _ nowUs => some nowUs
  | .noteExternalMove _ nowUs => some nowUs
  | _ => none

def Call.announces : Call K → Option Int
  | .noteExternalMove appliedUs _ => some appliedUs
  | _ => none

def Call.profile : Call K → Option (Profile K)
  | .setProfile profile => some profile
  | _ => none

def Engine.Refiltered (before after : Engine K) : Prop :=
  ∃ err gd gdSigmaPrevUs gdLastAtUs,
    after = { before with
      err := err
      gd := gd
      gdSigmaPrevUs := gdSigmaPrevUs
      gdLastAtUs := gdLastAtUs }

namespace Engine

theorem Refiltered.refl (engine : Engine K) : Refiltered engine engine :=
  ⟨engine.err, engine.gd, engine.gdSigmaPrevUs, engine.gdLastAtUs, rfl⟩

theorem Refiltered.trans {first second third : Engine K} (early : Refiltered first second)
    (late : Refiltered second third) : Refiltered first third := by
  obtain ⟨_, _, _, _, rfl⟩ := early
  obtain ⟨err, gd, sigma, at_, rfl⟩ := late
  exact ⟨err, gd, sigma, at_, rfl⟩

def setProfile (engine : Engine K) (profile : Profile K) : Engine K :=
  { engine with profile := profile }

variable [Field K] [LinearOrder K] [FloorRing K]

theorem filterError_refiltered (engine : Engine K) (libm : Libm K) (nowUs e : Int) :
    Refiltered engine (engine.filterError libm nowUs e).1 := by
  unfold filterError
  split
  · exact ⟨_, engine.gd, engine.gdSigmaPrevUs, engine.gdLastAtUs, rfl⟩
  · exact ⟨_, engine.gd, engine.gdSigmaPrevUs, engine.gdLastAtUs, rfl⟩

theorem differential_refiltered (engine : Engine K) (libm : Libm K) (nowUs : Int)
    (group : GroupEvidence) : Refiltered engine (engine.differential libm nowUs group).1 := by
  unfold differential
  dsimp only
  split
  · exact ⟨engine.err, _, _, _, rfl⟩
  · split
    · exact ⟨engine.err, engine.gd, engine.gdSigmaPrevUs, _, rfl⟩
    · exact Refiltered.refl engine

theorem Refiltered.expireInFlight {before after : Engine K} (same : Refiltered before after)
    (nowUs : Int) : Refiltered (before.expireInFlight nowUs) (after.expireInFlight nowUs) := by
  obtain ⟨err, gd, sigma, at_, rfl⟩ := same
  refine ⟨err, gd, sigma, at_, ?_⟩
  unfold Engine.expireInFlight
  dsimp only
  split
  · rfl
  · rfl

omit [Field K] [LinearOrder K] [FloorRing K] in
theorem retirePending_eq (engine : Engine K) (nowUs errorUs : Int) :
    engine.retirePending nowUs errorUs =
      if engine.pendingCompUntilUs ≠ 0 ∧
          (|errorUs - (engine.pendingRefUs - engine.pendingDispUs)| <
            |errorUs - engine.pendingRefUs| ∨ engine.pendingCompUntilUs ≤ nowUs) then
        { engine with
          pendingCompUntilUs := 0
          pendingDispUs := 0
          pendingRefUs := 0 }
      else engine := by
  rw [retirePending]
  dsimp only
  rw [ite_and]

omit [Field K] [LinearOrder K] [FloorRing K] in
theorem retirePending_pending (engine : Engine K) (nowUs errorUs : Int) :
    ∃ compUntilUs dispUs refUs,
      engine.retirePending nowUs errorUs = { engine with
        pendingCompUntilUs := compUntilUs
        pendingDispUs := dispUs
        pendingRefUs := refUs } := by
  unfold retirePending
  split
  · dsimp only
    split
    · exact ⟨0, 0, 0, rfl⟩
    · exact ⟨engine.pendingCompUntilUs, engine.pendingDispUs, engine.pendingRefUs, rfl⟩
  · exact ⟨engine.pendingCompUntilUs, engine.pendingDispUs, engine.pendingRefUs, rfl⟩

/-- Apart from the filters, what a step has assessed is the expiry of what has been retired. -/
theorem assess_refiltered (engine : Engine K) (libm : Libm K) (nowUs : Int) (obs : Observation)
    (group : GroupEvidence) :
    Refiltered ((engine.retirePending nowUs obs.errorUs).expireInFlight nowUs)
      (engine.assess libm nowUs obs group).engine :=
  ((filterError_refiltered _ libm nowUs _).expireInFlight nowUs).trans
    (differential_refiltered _ libm nowUs group)

/-- The observation counts: it is valid and the buffer is above its floor. -/
structure Fed (engine : Engine K) (obs : Observation) : Prop where
  valid : obs.valid = true
  supplied : engine.starved obs.bufferUs = false

structure Wants (engine : Engine K) (libm : Libm K) (nowUs : Int) (obs : Observation)
    (group : GroupEvidence) : Prop where
  frames : (engine.assess libm nowUs obs group).want.frames ≠ 0
  differential : (engine.assess libm nowUs obs group).diff.differential = true

instance (engine : Engine K) (obs : Observation) : Decidable (engine.Fed obs) :=
  decidable_of_iff (obs.valid = true ∧ engine.starved obs.bufferUs = false)
    ⟨fun both => ⟨both.1, both.2⟩, fun fed => ⟨fed.valid, fed.supplied⟩⟩

instance (engine : Engine K) (libm : Libm K) (nowUs : Int) (obs : Observation)
    (group : GroupEvidence) : Decidable (engine.Wants libm nowUs obs group) :=
  decidable_of_iff ((engine.assess libm nowUs obs group).want.frames ≠ 0 ∧
      (engine.assess libm nowUs obs group).diff.differential = true)
    ⟨fun both => ⟨both.1, both.2⟩, fun wants => ⟨wants.frames, wants.differential⟩⟩

/-- The decision that a fed step records, before it is acted on. -/
def weighed (engine : Engine K) (libm : Libm K) (nowUs : Int) (obs : Observation)
    (group : GroupEvidence) : Decision K :=
  engine.assessedDecision (obs.errorUs - (engine.retirePending nowUs obs.errorUs).pendingDispUs)
    (engine.assess libm nowUs obs group)

theorem step_of_invalid (engine : Engine K) (libm : Libm K) (nowUs : Int) (obs : Observation)
    (group : GroupEvidence) (invalid : obs.valid = false) :
    engine.step libm nowUs obs group = engine.hold engine.opening .noEvidence := by
  unfold step
  rw [invalid]
  rfl

theorem step_of_starved (engine : Engine K) (libm : Libm K) (nowUs : Int) (obs : Observation)
    (group : GroupEvidence) (valid : obs.valid = true)
    (starved : engine.starved obs.bufferUs = true) :
    engine.step libm nowUs obs group =
      (engine.retirePending nowUs obs.errorUs).hold engine.opening .noEvidence := by
  unfold step
  simp only [valid, starved, Bool.not_true, Bool.false_eq_true, if_false, if_true]

theorem step_of_blocked (engine : Engine K) (libm : Libm K) (nowUs : Int) (obs : Observation)
    (group : GroupEvidence) (fed : engine.Fed obs) (wants : engine.Wants libm nowUs obs group)
    (unready : ¬ engine.Ready libm nowUs obs group) :
    engine.step libm nowUs obs group =
      (engine.assess libm nowUs obs group).engine.hold (engine.weighed libm nowUs obs group)
        .inFlight := by
  have blocked : ((engine.assess libm nowUs obs group).engine.inFlight ||
      decide (nowUs < (engine.assess libm nowUs obs group).engine.serialiseUntilUs)) = true := by
    by_contra open_
    rw [Bool.not_eq_true, Bool.or_eq_false_iff, decide_eq_false_iff_not] at open_
    exact unready
      { valid := fed.valid
        fed := fed.supplied
        wanted := wants.frames
        differential := wants.differential
        free := open_.1
        serialised := not_lt.mp open_.2 }
  unfold step weighed
  simp only [fed.valid, fed.supplied, Bool.not_true, Bool.false_eq_true, if_false, blocked,
    if_true]
  rw [if_pos ⟨wants.frames, wants.differential⟩]

theorem step_of_content (engine : Engine K) (libm : Libm K) (nowUs : Int) (obs : Observation)
    (group : GroupEvidence) (fed : engine.Fed obs)
    (content : ¬ engine.Wants libm nowUs obs group) :
    engine.step libm nowUs obs group =
      (engine.assess libm nowUs obs group).engine.steer (engine.weighed libm nowUs obs group)
        nowUs (obs.errorUs - (engine.retirePending nowUs obs.errorUs).pendingDispUs) group
        (engine.assess libm nowUs obs group).diff (engine.assess libm nowUs obs group).want := by
  unfold step weighed
  simp only [fed.valid, fed.supplied, Bool.not_true, Bool.false_eq_true, if_false]
  rw [if_neg fun both => content ⟨both.1, both.2⟩]

inductive Exit (engine : Engine K) (libm : Libm K) (nowUs : Int) (obs : Observation)
    (group : GroupEvidence) : Prop where
  | invalid (absent : obs.valid = false)
      (same : engine.step libm nowUs obs group = engine.hold engine.opening .noEvidence)
  | starved (valid : obs.valid = true) (starved : engine.starved obs.bufferUs = true)
      (same : engine.step libm nowUs obs group =
        (engine.retirePending nowUs obs.errorUs).hold engine.opening .noEvidence)
  | blocked (fed : engine.Fed obs) (wants : engine.Wants libm nowUs obs group)
      (unready : ¬ engine.Ready libm nowUs obs group)
      (same : engine.step libm nowUs obs group =
        (engine.assess libm nowUs obs group).engine.hold (engine.weighed libm nowUs obs group)
          .inFlight)
  | issued (ready : engine.Ready libm nowUs obs group)
      (same : engine.step libm nowUs obs group =
        (engine.assess libm nowUs obs group).engine.issue (engine.weighed libm nowUs obs group)
          nowUs group (engine.assess libm nowUs obs group).diff
          (engine.assess libm nowUs obs group).want.frames)
  | steered (fed : engine.Fed obs) (content : ¬ engine.Wants libm nowUs obs group)
      (same : engine.step libm nowUs obs group =
        (engine.assess libm nowUs obs group).engine.steer (engine.weighed libm nowUs obs group)
          nowUs (obs.errorUs - (engine.retirePending nowUs obs.errorUs).pendingDispUs) group
          (engine.assess libm nowUs obs group).diff (engine.assess libm nowUs obs group).want)

theorem step_exit (engine : Engine K) (libm : Libm K) (nowUs : Int) (obs : Observation)
    (group : GroupEvidence) : engine.Exit libm nowUs obs group := by
  by_cases valid : obs.valid = true
  · by_cases supplied : engine.starved obs.bufferUs = false
    · have fed : engine.Fed obs := ⟨valid, supplied⟩
      by_cases wants : engine.Wants libm nowUs obs group
      · by_cases ready : engine.Ready libm nowUs obs group
        · exact .issued ready (step_of_ready engine libm nowUs obs group ready)
        · exact .blocked fed wants ready
            (step_of_blocked engine libm nowUs obs group fed wants ready)
      · exact .steered fed wants (step_of_content engine libm nowUs obs group fed wants)
    · have starved : engine.starved obs.bufferUs = true := by simpa using supplied
      exact .starved valid starved (step_of_starved engine libm nowUs obs group valid starved)
  · have invalid : obs.valid = false := by simpa using valid
    exact .invalid invalid (step_of_invalid engine libm nowUs obs group invalid)

structure Steered (before after : Engine K) : Prop where
  profile : after.profile = before.profile
  err : after.err = before.err
  gd : after.gd = before.gd
  creditFrames : after.creditFrames = before.creditFrames
  creditSinceUs : after.creditSinceUs = before.creditSinceUs
  creditCount : after.creditCount = before.creditCount
  pendingDispUs : after.pendingDispUs = before.pendingDispUs
  pendingCompUntilUs : after.pendingCompUntilUs = before.pendingCompUntilUs
  pendingRefUs : after.pendingRefUs = before.pendingRefUs
  serialiseUntilUs : after.serialiseUntilUs = before.serialiseUntilUs
  inFlight : after.inFlight = before.inFlight
  nextId : after.nextId = before.nextId
  inFlightId : after.inFlightId = before.inFlightId
  inFlightFrames : after.inFlightFrames = before.inFlightFrames
  inFlightSinceUs : after.inFlightSinceUs = before.inFlightSinceUs

omit [FloorRing K] [LinearOrder K] [Field K] in
theorem Steered.trans {first second third : Engine K} (early : Steered first second)
    (late : Steered second third) : Steered first third :=
  { profile := late.profile.trans early.profile
    err := late.err.trans early.err
    gd := late.gd.trans early.gd
    creditFrames := late.creditFrames.trans early.creditFrames
    creditSinceUs := late.creditSinceUs.trans early.creditSinceUs
    creditCount := late.creditCount.trans early.creditCount
    pendingDispUs := late.pendingDispUs.trans early.pendingDispUs
    pendingCompUntilUs := late.pendingCompUntilUs.trans early.pendingCompUntilUs
    pendingRefUs := late.pendingRefUs.trans early.pendingRefUs
    serialiseUntilUs := late.serialiseUntilUs.trans early.serialiseUntilUs
    inFlight := late.inFlight.trans early.inFlight
    nextId := late.nextId.trans early.nextId
    inFlightId := late.inFlightId.trans early.inFlightId
    inFlightFrames := late.inFlightFrames.trans early.inFlightFrames
    inFlightSinceUs := late.inFlightSinceUs.trans early.inFlightSinceUs }

theorem integrate_steered (engine : Engine K) (decision : Decision K) (e dtUs : Int)
    (diff : Differential K) : Steered engine (engine.integrate decision e dtUs diff).1 := by
  unfold integrate
  split
  · constructor <;> rfl
  · constructor <;> rfl

theorem steer_steered (engine : Engine K) (decision : Decision K) (nowUs e : Int)
    (group : GroupEvidence) (diff : Differential K) (want : PositionWant K) :
    Steered engine (engine.steer decision nowUs e group diff want).1 := by
  apply (integrate_steered engine decision e
    (if 0 < engine.lastObsUs then nowUs - engine.lastObsUs else 0) diff).trans
  constructor <;> rfl

omit [Field K] [LinearOrder K] [FloorRing K] in
theorem hold_steered (engine : Engine K) (decision : Decision K) (why : Why) :
    Steered engine (engine.hold decision why).1 := by
  constructor <;> rfl

theorem step_profile (engine : Engine K) (libm : Libm K) (nowUs : Int) (obs : Observation)
    (group : GroupEvidence) :
    (engine.step libm nowUs obs group).1.profile = engine.profile := by
  have assessed := assess_profile engine libm nowUs obs group
  cases engine.step_exit libm nowUs obs group with
  | invalid _ same =>
      rw [same]
      rfl
  | starved _ _ same =>
      rw [same]
      exact (retirePending_sameCrystal engine nowUs obs.errorUs).profile
  | blocked _ _ _ same =>
      rw [same]
      exact assessed
  | issued _ same =>
      rw [same]
      exact assessed
  | steered _ _ same =>
      rw [same]
      exact (steer_steered _ _ _ _ _ _ _).profile.trans assessed

theorem credit_only (engine : Engine K) (frames nowUs : Int) :
    ∃ crystalPpm creditFrames creditSinceUs creditCount,
      engine.creditPositionCorrection frames nowUs = { engine with
        crystalPpm := crystalPpm
        creditFrames := creditFrames
        creditSinceUs := creditSinceUs
        creditCount := creditCount } := by
  unfold creditPositionCorrection
  dsimp only
  split
  · exact ⟨engine.crystalPpm, _, _, _, rfl⟩
  · exact ⟨_, _, _, _, rfl⟩

theorem confirm_of_named (engine : Engine K) (correctionId : Nat) (nowUs : Int)
    (held : engine.inFlight = true) (named : correctionId = engine.inFlightId) :
    engine.confirmPositionLanded correctionId nowUs =
      { engine.creditPositionCorrection engine.inFlightFrames nowUs with
        inFlight := false
        inFlightId := 0
        inFlightFrames := 0 } := by
  unfold confirmPositionLanded
  rw [held, named]
  simp

theorem confirm_cases (engine : Engine K) (correctionId : Nat) (nowUs : Int) :
    engine.confirmPositionLanded correctionId nowUs = engine ∨
      (engine.inFlight = true ∧ correctionId = engine.inFlightId) := by
  by_cases named : engine.inFlight = true ∧ correctionId = engine.inFlightId
  · exact Or.inr named
  · have skipped : (!engine.inFlight || decide (correctionId ≠ engine.inFlightId)) = true := by
      rw [Bool.or_eq_true, Bool.not_eq_true', decide_eq_true_eq]
      by_cases held : engine.inFlight = true
      · exact Or.inr fun same => named ⟨held, same⟩
      · exact Or.inl (by simpa using held)
    unfold confirmPositionLanded
    rw [if_pos skipped]
    exact Or.inl rfl

theorem confirm_only (engine : Engine K) (correctionId : Nat) (nowUs : Int) :
    ∃ crystalPpm creditFrames creditSinceUs creditCount inFlight inFlightId inFlightFrames,
      engine.confirmPositionLanded correctionId nowUs = { engine with
        crystalPpm := crystalPpm
        creditFrames := creditFrames
        creditSinceUs := creditSinceUs
        creditCount := creditCount
        inFlight := inFlight
        inFlightId := inFlightId
        inFlightFrames := inFlightFrames } := by
  rcases engine.confirm_cases correctionId nowUs with same | ⟨held, named⟩
  · rw [same]
    exact ⟨engine.crystalPpm, engine.creditFrames, engine.creditSinceUs, engine.creditCount,
      engine.inFlight, engine.inFlightId, engine.inFlightFrames, rfl⟩
  · obtain ⟨crystal, frames, since, count, credited⟩ :=
      engine.credit_only engine.inFlightFrames nowUs
    rw [engine.confirm_of_named correctionId nowUs held named, credited]
    exact ⟨crystal, frames, since, count, false, 0, 0, rfl⟩

end Engine

namespace Call

variable [Field K] [LinearOrder K] [FloorRing K]

def perform (libm : Libm K) (engine : Engine K) : Call K → Engine K
  | .setProfile profile => engine.setProfile profile
  | .setCrystalPpm ppm => engine.setCrystalPpm ppm
  | .step nowUs obs group => (engine.step libm nowUs obs group).1
  | .confirmPositionLanded correctionId nowUs => engine.confirmPositionLanded correctionId nowUs
  | .noteExternalMove appliedUs nowUs => engine.noteExternalMove appliedUs nowUs

theorem perform_profile (libm : Libm K) (engine : Engine K) (call : Call K)
    (steady : call.profile = none) : (call.perform libm engine).profile = engine.profile := by
  cases call with
  | setProfile profile => cases steady
  | setCrystalPpm ppm =>
      cases ppm with
      | none => rfl
      | some ppm => rfl
  | step nowUs obs group => exact engine.step_profile libm nowUs obs group
  | confirmPositionLanded correctionId nowUs =>
      obtain ⟨_, _, _, _, _, _, _, only⟩ := engine.confirm_only correctionId nowUs
      change (engine.confirmPositionLanded correctionId nowUs).profile = engine.profile
      rw [only]
  | noteExternalMove appliedUs nowUs =>
      unfold perform Engine.noteExternalMove
      dsimp only
      split
      · rfl
      · rfl

end Call

end Timing
