import SnapcastSync.ClockSync.Recomputation
import SnapcastSync.ClockSync.SampleTsf
import SnapcastSync.Player.TagMeasure

/-! The render phase that a device publishes: at which TSF instant it rendered a frame, against
the server time of that frame. It is measured from the newest tagged report and a TSF sample, kept
for the device itself, and shown to the others while no transient is open. -/

namespace ClockSync.TsfSync

variable {K : Type}

def phaseState (sync : TsfSync K) : Int × Int × Bool :=
  (sync.renderPhaseUs, sync.renderPhaseAtUs, sync.renderPhaseBroadcast)

section Kept

variable [Field K] [LinearOrder K] [FloorRing K]

theorem recomputeGroupDelta_phaseState (sync : TsfSync K) (localNowUs : Int) :
    (sync.recomputeGroupDelta localNowUs).phaseState = sync.phaseState := by
  unfold recomputeGroupDelta
  split
  · rfl
  · split
    · rfl
    · dsimp only
      split
      · split
        · rfl
        · rfl
      · rfl

theorem setRenderPhase_phaseState (sync : TsfSync K) (phaseUs atUs : Int) :
    (sync.setRenderPhase phaseUs atUs).phaseState =
      (phaseUs, atUs, sync.renderPhaseBroadcast) := by
  have stored : (sync.phaseStored phaseUs atUs).phaseState =
      (phaseUs, atUs, sync.renderPhaseBroadcast) := by
    unfold phaseStored
    dsimp only
    split
    · rfl
    · rfl
  rw [setRenderPhase_eq]
  split
  · rw [recomputeGroupDelta_phaseState, stored]
  · exact stored

theorem recordPeerPhase_phaseState (sync : TsfSync K) (mac : Mac) (phaseUs sampledUs : Int) :
    (sync.recordPeerPhase mac phaseUs sampledUs).phaseState = sync.phaseState := by
  unfold recordPeerPhase
  split
  · rfl
  · rw [recomputeGroupDelta_phaseState]
    rfl

omit [LinearOrder K] [FloorRing K] in
theorem pairAveragedDelta_phaseState (sync : TsfSync K) (index : Nat) (phaseUs sampledUs : Int) :
    (sync.pairAveragedDelta index phaseUs sampledUs).phaseState = sync.phaseState := by
  unfold pairAveragedDelta
  split
  · rfl
  · split
    · rfl
    · split
      · rfl
      · rfl

theorem rollAveragedDelta_phaseState (sync : TsfSync K) (localNowUs : Int) :
    (sync.rollAveragedDelta localNowUs).phaseState = sync.phaseState := by
  unfold rollAveragedDelta
  generalize (if sync.gdavgRollUs = 0 then localNowUs else sync.gdavgRollUs) = rollUs
  dsimp only
  split
  · rfl
  · rfl

theorem receivePhase_phaseState (sync : TsfSync K) (args : ServiceArgs K)
    (packet : TsfPacket K) : (sync.receivePhase args packet).phaseState = sync.phaseState := by
  unfold receivePhase
  split
  · dsimp only
    rw [rollAveragedDelta_phaseState, pairAveragedDelta_phaseState, recordPeerPhase_phaseState]
  · rfl

theorem receive_phaseState (sync : TsfSync K) (args : ServiceArgs K) (datagram : Datagram K) :
    (sync.receive args datagram).phaseState = sync.phaseState := by
  unfold receive
  split
  · have heard : (sync.hear args datagram).phaseState = sync.phaseState :=
      receivePhase_phaseState (sync.recordSender args datagram) args datagram.packet
    dsimp only
    split
    · exact heard
    · exact heard
  · rfl

omit [FloorRing K] in
theorem trackTsfRate_phaseState (sync : TsfSync K) (sample : TsfSample) :
    (sync.trackTsfRate sample).phaseState = sync.phaseState := by
  unfold trackTsfRate
  split
  · rfl
  · split
    · dsimp only
      split
      · rfl
      · rfl
    · rfl

theorem broadcast_phaseState (sync : TsfSync K) (args : ServiceArgs K) (timerUs : Int)
    (sample : Option TsfSample) :
    (sync.broadcast args timerUs sample).1.phaseState = sync.phaseState := by
  cases sample with
  | none => rfl
  | some now => exact trackTsfRate_phaseState sync now

theorem updateConsensus_phaseState (sync : TsfSync K) (localNowUs : Int) :
    (sync.updateConsensus localNowUs).phaseState = sync.phaseState := by
  unfold updateConsensus
  dsimp only
  split
  · rfl
  · split
    · rfl
    · rfl

theorem commonErrConsensus_phaseState (sync : TsfSync K) (localNowUs : Int) :
    (sync.commonErrConsensus localNowUs).1.phaseState = sync.phaseState := by
  unfold commonErrConsensus
  dsimp only
  split
  · rfl
  · split
    · rfl
    · rfl

/-- An action that is not about the own phase: neither a new one, nor a note of another flag. -/
def Spares (sync : TsfSync K) : Action K → Prop
  | .setRenderPhase _ _ => False
  | .note notes => notes.renderPhaseBroadcast = sync.renderPhaseBroadcast
  | _ => True

theorem act_phaseState (sync : TsfSync K) (action : Action K) (spares : sync.Spares action) :
    (sync.act action).phaseState = sync.phaseState := by
  cases action with
  | reset => rfl
  | note notes =>
      have same : notes.renderPhaseBroadcast = sync.renderPhaseBroadcast := spares
      change (_, _, notes.renderPhaseBroadcast) = _
      rw [same]
      rfl
  | receive args datagram => exact receive_phaseState sync args datagram
  | broadcast args timerUs sample => exact broadcast_phaseState sync args timerUs sample
  | updateConsensus localNowUs => exact updateConsensus_phaseState sync localNowUs
  | setRenderPhase phaseUs atUs => exact absurd spares (fun impossible => impossible)
  | commonErrConsensus localNowUs => exact commonErrConsensus_phaseState sync localNowUs
  | setPeers peerAddrs => rfl

end Kept

end ClockSync.TsfSync

namespace Player

open ClockSync

def renderTagMaxAgeUs : Int := 100000

structure TaggedRender extends TagArrival where
  sampleRate : Nat
deriving DecidableEq, Repr

namespace TaggedRender

def firstFrameUs (render : TaggedRender) : Int :=
  render.toTagArrival.firstFrameLocal render.sampleRate

def serverUs (render : TaggedRender) : Int := render.toTagArrival.frameServerUs render.sampleRate

def durationUs (render : TaggedRender) : Int :=
  Int.tdiv ((render.frames : Int) * 1000000) render.sampleRate

end TaggedRender

structure PhaseSource (K : Type) where
  stream : TagStream K
  taggedRender : TaggedRender
  phaseTransientUntilUs : Int
  tsfObserver : Bool
  tsfSync : TsfSync K

/-- What the tasks do with it: something happens to the tags, with the TSF attempts that a sample
would take; a transient is opened from now for some time; a sync report is made; and whatever else
is done with the shared state. -/
inductive RenderEvent (K : Type) where
  | tags (event : TagEvent) (attempts : Vector Attempt sandwichAttempts)
  | transient (nowUs spanUs : Int)
  | report (nowUs : Int) (attempts : Vector Attempt sandwichAttempts)
  | share (action : Action K)

/-- A report that `notify_audio_played_tagged` does not return from at once. -/
def TagStream.takes {K : Type} (stream : TagStream K) (arrival : TagArrival) : Bool :=
  decide (arrival.frames ≠ 0) && arrival.valid && decide (stream.sampleRate ≠ 0)

namespace PhaseSource

variable {K : Type}

def fresh (source : PhaseSource K) (localUs : Int) : Bool :=
  let render := source.taggedRender
  let tagAgeUs := localUs - render.adjustedTs
  decide (0 < render.adjustedTs) && decide (0 < render.sampleRate) &&
    decide (tagAgeUs < renderTagMaxAgeUs) && decide (-renderTagMaxAgeUs < tagAgeUs) &&
    decide (source.stream.blankUntilUs ≤ render.adjustedTs)

def measuredPhase (source : PhaseSource K) (read : TsfRead) : Int :=
  source.taggedRender.firstFrameUs + (read.sample.tsfUs - read.sample.localUs) -
    source.taggedRender.serverUs

def setBroadcast (source : PhaseSource K) (on : Bool) : PhaseSource K :=
  { source with tsfSync := { source.tsfSync with renderPhaseBroadcast := on } }

variable [Field K] [LinearOrder K] [FloorRing K]

def setPhase (source : PhaseSource K) (phaseUs atUs : Int) : PhaseSource K :=
  { source with tsfSync := source.tsfSync.setRenderPhase phaseUs atUs }

/-- `publish_render_phase_sample_`. -/
def publishSample (source : PhaseSource K) (attempts : Vector Attempt sandwichAttempts) :
    PhaseSource K :=
  if source.tsfObserver then source
  else
    match sampleTsf attempts with
    | none => source
    | some read =>
        if source.fresh read.sample.localUs then
          source.setPhase (source.measuredPhase read) read.sample.localUs
        else source.setPhase renderPhaseUnknown 0

/-- `publish_render_phase_`. -/
def publish (source : PhaseSource K) (steady : Bool)
    (attempts : Vector Attempt sandwichAttempts) : PhaseSource K :=
  if source.tsfObserver then source else (source.setBroadcast steady).publishSample attempts

def report (source : PhaseSource K) (nowUs : Int) (attempts : Vector Attempt sandwichAttempts) :
    PhaseSource K :=
  match sampleTsf attempts with
  | none => source
  | some read =>
      let measured :=
        if source.fresh read.sample.localUs then source.measuredPhase read else renderPhaseUnknown
      let judged := source.setBroadcast (decide (source.phaseTransientUntilUs ≤ nowUs))
      if measured ≠ renderPhaseUnknown ∧ source.tsfObserver = false then
        judged.setPhase measured read.sample.localUs
      else judged.setPhase renderPhaseUnknown 0

def step (source : PhaseSource K) : RenderEvent K → PhaseSource K
  | .tags (.arrival tag) attempts =>
      if source.stream.takes tag then
        { source with
          stream := source.stream.notifyTagged tag
          taggedRender := { toTagArrival := tag, sampleRate := source.stream.sampleRate }
        }.publishSample attempts
      else source
  | .tags (.measure nowUs staleUs) attempts =>
      let drained := { source with stream := source.stream.step (.measure nowUs staleUs) }
      if source.stream.measures nowUs staleUs then
        drained.publish (decide (source.phaseTransientUntilUs ≤ nowUs)) attempts
      else drained
  | .tags event _ => { source with stream := source.stream.step event }
  | .transient nowUs spanUs =>
      { source with phaseTransientUntilUs := max source.phaseTransientUntilUs (nowUs + spanUs) }
  | .report nowUs attempts => source.report nowUs attempts
  | .share action => { source with tsfSync := source.tsfSync.act action }

def run (source : PhaseSource K) (events : List (RenderEvent K)) : PhaseSource K :=
  events.foldl step source

def judges (source : PhaseSource K) : RenderEvent K → Option Int
  | .tags (.measure nowUs staleUs) _ =>
      if source.stream.measures nowUs staleUs && !source.tsfObserver then some nowUs
      else none
  | .report nowUs attempts => if (sampleTsf attempts).isSome then some nowUs else none
  | _ => none

def judgements (source : PhaseSource K) : List (RenderEvent K) → List Int
  | [] => []
  | event :: rest => (source.judges event).toList ++ (source.step event).judgements rest

def attemptsOf : RenderEvent K → List Attempt
  | .tags _ attempts => attempts.toList
  | .report _ attempts => attempts.toList
  | _ => []

/-- Each attempt reads the TSF between its reads of the timer, and nobody else sets the phase. -/
def Allowed (clock : TsfClock) (source : PhaseSource K) (event : RenderEvent K) : Prop :=
  (∀ attempt ∈ attemptsOf event, attempt.tsfUs ≠ 0 → clock.Took attempt) ∧
    ∀ action, event = .share action → source.tsfSync.Spares action

/-- What may become of the phase: it is kept, withdrawn, or sampled anew from a fresh tag. -/
inductive Change (before after : PhaseSource K) (attempts : List Attempt) : Prop where
  | kept (phase : after.tsfSync.renderPhaseUs = before.tsfSync.renderPhaseUs)
      (at_ : after.tsfSync.renderPhaseAtUs = before.tsfSync.renderPhaseAtUs)
  | withdrawn (unknown : after.tsfSync.renderPhaseUs = renderPhaseUnknown)
  | sampled (taken : Vector Attempt sandwichAttempts) (read : TsfRead)
      (tried : taken.toList = attempts) (found : sampleTsf taken = some read)
      (player : before.tsfObserver = false)
      (fresh : after.fresh read.sample.localUs = true)
      (phase : after.tsfSync.renderPhaseUs = after.measuredPhase read)
      (at_ : after.tsfSync.renderPhaseAtUs = read.sample.localUs)

omit [Field K] [LinearOrder K] [FloorRing K] in
theorem Change.of_same {before other after : PhaseSource K} {attempts : List Attempt}
    (change : Change other after attempts)
    (phaseSame : before.tsfSync.renderPhaseUs = other.tsfSync.renderPhaseUs)
    (atSame : before.tsfSync.renderPhaseAtUs = other.tsfSync.renderPhaseAtUs)
    (observer : before.tsfObserver = other.tsfObserver) : Change before after attempts := by
  cases change with
  | kept phase at_ => exact Change.kept (phase.trans phaseSame.symm) (at_.trans atSame.symm)
  | withdrawn unknown => exact Change.withdrawn unknown
  | sampled taken read tried found player fresh phase at_ =>
      exact Change.sampled taken read tried found (observer.trans player) fresh phase at_

theorem setPhase_phaseState (source : PhaseSource K) (phaseUs atUs : Int) :
    (source.setPhase phaseUs atUs).tsfSync.phaseState =
      (phaseUs, atUs, source.tsfSync.renderPhaseBroadcast) :=
  source.tsfSync.setRenderPhase_phaseState phaseUs atUs

theorem setPhase_set (source : PhaseSource K) (phaseUs atUs : Int) :
    (source.setPhase phaseUs atUs).tsfSync.renderPhaseUs = phaseUs ∧
      (source.setPhase phaseUs atUs).tsfSync.renderPhaseAtUs = atUs ∧
      (source.setPhase phaseUs atUs).tsfSync.renderPhaseBroadcast =
        source.tsfSync.renderPhaseBroadcast := by
  have state := source.setPhase_phaseState phaseUs atUs
  exact ⟨congrArg (·.1) state, congrArg (·.2.1) state, congrArg (·.2.2) state⟩

theorem publishSample_change (source : PhaseSource K)
    (attempts : Vector Attempt sandwichAttempts) :
    Change source (source.publishSample attempts) attempts.toList := by
  rw [publishSample]
  by_cases observer : source.tsfObserver = true
  · rw [if_pos observer]
    exact Change.kept rfl rfl
  · rw [if_neg observer]
    cases found : sampleTsf attempts with
    | none => exact Change.kept rfl rfl
    | some read =>
        dsimp only
        by_cases fresh : source.fresh read.sample.localUs = true
        · rw [if_pos fresh]
          obtain ⟨phase, at_, _⟩ :=
            source.setPhase_set (source.measuredPhase read) read.sample.localUs
          exact Change.sampled attempts read rfl found (Bool.eq_false_iff.mpr observer) fresh
            phase at_
        · rw [if_neg fresh]
          exact Change.withdrawn (source.setPhase_set renderPhaseUnknown 0).1

theorem publishSample_rest (source : PhaseSource K)
    (attempts : Vector Attempt sandwichAttempts) :
    (source.publishSample attempts).tsfSync.renderPhaseBroadcast =
        source.tsfSync.renderPhaseBroadcast ∧
      (source.publishSample attempts).taggedRender = source.taggedRender ∧
      (source.publishSample attempts).stream = source.stream ∧
      (source.publishSample attempts).phaseTransientUntilUs = source.phaseTransientUntilUs ∧
      (source.publishSample attempts).tsfObserver = source.tsfObserver := by
  rw [publishSample]
  split
  · exact ⟨rfl, rfl, rfl, rfl, rfl⟩
  · split
    · exact ⟨rfl, rfl, rfl, rfl, rfl⟩
    · split
      · exact ⟨(source.setPhase_set _ _).2.2, rfl, rfl, rfl, rfl⟩
      · exact ⟨(source.setPhase_set _ _).2.2, rfl, rfl, rfl, rfl⟩

theorem publish_change (source : PhaseSource K) (steady : Bool)
    (attempts : Vector Attempt sandwichAttempts) :
    Change source (source.publish steady attempts) attempts.toList := by
  rw [publish]
  split
  · exact Change.kept rfl rfl
  · exact ((source.setBroadcast steady).publishSample_change attempts).of_same rfl rfl rfl

theorem report_change (source : PhaseSource K) (nowUs : Int)
    (attempts : Vector Attempt sandwichAttempts) :
    Change source (source.report nowUs attempts) attempts.toList := by
  rw [report]
  cases found : sampleTsf attempts with
  | none => exact Change.kept rfl rfl
  | some read =>
      dsimp only
      by_cases fresh : source.fresh read.sample.localUs = true
      · rw [if_pos fresh]
        split
        · rename_i measures
          obtain ⟨phase, at_, _⟩ := (source.setBroadcast
            (decide (source.phaseTransientUntilUs ≤ nowUs))).setPhase_set
              (source.measuredPhase read) read.sample.localUs
          exact Change.sampled attempts read rfl found measures.2 fresh phase at_
        · exact Change.withdrawn (setPhase_set _ renderPhaseUnknown 0).1
      · rw [if_neg fresh, if_neg (fun measures => measures.1 rfl)]
        exact Change.withdrawn (setPhase_set _ renderPhaseUnknown 0).1

theorem step_change (source : PhaseSource K) (event : RenderEvent K)
    (spares : ∀ action, event = .share action → source.tsfSync.Spares action) :
    Change source (source.step event) (attemptsOf event) := by
  cases event with
  | tags event attempts =>
      cases event with
      | arrival tag =>
          rw [step]
          split
          · exact (publishSample_change _ attempts).of_same rfl rfl rfl
          · exact Change.kept rfl rfl
      | measure nowUs staleUs =>
          rw [step]
          split
          · exact (publish_change _ _ attempts).of_same rfl rfl rfl
          · exact Change.kept rfl rfl
      | setRate sampleRate => exact Change.kept rfl rfl
      | setAnchor serverTs deadlineUs => exact Change.kept rfl rfl
      | blank untilUs => exact Change.kept rfl rfl
      | extendBlank untilUs => exact Change.kept rfl rfl
  | transient nowUs spanUs => exact Change.kept rfl rfl
  | report nowUs attempts => exact source.report_change nowUs attempts
  | share action =>
      have same := source.tsfSync.act_phaseState action (spares action rfl)
      exact Change.kept (congrArg (·.1) same) (congrArg (·.2.1) same)

theorem publish_rest (source : PhaseSource K) (steady : Bool)
    (attempts : Vector Attempt sandwichAttempts) :
    (source.publish steady attempts).tsfSync.renderPhaseBroadcast =
        (if source.tsfObserver then source.tsfSync.renderPhaseBroadcast else steady) ∧
      (source.publish steady attempts).taggedRender = source.taggedRender ∧
      (source.publish steady attempts).phaseTransientUntilUs = source.phaseTransientUntilUs ∧
      (source.publish steady attempts).tsfObserver = source.tsfObserver := by
  rw [publish]
  split
  · exact ⟨rfl, rfl, rfl, rfl⟩
  · obtain ⟨flag, tagged, _, transient, observer⟩ :=
      (source.setBroadcast steady).publishSample_rest attempts
    exact ⟨flag, tagged, transient, observer⟩

theorem report_rest (source : PhaseSource K) (nowUs : Int)
    (attempts : Vector Attempt sandwichAttempts) :
    (source.report nowUs attempts).tsfSync.renderPhaseBroadcast =
        (if (sampleTsf attempts).isSome then decide (source.phaseTransientUntilUs ≤ nowUs)
        else source.tsfSync.renderPhaseBroadcast) ∧
      (source.report nowUs attempts).taggedRender = source.taggedRender ∧
      (source.report nowUs attempts).phaseTransientUntilUs = source.phaseTransientUntilUs ∧
      (source.report nowUs attempts).tsfObserver = source.tsfObserver := by
  rw [report]
  cases sampleTsf attempts with
  | none => exact ⟨rfl, rfl, rfl, rfl⟩
  | some read =>
      dsimp only
      generalize (if source.fresh read.sample.localUs then source.measuredPhase read
        else renderPhaseUnknown) = measured
      split
      · exact ⟨(setPhase_set _ _ _).2.2, rfl, rfl, rfl⟩
      · exact ⟨(setPhase_set _ _ _).2.2, rfl, rfl, rfl⟩

/-- What a step leaves of the rest. The others see the phase from a judgement on just where no
transient was open at it. -/
structure Rest (before after : PhaseSource K) (event : RenderEvent K) : Prop where
  flag : after.tsfSync.renderPhaseBroadcast =
    match before.judges event with
    | some nowUs => decide (before.phaseTransientUntilUs ≤ nowUs)
    | none => before.tsfSync.renderPhaseBroadcast
  tagged : after.taggedRender = before.taggedRender ∨
    ∃ tag attempts, event = .tags (.arrival tag) attempts ∧ before.stream.takes tag = true ∧
      after.taggedRender = { toTagArrival := tag, sampleRate := before.stream.sampleRate }
  transient : before.phaseTransientUntilUs ≤ after.phaseTransientUntilUs
  opened : ∀ nowUs spanUs, event = .transient nowUs spanUs →
    nowUs + spanUs ≤ after.phaseTransientUntilUs
  observer : after.tsfObserver = before.tsfObserver

theorem step_rest (source : PhaseSource K) (event : RenderEvent K)
    (spares : ∀ action, event = .share action → source.tsfSync.Spares action) :
    Rest source (source.step event) event := by
  cases event with
  | tags event attempts =>
      cases event with
      | arrival tag =>
          rw [step]
          split
          · rename_i takes
            obtain ⟨flag, tagged, _, transient, observer⟩ := publishSample_rest
              ({ source with
                stream := source.stream.notifyTagged tag
                taggedRender := { toTagArrival := tag, sampleRate := source.stream.sampleRate } })
              attempts
            exact ⟨flag, Or.inr ⟨tag, attempts, rfl, takes, tagged⟩, transient.ge, nofun, observer⟩
          · exact ⟨rfl, Or.inl rfl, le_rfl, nofun, rfl⟩
      | measure nowUs staleUs =>
          rw [step]
          by_cases measures : source.stream.measures nowUs staleUs = true
          · obtain ⟨flag, tagged, transient, observer⟩ := publish_rest
              ({ source with stream := source.stream.step (.measure nowUs staleUs) })
              (decide (source.phaseTransientUntilUs ≤ nowUs)) attempts
            rw [if_pos measures]
            refine ⟨?_, Or.inl tagged, transient.ge, nofun, observer⟩
            rw [flag, judges, measures]
            cases source.tsfObserver with
            | false => rfl
            | true => rfl
          · rw [if_neg measures]
            refine ⟨?_, Or.inl rfl, le_rfl, nofun, rfl⟩
            rw [judges, Bool.eq_false_iff.mpr measures]
            rfl
      | setRate sampleRate => exact ⟨rfl, Or.inl rfl, le_rfl, nofun, rfl⟩
      | setAnchor serverTs deadlineUs => exact ⟨rfl, Or.inl rfl, le_rfl, nofun, rfl⟩
      | blank untilUs => exact ⟨rfl, Or.inl rfl, le_rfl, nofun, rfl⟩
      | extendBlank untilUs => exact ⟨rfl, Or.inl rfl, le_rfl, nofun, rfl⟩
  | transient nowUs spanUs =>
      refine ⟨rfl, Or.inl rfl, le_max_left _ _, ?_, rfl⟩
      intro sinceUs lengthUs same
      cases same
      exact le_max_right _ _
  | report nowUs attempts =>
      obtain ⟨flag, tagged, transient, observer⟩ := source.report_rest nowUs attempts
      refine ⟨flag.trans ?_, Or.inl tagged, transient.ge, nofun, observer⟩
      rw [judges]
      split
      · rfl
      · rfl
  | share action =>
      have same := source.tsfSync.act_phaseState action (spares action rfl)
      exact ⟨congrArg (·.2.2) same, Or.inl rfl, le_rfl, nofun, rfl⟩

theorem run_append (source : PhaseSource K) (early late : List (RenderEvent K)) :
    source.run (early ++ late) = (source.run early).run late := List.foldl_append

theorem judgements_append (source : PhaseSource K) (early late : List (RenderEvent K)) :
    source.judgements (early ++ late) =
      source.judgements early ++ (source.run early).judgements late := by
  induction early generalizing source with
  | nil => rfl
  | cons event rest ih =>
      rw [List.cons_append, judgements, judgements, ih, List.append_assoc]
      rfl

/-- The phase is, up to half the loose sandwich and the drift of the clocks, the TSF instant at
which the first frame of the report rendered, against the server time of that frame. -/
def Vouches (clock : TsfClock) (phaseUs : Int) (render : TaggedRender) : Prop :=
  ∀ tsfUs, clock.shows render.firstFrameUs tsfUs →
    |phaseUs - (tsfUs - render.serverUs)| * 1000000 ≤
      clock.ppm * (renderTagMaxAgeUs + render.durationUs + 200) + 201 * 1000000

omit [Field K] [LinearOrder K] [FloorRing K] in
theorem fresh_bounds {source : PhaseSource K} {localUs : Int}
    (fresh : source.fresh localUs = true) :
    |localUs - source.taggedRender.adjustedTs| < renderTagMaxAgeUs ∧
      0 < source.taggedRender.sampleRate ∧
      source.stream.blankUntilUs ≤ source.taggedRender.adjustedTs := by
  rw [PhaseSource.fresh, Bool.and_eq_true, Bool.and_eq_true, Bool.and_eq_true,
    Bool.and_eq_true] at fresh
  obtain ⟨⟨⟨⟨_, rated⟩, young⟩, old⟩, blanked⟩ := fresh
  exact ⟨abs_lt.mpr ⟨of_decide_eq_true old, of_decide_eq_true young⟩, of_decide_eq_true rated,
    of_decide_eq_true blanked⟩

omit [Field K] [LinearOrder K] [FloorRing K] in
theorem measuredPhase_vouches (clock : TsfClock) (source : PhaseSource K)
    (attempts : Vector Attempt sandwichAttempts)
    (took : ∀ attempt ∈ attempts.toList, attempt.tsfUs ≠ 0 → clock.Took attempt)
    (read : TsfRead) (found : sampleTsf attempts = some read)
    (fresh : source.fresh read.sample.localUs = true) :
    Vouches clock (source.measuredPhase read) source.taggedRender := by
  intro tsfUs shown
  have mapped := sampled_mapping clock attempts took read found _ tsfUs shown
  obtain ⟨aged, _, _⟩ := fresh_bounds fresh
  have spans : (0 : Int) ≤ source.taggedRender.durationUs :=
    Int.tdiv_nonneg (by omega) (Int.natCast_nonneg _)
  have first : source.taggedRender.firstFrameUs =
      source.taggedRender.adjustedTs - source.taggedRender.durationUs := rfl
  have near : |read.sample.localUs - source.taggedRender.firstFrameUs| ≤
      renderTagMaxAgeUs + source.taggedRender.durationUs := by
    rw [first]
    rw [abs_lt] at aged
    rw [abs_le]
    omega
  have same : source.measuredPhase read - (tsfUs - source.taggedRender.serverUs) =
      (read.sample.tsfUs - read.sample.localUs) -
        (tsfUs - source.taggedRender.firstFrameUs) := by
    rw [measuredPhase]
    ring
  rw [same]
  refine mapped.trans (add_le_add ?_ le_rfl)
  exact mul_le_mul_of_nonneg_left (add_le_add near le_rfl) (Int.natCast_nonneg _)

def Newest (start : PhaseSource K) (history : List (RenderEvent K)) : Prop :=
  (start.run history).taggedRender.sampleRate = 0 ∨
    ∃ early tag attempts middle,
      history = early ++ .tags (.arrival tag) attempts :: middle ∧
        (start.run early).stream.takes tag = true ∧
        (start.run history).taggedRender =
          { toTagArrival := tag, sampleRate := (start.run early).stream.sampleRate }

/-- The phase is the one that this event sampled and stored, and it has stayed since. -/
def StoredAt (start : PhaseSource K) (before : List (RenderEvent K)) (event : RenderEvent K)
    (since : List (RenderEvent K)) (phaseUs atUs : Int) : Prop :=
  (∃ taken read, taken.toList = attemptsOf event ∧ sampleTsf taken = some read ∧
    read.sample.localUs = atUs ∧
    (start.run (before ++ [event])).measuredPhase read = phaseUs) ∧
  ∀ soon, soon <+: since →
    (start.run (before ++ event :: soon)).tsfSync.renderPhaseUs = phaseUs ∧
      (start.run (before ++ event :: soon)).tsfSync.renderPhaseAtUs = atUs

/-- What a phase is founded on: the event that stored it, and a report that was taken, and that was
the newest, young and not blanked at that event. -/
def Founded (clock : TsfClock) (start : PhaseSource K) (history : List (RenderEvent K))
    (phaseUs atUs : Int) : Prop :=
  ∃ before event since, history = before ++ event :: since ∧
    StoredAt start before event since phaseUs atUs ∧
    ∃ early tag attempts middle,
      before ++ [event] = early ++ .tags (.arrival tag) attempts :: middle ∧
        (start.run early).stream.takes tag = true ∧
        let render : TaggedRender :=
          { toTagArrival := tag, sampleRate := (start.run early).stream.sampleRate }
        let sampled := start.run (before ++ [event])
        sampled.taggedRender = render ∧ |atUs - tag.adjustedTs| < renderTagMaxAgeUs ∧
          sampled.stream.blankUntilUs ≤ tag.adjustedTs ∧ Vouches clock phaseUs render

/-- At the last judgement of the run, if there was one, every transient had passed. -/
def Settled (start : PhaseSource K) (history : List (RenderEvent K)) : Prop :=
  start.judgements history = [] ∨
    ∃ early event late nowUs,
      history = early ++ event :: late ∧ (start.run early).judges event = some nowUs ∧
        (∀ sinceUs spanUs, .transient sinceUs spanUs ∈ early → sinceUs + spanUs ≤ nowUs) ∧
        (start.run (early ++ [event])).judgements late = []

structure Sound (clock : TsfClock) (start : PhaseSource K) (history : List (RenderEvent K)) :
    Prop where
  newest : Newest start history
  opened : ∀ sinceUs spanUs, .transient sinceUs spanUs ∈ history →
    sinceUs + spanUs ≤ (start.run history).phaseTransientUntilUs
  observer : (start.run history).tsfObserver = start.tsfObserver
  founded : (start.run history).tsfSync.renderPhaseUs ≠ renderPhaseUnknown →
    start.tsfObserver = false ∧
      Founded clock start history (start.run history).tsfSync.renderPhaseUs
        (start.run history).tsfSync.renderPhaseAtUs
  settled : (start.run history).tsfSync.renderPhaseBroadcast = true → Settled start history

theorem newest_append {start : PhaseSource K} {history : List (RenderEvent K)}
    {event : RenderEvent K} (newest : Newest start history)
    (rest : Rest (start.run history) (start.run (history ++ [event])) event) :
    Newest start (history ++ [event]) := by
  rcases rest.tagged with same | ⟨tag, attempts, named, takes, tagged⟩
  · rcases newest with none_ | ⟨early, tag, attempts, middle, split, takes, tagged⟩
    · exact Or.inl (same ▸ none_)
    · refine Or.inr ⟨early, tag, attempts, middle ++ [event], ?_, takes, same.trans tagged⟩
      rw [split, List.append_assoc]
      rfl
  · exact Or.inr ⟨history, tag, attempts, [], by rw [named], takes, tagged⟩

theorem settled_append {start : PhaseSource K} {history : List (RenderEvent K)}
    {event : RenderEvent K}
    (opened : ∀ sinceUs spanUs, .transient sinceUs spanUs ∈ history →
      sinceUs + spanUs ≤ (start.run history).phaseTransientUntilUs)
    (settled : (start.run history).tsfSync.renderPhaseBroadcast = true → Settled start history)
    (rest : Rest (start.run history) (start.run (history ++ [event])) event)
    (shown : (start.run (history ++ [event])).tsfSync.renderPhaseBroadcast = true) :
    Settled start (history ++ [event]) := by
  have flag := rest.flag.symm.trans shown
  cases judged : (start.run history).judges event with
  | none =>
      rw [judged] at flag
      have silent : (start.run history).judgements [event] = [] := by
        rw [judgements, judged]
        rfl
      rcases settled flag with never | ⟨early, last, late, nowUs, split, at_, quiet, since⟩
      · refine Or.inl ?_
        rw [judgements_append, never, silent]
        rfl
      · refine Or.inr ⟨early, last, late ++ [event], nowUs, ?_, at_, quiet, ?_⟩
        · rw [split, List.append_assoc]
          rfl
        · rw [judgements_append, since, ← run_append, List.append_assoc]
          rw [split] at silent
          exact silent
  | some nowUs =>
      rw [judged] at flag
      refine Or.inr ⟨history, event, [], nowUs, rfl, judged, ?_, rfl⟩
      intro sinceUs spanUs member
      exact (opened sinceUs spanUs member).trans (of_decide_eq_true flag)

theorem founded_append {clock : TsfClock} {start : PhaseSource K}
    {history : List (RenderEvent K)} {event : RenderEvent K}
    (newest : Newest start (history ++ [event]))
    (observer : (start.run history).tsfObserver = start.tsfObserver)
    (founded : (start.run history).tsfSync.renderPhaseUs ≠ renderPhaseUnknown →
      start.tsfObserver = false ∧
        Founded clock start history (start.run history).tsfSync.renderPhaseUs
          (start.run history).tsfSync.renderPhaseAtUs)
    (allowed : Allowed clock (start.run history) event)
    (change : Change (start.run history) (start.run (history ++ [event])) (attemptsOf event))
    (known : (start.run (history ++ [event])).tsfSync.renderPhaseUs ≠ renderPhaseUnknown) :
    start.tsfObserver = false ∧
      Founded clock start (history ++ [event])
        (start.run (history ++ [event])).tsfSync.renderPhaseUs
        (start.run (history ++ [event])).tsfSync.renderPhaseAtUs := by
  cases change with
  | kept phase at_ =>
      rw [phase] at known
      obtain ⟨player, before, storing, since, split, ⟨stored, kept⟩, rest⟩ := founded known
      rw [← phase, ← at_] at stored kept rest
      refine ⟨player, before, storing, since ++ [event], ?_, ⟨stored, fun soon leads => ?_⟩, rest⟩
      · rw [split, List.append_assoc]
        rfl
      · rcases List.prefix_concat_iff.mp leads with all | earlier
        · rw [all, split, List.append_assoc]
          exact ⟨rfl, rfl⟩
        · exact kept soon earlier
  | withdrawn unknown => exact absurd unknown known
  | sampled taken read tried found player fresh phase at_ =>
      refine ⟨observer.symm.trans player, ?_⟩
      obtain ⟨aged, rated, blanked⟩ := fresh_bounds fresh
      rcases newest with none_ | ⟨early, tag, attempts, middle, split, takes, tagged⟩
      · rw [none_] at rated
        exact absurd rated (Nat.lt_irrefl 0)
      · have vouched := measuredPhase_vouches clock _ taken
          (fun attempt member => allowed.1 attempt (tried ▸ member)) read found fresh
        have stored : StoredAt start history event []
            (start.run (history ++ [event])).tsfSync.renderPhaseUs
            (start.run (history ++ [event])).tsfSync.renderPhaseAtUs := by
          refine ⟨⟨taken, read, tried, found, at_.symm, phase.symm⟩, fun soon leads => ?_⟩
          rw [List.prefix_nil.mp leads]
          exact ⟨rfl, rfl⟩
        refine ⟨history, event, [], rfl, stored, early, tag, attempts, middle, split, takes,
          tagged, ?_⟩
        rw [tagged] at aged blanked vouched
        rw [phase, at_]
        exact ⟨aged, blanked, vouched⟩

theorem sound_append {clock : TsfClock} {start : PhaseSource K} {history : List (RenderEvent K)}
    {event : RenderEvent K} (sound : Sound clock start history)
    (allowed : Allowed clock (start.run history) event) :
    Sound clock start (history ++ [event]) := by
  have stepped : start.run (history ++ [event]) = (start.run history).step event :=
    run_append start history [event]
  have change := step_change (start.run history) event allowed.2
  have rest := step_rest (start.run history) event allowed.2
  rw [← stepped] at change rest
  have newest := newest_append sound.newest rest
  refine ⟨newest, ?_, rest.observer.trans sound.observer,
    founded_append newest sound.observer sound.founded allowed change,
    settled_append sound.opened sound.settled rest⟩
  intro sinceUs spanUs member
  rcases List.mem_append.mp member with earlier | last
  · exact (sound.opened sinceUs spanUs earlier).trans rest.transient
  · exact rest.opened sinceUs spanUs (List.mem_singleton.mp last).symm

def boot (tsfObserver : Bool) (plausibilityUs : Int) : PhaseSource K where
  stream :=
    { sampleRate := 0
      anchorServerTs := 0
      anchorDeadlineUs := 0
      blankUntilUs := 0
      accN := 0
      accSumUs := 0
      accLastUs := 0 }
  taggedRender := ⟨⟨0, 0, 0, 0, false⟩, 0⟩
  phaseTransientUntilUs := 0
  tsfObserver := tsfObserver
  tsfSync := TsfSync.create plausibilityUs

theorem run_sound (clock : TsfClock) (tsfObserver : Bool) (plausibilityUs : Int)
    (events : List (RenderEvent K))
    (allowed : Run.Along step (Allowed clock) (boot tsfObserver plausibilityUs) events) :
    Sound clock (boot tsfObserver plausibilityUs) events := by
  induction events using List.reverseRecOn with
  | nil =>
      refine ⟨Or.inl rfl, ?_, rfl, fun known => absurd rfl known, fun _ => Or.inl rfl⟩
      intro sinceUs spanUs member
      cases member
  | append_singleton history event ih =>
      rw [Run.along_append] at allowed
      exact sound_append (ih allowed.1) allowed.2.1

/-- In every run, a phase that the others may see is that of a tagged report which was the newest,
young and not blanked when it was sampled, as exact as the sandwich and the clocks are; and at the
last judgement, if there was one, every transient had passed. An observer shows none. -/
theorem shown_phase (clock : TsfClock) (tsfObserver : Bool) (plausibilityUs : Int)
    (events : List (RenderEvent K))
    (allowed : Run.Along step (Allowed clock) (boot tsfObserver plausibilityUs) events)
    (shown : ((boot tsfObserver plausibilityUs).run events).tsfSync.renderPhaseForBeacon ≠
      renderPhaseUnknown) :
    let start : PhaseSource K := boot tsfObserver plausibilityUs
    let sync := (start.run events).tsfSync
    sync.renderPhaseForBeacon = sync.renderPhaseUs ∧ tsfObserver = false ∧
      Founded clock start events sync.renderPhaseUs sync.renderPhaseAtUs ∧
      Settled start events := by
  intro start sync
  have sound := run_sound clock tsfObserver plausibilityUs events allowed
  have visible : sync.renderPhaseBroadcast = true := by
    by_contra hidden
    exact shown (if_neg hidden)
  have same : sync.renderPhaseForBeacon = sync.renderPhaseUs := if_pos visible
  rw [same] at shown
  obtain ⟨player, founded⟩ := sound.founded shown
  exact ⟨same, player, founded, sound.settled visible⟩

private def aheadClock : TsfClock where
  shows localUs tsfUs := tsfUs = localUs + 500
  ppm := 0
  steady := by
    intro localUs tsfUs otherLocalUs otherTsfUs shown otherShown
    rw [shown, otherShown]
    simp

private def tightAttempts : Vector Attempt sandwichAttempts :=
  Vector.replicate sandwichAttempts ⟨1000100, 1000610, 1000120⟩

def firstPhase : List (RenderEvent ℚ) :=
  [.tags (.setRate 48000) tightAttempts, .tags (.setAnchor 990000 990000) tightAttempts,
    .transient 500000 400000, .tags (.arrival ⟨480, 1000000, 990000, 0, true⟩) tightAttempts,
    .tags (.measure 1000200 500000) tightAttempts]

private theorem tight_allowed (source : PhaseSource ℚ) (event : TagEvent) :
    Allowed aheadClock source (.tags event tightAttempts) := by
  refine ⟨?_, fun action named => by cases named⟩
  intro attempt member _
  have tight : attempt ∈ tightAttempts.toList := member
  rw [tightAttempts, Vector.toList_replicate] at tight
  rw [List.eq_of_mem_replicate tight]
  exact ⟨1000110, by decide, by decide, rfl⟩

private theorem transient_allowed (source : PhaseSource ℚ) (nowUs spanUs : Int) :
    Allowed aheadClock source (.transient nowUs spanUs) := by
  constructor
  · intro attempt member
    cases member
  · intro action named
    cases named

private theorem firstPhase_allowed (source : PhaseSource ℚ) :
    Run.Along step (Allowed aheadClock) source firstPhase :=
  ⟨tight_allowed _ _, tight_allowed _ _, transient_allowed _ _ _, tight_allowed _ _,
    tight_allowed _ _, trivial⟩

private theorem firstPhase_shown :
    ((boot false 2000000).run firstPhase).tsfSync.renderPhaseForBeacon ≠ renderPhaseUnknown := by
  decide +kernel

theorem shown_phase_first :
    let start : PhaseSource ℚ := boot false 2000000
    let sync := (start.run firstPhase).tsfSync
    sync.renderPhaseForBeacon = sync.renderPhaseUs ∧ false = false ∧
      Founded aheadClock start firstPhase sync.renderPhaseUs sync.renderPhaseAtUs ∧
      Settled start firstPhase :=
  shown_phase aheadClock false 2000000 firstPhase
    (firstPhase_allowed (boot false 2000000)) firstPhase_shown

end PhaseSource

end Player
