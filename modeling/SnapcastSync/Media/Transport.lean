import SnapcastSync.Lib.Run

/-! Who may start playback. The source asks the orchestrator for it on a stream-start edge and from
a watchdog, and a halt that someone asked for is remembered in one flag. -/

namespace Media

def uriPrefix : String := "snapcast://"
def uriCurrent : String := "snapcast://current"

def rearmPendingTimeoutMs : UInt32 := 15000

inductive PauseBehavior where
  | allow
  | resume
  | ignore
deriving DecidableEq

inductive MediaSourceState where
  | idle
  | playing
  | paused
  | error
deriving DecidableEq

/-- The commands that `handle_command` tells apart. -/
inductive MediaSourceCommand where
  | play
  | pause
  | stop
  | other
deriving DecidableEq

structure TransportSource where
  pendingStart : Bool
  startRequestedMs : UInt32
  streamLive : Bool
  userHalted : Bool
  state : MediaSourceState
  outputActive : Bool
  audioFlowing : Bool
  pauseBehavior : PauseBehavior
deriving DecidableEq

namespace TransportSource

def start (pauseBehavior : PauseBehavior) : TransportSource :=
  { pendingStart := false
    startRequestedMs := 0
    streamLive := false
    userHalted := false
    state := .idle
    outputActive := false
    audioFlowing := false
    pauseBehavior := pauseBehavior }

def setPlaybackState (source : TransportSource) (state : MediaSourceState) : TransportSource :=
  { source with
    outputActive := decide (state = .playing)
    state := state }

/-- Raises the latch and asks the orchestrator for `uriCurrent`. -/
def requestPlay (source : TransportSource) (millis : UInt32) : TransportSource × Option String :=
  ({ source with
      pendingStart := true
      startRequestedMs := millis },
    some uriCurrent)

def unanswered (source : TransportSource) (millis : UInt32) : Bool :=
  source.pendingStart && decide (rearmPendingTimeoutMs < millis - source.startRequestedMs)

def giveUp (source : TransportSource) (millis : UInt32) : TransportSource :=
  { source with
    pendingStart := if source.unanswered millis then false else source.pendingStart }

def rearmPlayback (source : TransportSource) (millis : UInt32) :
    TransportSource × Option String :=
  let source := source.giveUp millis
  if ¬ source.streamLive ∨ ¬ source.audioFlowing ∨ source.pendingStart then (source, none)
  else if source.state = .paused ∨ source.outputActive then (source, none)
  else if source.userHalted ∧ source.pauseBehavior ≠ .resume then (source, none)
  else source.requestPlay millis

def onStreamState (source : TransportSource) (millis : UInt32) (started : Bool) :
    TransportSource × Option String :=
  if started then
    let source := { source with streamLive := true }
    if ¬ source.pendingStart ∧ source.state = .idle then source.requestPlay millis
    else (source, none)
  else ({ source with streamLive := false }.setPlaybackState .idle, none)

def playUri (source : TransportSource) (uri : String) (isReady isFailed hasListener : Bool) :
    TransportSource × Bool :=
  let source := { source with pendingStart := false, userHalted := false }
  if ¬ isReady ∨ isFailed ∨ ¬ hasListener then (source, false)
  else if ¬ uriPrefix.isPrefixOf uri then (source, false)
  else (source.setPlaybackState .playing, true)

/-- `pause_behavior: ignore` refuses a pause and a stop. -/
def refuses (source : TransportSource) (command : MediaSourceCommand) : Bool :=
  source.pauseBehavior = .ignore ∧ (command = .pause ∨ command = .stop)

def handleCommand (source : TransportSource) (command : MediaSourceCommand) : TransportSource :=
  if source.refuses command then source
  else
    match command with
    | .play => { source with userHalted := false }.setPlaybackState .playing
    | .pause => { source with userHalted := true }.setPlaybackState .paused
    | .stop => { source with userHalted := true }.setPlaybackState .idle
    | .other => source

end TransportSource

/-- The source among those who talk to it. `halted` and `answered` are an account of the run: the
last one to decide asked for silence, and a request of the source itself has been answered since;
`overruled` records that the source asked for playback against it. -/
structure TransportRoom where
  source : TransportSource
  clockMs : Nat
  outstanding : Nat
  halted : Bool
  answered : Bool
  overruled : Bool
deriving DecidableEq

abbrev Honouring := { pauseBehavior : PauseBehavior // pauseBehavior ≠ .resume }

inductive TransportEvent where
  | command (command : MediaSourceCommand)
  | stream (started : Bool)
  | rearm
  | flow (audioFlowing : Bool)
  /-- the framework drops the source to IDLE -/
  | drop (outputActive : Bool)
  /-- a `play_uri` from elsewhere -/
  | playUri (uri : String) (isReady isFailed hasListener : Bool)
  /-- the `play_uri` that answers an outstanding request -/
  | answer (isReady isFailed hasListener : Bool)
  /-- an outstanding request that is never answered -/
  | lose
  | select (pauseBehavior : Honouring)
  | pass (ms : Nat)

namespace TransportRoom

def start (pauseBehavior : Honouring) : TransportRoom :=
  { source := .start pauseBehavior.val
    clockMs := 0
    outstanding := 0
    halted := false
    answered := false
    overruled := false }

def millis (room : TransportRoom) : UInt32 := UInt32.ofNat room.clockMs

def emit (room : TransportRoom) (outcome : TransportSource × Option String) : TransportRoom :=
  { room with
    source := outcome.1
    outstanding := room.outstanding + outcome.2.toList.length
    overruled := room.overruled || (room.halted && outcome.2.isSome) }

def onCommand (room : TransportRoom) (command : MediaSourceCommand) : TransportRoom :=
  let source := room.source.handleCommand command
  if room.source.refuses command then { room with source := source }
  else
    match command with
    | .play => { room with source := source, halted := false }
    | .pause | .stop => { room with source := source, halted := true, answered := false }
    | .other => { room with source := source }

def step (room : TransportRoom) : TransportEvent → TransportRoom
  | .command command => room.onCommand command
  | .stream started => room.emit (room.source.onStreamState room.millis started)
  | .rearm => room.emit (room.source.rearmPlayback room.millis)
  | .flow audioFlowing => { room with source := { room.source with audioFlowing := audioFlowing } }
  | .drop outputActive =>
      { room with source := { room.source with state := .idle, outputActive := outputActive } }
  | .playUri uri isReady isFailed hasListener =>
      { room with
        source := (room.source.playUri uri isReady isFailed hasListener).1
        halted := false }
  | .answer isReady isFailed hasListener =>
      if room.outstanding = 0 then room
      else
        { room with
          source := (room.source.playUri uriCurrent isReady isFailed hasListener).1
          outstanding := room.outstanding - 1
          answered := true }
  | .lose => { room with outstanding := room.outstanding - 1 }
  | .select pauseBehavior =>
      { room with source := { room.source with pauseBehavior := pauseBehavior.val } }
  | .pass ms => { room with clockMs := room.clockMs + ms }

/-- No request for playback against a halt so far. -/
def Honoured (room : TransportRoom) : Prop := room.overruled = false

def EdgeRequests (room : TransportRoom) : Prop :=
  room.source.pendingStart = false ∧ room.source.state = .idle

def Unrouted (room : TransportRoom) : Prop :=
  room.source.streamLive = true ∧ room.source.audioFlowing = true ∧
    (room.source.pendingStart = false ∨ room.source.unanswered room.millis = true) ∧
    room.source.state ≠ .paused ∧ room.source.outputActive = false

/-- Under a halt no stream starts on the idle source, and once an answer to the source's own
request came under it, no re-arm finds the audio unrouted. -/
def Allowed (room : TransportRoom) : TransportEvent → Prop
  | .stream true => room.halted = true → ¬ EdgeRequests room
  | .rearm => room.halted = true → room.answered = true → ¬ Unrouted room
  | _ => True

/-- The flag is the halt, until the source's own request is answered. -/
structure Remembers (room : TransportRoom) : Prop where
  honoured : room.overruled = false
  honouring : room.source.pauseBehavior ≠ .resume
  flag : room.halted = true → room.source.userHalted = !room.answered

theorem remembers_start (pauseBehavior : Honouring) : Remembers (start pauseBehavior) :=
  { honoured := rfl
    honouring := pauseBehavior.property
    flag := fun halted => nomatch halted }

structure SameHalt (source after : TransportSource) : Prop where
  userHalted : after.userHalted = source.userHalted
  pauseBehavior : after.pauseBehavior = source.pauseBehavior

theorem sameHalt_rearmPlayback (source : TransportSource) (millis : UInt32) :
    SameHalt source (source.rearmPlayback millis).1 := by
  have same : SameHalt source (source.giveUp millis) := ⟨rfl, rfl⟩
  rw [TransportSource.rearmPlayback]
  generalize source.giveUp millis = waiting at same
  by_cases quiet : ¬ waiting.streamLive ∨ ¬ waiting.audioFlowing ∨ waiting.pendingStart
  · rw [if_pos quiet]
    exact same
  · rw [if_neg quiet]
    by_cases routed : waiting.state = .paused ∨ waiting.outputActive
    · rw [if_pos routed]
      exact same
    · rw [if_neg routed]
      by_cases halted : waiting.userHalted ∧ waiting.pauseBehavior ≠ .resume
      · rw [if_pos halted]
        exact same
      · rw [if_neg halted]
        exact ⟨same.userHalted, same.pauseBehavior⟩

theorem sameHalt_onStreamState (source : TransportSource) (millis : UInt32) (started : Bool) :
    SameHalt source (source.onStreamState millis started).1 := by
  rw [TransportSource.onStreamState]
  cases started with
  | false => exact ⟨rfl, rfl⟩
  | true =>
      rw [if_pos rfl]
      dsimp only
      split
      · exact ⟨rfl, rfl⟩
      · exact ⟨rfl, rfl⟩

theorem giveUp_pendingStart_iff (source : TransportSource) (millis : UInt32) :
    (source.giveUp millis).pendingStart = false ↔
      source.pendingStart = false ∨ source.unanswered millis = true := by
  rw [TransportSource.giveUp]
  dsimp only
  by_cases unanswered : source.unanswered millis = true
  · rw [if_pos unanswered]
    exact ⟨fun _ => Or.inr unanswered, fun _ => rfl⟩
  · rw [if_neg unanswered]
    exact ⟨Or.inl, fun either => either.resolve_right unanswered⟩

theorem rearmPlayback_requests_iff (room : TransportRoom)
    (honouring : room.source.pauseBehavior ≠ .resume) :
    (room.source.rearmPlayback room.millis).2.isSome = true ↔
      Unrouted room ∧ room.source.userHalted = false := by
  have waiting := giveUp_pendingStart_iff room.source room.millis
  rw [Unrouted, ← waiting, TransportSource.rearmPlayback]
  by_cases quiet : ¬ (room.source.giveUp room.millis).streamLive ∨
      ¬ (room.source.giveUp room.millis).audioFlowing ∨
      (room.source.giveUp room.millis).pendingStart
  · rw [if_pos quiet]
    constructor
    · intro requested
      cases requested
    · rintro ⟨⟨live, flowing, free, _⟩, _⟩
      rcases quiet with dead | silent | pending
      · exact absurd live dead
      · exact absurd flowing silent
      · rw [free] at pending
        cases pending
  · rw [if_neg quiet]
    obtain ⟨live, flowing, free⟩ := by simpa only [not_or, not_not] using quiet
    by_cases routed : (room.source.giveUp room.millis).state = .paused ∨
        (room.source.giveUp room.millis).outputActive
    · rw [if_pos routed]
      constructor
      · intro requested
        cases requested
      · rintro ⟨⟨_, _, _, unpaused, silent⟩, _⟩
        rcases routed with paused | active
        · exact absurd paused unpaused
        · exact absurd active (by rw [Bool.not_eq_true]; exact silent)
    · rw [if_neg routed]
      obtain ⟨unpaused, silent⟩ := not_or.mp routed
      by_cases halted : (room.source.giveUp room.millis).userHalted ∧
          (room.source.giveUp room.millis).pauseBehavior ≠ .resume
      · rw [if_pos halted]
        constructor
        · intro requested
          cases requested
        · rintro ⟨_, unhalted⟩
          have flag : room.source.userHalted = true := halted.1
          rw [unhalted] at flag
          cases flag
      · rw [if_neg halted]
        have unhalted : ¬ room.source.userHalted = true := fun flag => halted ⟨flag, honouring⟩
        rw [Bool.not_eq_true] at free silent unhalted
        exact ⟨fun _ => ⟨⟨live, flowing, free, unpaused, silent⟩, unhalted⟩, fun _ => rfl⟩

theorem onStreamState_requests_iff (room : TransportRoom) :
    (room.source.onStreamState room.millis true).2.isSome = true ↔ EdgeRequests room := by
  rw [TransportSource.onStreamState, if_pos rfl]
  dsimp only
  by_cases edge : ¬ room.source.pendingStart = true ∧ room.source.state = .idle
  · rw [if_pos edge]
    exact ⟨fun _ => ⟨Bool.not_eq_true _ ▸ edge.1, edge.2⟩, fun _ => rfl⟩
  · rw [if_neg edge]
    constructor
    · intro some
      cases some
    · rintro ⟨pending, idle⟩
      exact absurd ⟨by rw [pending]; exact Bool.false_ne_true, idle⟩ edge

theorem honoured_emit_iff (room : TransportRoom) (outcome : TransportSource × Option String)
    (honoured : room.overruled = false) :
    Honoured (room.emit outcome) ↔ (room.halted = true → ¬ outcome.2.isSome = true) := by
  rw [Honoured, emit]
  dsimp only
  rw [honoured, Bool.false_or, Bool.and_eq_false_imp]
  exact forall_congr' fun _ => Bool.not_eq_true _ ▸ Iff.rfl

theorem remembers_emit (room : TransportRoom) (outcome : TransportSource × Option String)
    (remembers : Remembers room) (same : SameHalt room.source outcome.1)
    (honoured : Honoured (room.emit outcome)) : Remembers (room.emit outcome) :=
  { honoured := honoured
    honouring := fun resume => remembers.honouring (same.pauseBehavior.symm.trans resume)
    flag := fun halted => same.userHalted.trans (remembers.flag halted) }

theorem playUri_userHalted (source : TransportSource) (uri : String)
    (isReady isFailed hasListener : Bool) :
    (source.playUri uri isReady isFailed hasListener).1.userHalted = false := by
  rw [TransportSource.playUri]
  split
  · rfl
  · split
    · rfl
    · rfl

theorem playUri_pauseBehavior (source : TransportSource) (uri : String)
    (isReady isFailed hasListener : Bool) :
    (source.playUri uri isReady isFailed hasListener).1.pauseBehavior =
      source.pauseBehavior := by
  rw [TransportSource.playUri]
  split
  · rfl
  · split
    · rfl
    · rfl

theorem remembers_onCommand (room : TransportRoom) (command : MediaSourceCommand)
    (remembers : Remembers room) : Remembers (room.onCommand command) := by
  obtain ⟨honoured, honouring, flag⟩ := remembers
  simp only [onCommand, TransportSource.handleCommand]
  cases refused : room.source.refuses command with
  | true => exact ⟨honoured, honouring, flag⟩
  | false =>
      cases command with
      | play => exact ⟨honoured, honouring, fun halted => nomatch halted⟩
      | pause => exact ⟨honoured, honouring, fun _ => rfl⟩
      | stop => exact ⟨honoured, honouring, fun _ => rfl⟩
      | other => exact ⟨honoured, honouring, flag⟩

/-- Only the two requesting mechanisms can break a halt, and each does exactly where the step is
not allowed. -/
theorem honoured_step_iff (room : TransportRoom) (event : TransportEvent)
    (remembers : Remembers room) : Honoured (room.step event) ↔ Allowed room event := by
  have honoured := remembers.honoured
  cases event with
  | command command =>
      exact ⟨fun _ => trivial, fun _ => (remembers_onCommand room command remembers).honoured⟩
  | stream started =>
      rw [step, honoured_emit_iff room _ honoured]
      cases started with
      | false => exact ⟨fun _ => trivial, fun _ _ some => nomatch some⟩
      | true => rw [onStreamState_requests_iff, Allowed]
  | rearm =>
      rw [step, honoured_emit_iff room _ honoured,
        rearmPlayback_requests_iff room remembers.honouring, Allowed]
      refine forall_congr' fun halted => ?_
      rw [remembers.flag halted, not_and', Bool.not_eq_false']
  | flow audioFlowing => exact ⟨fun _ => trivial, fun _ => honoured⟩
  | drop outputActive => exact ⟨fun _ => trivial, fun _ => honoured⟩
  | playUri uri isReady isFailed hasListener => exact ⟨fun _ => trivial, fun _ => honoured⟩
  | answer isReady isFailed hasListener =>
      refine ⟨fun _ => trivial, fun _ => ?_⟩
      rw [step]
      by_cases none : room.outstanding = 0
      · rw [if_pos none]
        exact honoured
      · rw [if_neg none]
        exact honoured
  | lose => exact ⟨fun _ => trivial, fun _ => honoured⟩
  | select pauseBehavior => exact ⟨fun _ => trivial, fun _ => honoured⟩
  | pass ms => exact ⟨fun _ => trivial, fun _ => honoured⟩

theorem remembers_step (room : TransportRoom) (event : TransportEvent)
    (remembers : Remembers room) (allowed : Allowed room event) : Remembers (room.step event) := by
  have honoured := (honoured_step_iff room event remembers).mpr allowed
  cases event with
  | command command => exact remembers_onCommand room command remembers
  | stream started =>
      exact remembers_emit room _ remembers (sameHalt_onStreamState _ _ started) honoured
  | rearm => exact remembers_emit room _ remembers (sameHalt_rearmPlayback _ _) honoured
  | flow audioFlowing => exact ⟨honoured, remembers.honouring, remembers.flag⟩
  | drop outputActive => exact ⟨honoured, remembers.honouring, remembers.flag⟩
  | playUri uri isReady isFailed hasListener =>
      have kept := playUri_pauseBehavior room.source uri isReady isFailed hasListener
      exact ⟨honoured, fun resume => remembers.honouring (kept.symm.trans resume),
        fun halted => nomatch halted⟩
  | answer isReady isFailed hasListener =>
      have kept := playUri_pauseBehavior room.source uriCurrent isReady isFailed hasListener
      have cleared := playUri_userHalted room.source uriCurrent isReady isFailed hasListener
      rw [step]
      by_cases none : room.outstanding = 0
      · rw [if_pos none]
        exact remembers
      · rw [if_neg none]
        exact ⟨remembers.honoured, fun resume => remembers.honouring (kept.symm.trans resume),
          fun _ => cleared⟩
  | lose => exact ⟨honoured, remembers.honouring, remembers.flag⟩
  | select pauseBehavior => exact ⟨honoured, pauseBehavior.property, remembers.flag⟩
  | pass ms => exact ⟨honoured, remembers.honouring, remembers.flag⟩

theorem visits_honoured_iff (pauseBehavior : Honouring) (events : List TransportEvent) :
    Run.Visits step Honoured (start pauseBehavior) events ↔
      Run.Along step Allowed (start pauseBehavior) events :=
  Run.visits_iff_along_of_invariant step Remembers Honoured Allowed
    (fun _ remembers => remembers.honoured) honoured_step_iff remembers_step
    (start pauseBehavior) events (remembers_start pauseBehavior)

/-- The pause is forgotten when the stream drops the source to IDLE and starts again. -/
theorem pause_overruled : ¬ Run.Visits step Honoured (start ⟨.allow, by decide⟩)
    [.command .play, .stream true, .command .pause, .stream false, .stream true] := by
  intro visits
  have last := Run.visits_last step Honoured _ _ visits
  revert last
  rw [Honoured]
  decide

end TransportRoom

end Media
