import SnapcastSync.Lib.Run
import SnapcastSync.Lib.Rounding
import Mathlib.Data.Rat.Floor

/-! Volume and mute between the server and the orchestrator. Settings pushes are applied by one
named timeout, and what the orchestrator reports back is told apart from our own requests by the
last gain requested. -/

namespace Media

structure Percent where
  value : Nat
  within : value ≤ 100
deriving DecidableEq

namespace Percent

def gain (percent : Percent) : Rat := (percent.value : Rat) / 100

theorem gain_nonneg (percent : Percent) : 0 ≤ percent.gain := by
  simp only [gain]
  positivity

theorem near_iff (left right : Percent) :
    |left.gain - right.gain| < 5 / 1000 ↔ left.gain = right.gain := by
  constructor
  · intro near
    have bounds := abs_lt.mp near
    simp only [gain] at bounds
    have lower : ((right.value : Int) : Rat) < ((left.value + 1 : Int) : Rat) := by
      push_cast
      linarith [bounds.1]
    have upper : ((left.value : Int) : Rat) < ((right.value + 1 : Int) : Rat) := by
      push_cast
      linarith [bounds.2]
    have belowRight : (right.value : Int) < left.value + 1 := by exact_mod_cast lower
    have belowLeft : (left.value : Int) < right.value + 1 := by exact_mod_cast upper
    have values : left.value = right.value := by omega
    rw [gain, gain, values]
  · intro same
    rw [same, sub_self, abs_zero]
    norm_num

theorem not_near_unset (percent : Percent) : ¬ |percent.gain - -1| < 5 / 1000 := by
  have nonneg := gain_nonneg percent
  rw [abs_of_nonneg (by linarith)]
  linarith

theorem llround_gain (percent : Percent) :
    Rounding.llround (percent.gain * 100) = (percent.value : Int) := by
  have whole : percent.gain * 100 = ((percent.value : Int) : Rat) := by
    rw [gain]
    push_cast
    ring
  rw [whole, Rounding.llround_intCast]

theorem clamp_value (percent : Percent) :
    (Rounding.clamp (percent.value : Int) 0 100).toNat = percent.value := by
  have within := percent.within
  rw [Rounding.clamp, if_neg (by omega), if_neg (by omega)]
  exact Int.toNat_natCast percent.value

end Percent

def localVolumeGraceMs : UInt32 := 1500

/-- What `send_client_volume` carries. -/
structure ClientVolume where
  volumePercent : Nat
  muted : Bool
deriving DecidableEq

inductive Request where
  | volume (gain : Rat)
  | mute (muted : Bool)
deriving DecidableEq

structure VolumeSource where
  lastServerVolume : Int
  lastServerMuted : Int
  lastRequestedGain : Rat
  lastLocalVolumeMs : UInt32
  localVolume : Nat
  localMuted : Bool
deriving DecidableEq

/-- What one `apply_server_state_` leaves: the requests it queued and the delay it set the timeout
to again, if it did. -/
structure Application where
  source : VolumeSource
  requests : List Request
  retryMs : Option UInt32

namespace VolumeSource

def start : VolumeSource :=
  { lastServerVolume := -1
    lastServerMuted := -1
    lastRequestedGain := -1
    lastLocalVolumeMs := 0
    localVolume := 100
    localMuted := false }

def onServerSettings (source : VolumeSource) (volume : Nat) (muted : Bool) : VolumeSource :=
  { source with
    lastServerVolume := volume
    lastServerMuted := muted.toNat }

def graced (source : VolumeSource) (millis : UInt32) : Bool :=
  source.lastLocalVolumeMs ≠ 0 ∧ millis - source.lastLocalVolumeMs < localVolumeGraceMs

def applyServerVolume (source : VolumeSource) (volumePercent : Nat) :
    VolumeSource × List Request :=
  let gain : Rat := (volumePercent : Rat) / 100
  ({ source with lastRequestedGain := gain }, [.volume gain])

def applyServerState (source : VolumeSource) (millis : UInt32) : Application :=
  if source.lastServerVolume < 0 then
    { source := source
      requests := []
      retryMs := none }
  else
    let source := { source with localMuted := decide (source.lastServerMuted = 1) }
    if source.graced millis then
      { source := source
        requests := [.mute source.localMuted]
        retryMs := some (localVolumeGraceMs - (millis - source.lastLocalVolumeMs)) }
    else
      let source := { source with localVolume := source.lastServerVolume.toNat % 256 }
      let applied := source.applyServerVolume source.localVolume
      -- the mute comes after the volume, which unmutes
      { source := applied.1
        requests := applied.2 ++ [.mute source.localMuted]
        retryMs := none }

def notifyVolumeChanged (source : VolumeSource) (millis : UInt32) (volume : Rat) :
    VolumeSource × Option ClientVolume :=
  if |volume - source.lastRequestedGain| < 5 / 1000 then (source, none)
  else
    let volumePercent := Rounding.llround (volume * 100)
    let source :=
      { source with
        lastLocalVolumeMs := millis
        localVolume := (Rounding.clamp volumePercent 0 100).toNat }
    if volumePercent ≠ source.lastServerVolume then
      ({ source with lastServerVolume := source.localVolume },
        some { volumePercent := source.localVolume, muted := source.localMuted })
    else (source, none)

def notifyMuteChanged (source : VolumeSource) (isMuted : Bool) :
    VolumeSource × Option ClientVolume :=
  let source := { source with localMuted := isMuted }
  if (isMuted.toNat : Int) ≠ source.lastServerMuted then
    ({ source with lastServerMuted := isMuted.toNat },
      some { volumePercent := source.localVolume, muted := source.localMuted })
  else (source, none)

end VolumeSource

namespace VolumeSource

theorem notifyVolumeChanged_of_echo (source : VolumeSource) (millis : UInt32) (percent : Percent)
    (echo : percent.gain = source.lastRequestedGain) :
    source.notifyVolumeChanged millis percent.gain = (source, none) := by
  rw [notifyVolumeChanged, ← echo, if_pos ((Percent.near_iff percent percent).mpr rfl)]

theorem notifyVolumeChanged_of_local (source : VolumeSource) (millis : UInt32) (percent : Percent)
    (requested : source.lastRequestedGain = -1 ∨
      ∃ other : Percent, source.lastRequestedGain = other.gain)
    (changed : percent.gain ≠ source.lastRequestedGain) :
    source.notifyVolumeChanged millis percent.gain =
      ({ source with
          lastLocalVolumeMs := millis
          localVolume := percent.value
          lastServerVolume := percent.value },
        if (percent.value : Int) ≠ source.lastServerVolume then
          some { volumePercent := percent.value, muted := source.localMuted }
        else none) := by
  have far : ¬ |percent.gain - source.lastRequestedGain| < 5 / 1000 := by
    rcases requested with unset | ⟨other, requested⟩
    · rw [unset]
      exact Percent.not_near_unset percent
    · rw [requested] at changed ⊢
      exact fun near => changed ((Percent.near_iff percent other).mp near)
  rw [notifyVolumeChanged, if_neg far, Percent.llround_gain]
  dsimp only
  rw [Percent.clamp_value]
  by_cases known : (percent.value : Int) ≠ source.lastServerVolume
  · rw [if_pos known, if_pos known]
  · rw [if_neg known, if_neg known, not_not.mp known]

theorem applyServerState_of_graced (source : VolumeSource) (millis : UInt32)
    (known : ¬ source.lastServerVolume < 0) (graced : source.graced millis = true) :
    source.applyServerState millis =
      { source := { source with localMuted := decide (source.lastServerMuted = 1) }
        requests := [.mute (decide (source.lastServerMuted = 1))]
        retryMs := some (localVolumeGraceMs - (millis - source.lastLocalVolumeMs)) } := by
  have deferred : { source with
      localMuted := decide (source.lastServerMuted = 1) }.graced millis = true := graced
  rw [applyServerState, if_neg known]
  dsimp only
  rw [if_pos deferred]

theorem applyServerState_of_told (source : VolumeSource) (millis : UInt32) (percent : Percent)
    (told : source.lastServerVolume = percent.value) (graced : source.graced millis = false) :
    source.applyServerState millis =
      { source :=
          { source with
            localMuted := decide (source.lastServerMuted = 1)
            localVolume := percent.value
            lastRequestedGain := percent.gain }
        requests := [.volume percent.gain] ++ [.mute (decide (source.lastServerMuted = 1))]
        retryMs := none } := by
  have known : ¬ source.lastServerVolume < 0 := by omega
  have settled : ¬ { source with
      localMuted := decide (source.lastServerMuted = 1) }.graced millis = true := by
    rw [Bool.not_eq_true]
    exact graced
  have byte : percent.value % 256 = percent.value :=
    Nat.mod_eq_of_lt (by have within := percent.within; omega)
  rw [applyServerState, if_neg known]
  dsimp only
  rw [if_neg settled, told, Int.toNat_natCast, byte]
  rfl

end VolumeSource

/-- The source, the scheduler's one timeout, the orchestrator with the requests it has not executed
yet, and what the server believes: its last push or the last report, whichever is later. -/
structure VolumeRoom where
  source : VolumeSource
  clockMs : Nat
  applyServerSettings : Option Nat
  requests : List Request
  volume : Rat
  muted : Bool
  believed : Option Nat
deriving DecidableEq

inductive VolumeEvent where
  | settings (volume : Percent) (muted : Bool)
  | timeout
  | execute
  | slide (volume : Percent)
  | toggle (muted : Bool)
  | pass (ms : Nat)

namespace VolumeRoom

def start (volume : Percent) (muted : Bool) : VolumeRoom :=
  { source := .start
    clockMs := 0
    applyServerSettings := none
    requests := []
    volume := volume.gain
    muted := muted
    believed := none }

def millis (room : VolumeRoom) : UInt32 := UInt32.ofNat room.clockMs

def report (room : VolumeRoom) (notified : VolumeSource × Option ClientVolume) : VolumeRoom :=
  { room with
    source := notified.1
    believed := (notified.2.map ClientVolume.volumePercent).or room.believed }

def setVolume (room : VolumeRoom) (gain : Rat) : VolumeRoom :=
  if gain = room.volume then room
  else
    { room with volume := gain }.report (room.source.notifyVolumeChanged room.millis gain)

def setMuted (room : VolumeRoom) (muted : Bool) : VolumeRoom :=
  if muted = room.muted then room
  else { room with muted := muted }.report (room.source.notifyMuteChanged muted)

def execute (room : VolumeRoom) : VolumeRoom :=
  match room.requests with
  | [] => room
  | .volume gain :: rest => { room with requests := rest }.setVolume gain
  | .mute muted :: rest => { room with requests := rest }.setMuted muted

def timeout (room : VolumeRoom) : VolumeRoom :=
  match room.applyServerSettings with
  | none => room
  | some due =>
      if due ≤ room.clockMs then
        let applied := room.source.applyServerState room.millis
        { room with
          source := applied.source
          requests := room.requests ++ applied.requests
          applyServerSettings := applied.retryMs.map (room.clockMs + ·.toNat) }
      else room

/-- A slide and a toggle are changes from elsewhere than the queue: a person, an automation, or the
unmute that comes with a volume. -/
def step (room : VolumeRoom) : VolumeEvent → VolumeRoom
  | .settings volume muted =>
      { room with
        source := room.source.onServerSettings volume.value muted
        applyServerSettings := some room.clockMs
        believed := some volume.value }
  | .timeout => room.timeout
  | .execute => room.execute
  | .slide volume => room.setVolume volume.gain
  | .toggle muted => room.setMuted muted
  | .pass ms => { room with clockMs := room.clockMs + ms }

def Drained (room : VolumeRoom) : Prop :=
  room.requests = [] ∧ room.applyServerSettings = none

def VolumesAgree (room : VolumeRoom) : Prop :=
  Drained room → ∀ belief ∈ room.believed,
    room.source.localVolume = belief ∧ room.volume = (belief : Rat) / 100

def gains (requests : List Request) : List Rat :=
  requests.filterMap fun
    | .volume gain => some gain
    | .mute _ => none

def OnlyTo (target : Rat) : Rat → List Rat → Prop
  | _, [] => True
  | volume, gain :: rest => (gain = volume ∨ gain = target) ∧ OnlyTo target gain rest

instance decidableOnlyTo (target volume : Rat) (queued : List Rat) :
    Decidable (OnlyTo target volume queued) :=
  match queued with
  | [] => isTrue trivial
  | gain :: rest =>
      have := decidableOnlyTo target gain rest
      inferInstanceAs (Decidable (_ ∧ _))

def SlideAllowed (room : VolumeRoom) (gain : Rat) : Prop :=
  gain ≠ room.volume →
    room.applyServerSettings.isSome = true ∨
      (gains room.requests = [] ∧ gain ≠ room.source.lastRequestedGain) ∨
      (gains room.requests ≠ [] ∧ gain = room.source.lastRequestedGain ∧
        ∀ queued ∈ gains room.requests, queued = gain)

/-- A mute that is reported takes the local volume with it. -/
def ToggleAllowed (room : VolumeRoom) (muted : Bool) : Prop :=
  muted ≠ room.muted → (muted.toNat : Int) ≠ room.source.lastServerMuted →
    (room.source.localVolume : Int) = room.source.lastServerVolume ∨
      (room.source.lastServerVolume = -1 ∧
        (room.source.localVolume : Rat) / 100 = room.volume)

def TimeoutAllowed (room : VolumeRoom) : Prop :=
  ∀ due ∈ room.applyServerSettings, due ≤ room.clockMs →
    room.source.graced room.millis = false →
      OnlyTo ((room.source.lastServerVolume : Rat) / 100) room.volume (gains room.requests)

def nextMute : List Request → Option Bool
  | .mute muted :: _ => some muted
  | _ => none

def ExecuteAllowed (room : VolumeRoom) : Prop :=
  ∀ muted ∈ nextMute room.requests, ToggleAllowed room muted

def Allowed (room : VolumeRoom) : VolumeEvent → Prop
  | .settings _ _ => True
  | .timeout => TimeoutAllowed room
  | .execute => ExecuteAllowed room
  | .slide volume => SlideAllowed room volume.gain
  | .toggle muted => ToggleAllowed room muted
  | .pass _ => True

instance (room : VolumeRoom) (gain : Rat) : Decidable (SlideAllowed room gain) :=
  inferInstanceAs (Decidable (_ → _ ∨ _ ∨ _ ∧ _ ∧ _))

instance (room : VolumeRoom) (muted : Bool) : Decidable (ToggleAllowed room muted) :=
  inferInstanceAs (Decidable (_ → _ → _ ∨ _ ∧ _))

instance (room : VolumeRoom) (event : VolumeEvent) : Decidable (Allowed room event) :=
  match event with
  | .settings _ _ => isTrue trivial
  | .timeout => inferInstanceAs (Decidable (∀ due ∈ room.applyServerSettings, _ → _ → _))
  | .execute => inferInstanceAs (Decidable (∀ muted ∈ nextMute room.requests, _))
  | .slide volume => inferInstanceAs (Decidable (SlideAllowed room volume.gain))
  | .toggle muted => inferInstanceAs (Decidable (ToggleAllowed room muted))
  | .pass _ => isTrue trivial

structure Whole (room : VolumeRoom) : Prop where
  volume : ∃ percent : Percent, room.volume = percent.gain
  queued : ∀ gain ∈ gains room.requests, ∃ percent : Percent, gain = percent.gain
  requested : room.source.lastRequestedGain = -1 ∨
    ∃ percent : Percent, room.source.lastRequestedGain = percent.gain
  localVolume : room.source.localVolume ≤ 100

structure Fresh (room : VolumeRoom) : Prop where
  untold : room.source.lastServerVolume = -1
  unrequested : room.source.lastRequestedGain = -1
  quiet : room.applyServerSettings = none
  empty : gains room.requests = []
  told : ∀ belief ∈ room.believed,
    room.source.localVolume = belief ∧ room.volume = (belief : Rat) / 100

structure Told (room : VolumeRoom) (percent : Percent) : Prop where
  told : room.source.lastServerVolume = percent.value
  believed : room.believed = some percent.value
  settles : room.applyServerSettings.isSome = true ∨
    (room.source.localVolume = percent.value ∧
      OnlyTo percent.gain room.volume (gains room.requests) ∧
      (gains room.requests).getLastD room.volume = percent.gain ∧
      (gains room.requests ≠ [] → room.source.lastRequestedGain = percent.gain))

def Consistent (room : VolumeRoom) : Prop :=
  Whole room ∧ (Fresh room ∨ ∃ percent, Told room percent)

structure SameVolumes (room after : VolumeRoom) : Prop where
  volume : after.volume = room.volume
  queued : gains after.requests = gains room.requests
  requested : after.source.lastRequestedGain = room.source.lastRequestedGain
  localVolume : after.source.localVolume = room.source.localVolume
  told : after.source.lastServerVolume = room.source.lastServerVolume
  scheduled : after.applyServerSettings = room.applyServerSettings
  believed : after.believed = room.believed

theorem Consistent.of_same {room after : VolumeRoom} (consistent : Consistent room)
    (same : SameVolumes room after) : Consistent after := by
  obtain ⟨whole, phase⟩ := consistent
  obtain ⟨volume, queued, requested, localVolume, told, scheduled, believed⟩ := same
  refine ⟨?_, ?_⟩
  · constructor
    · rw [volume]
      exact whole.volume
    · rw [queued]
      exact whole.queued
    · rw [requested]
      exact whole.requested
    · rw [localVolume]
      exact whole.localVolume
  · rcases phase with fresh | ⟨percent, known⟩
    · left
      constructor
      · exact told.trans fresh.untold
      · exact requested.trans fresh.unrequested
      · exact scheduled.trans fresh.quiet
      · exact queued.trans fresh.empty
      · rw [believed, localVolume, volume]
        exact fresh.told
    · refine Or.inr ⟨percent, ?_⟩
      constructor
      · exact told.trans known.told
      · exact believed.trans known.believed
      · rw [scheduled, localVolume, volume, queued, requested]
        exact known.settles

theorem setVolume_of_same (room : VolumeRoom) (gain : Rat) (same : gain = room.volume) :
    room.setVolume gain = room := by
  rw [setVolume, if_pos same]

theorem setVolume_of_echo (room : VolumeRoom) (percent : Percent)
    (echo : percent.gain = room.source.lastRequestedGain) :
    room.setVolume percent.gain = { room with volume := percent.gain } := by
  by_cases same : percent.gain = room.volume
  · rw [setVolume_of_same room percent.gain same, same]
  · rw [setVolume, if_neg same, VolumeSource.notifyVolumeChanged_of_echo _ _ _ echo]
    rfl

theorem whole_setVolume (room : VolumeRoom) (whole : Whole room) (percent : Percent) :
    Whole (room.setVolume percent.gain) := by
  by_cases same : percent.gain = room.volume
  · rw [setVolume_of_same room percent.gain same]
    exact whole
  · by_cases echo : percent.gain = room.source.lastRequestedGain
    · rw [setVolume_of_echo room percent echo]
      exact
        { volume := ⟨percent, rfl⟩
          queued := whole.queued
          requested := whole.requested
          localVolume := whole.localVolume }
    · rw [setVolume, if_neg same,
        VolumeSource.notifyVolumeChanged_of_local _ _ _ whole.requested echo]
      exact
        { volume := ⟨percent, rfl⟩
          queued := whole.queued
          requested := whole.requested
          localVolume := percent.within }

theorem setVolume_of_local (room : VolumeRoom) (whole : Whole room) (percent : Percent)
    (changed : percent.gain ≠ room.volume)
    (notEcho : percent.gain ≠ room.source.lastRequestedGain)
    (known : room.source.lastServerVolume = percent.value →
      room.believed = some percent.value) :
    room.setVolume percent.gain =
      { room with
        volume := percent.gain
        source :=
          { room.source with
            lastLocalVolumeMs := room.millis
            localVolume := percent.value
            lastServerVolume := percent.value }
        believed := some percent.value } := by
  rw [setVolume, if_neg changed,
    VolumeSource.notifyVolumeChanged_of_local _ _ _ whole.requested notEcho, report]
  by_cases reported : (percent.value : Int) ≠ room.source.lastServerVolume
  · rw [if_pos reported]
    rfl
  · rw [if_neg reported]
    dsimp only [Option.map_none, Option.none_or]
    rw [known (not_not.mp reported).symm]

theorem Told.known {room : VolumeRoom} {percent : Percent} (told : Told room percent)
    (other : Percent) (same : room.source.lastServerVolume = other.value) :
    room.believed = some other.value := by
  rw [told.believed]
  exact congrArg some (by exact_mod_cast told.told.symm.trans same)

theorem Fresh.known {room : VolumeRoom} (fresh : Fresh room) (other : Percent)
    (same : room.source.lastServerVolume = other.value) :
    room.believed = some other.value := by
  have untold := fresh.untold
  omega

theorem onlyTo_of_forall (target volume : Rat) (queued : List Rat)
    (each : ∀ gain ∈ queued, gain = target) : OnlyTo target volume queued := by
  induction queued generalizing volume with
  | nil => exact trivial
  | cons gain rest ih =>
      exact ⟨Or.inr (each gain List.mem_cons_self),
        ih gain fun other member => each other (List.mem_cons_of_mem gain member)⟩

theorem onlyTo_append (target volume : Rat) (queued : List Rat)
    (only : OnlyTo target volume queued) : OnlyTo target volume (queued ++ [target]) := by
  induction queued generalizing volume with
  | nil => exact ⟨Or.inr rfl, trivial⟩
  | cons gain rest ih => exact ⟨only.1, ih gain only.2⟩

/-- While an application is pending a change leaves the server told, of the change or of what it
was told before. -/
theorem consistent_setVolume_of_pending (room : VolumeRoom) (percent other : Percent)
    (whole : Whole room) (told : Told room other)
    (pending : room.applyServerSettings.isSome = true) :
    Consistent (room.setVolume percent.gain) := by
  refine ⟨whole_setVolume room whole percent, Or.inr ?_⟩
  by_cases same : percent.gain = room.volume
  · rw [setVolume_of_same room percent.gain same]
    exact ⟨other, told⟩
  · by_cases echo : percent.gain = room.source.lastRequestedGain
    · rw [setVolume_of_echo room percent echo]
      exact ⟨other,
        { told := told.told
          believed := told.believed
          settles := Or.inl pending }⟩
    · rw [setVolume_of_local room whole percent same echo (told.known percent)]
      exact ⟨percent,
        { told := rfl
          believed := rfl
          settles := Or.inl pending }⟩

theorem told_setVolume_of_empty (room : VolumeRoom) (percent : Percent) (whole : Whole room)
    (changed : percent.gain ≠ room.volume)
    (notEcho : percent.gain ≠ room.source.lastRequestedGain)
    (known : room.source.lastServerVolume = percent.value →
      room.believed = some percent.value)
    (empty : gains room.requests = []) :
    Told (room.setVolume percent.gain) percent := by
  rw [setVolume_of_local room whole percent changed notEcho known]
  constructor
  · rfl
  · rfl
  · right
    dsimp only
    rw [empty]
    exact ⟨rfl, trivial, rfl, fun some => absurd rfl some⟩

theorem consistent_slide (room : VolumeRoom) (percent : Percent) (consistent : Consistent room)
    (allowed : SlideAllowed room percent.gain) : Consistent (room.setVolume percent.gain) := by
  obtain ⟨whole, phase⟩ := consistent
  by_cases same : percent.gain = room.volume
  · rw [setVolume_of_same room percent.gain same]
    exact ⟨whole, phase⟩
  · have known : room.source.lastServerVolume = percent.value →
        room.believed = some percent.value := by
      rcases phase with fresh | ⟨other, told⟩
      · exact fresh.known percent
      · exact told.known percent
    rcases allowed same with pending | ⟨empty, notEcho⟩ | ⟨queued, echo, each⟩
    · rcases phase with fresh | ⟨other, told⟩
      · rw [fresh.quiet] at pending
        cases pending
      · exact consistent_setVolume_of_pending room percent other whole told pending
    · exact ⟨whole_setVolume room whole percent,
        Or.inr ⟨percent, told_setVolume_of_empty room percent whole same notEcho known empty⟩⟩
    · rcases phase with fresh | ⟨other, told⟩
      · exact absurd fresh.empty queued
      · refine ⟨whole_setVolume room whole percent, Or.inr ⟨other, ?_⟩⟩
        rw [setVolume_of_echo room percent echo]
        constructor
        · exact told.told
        · exact told.believed
        · rcases told.settles with pending | ⟨held, _, last, requested⟩
          · exact Or.inl pending
          · have target := echo.trans (requested queued)
            rw [target] at each
            right
            refine ⟨held, onlyTo_of_forall _ _ _ each, ?_, requested⟩
            have last : (gains room.requests).getLastD percent.gain ∈
                percent.gain :: gains room.requests := List.getLastD_mem_cons
            rcases List.mem_cons.mp last with first | later
            · exact first.trans target
            · exact each _ later

theorem consistent_mute (room : VolumeRoom) (muted : Bool) (consistent : Consistent room)
    (allowed : ToggleAllowed room muted) : Consistent (room.setMuted muted) := by
  by_cases same : muted = room.muted
  · rw [setMuted, if_pos same]
    exact consistent
  · obtain ⟨whole, phase⟩ := consistent
    have reported := allowed same
    rw [setMuted, if_neg same, VolumeSource.notifyMuteChanged]
    by_cases news : (muted.toNat : Int) ≠ room.source.lastServerMuted
    · rw [if_pos news]
      refine ⟨⟨whole.volume, whole.queued, whole.requested, whole.localVolume⟩, ?_⟩
      rcases phase with fresh | ⟨percent, told⟩
      · left
        rcases reported news with held | ⟨_, held⟩
        · have untold := fresh.untold
          omega
        · constructor
          · exact fresh.untold
          · exact fresh.unrequested
          · exact fresh.quiet
          · exact fresh.empty
          · intro belief believed
            cases believed
            exact ⟨rfl, held.symm⟩
      · right
        refine ⟨percent, ?_⟩
        rcases reported news with held | ⟨untold, _⟩
        · constructor
          · exact told.told
          · exact congrArg some (by exact_mod_cast held.trans told.told)
          · exact told.settles
        · have told := told.told
          omega
    · rw [if_neg news]
      exact Consistent.of_same ⟨whole, phase⟩ (by constructor <;> rfl)

theorem consistent_execute_volume (room : VolumeRoom) (gain : Rat) (requests : List Request)
    (queue : room.requests = .volume gain :: requests) (consistent : Consistent room) :
    Consistent ({ room with requests := requests }.setVolume gain) := by
  have queued : gains room.requests = gain :: gains requests := by
    rw [queue]
    rfl
  obtain ⟨whole, phase⟩ := consistent
  have each := whole.queued
  rw [queued] at each
  have shorter : Whole { room with requests := requests } :=
    ⟨whole.volume, fun other member => each other (List.mem_cons_of_mem gain member),
      whole.requested, whole.localVolume⟩
  rcases phase with fresh | ⟨target, told⟩
  · have empty := fresh.empty
    rw [queued] at empty
    cases empty
  · rcases told.settles with pending | ⟨held, only, last, requested⟩
    · obtain ⟨percent, percentGain⟩ := each gain List.mem_cons_self
      rw [percentGain]
      exact consistent_setVolume_of_pending { room with requests := requests } percent target
        shorter ⟨told.told, told.believed, Or.inl pending⟩ pending
    · rw [queued] at only requested last
      rw [List.getLastD_cons] at last
      have echo := requested (List.cons_ne_nil gain (gains requests))
      -- either no change, or our own last request coming back
      rcases only.1 with same | toTarget
      · rw [setVolume_of_same { room with requests := requests } gain same]
        rw [same] at only last
        exact ⟨shorter, Or.inr ⟨target, told.told, told.believed,
          Or.inr ⟨held, only.2, last, fun _ => echo⟩⟩⟩
      · rw [toTarget, setVolume_of_echo { room with requests := requests } target echo.symm]
        rw [toTarget] at only last
        exact ⟨⟨⟨target, rfl⟩, shorter.queued, whole.requested, whole.localVolume⟩,
          Or.inr ⟨target, told.told, told.believed,
            Or.inr ⟨held, only.2, last, fun _ => echo⟩⟩⟩

theorem consistent_execute (room : VolumeRoom) (consistent : Consistent room)
    (allowed : ExecuteAllowed room) : Consistent room.execute := by
  cases queue : room.requests with
  | nil =>
      rw [execute, queue]
      exact consistent
  | cons request requests =>
      cases request with
      | volume gain =>
          rw [execute, queue]
          exact consistent_execute_volume room gain requests queue consistent
      | mute muted =>
          have same : gains room.requests = gains requests := by
            rw [queue]
            rfl
          have within : Consistent { room with requests := requests } :=
            consistent.of_same ⟨rfl, same.symm, rfl, rfl, rfl, rfl, rfl⟩
          have toggle := allowed muted (by rw [queue]; rfl)
          rw [execute, queue]
          exact consistent_mute { room with requests := requests } muted within toggle

theorem gains_append_mute (requests : List Request) (muted : Bool) :
    gains (requests ++ [.mute muted]) = gains requests := by
  rw [gains, List.filterMap_append]
  exact List.append_nil _

theorem gains_append_volume (requests : List Request) (gain : Rat) (muted : Bool) :
    gains (requests ++ ([.volume gain] ++ [.mute muted])) = gains requests ++ [gain] := by
  rw [gains, List.filterMap_append]
  rfl

theorem consistent_timeout (room : VolumeRoom) (consistent : Consistent room)
    (allowed : TimeoutAllowed room) : Consistent room.timeout := by
  cases scheduled : room.applyServerSettings with
  | none =>
      rw [timeout, scheduled]
      exact consistent
  | some due =>
      rw [timeout, scheduled]
      dsimp only
      by_cases early : due ≤ room.clockMs
      · rw [if_pos early]
        obtain ⟨whole, phase⟩ := consistent
        rcases phase with fresh | ⟨percent, told⟩
        · have quiet := fresh.quiet
          rw [scheduled] at quiet
          cases quiet
        · have known : ¬ room.source.lastServerVolume < 0 := by
            have told := told.told
            omega
          cases graced : room.source.graced room.millis with
          | true =>
              rw [VolumeSource.applyServerState_of_graced _ _ known graced]
              refine ⟨⟨whole.volume, ?_, whole.requested, whole.localVolume⟩, ?_⟩
              · dsimp only
                rw [gains_append_mute]
                exact whole.queued
              · exact Or.inr ⟨percent, told.told, told.believed, Or.inl rfl⟩
          | false =>
              have only := allowed due scheduled early graced
              rw [VolumeSource.applyServerState_of_told _ _ percent told.told graced]
              rw [told.told] at only
              refine ⟨⟨whole.volume, ?_, Or.inr ⟨percent, rfl⟩, percent.within⟩, ?_⟩
              · dsimp only
                rw [gains_append_volume]
                intro gain queued
                rcases List.mem_append.mp queued with earlier | last
                · exact whole.queued gain earlier
                · exact ⟨percent, List.mem_singleton.mp last⟩
              · refine Or.inr ⟨percent, told.told, told.believed, Or.inr ?_⟩
                dsimp only
                rw [gains_append_volume]
                exact ⟨rfl, onlyTo_append percent.gain _ _ only, List.getLastD_concat,
                  fun _ => rfl⟩
      · rw [if_neg early]
        exact consistent

theorem consistent_step (room : VolumeRoom) (event : VolumeEvent) (consistent : Consistent room)
    (allowed : Allowed room event) : Consistent (room.step event) := by
  cases event with
  | settings volume muted =>
      obtain ⟨whole, _⟩ := consistent
      exact ⟨⟨whole.volume, whole.queued, whole.requested, whole.localVolume⟩,
        Or.inr ⟨volume, rfl, rfl, Or.inl rfl⟩⟩
  | timeout => exact consistent_timeout room consistent allowed
  | execute => exact consistent_execute room consistent allowed
  | slide volume => exact consistent_slide room volume consistent allowed
  | toggle muted => exact consistent_mute room muted consistent allowed
  | pass ms => exact consistent.of_same ⟨rfl, rfl, rfl, rfl, rfl, rfl, rfl⟩

theorem volumesAgree_of_consistent (room : VolumeRoom) (consistent : Consistent room) :
    VolumesAgree room := by
  rintro ⟨executed, quiet⟩ belief believed
  have empty : gains room.requests = [] := by
    rw [executed]
    rfl
  rcases consistent.2 with fresh | ⟨percent, told⟩
  · exact fresh.told belief believed
  · rw [told.believed] at believed
    cases believed
    rcases told.settles with pending | ⟨held, _, last, _⟩
    · rw [quiet] at pending
      cases pending
    · rw [empty] at last
      exact ⟨held, last⟩

theorem consistent_start (volume : Percent) (muted : Bool) : Consistent (start volume muted) := by
  refine ⟨⟨⟨volume, rfl⟩, ?_, Or.inl rfl, le_refl 100⟩, Or.inl ⟨rfl, rfl, rfl, rfl, ?_⟩⟩
  · intro gain queued
    cases queued
  · intro belief believed
    cases believed

theorem visits_volumesAgree (volume : Percent) (muted : Bool) (events : List VolumeEvent)
    (along : Run.Along step Allowed (start volume muted) events) :
    Run.Visits step VolumesAgree (start volume muted) events :=
  Run.visits_of_along step Consistent VolumesAgree Allowed volumesAgree_of_consistent
    consistent_step (start volume muted) events (consistent_start volume muted) along

def pushed : Percent := ⟨50, by decide⟩

def slid : Percent := ⟨30, by decide⟩

def slideAway : List VolumeEvent :=
  [.settings pushed false, .timeout, .execute, .execute, .slide slid]

def awayAndBack : List VolumeEvent := slideAway ++ [.slide pushed]

theorem visits_volumesAgree_slideAway :
    Run.Along step Allowed (start pushed true) slideAway ∧
      Run.Visits step VolumesAgree (start pushed true) slideAway :=
  ⟨by decide +kernel, visits_volumesAgree pushed true slideAway (by decide +kernel)⟩

/-- The slide away is reported to the server; the slide back to the last requested gain is taken
for an echo. -/
theorem awayAndBack_disagree :
    ¬ Run.Visits step VolumesAgree (start pushed false) awayAndBack := by
  intro visits
  have agree := Run.visits_last step VolumesAgree _ _ visits
  have drained : Drained (awayAndBack.foldl step (start pushed false)) := by
    constructor <;> decide +kernel
  have reached := (agree drained 30 (by decide +kernel)).2
  revert reached
  decide +kernel

end VolumeRoom

end Media
