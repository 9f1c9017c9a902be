import SnapcastSync.ClockSync.TimeFilter
import SnapcastSync.Lib.LeakyMin
import SnapcastSync.Protocol.Views

/-! `handle_time_reply_`: a Time reply is measured for its round trip, and what is far above the
least one seen does not reach the filter. The gate is never reset; a reconnect resets the filter
alone. -/

namespace ClockSync

open Protocol

def rttGateUs : Int := 20000
def rttFloorLeakUs : Int := 500
def int64Max : Int := 2 ^ 63 - 1

/-- A Time reply, when it is received. The client's clock counts the microseconds since boot: it
is far from the end of its 64 bits for longer than a device can run. -/
structure TimeReply where
  latency : TimeVal
  sent : TimeVal
  recvUs : Int
  uptime : recvUs < 2 ^ 61

namespace TimeReply

def c2sUs (reply : TimeReply) : Int := reply.latency.toUs

def s2cUs (reply : TimeReply) : Int := reply.recvUs - reply.sent.toUs

def rttUs (reply : TimeReply) : Int := reply.c2sUs + reply.s2cUs

end TimeReply

structure TimeSync (K : Type) where
  minRttUs : Int
  timeFilter : TimeFilter K

inductive TimeEvent where
  | reply (heard : TimeReply)
  | reconnect

def TimeEvent.heard? : TimeEvent → Option TimeReply
  | .reply heard => some heard
  | .reconnect => none

def roundTrips (events : List TimeEvent) : List Int :=
  (events.filterMap TimeEvent.heard?).map TimeReply.rttUs

namespace TimeSync

variable {K : Type} [Field K] [LinearOrder K]

def boot : TimeSync K :=
  { minRttUs := int64Max / 2
    timeFilter := TimeFilter.initial }

def takeMeasurement (sqrt : K → K) (sync : TimeSync K) (reply : TimeReply) : TimeSync K :=
  { sync with
    timeFilter := sync.timeFilter.insert sqrt
      (((reply.c2sUs - reply.s2cUs : Int) : K) / ((2000 : Nat) : K))
      ((reply.recvUs : K) / ((1000 : Nat) : K)) }

def handleTimeReply (sqrt : K → K) (sync : TimeSync K) (reply : TimeReply) : TimeSync K :=
  let minRttUs := min reply.rttUs (sync.minRttUs + rttFloorLeakUs)
  let gated := { sync with minRttUs := minRttUs }
  if minRttUs + rttGateUs < reply.rttUs then gated else gated.takeMeasurement sqrt reply

def step (sqrt : K → K) (sync : TimeSync K) : TimeEvent → TimeSync K
  | .reply heard => sync.handleTimeReply sqrt heard
  | .reconnect => { sync with timeFilter := sync.timeFilter.reset }

def Accepts (sqrt : K → K) (sync : TimeSync K) (reply : TimeReply) : Prop :=
  reply.rttUs ≤ (sync.handleTimeReply sqrt reply).minRttUs + rttGateUs

instance (sqrt : K → K) (sync : TimeSync K) (reply : TimeReply) :
    Decidable (sync.Accepts sqrt reply) := by
  unfold Accepts
  infer_instance

theorem handleTimeReply_floor (sqrt : K → K) (sync : TimeSync K) (reply : TimeReply) :
    (sync.handleTimeReply sqrt reply).minRttUs =
      LeakyMin.track rttFloorLeakUs sync.minRttUs reply.rttUs := by
  rw [handleTimeReply]
  split <;> rfl

theorem handleTimeReply_filter (sqrt : K → K) (sync : TimeSync K) (reply : TimeReply) :
    (sync.handleTimeReply sqrt reply).timeFilter =
      if sync.Accepts sqrt reply then (sync.takeMeasurement sqrt reply).timeFilter
      else sync.timeFilter := by
  have accepts : sync.Accepts sqrt reply ↔
      ¬ min reply.rttUs (sync.minRttUs + rttFloorLeakUs) + rttGateUs < reply.rttUs := by
    rw [Accepts, handleTimeReply_floor, not_lt]
    rfl
  rw [handleTimeReply]
  by_cases far : min reply.rttUs (sync.minRttUs + rttFloorLeakUs) + rttGateUs < reply.rttUs
  · rw [if_neg (fun passes => accepts.mp passes far)]
    rw [if_pos far]
  · rw [if_pos (accepts.mpr far)]
    rw [if_neg far]
    rfl

theorem floor_run (sqrt : K → K) (sync : TimeSync K) (events : List TimeEvent) :
    (events.foldl (step sqrt) sync).minRttUs =
      (roundTrips events).foldl (LeakyMin.track rttFloorLeakUs) sync.minRttUs := by
  induction events generalizing sync with
  | nil => rfl
  | cons event rest ih =>
      rw [List.foldl_cons, ih]
      cases event with
      | reply heard =>
          rw [step, handleTimeReply_floor]
          rfl
      | reconnect => rfl

end TimeSync

theorem TimeReply.rttUs_lt (reply : TimeReply) : reply.rttUs < int64Max / 2 := by
  have latency := reply.latency.toUs_bounds
  have sent := reply.sent.toUs_bounds
  have uptime := reply.uptime
  have half : int64Max / 2 = 4611686018427387903 := by decide
  rw [TimeReply.rttUs, TimeReply.c2sUs, TimeReply.s2cUs, half]
  omega

theorem roundTrips_append (early late : List TimeEvent) :
    roundTrips (early ++ late) = roundTrips early ++ roundTrips late := by
  rw [roundTrips, List.filterMap_append, List.map_append]
  rfl

theorem roundTrips_lt (events : List TimeEvent) (rttUs : Int)
    (member : rttUs ∈ roundTrips events) : rttUs < int64Max / 2 := by
  obtain ⟨reply, _, rfl⟩ := List.mem_map.mp member
  exact reply.rttUs_lt

namespace TimeSync

variable {K : Type} [Field K] [LinearOrder K]

/-- After any replies the floor is the least of their round trips, each risen since. -/
theorem floor_isLeast (sqrt : K → K) (events : List TimeEvent) (some_ : roundTrips events ≠ []) :
    IsLeast (LeakyMin.risen rttFloorLeakUs (roundTrips events))
      (events.foldl (step sqrt) boot).minRttUs := by
  rw [floor_run]
  have below := roundTrips_lt events
  generalize roundTrips events = rtts at some_ below ⊢
  cases rtts with
  | nil => exact absurd rfl some_
  | cons first rest =>
      apply LeakyMin.foldl_track_isLeast
      have start := below first List.mem_cons_self
      change first ≤ int64Max / 2 + 500
      omega

/-- Replies that all take the same time are accepted once the floor has come near. -/
theorem accepts_of_constant (sqrt : K → K) (sync : TimeSync K) (rttUs : Int)
    (earlier : List TimeEvent) (constant : ∀ rtt ∈ roundTrips earlier, rtt = rttUs)
    (reply : TimeReply) (same : reply.rttUs = rttUs)
    (enough : (rttUs - sync.minRttUs) / rttFloorLeakUs ≤ (roundTrips earlier).length) :
    (earlier.foldl (step sqrt) sync).Accepts sqrt reply := by
  have repeated : roundTrips earlier ++ [rttUs] =
      List.replicate ((roundTrips earlier).length + 1) rttUs := by
    rw [List.replicate_succ', ← List.eq_replicate_of_mem constant]
  have floor : ((earlier.foldl (step sqrt) sync).handleTimeReply sqrt reply).minRttUs =
      min rttUs (sync.minRttUs + ((roundTrips earlier).length + 1) * rttFloorLeakUs) := by
    have trailing := congrArg (List.foldl (LeakyMin.track rttFloorLeakUs) sync.minRttUs) repeated
    rw [List.foldl_append, LeakyMin.foldl_track_replicate _ _ _ (by decide), nsmul_eq_mul]
      at trailing
    rw [handleTimeReply_floor, floor_run, same]
    push_cast at trailing
    exact trailing
  rw [Accepts, floor, same]
  rw [rttFloorLeakUs] at enough ⊢
  rw [rttGateUs]
  omega

/-- The gate in every run of replies and reconnects since boot: its floor, what it accepts, and
how soon it accepts again. -/
theorem rtt_gate (sqrt : K → K) (events : List TimeEvent) :
    (roundTrips events ≠ [] → IsLeast (LeakyMin.risen rttFloorLeakUs (roundTrips events))
      (events.foldl (step sqrt) boot).minRttUs) ∧
    (∀ reply, ((events.foldl (step sqrt) boot).handleTimeReply sqrt reply).timeFilter =
      if reply.rttUs ≤
          ((events ++ [TimeEvent.reply reply]).foldl (step sqrt) boot).minRttUs + rttGateUs then
        ((events.foldl (step sqrt) boot).takeMeasurement sqrt reply).timeFilter
      else (events.foldl (step sqrt) boot).timeFilter) ∧
    ∀ (rttUs : Int) (later : List TimeEvent), (∀ rtt ∈ roundTrips later, rtt = rttUs) →
      ∃ number : Nat,
        number ≤ max 0 ((rttUs - (events.foldl (step sqrt) boot).minRttUs) / rttFloorLeakUs) ∧
        ∀ earlier reply rest, later = earlier ++ .reply reply :: rest →
          number ≤ (roundTrips earlier).length →
          ((events ++ earlier).foldl (step sqrt) boot).Accepts sqrt reply := by
  refine ⟨floor_isLeast sqrt events, ?_, ?_⟩
  · intro reply
    rw [handleTimeReply_filter, List.foldl_append]
    rfl
  · intro rttUs later constant
    refine ⟨((rttUs - (events.foldl (step sqrt) boot).minRttUs) / rttFloorLeakUs).toNat,
      by omega, ?_⟩
    intro earlier reply rest split enough
    rw [split, roundTrips_append] at constant
    rw [List.foldl_append]
    apply accepts_of_constant sqrt _ rttUs earlier
    · exact fun rtt member => constant rtt (List.mem_append_left _ member)
    · exact constant _ (List.mem_append_right _ List.mem_cons_self)
    · omega

def shortReply : TimeReply :=
  { latency := { sec := 0, usec := 4000 }
    sent := { sec := 1, usec := 0 }
    recvUs := 1000000
    uptime := by decide }

theorem short_reply_floor :
    IsLeast (LeakyMin.risen rttFloorLeakUs (roundTrips [.reply shortReply, .reconnect]))
      ([TimeEvent.reply shortReply, .reconnect].foldl (step (fun _ : Rat => 0)) boot).minRttUs :=
  (rtt_gate (fun _ : Rat => 0) [.reply shortReply, .reconnect]).1 (by decide)

end TimeSync

end ClockSync
