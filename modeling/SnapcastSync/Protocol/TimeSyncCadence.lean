import Mathlib.Algebra.Order.Ring.Int
import Mathlib.Tactic.Linarith

/-! When `service_tx_` asks the server for the time: a burst after a connect and after the start
of a stream, and then at an interval that depends on whether a stream is active. -/

namespace Protocol

def timeSyncBurstCount : Nat := 10
def timeSyncRestartCount : Nat := 3
def timeSyncBurstIntervalMs : Int := 100
def timeSyncIdleIntervalMs : Int := 2000

structure TimeSync where
  streamActive : Bool
  burstRemaining : Nat
  nextUs : Int
deriving DecidableEq, Repr

inductive TimeSyncEvent
  | service (now : Int)
  | setStreamActive (active : Bool)
deriving DecidableEq, Repr

structure TimeRequest where
  now : Int
  burst : Bool
deriving DecidableEq, Repr

namespace TimeSync

variable (intervalMs : Int)

def connected : TimeSync :=
  { streamActive := false
    burstRemaining := timeSyncBurstCount
    nextUs := 0 }

def intervalUs (state : TimeSync) : Int :=
  (if 0 < state.burstRemaining then timeSyncBurstIntervalMs
    else if state.streamActive then intervalMs
    else max intervalMs timeSyncIdleIntervalMs) * 1000

/-- The time sync part of `service_tx_`. -/
def serviceTx (state : TimeSync) (now : Int) : TimeSync :=
  if state.nextUs ≤ now then
    { state with
      burstRemaining := state.burstRemaining - 1
      nextUs := now + state.intervalUs intervalMs }
  else state

def setStreamActive (state : TimeSync) (active : Bool) : TimeSync :=
  if active = state.streamActive then state
  else if active then
    { streamActive := active
      burstRemaining := max state.burstRemaining timeSyncRestartCount
      nextUs := 0 }
  else { state with streamActive := active }

def step (state : TimeSync) : TimeSyncEvent → TimeSync
  | .service now => state.serviceTx intervalMs now
  | .setStreamActive active => state.setStreamActive active

def sends (state : TimeSync) : TimeSyncEvent → List TimeRequest
  | .service now =>
      if state.nextUs ≤ now then
        [{ now := now
           burst := decide (0 < state.burstRemaining) }]
      else []
  | .setStreamActive _ => []

def run (state : TimeSync) (events : List TimeSyncEvent) : TimeSync :=
  events.foldl (step intervalMs) state

def requests (state : TimeSync) : List TimeSyncEvent → List TimeRequest
  | [] => []
  | event :: rest => state.sends event ++ (state.step intervalMs event).requests rest

def starts (state : TimeSync) : List TimeSyncEvent → Nat
  | [] => 0
  | event :: rest =>
      (if state.streamActive = false ∧ event = .setStreamActive true then 1 else 0) +
        (state.step intervalMs event).starts rest

end TimeSync

def lastServed (now : Int) : List TimeSyncEvent → Int
  | [] => now
  | .service later :: rest => lastServed later rest
  | .setStreamActive _ :: rest => lastServed now rest

def Forward (now : Int) : List TimeSyncEvent → Prop
  | [] => True
  | .service later :: rest => now ≤ later ∧ Forward later rest
  | .setStreamActive _ :: rest => Forward now rest

theorem lastServed_ge (now : Int) (events : List TimeSyncEvent) (forward : Forward now events) :
    now ≤ lastServed now events := by
  induction events generalizing now with
  | nil => exact le_refl now
  | cons event rest ih =>
      cases event with
      | service later => exact le_trans forward.1 (ih later forward.2)
      | setStreamActive active => exact ih now forward

namespace TimeSync

def slow (requests : List TimeRequest) : Nat := requests.countP fun request => !request.burst

def fast (requests : List TimeRequest) : Nat := requests.countP TimeRequest.burst

variable (intervalMs : Int)

theorem step_burst (state : TimeSync) (event : TimeSyncEvent) :
    state.burstRemaining ≤
        (state.step intervalMs event).burstRemaining + (state.sends event).length ∧
      fast (state.sends event) + (state.step intervalMs event).burstRemaining ≤
        state.burstRemaining + timeSyncRestartCount *
          (if state.streamActive = false ∧ event = .setStreamActive true then 1 else 0) := by
  cases event with
  | service now =>
      by_cases due : state.nextUs ≤ now
      · simp only [step, serviceTx, sends, if_pos due, List.length_singleton, fast,
          List.countP_singleton]
        by_cases some_ : 0 < state.burstRemaining
        · simp only [some_, decide_true, if_true]
          omega
        · simp only [some_, decide_false, Bool.false_eq_true, if_false]
          omega
      · simp only [step, serviceTx, sends, if_neg due, List.length_nil, fast, List.countP_nil]
        omega
  | setStreamActive active =>
      simp only [step, setStreamActive, sends, List.length_nil, fast, List.countP_nil,
        timeSyncRestartCount]
      cases active with
      | false => cases state.streamActive with
        | false => exact ⟨le_refl _, by simp⟩
        | true => exact ⟨le_refl _, by simp⟩
      | true => cases state.streamActive with
        | false => exact ⟨by simp, by simp⟩
        | true => exact ⟨le_refl _, by simp⟩

theorem run_burst (state : TimeSync) (events : List TimeSyncEvent) :
    state.burstRemaining ≤ (state.run intervalMs events).burstRemaining +
        (state.requests intervalMs events).length ∧
      fast (state.requests intervalMs events) + (state.run intervalMs events).burstRemaining ≤
        state.burstRemaining + timeSyncRestartCount * state.starts intervalMs events := by
  induction events generalizing state with
  | nil => exact ⟨le_refl _, by simp [requests, fast, run, starts]⟩
  | cons event rest ih =>
      obtain ⟨spent, restarted⟩ := state.step_burst intervalMs event
      obtain ⟨later, laterRestarted⟩ := ih (state.step intervalMs event)
      have split : fast (state.requests intervalMs (event :: rest)) =
          fast (state.sends event) + fast ((state.step intervalMs event).requests intervalMs rest) :=
        List.countP_append
      have onward : state.run intervalMs (event :: rest) =
          (state.step intervalMs event).run intervalMs rest := rfl
      rw [split, onward, requests, List.length_append, starts, Nat.mul_add]
      constructor
      · omega
      · omega

def waiting (state : TimeSync) (now : Int) : Int :=
  min (intervalMs * 1000) (max 0 (state.nextUs - now))

theorem waiting_bounds (state : TimeSync) (now : Int) (positive : 0 ≤ intervalMs) :
    0 ≤ state.waiting intervalMs now ∧ state.waiting intervalMs now ≤ intervalMs * 1000 := by
  unfold waiting
  omega

/-- A service pays for what there was to wait, and a slow request for its own interval. -/
theorem serviceTx_waiting (state : TimeSync) (now later : Int) (positive : 0 ≤ intervalMs)
    (forward : now ≤ later) :
    (slow (state.sends (.service later)) : Int) * (intervalMs * 1000) +
        state.waiting intervalMs now ≤
      (state.serviceTx intervalMs later).waiting intervalMs later + (later - now) := by
  by_cases due : state.nextUs ≤ later
  · simp only [sends, serviceTx, if_pos due, slow, List.countP_singleton]
    by_cases some_ : 0 < state.burstRemaining
    · simp only [some_, decide_true, Bool.not_true, Bool.false_eq_true, if_false, waiting]
      omega
    · have whole : intervalMs * 1000 ≤ state.intervalUs intervalMs := by
        unfold intervalUs
        rw [if_neg some_]
        split
        · exact le_refl _
        · exact Int.mul_le_mul_of_nonneg_right (le_max_left _ _) (by decide)
      simp only [some_, decide_false, Bool.not_false, if_true, waiting]
      omega
  · simp only [sends, serviceTx, if_neg due, slow, List.countP_nil, waiting]
    omega

theorem setStreamActive_waiting (state : TimeSync) (active : Bool) (now : Int)
    (positive : 0 ≤ intervalMs) :
    state.waiting intervalMs now ≤
      (state.setStreamActive active).waiting intervalMs now +
        ((if state.streamActive = false ∧ TimeSyncEvent.setStreamActive active =
          .setStreamActive true then 1 else 0 : Nat) : Int) * (intervalMs * 1000) := by
  have before := state.waiting_bounds intervalMs now positive
  have after := (state.setStreamActive active).waiting_bounds intervalMs now positive
  cases active with
  | false =>
      have same : (state.setStreamActive false).waiting intervalMs now =
          state.waiting intervalMs now := by
        unfold setStreamActive
        split
        · rfl
        · rfl
      rw [same]
      simp
  | true =>
      cases started : state.streamActive with
      | false =>
          simp only [and_self, if_true]
          omega
      | true =>
          have same : state.setStreamActive true = state := if_pos started.symm
          rw [same]
          simp

theorem run_slow (state : TimeSync) (now : Int) (events : List TimeSyncEvent)
    (positive : 0 ≤ intervalMs) (forward : Forward now events) :
    (slow (state.requests intervalMs events) : Int) * (intervalMs * 1000) +
        state.waiting intervalMs now ≤
      ((state.starts intervalMs events : Int) + 1) * (intervalMs * 1000) +
        (lastServed now events - now) := by
  induction events generalizing state now with
  | nil =>
      simp only [requests, slow, List.countP_nil, starts, lastServed, waiting]
      omega
  | cons event rest ih =>
      have split : slow (state.requests intervalMs (event :: rest)) =
          slow (state.sends event) + slow ((state.step intervalMs event).requests intervalMs rest) :=
        List.countP_append
      rw [split, starts, Nat.cast_add, Nat.cast_add, add_mul]
      cases event with
      | service later =>
          have paid := state.serviceTx_waiting intervalMs now later positive forward.1
          have onward := ih (state.serviceTx intervalMs later) later forward.2
          have unstarted : ¬ (state.streamActive = false ∧
              TimeSyncEvent.service later = .setStreamActive true) := fun both => by cases both.2
          rw [if_neg unstarted]
          simp only [step, lastServed, Nat.cast_zero, zero_add]
          linarith
      | setStreamActive active =>
          have paid := state.setStreamActive_waiting intervalMs active now positive
          have onward := ih (state.setStreamActive active) now forward
          have none_ : slow (state.sends (.setStreamActive active)) = 0 := rfl
          rw [none_]
          simp only [step, lastServed, Nat.cast_zero, zero_mul]
          rw [add_assoc, add_mul]
          linarith

def longestUs : Int := max intervalMs timeSyncIdleIntervalMs * 1000

theorem intervalUs_le (state : TimeSync) : state.intervalUs intervalMs ≤ longestUs intervalMs := by
  unfold intervalUs longestUs timeSyncBurstIntervalMs timeSyncIdleIntervalMs
  split
  · omega
  · split
    · omega
    · exact le_refl _

theorem step_nextUs (state : TimeSync) (event : TimeSyncEvent) (now : Int) (booted : 0 ≤ now)
    (soon : state.nextUs ≤ now + longestUs intervalMs) (forward : Forward now [event]) :
    (state.step intervalMs event).nextUs ≤ lastServed now [event] + longestUs intervalMs := by
  have longest : 0 ≤ longestUs intervalMs := by
    unfold longestUs timeSyncIdleIntervalMs
    omega
  cases event with
  | service later =>
      have interval := state.intervalUs_le intervalMs
      have later_ : now ≤ later := forward.1
      simp only [step, serviceTx, lastServed]
      split
      · dsimp only
        omega
      · omega
  | setStreamActive active =>
      simp only [step, setStreamActive, lastServed]
      split
      · exact soon
      · split
        · dsimp only
          omega
        · exact soon

theorem run_nextUs (state : TimeSync) (events : List TimeSyncEvent) (now : Int) (booted : 0 ≤ now)
    (soon : state.nextUs ≤ now + longestUs intervalMs) (forward : Forward now events) :
    (state.run intervalMs events).nextUs ≤ lastServed now events + longestUs intervalMs := by
  induction events generalizing state now with
  | nil => exact soon
  | cons event rest ih =>
      cases event with
      | service later =>
          exact ih (state.serviceTx intervalMs later) later (le_trans booted forward.1)
            (state.step_nextUs intervalMs (.service later) now booted soon ⟨forward.1, trivial⟩)
            forward.2
      | setStreamActive active =>
          exact ih (state.setStreamActive active) now booted
            (state.step_nextUs intervalMs (.setStreamActive active) now booted soon trivial) forward

theorem requests_due (state : TimeSync) (events : List TimeSyncEvent) (later : Int)
    (due : state.nextUs ≤ later) (booted : 0 ≤ later) :
    state.requests intervalMs (events ++ [.service later]) ≠ [] := by
  induction events generalizing state with
  | nil =>
      rw [List.nil_append, requests, sends, if_pos due]
      exact List.cons_ne_nil _ _
  | cons event rest ih =>
      rw [List.cons_append, requests]
      cases event with
      | service now =>
          by_cases here : state.nextUs ≤ now
          · rw [sends, if_pos here]
            exact List.cons_ne_nil _ _
          · rw [sends, if_neg here, List.nil_append]
            have same : state.step intervalMs (.service now) = state := if_neg here
            rw [same]
            exact ih state due
      | setStreamActive active =>
          rw [sends, List.nil_append]
          refine ih _ ?_
          simp only [step, setStreamActive]
          split
          · exact due
          · split
            · exact booted
            · exact due

/-- Once the burst is spent and until a stream starts, each request puts off the next. -/
theorem requests_spaced (state : TimeSync) (events : List TimeSyncEvent) (soonest : Int)
    (positive : 0 ≤ intervalMs) (spent : state.burstRemaining = 0)
    (waits : soonest ≤ state.nextUs) (unstarted : state.starts intervalMs events = 0) :
    ∀ request ∈ state.requests intervalMs events,
      request.burst = false ∧ soonest ≤ request.now := by
  induction events generalizing state with
  | nil => exact fun _ absent => absurd absent List.not_mem_nil
  | cons event rest ih =>
      rw [starts, Nat.add_eq_zero_iff] at unstarted
      intro request member
      rw [requests, List.mem_append] at member
      cases event with
      | service now =>
          by_cases due : state.nextUs ≤ now
          · have later : soonest ≤ now := le_trans waits due
            have interval : 0 ≤ state.intervalUs intervalMs := by
              rw [intervalUs, if_neg (by omega)]
              split
              · exact Int.mul_nonneg positive (by decide)
              · exact Int.mul_nonneg (le_trans positive (le_max_left _ _)) (by decide)
            have stepped : state.step intervalMs (.service now) =
                { state with
                  burstRemaining := state.burstRemaining - 1
                  nextUs := now + state.intervalUs intervalMs } := if_pos due
            rw [stepped] at unstarted member
            rw [sends, if_pos due, List.mem_singleton] at member
            rcases member with here | onward
            · rw [here, spent]
              exact ⟨rfl, later⟩
            · refine ih _ ?_ ?_ unstarted.2 request onward
              · exact Nat.sub_eq_zero_of_le (spent.symm ▸ Nat.zero_le 1)
              · exact le_trans later (le_add_of_nonneg_right interval)
          · have same : state.step intervalMs (.service now) = state := if_neg due
            rw [same] at unstarted member
            rw [sends, if_neg due] at member
            exact ih state spent waits unstarted.2 request
              (member.resolve_left List.not_mem_nil)
      | setStreamActive active =>
          have onward := member.resolve_left List.not_mem_nil
          have keeps : (state.setStreamActive active).burstRemaining = 0 ∧
              soonest ≤ (state.setStreamActive active).nextUs := by
            rw [setStreamActive]
            split
            · exact ⟨spent, waits⟩
            · rename_i changes
              split
              · -- an inactive stream that becomes active is a start
                rename_i active_
                have starts_ : state.streamActive = false ∧
                    TimeSyncEvent.setStreamActive active = .setStreamActive true := by
                  rw [active_] at changes ⊢
                  exact ⟨Bool.eq_false_of_not_eq_true fun on => changes on.symm, rfl⟩
                rw [if_pos starts_] at unstarted
                exact absurd unstarted.1 Nat.one_ne_zero
              · exact ⟨spent, waits⟩
          exact ih _ keeps.1 keeps.2 unstarted.2 request onward

/-- When the requests of a connection go out: the burst is over only when ten were sent, the fast
ones are ten and three for each stream that started, a slow one is followed by slow ones alone
until a stream starts, each at least the interval later, there are no more of them than the time
has intervals and starts, and no two services as far apart as the longest interval are without a
request. -/
structure Cadence (nowUs : Int) (events : List TimeSyncEvent) : Prop where
  burst : (connected.run intervalMs events).burstRemaining = 0 →
    timeSyncBurstCount ≤ (connected.requests intervalMs events).length
  fast : fast (connected.requests intervalMs events) ≤
    timeSyncBurstCount + timeSyncRestartCount * connected.starts intervalMs events
  spaced : ∀ (now : Int) (between : List TimeSyncEvent),
    let state := connected.run intervalMs events
    let sent := state.step intervalMs (.service now)
    state.sends (.service now) = [{ now := now, burst := false }] →
      sent.starts intervalMs between = 0 →
        ∀ request ∈ sent.requests intervalMs between,
          request.burst = false ∧ now + intervalMs * 1000 ≤ request.now
  slow : (slow (connected.requests intervalMs events) : Int) * (intervalMs * 1000) ≤
    ((connected.starts intervalMs events : Int) + 1) * (intervalMs * 1000) +
      (lastServed nowUs events - nowUs)
  served : ∀ (between : List TimeSyncEvent) (later : Int),
    lastServed nowUs events + max intervalMs timeSyncIdleIntervalMs * 1000 ≤ later →
      (connected.run intervalMs events).requests intervalMs
        (between ++ [.service later]) ≠ []

theorem slow_request_spaces (state : TimeSync) (now : Int) (between : List TimeSyncEvent)
    (positive : 0 ≤ intervalMs)
    (sent : state.sends (.service now) = [{ now := now, burst := false }])
    (unstarted : (state.step intervalMs (.service now)).starts intervalMs between = 0) :
    ∀ request ∈ (state.step intervalMs (.service now)).requests intervalMs between,
      request.burst = false ∧ now + intervalMs * 1000 ≤ request.now := by
  rw [sends] at sent
  split at sent
  · rename_i due
    have spent : ¬ 0 < state.burstRemaining := by
      simpa using sent
    have stepped : state.step intervalMs (.service now) =
        { state with
          burstRemaining := state.burstRemaining - 1
          nextUs := now + state.intervalUs intervalMs } := if_pos due
    have whole : intervalMs * 1000 ≤ state.intervalUs intervalMs := by
      rw [intervalUs, if_neg spent]
      split
      · exact le_refl _
      · exact Int.mul_le_mul_of_nonneg_right (le_max_left _ _) (by decide)
    rw [stepped] at unstarted ⊢
    refine requests_spaced intervalMs _ between _ positive ?_ ?_ unstarted
    · exact Nat.sub_eq_zero_of_le (by omega)
    · exact Int.add_le_add_left whole now
  · cases sent

end TimeSync

/-- Every run since a connect has its cadence. -/
theorem time_sync_cadence (intervalMs nowUs : Int) (events : List TimeSyncEvent)
    (configured : 0 ≤ intervalMs) (booted : 0 ≤ nowUs) (forward : Forward nowUs events) :
    TimeSync.Cadence intervalMs nowUs events := by
  obtain ⟨spent, restarted⟩ := TimeSync.connected.run_burst intervalMs events
  have slow := TimeSync.connected.run_slow intervalMs nowUs events configured forward
  have waiting := TimeSync.connected.waiting_bounds intervalMs nowUs configured
  have fresh : TimeSync.connected.nextUs ≤ nowUs + TimeSync.longestUs intervalMs := by
    change 0 ≤ nowUs + max intervalMs 2000 * 1000
    omega
  have soon := TimeSync.connected.run_nextUs intervalMs events nowUs booted fresh forward
  refine ⟨?_, ?_, ?_, ?_, ?_⟩
  · intro finished
    rw [finished, Nat.zero_add] at spent
    exact spent
  · exact le_trans (Nat.le_add_right _ _) restarted
  · intro now between
    exact TimeSync.slow_request_spaces intervalMs _ now between configured
  · linarith
  · intro between later far
    have last := lastServed_ge nowUs events forward
    have interval : 0 ≤ max intervalMs timeSyncIdleIntervalMs * 1000 :=
      mul_nonneg (le_trans configured (le_max_left _ _)) (by decide)
    exact TimeSync.requests_due intervalMs _ between later (le_trans soon far) (by omega)

def firstSeconds : List TimeSyncEvent :=
  .setStreamActive true :: (List.range 11).map fun (count : Nat) => .service (5 + 100000 * count)

theorem time_sync_cadence_start :
    TimeSync.Cadence 250 1 firstSeconds ∧
      (TimeSync.connected.run 250 firstSeconds).burstRemaining = 0 ∧
      (TimeSync.connected.run 250 (firstSeconds ++ [.service 1250005])).nextUs = 1500005 :=
  ⟨time_sync_cadence 250 1 firstSeconds (by decide) (by decide) (by
    refine ⟨?_, ?_, ?_, ?_, ?_, ?_, ?_, ?_, ?_, ?_, ?_, trivial⟩ <;> decide),
    by decide, by decide⟩

end Protocol
