import SnapcastSync.ClockSync.TimeReply

/-! How far the measurements of the server's clock are from it: half of what the two ways of a
Time message differ by, which the gate keeps near the best round trip of late. -/

namespace ClockSync

open Protocol

/-- A Time message and its reply as they went: how long each was under way, and how far the
server's clock was ahead of the client's at either end of the server's turn. -/
structure Exchange where
  upUs : Int
  downUs : Int
  aheadAtReceiptUs : Int
  aheadAtSendUs : Int

namespace Exchange

/-- The server takes the client's stamp from its own clock, and stamps its reply. -/
def Of (exchange : Exchange) (reply : TimeReply) : Prop :=
  reply.latency.toUs = exchange.upUs + exchange.aheadAtReceiptUs ∧
    reply.recvUs - reply.sent.toUs = exchange.downUs - exchange.aheadAtSendUs

/-- No way is shorter than the least, and the clocks hardly wander during the server's turn. -/
def Ordinary (exchange : Exchange) (leastUs wanderUs : Int) : Prop :=
  leastUs ≤ exchange.upUs ∧ leastUs ≤ exchange.downUs ∧
    |exchange.aheadAtReceiptUs - exchange.aheadAtSendUs| ≤ wanderUs

def excessUs (exchange : Exchange) (leastUs : Int) : Int :=
  exchange.upUs + exchange.downUs - 2 * leastUs

/-- Twice what the measurement is off by. -/
def twiceOffUs (exchange : Exchange) (reply : TimeReply) : Int :=
  reply.c2sUs - reply.s2cUs - (exchange.aheadAtReceiptUs + exchange.aheadAtSendUs)

theorem twiceOffUs_eq {exchange : Exchange} {reply : TimeReply} (went : exchange.Of reply) :
    exchange.twiceOffUs reply = exchange.upUs - exchange.downUs := by
  rw [twiceOffUs, TimeReply.c2sUs, TimeReply.s2cUs, went.1, went.2]
  ring

theorem rttUs_eq {exchange : Exchange} {reply : TimeReply} (went : exchange.Of reply) :
    reply.rttUs = exchange.upUs + exchange.downUs +
      (exchange.aheadAtReceiptUs - exchange.aheadAtSendUs) := by
  rw [TimeReply.rttUs, TimeReply.c2sUs, TimeReply.s2cUs, went.1, went.2]
  ring

theorem twiceOffUs_le {exchange : Exchange} {reply : TimeReply} {leastUs wanderUs : Int}
    (went : exchange.Of reply) (ordinary : exchange.Ordinary leastUs wanderUs) :
    |exchange.twiceOffUs reply| ≤ exchange.excessUs leastUs := by
  obtain ⟨up, down, _⟩ := ordinary
  rw [twiceOffUs_eq went, excessUs, abs_le]
  omega

end Exchange

namespace TimeSync

variable {K : Type} [Field K] [LinearOrder K]

/-- The floor is no higher than an earlier round trip, risen since. -/
theorem floor_le_earlier (sqrt : K → K) (earlier later : List TimeEvent) (best : TimeReply) :
    ((earlier ++ TimeEvent.reply best :: later).foldl (step sqrt) boot).minRttUs ≤
      best.rttUs + (roundTrips later).length * rttFloorLeakUs := by
  have split : roundTrips (earlier ++ .reply best :: later) =
      roundTrips earlier ++ best.rttUs :: roundTrips later := roundTrips_append _ _
  have inside : (roundTrips earlier).length <
      (roundTrips earlier ++ best.rttUs :: roundTrips later).length := by
    rw [List.length_append, List.length_cons]
    omega
  have floor := LeakyMin.foldl_track_le rttFloorLeakUs (boot : TimeSync K).minRttUs
    (roundTrips earlier ++ best.rttUs :: roundTrips later) (roundTrips earlier).length inside
  have since : (roundTrips earlier ++ best.rttUs :: roundTrips later).length -
      ((roundTrips earlier).length + 1) = (roundTrips later).length := by
    rw [List.length_append, List.length_cons]
    omega
  rw [List.getElem_append_right le_rfl, since, nsmul_eq_mul] at floor
  simp only [Nat.sub_self, List.getElem_cons_zero] at floor
  rw [floor_run, split]
  exact floor

/-- Whatever is measured is off by half of what its two ways differ by, and, past the gate, by no
more than any earlier exchange exceeded the least by, the gate, and what has leaked since: halved,
as the measurement is. -/
theorem measurement_error (sqrt : K → K) (exchangeOf : TimeReply → Exchange)
    (leastUs wanderUs : Int) (events : List TimeEvent) (reply : TimeReply)
    (truthful : ∀ heard, TimeEvent.reply heard ∈ events ++ [.reply reply] →
      (exchangeOf heard).Of heard ∧ (exchangeOf heard).Ordinary leastUs wanderUs)
    (accepted : (events.foldl (step sqrt) boot).Accepts sqrt reply) :
    (((events ++ [TimeEvent.reply reply]).foldl (step sqrt) boot).timeFilter =
      (events.foldl (step sqrt) boot).timeFilter.insert sqrt
        (((reply.c2sUs - reply.s2cUs : Int) : K) / ((2000 : Nat) : K))
        ((reply.recvUs : K) / ((1000 : Nat) : K))) ∧
      (exchangeOf reply).twiceOffUs reply = (exchangeOf reply).upUs - (exchangeOf reply).downUs ∧
      |(exchangeOf reply).twiceOffUs reply| ≤ (exchangeOf reply).excessUs leastUs ∧
      ∀ earlier best later, events = earlier ++ TimeEvent.reply best :: later →
        |(exchangeOf reply).twiceOffUs reply| ≤
          (exchangeOf best).excessUs leastUs + rttGateUs +
            ((roundTrips later).length + 1) * rttFloorLeakUs + 2 * wanderUs := by
  obtain ⟨went, ordinary⟩ :=
    truthful reply (List.mem_append_right _ List.mem_cons_self)
  have off := Exchange.twiceOffUs_le went ordinary
  refine ⟨?_, Exchange.twiceOffUs_eq went, off, ?_⟩
  · have filtered := handleTimeReply_filter sqrt (events.foldl (step sqrt) boot) reply
    rw [if_pos accepted] at filtered
    rw [List.foldl_append]
    exact filtered
  · intro earlier best later split
    have bestWent := truthful best (List.mem_append_left _
      (split ▸ List.mem_append_right _ List.mem_cons_self))
    have gate : reply.rttUs ≤
        best.rttUs + ((roundTrips later).length + 1) * rttFloorLeakUs + rttGateUs := by
      have floor := floor_le_earlier sqrt earlier (later ++ [.reply reply]) best
      have grown : (roundTrips (later ++ [.reply reply])).length =
          (roundTrips later).length + 1 := by
        rw [roundTrips_append, List.length_append]
        rfl
      have run : (earlier ++ TimeEvent.reply best :: (later ++ [.reply reply])).foldl (step sqrt) boot =
          (events.foldl (step sqrt) boot).handleTimeReply sqrt reply := by
        rw [← List.cons_append, ← List.append_assoc, ← split, List.foldl_append]
        rfl
      rw [run, grown] at floor
      push_cast at floor
      exact accepted.trans (add_le_add floor le_rfl)
    rw [Exchange.rttUs_eq went, Exchange.rttUs_eq bestWent.1] at gate
    obtain ⟨_, _, steady⟩ := ordinary
    obtain ⟨_, _, bestSteady⟩ := bestWent.2
    rw [abs_le] at steady bestSteady
    rw [Exchange.excessUs] at off ⊢
    refine off.trans ?_
    omega

private def longReply : TimeReply :=
  { latency := { sec := 0, usec := 6000 }
    sent := { sec := 2, usec := 0 }
    recvUs := 2000000
    uptime := by decide }

private def exchangeAhead (reply : TimeReply) : Exchange :=
  { upUs := reply.latency.toUs - 1000
    downUs := reply.recvUs - reply.sent.toUs + 1000
    aheadAtReceiptUs := 1000
    aheadAtSendUs := 1000 }

private theorem exchangeAhead_of (reply : TimeReply) : (exchangeAhead reply).Of reply := by
  rw [Exchange.Of, exchangeAhead]
  constructor
  · ring
  · ring

theorem measurement_error_long :
    ((([TimeEvent.reply shortReply, .reply longReply]).foldl (step (fun _ : Rat => 1)) boot).timeFilter =
      ([TimeEvent.reply shortReply].foldl (step (fun _ : Rat => 1)) boot).timeFilter.insert
        (fun _ => 1) (((longReply.c2sUs - longReply.s2cUs : Int) : Rat) / ((2000 : Nat) : Rat))
        ((longReply.recvUs : Rat) / ((1000 : Nat) : Rat))) ∧
      (exchangeAhead longReply).twiceOffUs longReply =
        (exchangeAhead longReply).upUs - (exchangeAhead longReply).downUs ∧
      |(exchangeAhead longReply).twiceOffUs longReply| ≤ (exchangeAhead longReply).excessUs 1000 ∧
      ∀ earlier best later, [TimeEvent.reply shortReply] = earlier ++ .reply best :: later →
        |(exchangeAhead longReply).twiceOffUs longReply| ≤
          (exchangeAhead best).excessUs 1000 + rttGateUs +
            ((roundTrips later).length + 1) * rttFloorLeakUs + 2 * 0 := by
  apply measurement_error (fun _ : Rat => 1) exchangeAhead 1000 0 [.reply shortReply] longReply
  · intro heard member
    refine ⟨exchangeAhead_of heard, ?_⟩
    rcases List.mem_cons.mp member with first | later
    · cases first
      exact ⟨by decide, by decide, by decide⟩
    · cases List.mem_singleton.mp later
      exact ⟨by decide, by decide, by decide⟩
  · decide

end TimeSync

end ClockSync
