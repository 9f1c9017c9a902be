import SnapcastSync.Protocol.Session

/-! The end of a session whose server has gone silent. -/

namespace Protocol
namespace Session

/-- A pass at which `recv` gives bytes. -/
def Reads (session : Session) (next : Poll) : Prop :=
  session.ended = none ∧ next.stopped = false ∧ next.fails = false ∧
    session.unread ++ next.arrives ≠ []

instance (session : Session) (next : Poll) : Decidable (session.Reads next) :=
  inferInstanceAs (Decidable (_ ∧ _ ∧ _ ∧ _))

def heard (session : Session) : List Poll → List Int
  | [] => []
  | next :: rest =>
      if session.Reads next then next.now :: (session.poll next).heard rest
      else (session.poll next).heard rest

/-- A pass at which `select` runs out. -/
def Idles (session : Session) (next : Poll) : Prop :=
  session.ended = none ∧ next.stopped = false ∧ next.fails = false ∧ next.hungUp = false ∧
    session.unread ++ next.arrives = []

theorem poll_cases (session : Session) (next : Poll) (alive : session.ended = none) :
    (next.stopped = true ∧ session.poll next = session.stop .stopped) ∨
      (next.stopped = false ∧ next.fails = true ∧
        session.poll next = (session.arrive next.arrives).stop .failed) ∨
      (next.stopped = false ∧ next.fails = false ∧ session.unread ++ next.arrives = [] ∧
        session.poll next = (session.arrive next.arrives).idle next.hungUp next.now) ∨
      (session.Reads next ∧
        session.poll next =
          (session.arrive next.arrives).recv next.takes next.now next.recvUs) := by
  have live : ¬ session.ended.isSome = true := by
    rw [alive]
    exact Bool.false_ne_true
  unfold poll
  rw [if_neg live]
  cases stopped : next.stopped with
  | true => exact Or.inl ⟨rfl, rfl⟩
  | false =>
      rw [if_neg Bool.false_ne_true]
      dsimp only
      cases fails : next.fails with
      | true => exact Or.inr (Or.inl ⟨rfl, rfl, rfl⟩)
      | false =>
          rw [if_neg Bool.false_ne_true]
          by_cases drained : session.unread ++ next.arrives = []
          · exact Or.inr (Or.inr (Or.inl ⟨rfl, rfl, drained, if_pos drained⟩))
          · exact Or.inr (Or.inr (Or.inr ⟨⟨alive, stopped, fails, drained⟩, if_neg drained⟩))

theorem recv_lastRxUs (session : Session) (takes : Nat) (now recvUs : Int) :
    (session.recv takes now recvUs).lastRxUs = now := by
  unfold recv received dispatch
  dsimp only
  repeat' split
  all_goals rfl

theorem idle_silent_iff (session : Session) (hungUp : Bool) (now : Int)
    (alive : session.ended = none) :
    (session.idle hungUp now).ended = some .silent ↔
      hungUp = false ∧ session.lastRxUs ≠ 0 ∧ sessionSilenceUs < now - session.lastRxUs := by
  unfold idle
  cases hungUp with
  | true => exact iff_of_false (fun finished => by cases finished) fun both => by cases both.1
  | false =>
      rw [if_neg Bool.false_ne_true]
      split
      · next late => exact iff_of_true rfl ⟨rfl, late⟩
      · next early =>
          refine iff_of_false (fun finished => ?_) fun both => early both.2
          rw [alive] at finished
          cases finished

theorem idle_lastRxUs (session : Session) (hungUp : Bool) (now : Int)
    (alive : (session.idle hungUp now).ended = none) :
    (session.idle hungUp now).lastRxUs = session.lastRxUs := by
  unfold idle at alive ⊢
  split
  · rfl
  · next connected =>
      rw [if_neg connected] at alive
      split
      · next late =>
          rw [if_pos late] at alive
          cases alive
      · rfl

theorem poll_lastRxUs (session : Session) (next : Poll) (alive : session.ended = none)
    (onward : (session.poll next).ended = none) :
    (session.poll next).lastRxUs = if session.Reads next then next.now else session.lastRxUs := by
  rcases session.poll_cases next alive with
    ⟨_, step⟩ | ⟨_, _, step⟩ | ⟨_, _, drained, step⟩ | ⟨reads, step⟩
  · rw [step] at onward
    cases onward
  · rw [step] at onward
    cases onward
  · rw [if_neg fun reads : session.Reads next => reads.2.2.2 drained]
    rw [step] at onward ⊢
    rw [idle_lastRxUs _ _ _ onward]
    rfl
  · rw [if_pos reads, step, recv_lastRxUs]

theorem poll_silent_iff (session : Session) (next : Poll) (alive : session.ended = none) :
    (session.poll next).ended = some .silent ↔
      session.Idles next ∧ session.lastRxUs ≠ 0 ∧
        sessionSilenceUs < next.now - session.lastRxUs := by
  rcases session.poll_cases next alive with
    ⟨stopped, step⟩ | ⟨_, fails, step⟩ | ⟨running, well, drained, step⟩ | ⟨reads, step⟩
  · rw [step]
    refine iff_of_false (fun finished => by cases finished) fun both => ?_
    rw [both.1.2.1] at stopped
    cases stopped
  · rw [step]
    refine iff_of_false (fun finished => by cases finished) fun both => ?_
    rw [both.1.2.2.1] at fails
    cases fails
  · have live : (session.arrive next.arrives).ended = none := alive
    rw [step, idle_silent_iff _ _ _ live]
    exact ⟨fun ⟨connected, late⟩ => ⟨⟨alive, running, well, connected, drained⟩, late⟩,
      fun ⟨idles, late⟩ => ⟨idles.2.2.2.1, late⟩⟩
  · have live : (session.arrive next.arrives).ended = none := alive
    rw [step]
    refine iff_of_false (fun finished => ?_) fun both => reads.2.2.2 both.1.2.2.2.2
    rcases recv_ended (session.arrive next.arrives) next.takes next.now next.recvUs live with
      open_ | refused
    · rw [finished] at open_
      cases open_
    · rw [finished] at refused
      cases refused

/-- The last reading is the latest of the readings there were. -/
theorem run_lastRxUs (session : Session) (polls : List Poll)
    (ordered : (session.lastRxUs :: polls.map Poll.now).Pairwise (· ≤ ·))
    (onward : (session.run polls).ended = none) :
    (session.run polls).lastRxUs ∈ session.lastRxUs :: session.heard polls ∧
      ∀ time ∈ session.lastRxUs :: session.heard polls, time ≤ (session.run polls).lastRxUs := by
  induction polls generalizing session with
  | nil => exact ⟨List.mem_cons_self, fun time member => (List.mem_singleton.mp member).le⟩
  | cons next later ih =>
      have alive : session.ended = none := by
        by_contra finished
        rw [run_over session (next :: later) (Option.isSome_iff_ne_none.mpr finished)] at onward
        exact finished onward
      have between : (session.poll next).ended = none := by
        by_contra finished
        have step : session.run (next :: later) = (session.poll next).run later := rfl
        rw [step, run_over _ later (Option.isSome_iff_ne_none.mpr finished)] at onward
        exact finished onward
      rw [List.map_cons, List.pairwise_cons] at ordered
      obtain ⟨first, rest⟩ := ordered
      have kept := session.poll_lastRxUs next alive between
      rw [heard]
      by_cases reads : session.Reads next
      · rw [if_pos reads] at kept ⊢
        obtain ⟨member, bound⟩ := ih (session.poll next) (by rw [kept]; exact rest) onward
        rw [kept] at member bound
        refine ⟨List.mem_cons_of_mem _ member, List.forall_mem_cons.mpr ⟨?_, bound⟩⟩
        exact le_trans (first next.now List.mem_cons_self) (bound next.now List.mem_cons_self)
      · rw [if_neg reads] at kept ⊢
        have ordered : ((session.poll next).lastRxUs :: later.map Poll.now).Pairwise (· ≤ ·) := by
          rw [kept, List.pairwise_cons]
          exact ⟨fun time member => first time (List.mem_cons_of_mem _ member),
            (List.pairwise_cons.mp rest).2⟩
        have onwards := ih (session.poll next) ordered onward
        rw [kept] at onwards
        exact onwards

end Session

/-- A session is given up for silence at exactly those passes that find nothing to read when neither
its start nor any byte since lies within the last fifteen seconds. -/
theorem session_silent_iff (nowUs : Int) (helloSent : Bool) (polls : List Poll) (next : Poll)
    (booted : 0 < nowUs)
    (ordered : (nowUs :: polls.map Poll.now).Pairwise (· ≤ ·))
    (alive : ((Session.start nowUs helloSent).run polls).ended = none) :
    (((Session.start nowUs helloSent).run polls).poll next).ended = some .silent ↔
      ((Session.start nowUs helloSent).run polls).Idles next ∧
        ∀ time ∈ nowUs :: (Session.start nowUs helloSent).heard polls,
          time + sessionSilenceUs < next.now := by
  obtain ⟨member, bound⟩ := Session.run_lastRxUs (Session.start nowUs helloSent) polls ordered alive
  have started : (Session.start nowUs helloSent).lastRxUs = nowUs := rfl
  rw [started] at member bound
  rw [Session.poll_silent_iff _ next alive]
  have later := bound nowUs List.mem_cons_self
  constructor
  · rintro ⟨idles, _, late⟩
    refine ⟨idles, fun time earlier => ?_⟩
    have before := bound time earlier
    omega
  · rintro ⟨idles, late⟩
    have last := late _ member
    exact ⟨idles, by omega, by omega⟩

def quietPass (now : Int) : Poll :=
  { stopped := false
    arrives := []
    fails := false
    hungUp := false
    takes := 0
    now := now
    recvUs := now }

theorem session_silent_iff_late :
    (((Session.start 1 true).run [{ quietPass 2 with arrives := [7] }]).poll
        (quietPass 15000003)).ended = some .silent ↔
      ((Session.start 1 true).run [{ quietPass 2 with arrives := [7] }]).Idles
          (quietPass 15000003) ∧
        ∀ time ∈ 1 :: (Session.start 1 true).heard [{ quietPass 2 with arrives := [7] }],
          time + sessionSilenceUs < (quietPass 15000003).now :=
  session_silent_iff 1 true [{ quietPass 2 with arrives := [7] }] (quietPass 15000003) (by decide)
    (by decide) (by decide)

end Protocol
