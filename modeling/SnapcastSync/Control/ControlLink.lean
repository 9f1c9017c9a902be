import Mathlib.Algebra.Order.Group.Unbundled.Int
import Mathlib.Data.List.Range
import SnapcastSync.Control.ControlSession
import SnapcastSync.Control.LineFraming
import SnapcastSync.Lib.Run

/-! The connection of the control session: the sockets it opens and closes, the pace of its
attempts and of its status requests, and the lines it learns from across connections. -/

namespace Control

open ClockSync

def reconnectBackoffUs : Int := 5000000
def connectTimeoutUs : Int := 5000000
def statusMinIntervalUs : Int := 2000000

inductive LinkState where
  | idle
  | connecting
  | ready
deriving DecidableEq, Repr

/-- What `connect` answers: at once, with `EINPROGRESS`, or otherwise. -/
inductive Connect where
  | done
  | inProgress
  | refused
deriving DecidableEq, Repr

inductive Polled where
  | waiting
  | connected
  | refused
deriving DecidableEq, Repr

/-- A call of `service`, with what the network answers in it. -/
structure ServiceTurn where
  nowUs : Int
  host : String
  resolved : Bool
  created : Bool
  connect : Connect
  polled : Polled
  answers : List Recv
  sentWhole : Bool

/-- Sockets are numbered in the order they are opened. Kept beside the source's members: how many
were opened, which were closed, the attempts since the last `close`, the status requests, and the
segments that each connection brought. -/
structure ControlLink where
  sock : Option Nat
  state : LinkState
  host : String
  nextConnectUs : Int
  connectDeadlineUs : Int
  rxBuf : List UInt8
  discarding : Bool
  session : ControlSession
  lastStatusReqUs : Int
  handled : List (List UInt8)
  opened : Nat
  closed : List Nat
  attempts : List Int
  requests : List Int
  connections : List (List Segment)

namespace ControlLink

def create (clientId : String) : ControlLink :=
  { sock := none
    state := .idle
    host := ""
    nextConnectUs := 0
    connectDeadlineUs := 0
    rxBuf := []
    discarding := false
    session := ControlSession.create clientId
    lastStatusReqUs := 0
    handled := []
    opened := 0
    closed := []
    attempts := []
    requests := []
    connections := [] }

/-- What `close` and `fail_` have in common. -/
def letGo (link : ControlLink) : ControlLink :=
  { link with
    sock := none
    closed := link.closed ++ link.sock.toList
    state := .idle
    rxBuf := []
    discarding := false
    session := { link.session with statusPending := false } }

def close (link : ControlLink) : ControlLink :=
  { link.letGo with
    host := ""
    nextConnectUs := 0
    attempts := [] }

def fail (link : ControlLink) (nowUs : Int) : ControlLink :=
  { link.letGo with nextConnectUs := nowUs + reconnectBackoffUs }

def becomeReady (link : ControlLink) : ControlLink :=
  { link with
    state := .ready
    session := { link.session with statusPending := true }
    connections := link.connections ++ [[]] }

def startConnect (link : ControlLink) (turn : ServiceTurn) : ControlLink :=
  let tried := { link with attempts := link.attempts ++ [turn.nowUs] }
  if !turn.resolved then tried.fail turn.nowUs
  else if !turn.created then { tried with sock := none }.fail turn.nowUs
  else
    let open_ := { tried with sock := some link.opened, opened := link.opened + 1 }
    match turn.connect with
    | .done => open_.becomeReady
    | .inProgress =>
        { open_ with state := .connecting, connectDeadlineUs := turn.nowUs + connectTimeoutUs }
    | .refused => open_.fail turn.nowUs

def pollConnect (link : ControlLink) (turn : ServiceTurn) : ControlLink :=
  match turn.polled with
  | .connected => link.becomeReady
  | .refused => link.fail turn.nowUs
  | .waiting =>
      if link.connectDeadlineUs < turn.nowUs then link.fail turn.nowUs else link

def reader (link : ControlLink) : LineReader :=
  { ready := true
    rxBuf := link.rxBuf
    discarding := link.discarding
    handled := link.handled }

variable (parse : List UInt8 → Json) (inetAddr : String → Addr)

/-- The bytes of one `recv`, and what `handle_line_` makes of the lines that they end. -/
def receive (link : ControlLink) (segment : Segment) : ControlLink :=
  let taken := link.reader.recvTurn (.bytes segment)
  { link with
    rxBuf := taken.rxBuf
    discarding := taken.discarding
    handled := taken.handled
    session :=
      ((taken.handled.drop link.handled.length).map parse).foldl
        (ControlSession.handleLine inetAddr) link.session
    connections :=
      link.connections.dropLast ++ [(link.connections.getLast?.getD []) ++ [segment]] }

def read (link : ControlLink) (nowUs : Int) : List Recv → ControlLink
  | [] => link
  | .bytes segment :: answers => (link.receive parse inetAddr segment).read nowUs answers
  | .drained :: _ => link
  | .closed :: _ => link.fail nowUs
  | .failed :: _ => link.fail nowUs

def sendStatus (link : ControlLink) (turn : ServiceTurn) : ControlLink :=
  if link.state = .ready ∧ link.session.statusPending = true ∧
      statusMinIntervalUs ≤ turn.nowUs - link.lastStatusReqUs then
    if turn.sentWhole then
      { link with
        session := { link.session with statusPending := false }
        lastStatusReqUs := turn.nowUs
        requests := link.requests ++ [turn.nowUs] }
    else link.fail turn.nowUs
  else link

def serve (link : ControlLink) (turn : ServiceTurn) : ControlLink :=
  match link.state with
  | .idle => if link.nextConnectUs ≤ turn.nowUs then link.startConnect turn else link
  | .connecting => link.pollConnect turn
  | .ready => (link.read parse inetAddr turn.nowUs turn.answers).sendStatus turn

def service (link : ControlLink) (turn : ServiceTurn) : ControlLink :=
  if turn.host = "" then
    if link.state ≠ .idle ∨ link.sock.isSome = true then link.close else link
  else
    let aimed := if turn.host ≠ link.host then { link.close with host := turn.host } else link
    aimed.serve parse inetAddr turn

def sendSetLatency (link : ControlLink) (nowUs : Int) (sentWhole : Bool) : ControlLink :=
  if link.state = .ready ∧ sentWhole = false then link.fail nowUs else link

inductive Event where
  | service (turn : ServiceTurn)
  | close
  | sendSetLatency (nowUs : Int) (sentWhole : Bool)

def step (link : ControlLink) : Event → ControlLink
  | .service turn => link.service parse inetAddr turn
  | .close => link.close
  | .sendSetLatency nowUs sentWhole => link.sendSetLatency nowUs sentWhole

def run (link : ControlLink) (events : List Event) : ControlLink :=
  events.foldl (step parse inetAddr) link

def Forward (nowUs : Int) : List Event → Prop
  | [] => True
  | .service turn :: rest => nowUs ≤ turn.nowUs ∧ Forward turn.nowUs rest
  | .close :: rest => Forward nowUs rest
  | .sendSetLatency later _ :: rest => nowUs ≤ later ∧ Forward later rest

end ControlLink

namespace LineReader

/-- What was handled before stays in front, and changes nothing of the rest. -/
theorem takeLines_base (reader : LineReader) (base : List (List UInt8)) :
    { reader with handled := base ++ reader.handled }.takeLines =
      { reader.takeLines with handled := base ++ reader.takeLines.handled } := by
  fun_induction takeLines reader with
  | case1 reader none_ =>
      rw [takeLines]
      split
      · rfl
      · next found => rw [none_] at found; cases found
  | case2 reader last rest found discarding ih =>
      rw [takeLines]
      split
      · next none_ => rw [found] at none_; cases none_
      · next other later found' =>
          rw [found] at found'
          cases found'
          rw [if_pos discarding]
          exact ih
  | case3 reader last rest found line keeping ih =>
      rw [takeLines]
      split
      · next none_ => rw [found] at none_; cases none_
      · next other later found' =>
          rw [found] at found'
          cases found'
          rw [if_neg keeping]
          simpa only [List.append_assoc] using ih

theorem recvTurn_base (reader : LineReader) (base : List (List UInt8)) (segment : Segment) :
    { reader with handled := base ++ reader.handled }.recvTurn (.bytes segment) =
      { reader.recvTurn (.bytes segment) with
        handled := base ++ (reader.recvTurn (.bytes segment)).handled } := by
  have taken := takeLines_base { reader with rxBuf := reader.rxBuf ++ segment.bytes } base
  rw [recvTurn, recvTurn]
  dsimp only at taken ⊢
  split
  · rw [taken]
    dsimp only
    split <;> rfl
  · rfl

theorem recvTurn_ready (reader : LineReader) (segment : Segment) :
    (reader.recvTurn (.bytes segment)).ready = reader.ready := by
  have still := (takeLines_framer { reader with rxBuf := reader.rxBuf ++ segment.bytes }).2
  rw [recvTurn]
  dsimp only
  split
  · split <;> exact still
  · rfl

end LineReader

namespace ControlLink

variable (parse : List UInt8 → Json) (inetAddr : String → Addr)

def readerOf (segments : List Segment) : LineReader :=
  LineReader.connected.read (segments.map .bytes)

structure Kept (nowUs : Int) (link : ControlLink) : Prop where
  sockets : link.closed ++ link.sock.toList = List.range link.opened
  paced : link.attempts.Pairwise fun earlier later => earlier + reconnectBackoffUs ≤ later
  past : ∀ attempt ∈ link.attempts, attempt ≤ nowUs
  spaced : link.requests.Pairwise fun earlier later => earlier + statusMinIntervalUs ≤ later
  asked : ∀ request ∈ link.requests, request ≤ link.lastStatusReqUs
  lines : link.handled = link.connections.flatMap handledLines
  learned : link.session.peers =
    ((statuses (link.handled.map parse)).getLast?.map (rosterOf inetAddr)).getD []

structure Sound (nowUs : Int) (link : ControlLink) : Prop extends
    Kept parse inetAddr nowUs link where
  holds : link.sock.isSome = true ↔ link.state ≠ .idle
  waiting : link.state = .idle →
    ∀ attempt ∈ link.attempts, attempt + reconnectBackoffUs ≤ link.nextConnectUs
  framed :
    if link.state = .ready then
      ∃ past current, link.connections = past ++ [current] ∧
        (readerOf current).ready = true ∧ (readerOf current).rxBuf = link.rxBuf ∧
        (readerOf current).discarding = link.discarding
    else link.rxBuf = [] ∧ link.discarding = false

variable {parse inetAddr}

theorem create_sound (clientId : String) (nowUs : Int) :
    Sound parse inetAddr nowUs (create clientId) where
  sockets := rfl
  paced := List.Pairwise.nil
  past := nofun
  spaced := List.Pairwise.nil
  asked := nofun
  lines := rfl
  learned := rfl
  holds := by simp [create]
  waiting := nofun
  framed := ⟨rfl, rfl⟩

theorem Kept.later {nowUs laterUs : Int} {link : ControlLink}
    (kept : Kept parse inetAddr nowUs link) (later : nowUs ≤ laterUs) :
    Kept parse inetAddr laterUs link :=
  { kept with past := fun attempt member => (kept.past attempt member).trans later }

theorem Sound.later {nowUs laterUs : Int} {link : ControlLink}
    (sound : Sound parse inetAddr nowUs link) (later : nowUs ≤ laterUs) :
    Sound parse inetAddr laterUs link :=
  { sound with toKept := sound.toKept.later later }

theorem fail_sound (link : ControlLink) (nowUs : Int) (kept : Kept parse inetAddr nowUs link) :
    Sound parse inetAddr nowUs (link.fail nowUs) where
  sockets := by
    rw [fail, letGo]
    dsimp only
    rw [Option.toList_none, List.append_nil]
    exact kept.sockets
  paced := kept.paced
  past := kept.past
  spaced := kept.spaced
  asked := kept.asked
  lines := kept.lines
  learned := kept.learned
  holds := by simp [fail, letGo]
  waiting := fun _ attempt member => add_le_add_left (kept.past attempt member) _
  framed := ⟨rfl, rfl⟩

theorem close_sound (link : ControlLink) (nowUs : Int) (kept : Kept parse inetAddr nowUs link) :
    Sound parse inetAddr nowUs link.close where
  sockets := by
    rw [close, letGo]
    dsimp only
    rw [Option.toList_none, List.append_nil]
    exact kept.sockets
  paced := List.Pairwise.nil
  past := nofun
  spaced := kept.spaced
  asked := kept.asked
  lines := kept.lines
  learned := kept.learned
  holds := by simp [close, letGo]
  waiting := nofun
  framed := ⟨rfl, rfl⟩

theorem becomeReady_sound (link : ControlLink) (nowUs : Int)
    (kept : Kept parse inetAddr nowUs link) (open_ : link.sock.isSome = true)
    (fresh : link.rxBuf = [] ∧ link.discarding = false) :
    Sound parse inetAddr nowUs link.becomeReady where
  sockets := kept.sockets
  paced := kept.paced
  past := kept.past
  spaced := kept.spaced
  asked := kept.asked
  lines := by
    rw [becomeReady]
    dsimp only
    rw [List.flatMap_append, ← kept.lines]
    exact (List.append_nil _).symm
  learned := kept.learned
  holds := iff_of_true open_ nofun
  waiting := nofun
  framed := by
    rw [if_pos (show link.becomeReady.state = .ready from rfl)]
    exact ⟨link.connections, [], rfl, rfl, fresh.1.symm, fresh.2.symm⟩

theorem startConnect_sound (link : ControlLink) (turn : ServiceTurn) (nowUs : Int)
    (sound : Sound parse inetAddr nowUs link) (later : nowUs ≤ turn.nowUs)
    (idle : link.state = .idle) (due : link.nextConnectUs ≤ turn.nowUs) :
    Sound parse inetAddr turn.nowUs (link.startConnect turn) := by
  have none_ : link.sock = none := by
    rw [← Option.not_isSome_iff_eq_none, sound.holds]
    exact not_not.mpr idle
  have fresh := sound.framed
  rw [if_neg (by rw [idle]; exact nofun)] at fresh
  have kept : Kept parse inetAddr turn.nowUs
      { link with attempts := link.attempts ++ [turn.nowUs] } := by
    refine ⟨sound.sockets, ?_, ?_, sound.spaced, sound.asked, sound.lines, sound.learned⟩
    · refine List.pairwise_append.mpr ⟨sound.paced, List.pairwise_singleton _ _, ?_⟩
      intro earlier member last here
      rw [List.mem_singleton.mp here]
      exact (sound.waiting idle earlier member).trans due
    · intro attempt member
      rcases List.mem_append.mp member with earlier | here
      · exact (sound.past attempt earlier).trans later
      · exact le_of_eq (List.mem_singleton.mp here)
  have opened : Kept parse inetAddr turn.nowUs
      { link with
        attempts := link.attempts ++ [turn.nowUs]
        sock := some link.opened
        opened := link.opened + 1 } := by
    refine ⟨?_, kept.paced, kept.past, kept.spaced, kept.asked, kept.lines, kept.learned⟩
    have sockets := sound.sockets
    rw [none_, Option.toList_none, List.append_nil] at sockets
    rw [sockets, Option.toList_some, List.range_succ]
  rw [startConnect]
  dsimp only
  split
  · exact fail_sound _ _ kept
  · split
    · refine fail_sound _ _ { kept with sockets := ?_ }
      have sockets := sound.sockets
      rw [none_] at sockets
      exact sockets
    · split
      · exact becomeReady_sound _ _ opened rfl fresh
      · exact {
          toKept := { opened with }
          holds := iff_of_true rfl nofun
          waiting := nofun
          framed := fresh }
      · exact fail_sound _ _ opened

theorem pollConnect_sound (link : ControlLink) (turn : ServiceTurn) (nowUs : Int)
    (sound : Sound parse inetAddr nowUs link) (later : nowUs ≤ turn.nowUs)
    (connecting : link.state = .connecting) :
    Sound parse inetAddr turn.nowUs (link.pollConnect turn) := by
  have kept := sound.toKept.later later
  have fresh := sound.framed
  rw [if_neg (by rw [connecting]; exact nofun)] at fresh
  have open_ : link.sock.isSome = true := sound.holds.mpr (by rw [connecting]; exact nofun)
  rw [pollConnect]
  split
  · exact becomeReady_sound _ _ kept open_ fresh
  · exact fail_sound _ _ kept
  · split
    · exact fail_sound _ _ kept
    · exact sound.later later

theorem recvTurn_handled (link : ControlLink) (segment : Segment) :
    ∃ lines, (link.reader.recvTurn (.bytes segment)).handled = link.handled ++ lines := by
  have split := LineReader.recvTurn_base { link.reader with handled := [] } link.handled segment
  rw [List.append_nil] at split
  exact ⟨_, congrArg LineReader.handled split⟩

theorem receive_learned (link : ControlLink) (segment : Segment)
    (learned : link.session.peers =
      ((statuses (link.handled.map parse)).getLast?.map (rosterOf inetAddr)).getD []) :
    (link.receive parse inetAddr segment).session.peers =
      ((statuses ((link.receive parse inetAddr segment).handled.map parse)).getLast?.map
        (rosterOf inetAddr)).getD [] := by
  obtain ⟨lines, split⟩ := recvTurn_handled link segment
  rw [receive]
  dsimp only
  rw [split, List.drop_left, ControlSession.handleLines_peers, learned, List.map_append, statuses,
    statuses, statuses, List.filterMap_append, List.getLast?_append]
  cases (lines.map parse).filterMap statusOf |>.getLast? with
  | none => rfl
  | some last => rfl

theorem receive_sound (link : ControlLink) (segment : Segment) (nowUs : Int)
    (sound : Sound parse inetAddr nowUs link) (ready : link.state = .ready) :
    Sound parse inetAddr nowUs (link.receive parse inetAddr segment) := by
  have framed := sound.framed
  rw [if_pos ready] at framed
  obtain ⟨past, current, split, open_, pending, skipping⟩ := framed
  have lines := sound.lines
  rw [split, List.flatMap_append, List.flatMap_singleton] at lines
  -- the reader is that of the present connection, behind the lines of those before
  have behind : link.reader =
      { readerOf current with
        handled := past.flatMap handledLines ++ (readerOf current).handled } := by
    rw [reader, ← pending, ← skipping, lines, handledLines]
    exact congrArg (fun ready => ({ ready := ready, .. } : LineReader)) open_.symm
  have turned : readerOf (current ++ [segment]) =
      (readerOf current).recvTurn (.bytes segment) := by
    rw [readerOf, List.map_append, LineReader.read, List.foldl_append]
    rfl
  have taken := LineReader.recvTurn_base (readerOf current) (past.flatMap handledLines) segment
  rw [← behind, ← turned] at taken
  have connections : (link.receive parse inetAddr segment).connections =
      past ++ [current ++ [segment]] := by
    rw [receive]
    dsimp only
    rw [split, List.dropLast_concat, List.getLast?_concat, Option.getD_some]
  refine { toKept := ?_, holds := sound.holds, waiting := sound.waiting, framed := ?_ }
  · refine ⟨sound.sockets, sound.paced, sound.past, sound.spaced, sound.asked, ?_,
      receive_learned link segment sound.learned⟩
    rw [connections, List.flatMap_append, List.flatMap_singleton]
    exact congrArg LineReader.handled taken
  · rw [if_pos (show (link.receive parse inetAddr segment).state = .ready from ready)]
    refine ⟨past, current ++ [segment], connections, ?_, ?_, ?_⟩
    · rw [turned, LineReader.recvTurn_ready]
      exact open_
    · exact (congrArg LineReader.rxBuf taken).symm
    · exact (congrArg LineReader.discarding taken).symm

theorem read_sound (link : ControlLink) (nowUs : Int) (answers : List Recv)
    (sound : Sound parse inetAddr nowUs link) (ready : link.state = .ready) :
    Sound parse inetAddr nowUs (link.read parse inetAddr nowUs answers) := by
  induction answers generalizing link with
  | nil => exact sound
  | cons answer rest ih =>
      cases answer with
      | bytes segment => exact ih _ (receive_sound link segment nowUs sound ready) ready
      | drained => exact sound
      | closed => exact fail_sound link nowUs sound.toKept
      | failed => exact fail_sound link nowUs sound.toKept

theorem sendStatus_sound (link : ControlLink) (turn : ServiceTurn)
    (sound : Sound parse inetAddr turn.nowUs link) :
    Sound parse inetAddr turn.nowUs (link.sendStatus turn) := by
  rw [sendStatus]
  split
  · next due =>
      split
      · have spaced : (link.requests ++ [turn.nowUs]).Pairwise
            fun earlier later => earlier + statusMinIntervalUs ≤ later := by
          refine List.pairwise_append.mpr ⟨sound.spaced, List.pairwise_singleton _ _, ?_⟩
          intro earlier member last here
          rw [List.mem_singleton.mp here]
          have asked := sound.asked earlier member
          have elapsed := due.2.2
          omega
        have asked : ∀ request ∈ link.requests ++ [turn.nowUs], request ≤ turn.nowUs := by
          intro request member
          rcases List.mem_append.mp member with earlier | here
          · have before := sound.asked request earlier
            have elapsed := due.2.2
            rw [statusMinIntervalUs] at elapsed
            omega
          · exact le_of_eq (List.mem_singleton.mp here)
        exact {
          sockets := sound.sockets
          paced := sound.paced
          past := sound.past
          spaced := spaced
          asked := asked
          lines := sound.lines
          learned := sound.learned
          holds := sound.holds
          waiting := sound.waiting
          framed := sound.framed }
      · exact fail_sound link turn.nowUs sound.toKept
  · exact sound

theorem serve_sound (link : ControlLink) (turn : ServiceTurn) (nowUs : Int)
    (sound : Sound parse inetAddr nowUs link) (later : nowUs ≤ turn.nowUs) :
    Sound parse inetAddr turn.nowUs (link.serve parse inetAddr turn) := by
  rw [serve]
  split
  · next idle =>
      split
      · next due => exact startConnect_sound link turn nowUs sound later idle due
      · exact sound.later later
  · next connecting => exact pollConnect_sound link turn nowUs sound later connecting
  · next ready =>
      apply sendStatus_sound
      exact read_sound link turn.nowUs turn.answers (sound.later later) ready

theorem service_sound (link : ControlLink) (turn : ServiceTurn) (nowUs : Int)
    (sound : Sound parse inetAddr nowUs link) (later : nowUs ≤ turn.nowUs) :
    Sound parse inetAddr turn.nowUs (link.service parse inetAddr turn) := by
  rw [service]
  split
  · split
    · exact close_sound link turn.nowUs (sound.toKept.later later)
    · exact sound.later later
  · dsimp only
    apply serve_sound _ turn nowUs ?_ later
    split
    · have shut := close_sound link nowUs sound.toKept
      exact { shut with }
    · exact sound

theorem run_sound (link : ControlLink) (nowUs : Int) (events : List Event)
    (sound : Sound parse inetAddr nowUs link) (forward : Forward nowUs events) :
    ∃ laterUs, Sound parse inetAddr laterUs (link.run parse inetAddr events) := by
  induction events generalizing link nowUs with
  | nil => exact ⟨nowUs, sound⟩
  | cons event rest ih =>
      cases event with
      | service turn =>
          exact ih _ turn.nowUs (service_sound link turn nowUs sound forward.1) forward.2
      | close => exact ih _ nowUs (close_sound link nowUs sound.toKept) forward
      | sendSetLatency later whole =>
          refine ih _ later ?_ forward.2
          rw [step, sendSetLatency]
          split
          · exact fail_sound link later (sound.toKept.later forward.1)
          · exact sound.later forward.1

/-- In every run of the link: the sockets are closed in the order they were opened, each once and
before the next is opened, and one is held just outside of `IDLE`; the attempts since a `close` are
a backoff apart, the status requests their interval, over all connections; the lines that are
handled are those that each connection brings by itself; and the roster is that of the last status
among them. -/
theorem link_kept (parse : List UInt8 → Json) (inetAddr : String → Addr) (clientId : String)
    (startUs : Int) (events : List Event) (forward : Forward startUs events) :
    let link := (create clientId).run parse inetAddr events
    (link.closed ++ link.sock.toList = List.range link.opened ∧
        (link.sock.isSome = true ↔ link.state ≠ .idle)) ∧
      (link.attempts.Pairwise fun earlier later => earlier + reconnectBackoffUs ≤ later) ∧
      (link.requests.Pairwise fun earlier later => earlier + statusMinIntervalUs ≤ later) ∧
      link.handled = link.connections.flatMap handledLines ∧
      link.session.peers =
        ((statuses ((link.connections.flatMap handledLines).map parse)).getLast?.map
          (rosterOf inetAddr)).getD [] := by
  intro link
  have created : Sound parse inetAddr startUs (create clientId) := create_sound clientId startUs
  obtain ⟨laterUs, sound⟩ := run_sound (create clientId) startUs events created forward
  have learned := sound.learned
  rw [sound.lines] at learned
  exact ⟨⟨sound.sockets, sound.holds⟩, sound.paced, sound.spaced, sound.lines, learned⟩

private def answering (nowUs : Int) (answers : List Recv) : ServiceTurn :=
  { nowUs := nowUs
    host := "server"
    resolved := true
    created := true
    connect := .done
    polled := .waiting
    answers := answers
    sentWhole := true }

def tornLine : List Event :=
  [.service (answering 1 []), .service (answering 2 [.bytes (oneByte 97), .closed]),
    .service (answering 5000002 []), .service (answering 5000003 [.bytes (twoBytes 98 10)])]

theorem link_kept_torn :
    let link := (create "client").run (fun _ => .null) (fun _ => inaddrNone) tornLine
    (link.closed ++ link.sock.toList = List.range link.opened ∧
        (link.sock.isSome = true ↔ link.state ≠ .idle)) ∧
      (link.attempts.Pairwise fun earlier later => earlier + reconnectBackoffUs ≤ later) ∧
      (link.requests.Pairwise fun earlier later => earlier + statusMinIntervalUs ≤ later) ∧
      link.handled = link.connections.flatMap handledLines ∧
      link.session.peers =
        ((statuses ((link.connections.flatMap handledLines).map fun _ => .null)).getLast?.map
          (rosterOf fun _ => inaddrNone)).getD [] :=
  link_kept (fun _ => .null) (fun _ => inaddrNone) "client" 0 tornLine
    ⟨by decide, by decide, by decide, by decide, trivial⟩

end ControlLink

end Control
