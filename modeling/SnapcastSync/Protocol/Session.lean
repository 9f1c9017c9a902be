import SnapcastSync.Lib.Announced
import SnapcastSync.Lib.Run
import SnapcastSync.Protocol.WireCodec

/-! The messages of a connection: `send_message_` on one side, `recv_exact_` and the loop of
`connection_session_` on the other, with a socket between them that gives bytes as it pleases. -/

namespace Protocol

def maxPayloadSize : Nat := 262144
def sessionSilenceUs : Int := 15 * 1000000

def readHeader (bytes : List UInt8) : BaseMessage :=
  BaseMessage.deserialize (ByteMemory.store (fun _ => 0) 0 bytes) 0

inductive Handler
  | wireChunk
  | time
  | codecHeader
  | serverSettings
  | unhandled
deriving DecidableEq, Repr

def handler (type : UInt16) : Handler :=
  if type = 2 then .wireChunk
  else if type = 4 then .time
  else if type = 1 then .codecHeader
  else if type = 3 then .serverSettings
  else .unhandled

structure Message where
  base : BaseMessage
  payload : List UInt8
deriving DecidableEq

/-- A message as it is handed on, with the time at which its header was complete. -/
structure Call where
  handler : Handler
  message : Message
  recvUs : Int
deriving DecidableEq

inductive Reading
  | header
  | payload (base : BaseMessage) (recvUs : Int)
deriving DecidableEq

def Reading.len : Reading → Nat
  | .header => BaseMessage.wireSize
  | .payload base _ => base.size.toNat

inductive Ending
  | stopped
  | failed
  | hungUp
  | silent
  | oversized
deriving DecidableEq, Repr

/-- One pass of the loop of `recv_exact_`: whether a flag stops it, what has arrived when `select`
returns, whether `select` or `recv` fails, whether the server has hung up, how much `recv` would
give, and the clock after it. -/
structure Poll where
  stopped : Bool
  arrives : List UInt8
  fails : Bool
  hungUp : Bool
  takes : Nat
  now : Int
  recvUs : Int

structure Session where
  lastRxUs : Int
  unread : List UInt8
  reading : Reading
  got : List UInt8
  calls : List Call
  ended : Option Ending
deriving DecidableEq

namespace Session

def start (nowUs : Int) (helloSent : Bool) : Session :=
  { lastRxUs := nowUs
    unread := []
    reading := .header
    got := []
    calls := []
    ended := if helloSent then none else some .failed }

def dispatch (session : Session) (base : BaseMessage) (payload : List UInt8) (recvUs : Int) :
    Session :=
  { session with
    reading := .header
    got := []
    calls := session.calls ++
      [{ handler := handler base.type
         message :=
           { base := base
             payload := payload }
         recvUs := recvUs }] }

/-- What follows a call of `recv_exact_` that has filled its buffer. -/
def received (session : Session) (bytes : List UInt8) (recvUs : Int) : Session :=
  match session.reading with
  | .header =>
      let base := readHeader bytes
      if maxPayloadSize < base.size.toNat then
        { session with
          got := bytes
          ended := some .oversized }
      else if 0 < base.size.toNat then
        { session with
          reading := .payload base recvUs
          got := [] }
      else session.dispatch base [] recvUs
  | .payload base headerUs => session.dispatch base bytes headerUs

def arrive (session : Session) (bytes : List UInt8) : Session :=
  { session with unread := session.unread ++ bytes }

def stop (session : Session) (reason : Ending) : Session := { session with ended := some reason }

def idle (session : Session) (hungUp : Bool) (now : Int) : Session :=
  if hungUp then session.stop .hungUp
  else if session.lastRxUs ≠ 0 ∧ sessionSilenceUs < now - session.lastRxUs then
    { session with
      lastRxUs := 0
      ended := some .silent }
  else session

def recv (session : Session) (takes : Nat) (now recvUs : Int) : Session :=
  let count := max 1 (min takes (session.reading.len - session.got.length))
  let got := session.got ++ session.unread.take count
  let session :=
    { session with
      lastRxUs := now
      unread := session.unread.drop count }
  if got.length < session.reading.len then { session with got := got }
  else session.received got recvUs

def poll (session : Session) (poll : Poll) : Session :=
  if session.ended.isSome then session
  else if poll.stopped then session.stop .stopped
  else
    let session := session.arrive poll.arrives
    if poll.fails then session.stop .failed
    else if session.unread = [] then session.idle poll.hungUp poll.now
    else session.recv poll.takes poll.now poll.recvUs

def run (session : Session) (polls : List Poll) : Session := polls.foldl poll session

def messages (session : Session) : List Message := session.calls.map Call.message

end Session

/-- The framing of a connection: the payload's length stands in the header. -/
def framing : Announced UInt8 :=
  { head := BaseMessage.wireSize
    announces := fun header =>
      if maxPayloadSize < (readHeader header).size.toNat then none
      else some (readHeader header).size.toNat
    head_pos := by decide }

def Message.ofBytes (message : List UInt8 × List UInt8) : Message :=
  { base := readHeader message.1
    payload := message.2 }

def streamMessages (stream : List UInt8) : List Message :=
  (framing.messages stream).map Message.ofBytes

namespace Session

def Holds (session : Session) (head body : List UInt8) : Prop :=
  match session.reading with
  | .header =>
      head = session.got ∧ body = [] ∧
        if session.ended = some .oversized then framing.Refused head
        else head.length < framing.head
  | .payload base _ =>
      base = readHeader head ∧ body = session.got ∧ head.length = framing.head ∧
        framing.announces head = some base.size.toNat ∧ body.length < base.size.toNat ∧
        session.ended ≠ some .oversized

/-- The bytes that were taken are the messages handed on and what is held of the next. -/
def Follows (session : Session) (taken : List UInt8) : Prop :=
  ∃ (raw : List (List UInt8 × List UInt8)) (head body : List UInt8),
    (∀ message ∈ raw, framing.Framed message) ∧
      session.messages = raw.map Message.ofBytes ∧
      taken = raw.flatMap Announced.whole ++ (head ++ body) ∧ session.Holds head body

/-- The session has taken a first part of the stream; while it lasts, it has not lost the rest. -/
def Sound (session : Session) (stream : List UInt8) : Prop :=
  ∃ taken rest, stream = taken ++ rest ∧ session.Follows taken ∧
    (session.ended = none → rest = session.unread)

theorem announces_of_le (header : List UInt8)
    (small : ¬ maxPayloadSize < (readHeader header).size.toNat) :
    framing.announces header = some (readHeader header).size.toNat := if_neg small

theorem announces_of_lt (header : List UInt8)
    (large : maxPayloadSize < (readHeader header).size.toNat) :
    framing.announces header = none := if_pos large

theorem not_oversized {session : Session} (alive : session.ended = none) :
    session.ended ≠ some .oversized := by
  rw [alive]
  exact fun finished => by cases finished

theorem dispatch_follows (session : Session) (head body : List UInt8) (recvUs : Int)
    (raw : List (List UInt8 × List UInt8)) (alive : session.ended = none)
    (framed : ∀ message ∈ raw, framing.Framed message)
    (handed : session.messages = raw.map Message.ofBytes)
    (last : framing.Framed (head, body)) :
    (session.dispatch (readHeader head) body recvUs).Follows
      (raw.flatMap Announced.whole ++ (head ++ body)) := by
  have open_ : (session.dispatch (readHeader head) body recvUs).ended ≠ some .oversized :=
    not_oversized alive
  refine ⟨raw ++ [(head, body)], [], [], ?_, ?_, ?_, ⟨rfl, rfl, ?_⟩⟩
  · intro message member
    rcases List.mem_append.mp member with early | here
    · exact framed message early
    · rw [List.mem_singleton.mp here]
      exact last
  · rw [List.map_append, ← handed]
    exact List.map_append
  · rw [List.flatMap_append, List.flatMap_singleton, List.append_nil, List.append_nil]
    rfl
  · rw [if_neg open_]
    decide

theorem received_header (session : Session) (bytes : List UInt8) (recvUs : Int)
    (raw : List (List UInt8 × List UInt8)) (alive : session.ended = none)
    (framed : ∀ message ∈ raw, framing.Framed message)
    (handed : session.messages = raw.map Message.ofBytes)
    (reading : session.reading = .header) (full : bytes.length = framing.head) :
    (session.received bytes recvUs).Follows (raw.flatMap Announced.whole ++ bytes) := by
  rw [← List.append_nil bytes]
  unfold received
  rw [reading]
  dsimp only
  rw [List.append_nil]
  by_cases large : maxPayloadSize < (readHeader bytes).size.toNat
  · rw [if_pos large]
    refine ⟨raw, bytes, [], framed, handed, by rw [List.append_nil], ?_⟩
    refine ⟨rfl, rfl, ?_⟩
    rw [if_pos rfl]
    exact ⟨full, announces_of_lt bytes large⟩
  rw [if_neg large]
  have size := announces_of_le bytes large
  by_cases some_ : 0 < (readHeader bytes).size.toNat
  · rw [if_pos some_]
    exact ⟨raw, bytes, [], framed, handed, by rw [List.append_nil],
      ⟨rfl, rfl, full, size, some_, not_oversized alive⟩⟩
  · rw [if_neg some_]
    have follows := dispatch_follows session bytes [] recvUs raw alive framed handed
      ⟨full, by rw [size]; exact congrArg some (Nat.eq_zero_of_not_pos some_)⟩
    rw [List.append_nil] at follows
    exact follows

theorem portion_bounds (takes want got : Nat) (unread : List UInt8) (short : got < want)
    (some_ : unread ≠ []) :
    0 < (unread.take (max 1 (min takes (want - got)))).length ∧
      got + (unread.take (max 1 (min takes (want - got)))).length ≤ want := by
  have present : 0 < unread.length := List.length_pos_iff.mpr some_
  rw [List.length_take]
  omega

theorem recv_unread (session : Session) (takes : Nat) (now recvUs : Int) :
    (session.recv takes now recvUs).unread =
      session.unread.drop (max 1 (min takes (session.reading.len - session.got.length))) := by
  unfold recv received dispatch
  dsimp only
  repeat' split
  all_goals rfl

theorem Holds.short {session : Session} {head body : List UInt8} (holds : session.Holds head body)
    (alive : session.ended = none) : session.got.length < session.reading.len := by
  unfold Holds at holds
  cases reading : session.reading with
  | header =>
      rw [reading] at holds
      obtain ⟨rfl, _, short⟩ := holds
      rw [if_neg (not_oversized alive)] at short
      exact short
  | payload base headerUs =>
      rw [reading] at holds
      obtain ⟨_, rfl, _, _, short, _⟩ := holds
      exact short

theorem Holds.partial_ {session : Session} {head body : List UInt8}
    (holds : session.Holds head body) (open_ : session.ended ≠ some .oversized) :
    framing.Partial head body := by
  unfold Holds at holds
  cases reading : session.reading with
  | header =>
      rw [reading] at holds
      obtain ⟨_, none_, short⟩ := holds
      rw [if_neg open_] at short
      exact Or.inl ⟨none_, short⟩
  | payload base headerUs =>
      rw [reading] at holds
      obtain ⟨_, _, length, announced, short, _⟩ := holds
      exact Or.inr ⟨_, length, announced, short⟩

theorem Holds.refused {session : Session} {head body : List UInt8}
    (holds : session.Holds head body) (finished : session.ended = some .oversized) :
    body = [] ∧ framing.Refused head := by
  unfold Holds at holds
  cases reading : session.reading with
  | header =>
      rw [reading] at holds
      obtain ⟨_, none_, refused⟩ := holds
      rw [if_pos finished] at refused
      exact ⟨none_, refused⟩
  | payload base headerUs =>
      rw [reading] at holds
      exact absurd finished holds.2.2.2.2.2

theorem recv_follows (session : Session) (taken : List UInt8) (takes : Nat) (now recvUs : Int)
    (alive : session.ended = none) (follows : session.Follows taken)
    (some_ : session.unread ≠ []) :
    ∃ portion, portion ≠ [] ∧
      session.unread = portion ++ (session.recv takes now recvUs).unread ∧
      (session.recv takes now recvUs).Follows (taken ++ portion) := by
  obtain ⟨raw, head, body, framed, handed, rfl, holds⟩ := follows
  obtain ⟨present, within⟩ := portion_bounds takes _ _ _ (holds.short alive) some_
  refine ⟨session.unread.take (max 1 (min takes (session.reading.len - session.got.length))),
    List.length_pos_iff.mp present, by rw [recv_unread, List.take_append_drop], ?_⟩
  unfold recv
  dsimp only
  generalize session.unread.take
    (max 1 (min takes (session.reading.len - session.got.length))) = portion at within ⊢
  rw [← List.length_append] at within
  rw [List.append_assoc]
  unfold Holds at holds
  cases reading : session.reading with
  | header =>
      rw [reading] at holds within
      obtain ⟨rfl, rfl, _⟩ := holds
      have open_ := not_oversized alive
      rw [List.append_nil]
      split
      · next unfinished =>
          refine ⟨raw, session.got ++ portion, [], framed, handed, by rw [List.append_nil],
            ⟨rfl, rfl, ?_⟩⟩
          dsimp only
          rw [if_neg open_]
          exact unfinished
      · next finished =>
          exact received_header _ _ recvUs raw alive framed handed rfl
            (le_antisymm within (not_lt.mp finished))
  | payload base headerUs =>
      rw [reading] at holds within
      obtain ⟨rfl, rfl, length, announced, _, open_⟩ := holds
      rw [List.append_assoc]
      split
      · next unfinished =>
          exact ⟨raw, head, session.got ++ portion, framed, handed, rfl,
            ⟨rfl, rfl, length, announced, unfinished, open_⟩⟩
      · next finished =>
          refine dispatch_follows _ head _ headerUs raw alive framed handed ⟨length, ?_⟩
          rw [announced]
          exact congrArg some (le_antisymm (not_lt.mp finished) within)

theorem Follows.other {session other : Session} {taken : List UInt8}
    (follows : session.Follows taken) (alive : session.ended = none)
    (open_ : other.ended ≠ some .oversized)
    (reading : other.reading = session.reading) (got : other.got = session.got)
    (calls : other.calls = session.calls) : other.Follows taken := by
  obtain ⟨raw, head, body, framed, handed, split, holds⟩ := follows
  refine ⟨raw, head, body, framed, ?_, split, ?_⟩
  · rw [← handed, messages, calls]
    rfl
  unfold Holds at holds ⊢
  rw [reading, got]
  cases held : session.reading with
  | header =>
      rw [held] at holds
      obtain ⟨same, none_, short⟩ := holds
      rw [if_neg (not_oversized alive)] at short
      refine ⟨same, none_, ?_⟩
      rw [if_neg open_]
      exact short
  | payload base headerUs =>
      rw [held] at holds
      obtain ⟨base_, body_, length, announced, short, _⟩ := holds
      exact ⟨base_, body_, length, announced, short, open_⟩

theorem idle_other (session : Session) (hungUp : Bool) (now : Int) :
    (session.idle hungUp now).reading = session.reading ∧
      (session.idle hungUp now).got = session.got ∧
      (session.idle hungUp now).calls = session.calls ∧
      (session.idle hungUp now).unread = session.unread ∧
      (session.ended = none → (session.idle hungUp now).ended ≠ some .oversized) := by
  unfold idle
  split
  · exact ⟨rfl, rfl, rfl, rfl, fun _ finished => by cases finished⟩
  · split
    · exact ⟨rfl, rfl, rfl, rfl, fun _ finished => by cases finished⟩
    · exact ⟨rfl, rfl, rfl, rfl, not_oversized⟩

theorem poll_sound (session : Session) (stream : List UInt8) (next : Poll)
    (sound : session.Sound stream) : (session.poll next).Sound (stream ++ next.arrives) := by
  obtain ⟨taken, rest, rfl, follows, kept⟩ := sound
  unfold poll
  by_cases finished : session.ended.isSome = true
  · rw [if_pos finished]
    refine ⟨taken, rest ++ next.arrives, List.append_assoc _ _ _, follows, fun live => ?_⟩
    rw [live] at finished
    cases finished
  rw [if_neg finished]
  have alive : session.ended = none := Option.not_isSome_iff_eq_none.mp finished
  have same := kept alive
  subst same
  have open_ := not_oversized alive
  cases next.stopped with
  | true =>
      exact ⟨taken, session.unread ++ next.arrives, List.append_assoc _ _ _,
        follows.other alive (fun finished => by cases finished) rfl rfl rfl, fun live => by cases live⟩
  | false =>
      rw [if_neg Bool.false_ne_true]
      dsimp only
      have waiting : (session.arrive next.arrives).Follows taken :=
        follows.other alive open_ rfl rfl rfl
      have live : (session.arrive next.arrives).ended = none := alive
      have pending : (session.arrive next.arrives).unread = session.unread ++ next.arrives := rfl
      rw [List.append_assoc, ← pending]
      generalize session.arrive next.arrives = heard at waiting live ⊢
      cases next.fails with
      | true =>
          exact ⟨taken, heard.unread, rfl,
            waiting.other live (fun finished => by cases finished) rfl rfl rfl, fun live => by cases live⟩
      | false =>
          rw [if_neg Bool.false_ne_true]
          by_cases none_ : heard.unread = []
          · rw [if_pos none_]
            obtain ⟨reading, got, calls, unread, mild⟩ :=
              idle_other heard next.hungUp next.now
            exact ⟨taken, heard.unread, rfl, waiting.other live (mild live) reading got calls,
              fun _ => unread.symm⟩
          · rw [if_neg none_]
            obtain ⟨portion, _, split, onward⟩ :=
              recv_follows heard taken next.takes next.now next.recvUs live waiting none_
            refine ⟨taken ++ portion, _, ?_, onward, fun _ => rfl⟩
            rw [List.append_assoc, ← split]

theorem start_sound (nowUs : Int) (helloSent : Bool) : (start nowUs helloSent).Sound [] := by
  have open_ : (start nowUs helloSent).ended ≠ some .oversized := by
    cases helloSent with
    | false => exact fun finished => by cases finished
    | true => exact fun finished => by cases finished
  refine ⟨[], [], rfl, ⟨[], [], [], fun _ absent => absurd absent List.not_mem_nil, rfl, rfl,
    ⟨rfl, rfl, ?_⟩⟩, fun _ => rfl⟩
  rw [if_neg open_]
  decide

theorem run_sound (session : Session) (stream : List UInt8) (polls : List Poll)
    (sound : session.Sound stream) :
    (session.run polls).Sound (stream ++ polls.flatMap Poll.arrives) := by
  induction polls generalizing session stream with
  | nil =>
      rw [List.flatMap_nil, List.append_nil]
      exact sound
  | cons next later ih =>
      rw [List.flatMap_cons, ← List.append_assoc]
      exact ih _ _ (session.poll_sound stream next sound)

/-- What is handed on is what the stream says, as far as it goes; all of it, where nothing is left
to read or a header was refused. -/
theorem Sound.messages {session : Session} {stream : List UInt8} (sound : session.Sound stream) :
    session.messages <+: streamMessages stream ∧
      (session.ended = none → session.unread = [] → session.messages = streamMessages stream) ∧
      (session.ended = some .oversized → session.messages = streamMessages stream) := by
  obtain ⟨taken, rest, rfl, ⟨raw, head, body, framed, handed, rfl, holds⟩, kept⟩ := sound
  have split : framing.messages (raw.flatMap Announced.whole ++ (head ++ body) ++ rest) =
      raw ++ framing.messages (head ++ body ++ rest) := by
    rw [List.append_assoc, framing.messages_flatMap _ _ framed]
  rw [streamMessages, split, List.map_append, ← handed]
  refine ⟨List.prefix_append _ _, ?_, ?_⟩
  · intro alive drained
    rw [kept alive, drained, List.append_nil,
      framing.messages_partial head body (holds.partial_ (not_oversized alive))]
    exact (List.append_nil _).symm
  · intro refused
    obtain ⟨rfl, head_⟩ := holds.refused refused
    rw [List.append_nil, framing.messages_refused head rest head_]
    exact (List.append_nil _).symm

/-- A pass that neither stops nor fails, after the last byte has arrived. -/
def Quiet (poll : Poll) : Prop := poll.arrives = [] ∧ poll.stopped = false ∧ poll.fails = false

theorem run_over (session : Session) (polls : List Poll) (finished : session.ended.isSome = true) :
    session.run polls = session := by
  induction polls with
  | nil => rfl
  | cons next later ih =>
      rw [run, List.foldl_cons]
      have same : session.poll next = session := by rw [poll, if_pos finished]
      rw [same]
      exact ih

theorem recv_ended (session : Session) (takes : Nat) (now recvUs : Int)
    (alive : session.ended = none) :
    (session.recv takes now recvUs).ended = none ∨
      (session.recv takes now recvUs).ended = some .oversized := by
  unfold recv received dispatch
  dsimp only
  split
  · exact Or.inl alive
  · split
    · split
      · exact Or.inr rfl
      · split
        · exact Or.inl alive
        · exact Or.inl alive
    · exact Or.inl alive

theorem poll_quiet (session : Session) (next : Poll) (quiet : Quiet next)
    (alive : session.ended = none) :
    session.poll next =
      if session.unread = [] then session.idle next.hungUp next.now
      else session.recv next.takes next.now next.recvUs := by
  obtain ⟨none_, running, well⟩ := quiet
  have heard : session.arrive [] = session := by rw [arrive, List.append_nil]
  have live : ¬ session.ended.isSome = true := by
    rw [alive]
    exact Bool.false_ne_true
  rw [poll, if_neg live, running, if_neg Bool.false_ne_true, none_, heard, well]
  exact if_neg Bool.false_ne_true

/-- With nothing more to arrive, every pass takes a byte as long as there is one. -/
theorem run_drains (session : Session) (stream : List UInt8) (polls : List Poll)
    (quiet : ∀ next ∈ polls, Quiet next) (alive : session.ended = none)
    (sound : session.Sound stream) (enough : session.unread.length ≤ polls.length) :
    (session.run polls).messages = streamMessages stream := by
  induction polls generalizing session with
  | nil =>
      exact sound.messages.2.1 alive (List.length_eq_zero_iff.mp (Nat.le_zero.mp enough))
  | cons next later ih =>
      have here := quiet next List.mem_cons_self
      have quietLater : ∀ other ∈ later, Quiet other := fun other member =>
        quiet other (List.mem_cons_of_mem next member)
      have onward := session.poll_sound stream next sound
      rw [here.1, List.append_nil] at onward
      have step : session.run (next :: later) = (session.poll next).run later := rfl
      rw [step]
      rw [poll_quiet session next here alive] at onward ⊢
      by_cases drained : session.unread = []
      · rw [if_pos drained] at onward ⊢
        have handed := sound.messages.2.1 alive drained
        obtain ⟨_, _, calls, unread, _⟩ := idle_other session next.hungUp next.now
        by_cases live : (session.idle next.hungUp next.now).ended = none
        · refine ih _ quietLater live onward ?_
          rw [unread, drained]
          exact Nat.zero_le _
        · rw [run_over _ _ (Option.isSome_iff_ne_none.mpr live), messages, calls]
          exact handed
      · rw [if_neg drained] at onward ⊢
        rcases recv_ended session next.takes next.now next.recvUs alive with live | finished
        · refine ih _ quietLater live onward ?_
          have present : 0 < session.unread.length := List.length_pos_iff.mpr drained
          rw [recv_unread, List.length_drop]
          rw [List.length_cons] at enough
          omega
        · rw [run_over _ _ (by rw [finished]; rfl)]
          exact onward.messages.2.2 finished

end Session

/-- However the bytes come, what a session hands on is the messages of the stream in order, as far
as they go; all of them where nothing is left to read or a header is refused, and as many as have
arrived once there were as many passes as bytes. -/
theorem session_dispatches_stream (nowUs : Int) (helloSent : Bool) (polls : List Poll) :
    let session := (Session.start nowUs helloSent).run polls
    let sent := streamMessages (polls.flatMap Poll.arrives)
    session.messages <+: sent ∧
      (session.ended = none → session.unread = [] → session.messages = sent) ∧
      (session.ended = some .oversized → session.messages = sent) ∧
      (session.ended = none → ∀ later : List Poll, (∀ next ∈ later, Session.Quiet next) →
        (polls.flatMap Poll.arrives).length ≤ later.length →
          (session.run later).messages = sent) := by
  intro session sent
  have sound := Session.run_sound _ [] polls (Session.start_sound nowUs helloSent)
  rw [List.nil_append] at sound
  obtain ⟨first, whole, refused⟩ := sound.messages
  refine ⟨first, whole, refused, fun alive later quiet enough => ?_⟩
  refine Session.run_drains session _ later quiet alive sound (le_trans ?_ enough)
  obtain ⟨taken, rest, split, _, kept⟩ := sound
  rw [split, kept alive, List.length_append]
  exact Nat.le_add_left _ _

end Protocol
