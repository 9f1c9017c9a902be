import SnapcastSync.Protocol.Session

/-! `send_message_`, and what a reader at the other end makes of the bytes that it put out. -/

namespace Protocol

structure Request where
  type : UInt16
  payload : List UInt8
  refersTo : UInt16
  nowUs : Int64
  answers : List Int

structure Sender where
  nextMessageId : UInt16
  wire : List UInt8
deriving DecidableEq

def Request.base (request : Request) (id : UInt16) : BaseMessage :=
  { type := request.type
    id := id
    refersTo := request.refersTo
    sent := TimeVal.fromUs request.nowUs
    received :=
      { sec := 0
        usec := 0 }
    size := UInt32.ofNat request.payload.length }

def headerBytes (base : BaseMessage) : List UInt8 :=
  ByteMemory.load (base.serialize (fun _ => 0) 0) 0 BaseMessage.wireSize

/-- The loop of `send_message_`: what the socket takes of a buffer, and whether that is all. A
script that ends stands for a socket that is gone. -/
def sendLoop (left : List UInt8) : List Int → List UInt8 × Bool
  | [] => ([], left.isEmpty)
  | answer :: answers =>
      if left.isEmpty then ([], true)
      else if answer ≤ 0 then ([], false)
      else
        let later := sendLoop (left.drop answer.toNat) answers
        (left.take answer.toNat ++ later.1, later.2)

namespace Sender

def fresh : Sender :=
  { nextMessageId := 0
    wire := [] }

def sendMessage (sender : Sender) (request : Request) : Bool × Sender :=
  let id := sender.nextMessageId + 1
  let sent := sendLoop (headerBytes (request.base id) ++ request.payload) request.answers
  (sent.2,
    { nextMessageId := id
      wire := sender.wire ++ sent.1 })

def sendRun (sender : Sender) (requests : List Request) : Sender :=
  requests.foldl (fun sender request => (sender.sendMessage request).2) sender

def Sends (sender : Sender) : List Request → Prop
  | [] => True
  | request :: rest =>
      (sender.sendMessage request).1 = true ∧ (sender.sendMessage request).2.Sends rest

end Sender

def numbered (id : UInt16) : List Request → List Message
  | [] => []
  | request :: rest =>
      { base := request.base (id + 1)
        payload := request.payload } :: numbered (id + 1) rest

theorem readHeader_headerBytes (base : BaseMessage) : readHeader (headerBytes base) = base := by
  have written := base.load_serialize (fun _ => 0) 0
  rw [readHeader, headerBytes, written]
  have stored := base.serialize_eq (fun _ => 0) 0
  rw [UInt32.add_zero] at stored
  rw [← stored]
  exact base.deserialize_serialize (fun _ => 0) 0

theorem headerBytes_length (base : BaseMessage) : (headerBytes base).length = framing.head := by
  rw [headerBytes, base.load_serialize]
  exact base.bytes_length

theorem sendLoop_split (left : List UInt8) (answers : List Int) :
    ∃ rest, left = (sendLoop left answers).1 ++ rest ∧
      ((sendLoop left answers).2 = true ↔ rest = []) := by
  induction answers generalizing left with
  | nil => exact ⟨left, rfl, List.isEmpty_iff⟩
  | cons answer answers ih =>
      unfold sendLoop
      by_cases none_ : left.isEmpty = true
      · rw [if_pos none_]
        exact ⟨left, rfl, iff_of_true rfl (List.isEmpty_iff.mp none_)⟩
      rw [if_neg none_]
      by_cases refused : answer ≤ 0
      · rw [if_pos refused]
        exact ⟨left, rfl, iff_of_false Bool.false_ne_true fun same =>
          none_ (List.isEmpty_iff.mpr same)⟩
      rw [if_neg refused]
      obtain ⟨rest, split, whole⟩ := ih (left.drop answer.toNat)
      refine ⟨rest, ?_, whole⟩
      dsimp only
      rw [List.append_assoc, ← split, List.take_append_drop]

theorem request_framed (request : Request) (id : UInt16)
    (fits : request.payload.length ≤ maxPayloadSize) :
    framing.Framed (headerBytes (request.base id), request.payload) := by
  have size : (request.base id).size.toNat = request.payload.length := by
    refine UInt32.toNat_ofNat_of_lt' (lt_of_le_of_lt fits ?_)
    decide
  refine ⟨headerBytes_length _, ?_⟩
  have small : ¬ maxPayloadSize < (readHeader (headerBytes (request.base id))).size.toNat := by
    rw [readHeader_headerBytes, size]
    exact not_lt.mpr fits
  rw [Session.announces_of_le _ small, readHeader_headerBytes, size]

/-- A part of a message that is not all of it is no message. -/
theorem messages_cut (message : List UInt8 × List UInt8) (part rest : List UInt8)
    (framed : framing.Framed message) (split : Announced.whole message = part ++ rest)
    (cut : rest ≠ []) : framing.messages part = [] := by
  obtain ⟨length, announced⟩ := framed
  have missing : 0 < rest.length := List.length_pos_iff.mpr cut
  have total := congrArg List.length split
  rw [Announced.whole, List.length_append, List.length_append] at total
  by_cases short : part.length < framing.head
  · have partial_ : framing.Partial part [] := Or.inl ⟨rfl, short⟩
    have none_ := framing.messages_partial part [] partial_
    rw [List.append_nil] at none_
    exact none_
  · have head : part.take framing.head = message.1 := by
      have taken := congrArg (List.take framing.head) split
      rw [Announced.whole, ← length, List.take_left, length,
        List.take_append_of_le_length (not_lt.mp short)] at taken
      exact taken.symm
    rw [← List.take_append_drop framing.head part, head]
    refine framing.messages_partial _ _ (Or.inr ⟨message.2.length, length, announced, ?_⟩)
    rw [List.length_drop]
    omega

def encoded (id : UInt16) : List Request → List (List UInt8 × List UInt8)
  | [] => []
  | request :: rest =>
      (headerBytes (request.base (id + 1)), request.payload) :: encoded (id + 1) rest

theorem encoded_ofBytes (id : UInt16) (requests : List Request) :
    (encoded id requests).map Message.ofBytes = numbered id requests := by
  induction requests generalizing id with
  | nil => rfl
  | cons request rest ih =>
      rw [encoded, List.map_cons, ih, Message.ofBytes, readHeader_headerBytes]
      rfl

theorem encoded_framed (id : UInt16) (requests : List Request)
    (fits : ∀ request ∈ requests, request.payload.length ≤ maxPayloadSize) :
    ∀ message ∈ encoded id requests, framing.Framed message := by
  induction requests generalizing id with
  | nil => exact fun message absent => absurd absent List.not_mem_nil
  | cons request rest ih =>
      exact List.forall_mem_cons.mpr
        ⟨request_framed request (id + 1) (fits request List.mem_cons_self),
          ih (id + 1) fun other member => fits other (List.mem_cons_of_mem request member)⟩

theorem sendMessage_wire (sender : Sender) (request : Request) :
    ∃ rest, Announced.whole
        (headerBytes (request.base (sender.nextMessageId + 1)), request.payload) =
          (sendLoop (headerBytes (request.base (sender.nextMessageId + 1)) ++ request.payload)
            request.answers).1 ++ rest ∧
      ((sender.sendMessage request).1 = true ↔ rest = []) :=
  sendLoop_split _ request.answers

theorem sendRun_wire (sender : Sender) (requests : List Request) (sends : sender.Sends requests) :
    (sender.sendRun requests).wire =
      sender.wire ++ (encoded sender.nextMessageId requests).flatMap Announced.whole := by
  induction requests generalizing sender with
  | nil => exact (List.append_nil _).symm
  | cons request rest ih =>
      obtain ⟨none_, split, whole⟩ := sendMessage_wire sender request
      have sent := whole.mp sends.1
      rw [sent, List.append_nil] at split
      rw [encoded, List.flatMap_cons, split, ← List.append_assoc]
      exact ih _ sends.2

/-- A stream of whole messages with a part of one behind them. -/
def CutShort (part : List UInt8) : Prop :=
  part = [] ∨ ∃ message rest, framing.Framed message ∧
    Announced.whole message = part ++ rest ∧ rest ≠ []

theorem CutShort.messages {part : List UInt8} (short : CutShort part) :
    framing.messages part = [] := by
  rcases short with rfl | ⟨message, rest, framed, split, cut⟩
  · exact framing.messages_partial [] [] (Or.inl ⟨rfl, by decide⟩)
  · exact messages_cut message part rest framed split cut

theorem CutShort.not_refused {part : List UInt8} (short : CutShort part) (head rest : List UInt8)
    (split : part = head ++ rest) : ¬ framing.Refused head := by
  rintro ⟨length, refused⟩
  rcases short with rfl | ⟨message, missing, ⟨headed, announced⟩, whole, _⟩
  · have none_ := congrArg List.length split
    have positive := framing.head_pos
    rw [List.length_append, length, List.length_nil] at none_
    omega
  · have taken := congrArg (List.take framing.head) whole
    rw [Announced.whole, ← headed, List.take_left, headed, split, List.append_assoc, ← length,
      List.take_left] at taken
    rw [taken, refused] at announced
    cases announced

theorem wire_cutShort (id : UInt16) (requests : List Request)
    (sends : (⟨id, []⟩ : Sender).Sends requests) (wire : List UInt8)
    (carried : wire = ((⟨id, []⟩ : Sender).sendRun requests).wire ∨
      ∃ last : Request, last.payload.length ≤ maxPayloadSize ∧
        (((⟨id, []⟩ : Sender).sendRun requests).sendMessage last).1 = false ∧
        wire = (((⟨id, []⟩ : Sender).sendRun requests).sendMessage last).2.wire) :
    ∃ part, wire = (encoded id requests).flatMap Announced.whole ++ part ∧ CutShort part := by
  have sent := sendRun_wire ⟨id, []⟩ requests sends
  rw [List.nil_append] at sent
  rcases carried with rfl | ⟨last, fits, failed, rfl⟩
  · exact ⟨[], by rw [sent, List.append_nil], Or.inl rfl⟩
  · generalize ((⟨id, []⟩ : Sender).sendRun requests) = sender at sent failed ⊢
    obtain ⟨rest, split, whole⟩ := sendMessage_wire sender last
    refine ⟨_, congrArg (· ++ _) sent, Or.inr ⟨_, rest, request_framed last _ fits, split, ?_⟩⟩
    intro all
    rw [whole.mpr all] at failed
    cases failed

/-- What is sent in full is handed on at the other end, message by message and numbered in turn;
what a failed send left on the wire after it adds none. -/
theorem sent_messages_dispatched (id : UInt16) (requests : List Request)
    (fits : ∀ request ∈ requests, request.payload.length ≤ maxPayloadSize)
    (sends : (⟨id, []⟩ : Sender).Sends requests) (nowUs : Int) (polls : List Poll)
    (carried :
      polls.flatMap Poll.arrives = ((⟨id, []⟩ : Sender).sendRun requests).wire ∨
      ∃ last : Request, last.payload.length ≤ maxPayloadSize ∧
        (((⟨id, []⟩ : Sender).sendRun requests).sendMessage last).1 = false ∧
        polls.flatMap Poll.arrives =
          (((⟨id, []⟩ : Sender).sendRun requests).sendMessage last).2.wire) :
    let session := (Session.start nowUs true).run polls
    session.messages <+: numbered id requests ∧
      session.ended ≠ some .oversized ∧
      (session.ended = none → session.unread = [] → session.messages = numbered id requests) := by
  intro session
  obtain ⟨part, split, short⟩ := wire_cutShort id requests sends _ carried
  have framed := encoded_framed id requests fits
  have read : framing.messages (polls.flatMap Poll.arrives) = encoded id requests := by
    rw [split, framing.messages_flatMap _ _ framed, short.messages, List.append_nil]
  have sent : streamMessages (polls.flatMap Poll.arrives) = numbered id requests := by
    rw [streamMessages, read, encoded_ofBytes]
  have sound := Session.run_sound _ [] polls (Session.start_sound nowUs true)
  rw [List.nil_append] at sound
  obtain ⟨first, whole, _⟩ := sound.messages
  rw [sent] at first whole
  refine ⟨first, fun finished => ?_, whole⟩
  obtain ⟨taken, rest, stream, ⟨raw, head, body, rawFramed, _, rfl, holds⟩, _⟩ := sound
  obtain ⟨rfl, refused⟩ := holds.refused finished
  have same : raw = encoded id requests := by
    rw [← read, stream, List.append_assoc, framing.messages_flatMap _ _ rawFramed,
      List.append_nil, framing.messages_refused head rest refused, List.append_nil]
  rw [stream, same, List.append_assoc] at split
  have left := List.append_cancel_left split
  rw [List.append_nil] at left
  exact short.not_refused head rest left.symm refused

def timeRequest : Request :=
  { type := 4
    payload := List.replicate 8 0
    refersTo := 0
    nowUs := 1500000
    answers := [20, 14] }

def tornRequest : Request := { timeRequest with answers := [20, -1] }

def delivery (bytes : List UInt8) : Poll :=
  { stopped := false
    arrives := bytes
    fails := false
    hungUp := false
    takes := 1000
    now := 1
    recvUs := 1 }

theorem sent_messages_dispatched_torn :
    let wire := ((Sender.fresh.sendRun [timeRequest]).sendMessage tornRequest).2.wire
    let session := (Session.start 1 true).run [delivery wire]
    session.messages <+: numbered 0 [timeRequest] ∧
      session.ended ≠ some .oversized ∧
      (session.ended = none → session.unread = [] →
        session.messages = numbered 0 [timeRequest]) :=
  sent_messages_dispatched 0 [timeRequest] (by decide) ⟨by decide, trivial⟩ 1 _
    (Or.inr ⟨tornRequest, by decide, by decide, List.append_nil _⟩)

end Protocol
