import Mathlib.Algebra.Order.BigOperators.Group.List
import SnapcastSync.Media.Volume

/-! What `send_client_info` leaves for the network task, and what `service_tx_` makes of it: the
change is taken out of its mailbox first and then written to the socket, piece by piece. -/

namespace Media

def writeU16 (v : UInt16) : List UInt8 := [v.toUInt8, (v >>> 8).toUInt8]

def writeU32 (v : UInt32) : List UInt8 :=
  [v.toUInt8, (v >>> 8).toUInt8, (v >>> 16).toUInt8, (v >>> 24).toUInt8]

/-- The header of a message; `received` is always zero in what a client sends. -/
structure BaseMessage where
  type : UInt16
  id : UInt16
  refersTo : UInt16
  sentUs : Int
  size : UInt32

def BaseMessage.serialize (base : BaseMessage) : List UInt8 :=
  writeU16 base.type ++ writeU16 base.id ++ writeU16 base.refersTo ++
    writeU32 (UInt32.ofInt (Int.tdiv base.sentUs 1000000)) ++
    writeU32 (UInt32.ofInt (Int.tmod base.sentUs 1000000)) ++
    writeU32 0 ++ writeU32 0 ++ writeU32 base.size

def clientInfoType : UInt16 := 7

def jsonBytes (text : List Char) : List UInt8 := text.map fun char => char.toNat.toUInt8

def lengthPrefixed (body : List UInt8) : List UInt8 :=
  writeU32 (UInt32.ofNat body.length) ++ body

def buildClientInfoPayload (info : ClientVolume) : List UInt8 :=
  lengthPrefixed (jsonBytes
    ("\x7b\"volume\":".toList ++ Nat.toDigits 10 info.volumePercent ++ ",\"muted\":".toList ++
      (if info.muted then "true" else "false").toList ++ "\x7d".toList))

def clientInfoMessage (id : UInt16) (nowUs : Int) (info : ClientVolume) : List UInt8 :=
  let payload := buildClientInfoPayload info
  ({ type := clientInfoType
     id := id
     refersTo := 0
     sentUs := nowUs
     size := UInt32.ofNat payload.length } : BaseMessage).serialize ++ payload

/-- A ClientInfo inside `send_message_`: the bytes that are not sent yet, and which change it
reports. -/
structure Outgoing where
  left : List UInt8
  info : ClientVolume
  number : Nat
deriving DecidableEq

/-- The mailbox of `send_client_info` and the network task at it. `changes` is every change so far,
`handed` the last ClientInfo that a socket took in full, with the number of its change. -/
structure InfoTx where
  clientInfoDirty : Bool
  clientInfo : ClientVolume
  nextMessageId : UInt16
  sockOpen : Bool
  sending : Option Outgoing
  changes : List ClientVolume
  handed : Option (Nat × ClientVolume)

inductive InfoEvent where
  | change (info : ClientVolume)
  | serviceTx (nowUs : Int)
  | otherMessage
  | sendReturns (n : Int)
  | closeSocket
  | connectSocket

namespace InfoTx

def boot : InfoTx :=
  { clientInfoDirty := false
    clientInfo := { volumePercent := 100, muted := false }
    nextMessageId := 0
    sockOpen := false
    sending := none
    changes := []
    handed := none }

def sendClientInfo (tx : InfoTx) (info : ClientVolume) : InfoTx :=
  { tx with
    clientInfoDirty := true
    clientInfo := info
    changes := tx.changes ++ [info] }

/-- The ClientInfo part of a service pass up to the first `send`. -/
def serviceTx (tx : InfoTx) (nowUs : Int) : InfoTx :=
  if tx.clientInfoDirty then
    { tx with
      clientInfoDirty := false
      nextMessageId := tx.nextMessageId + 1
      sending := some
        { left := clientInfoMessage (tx.nextMessageId + 1) nowUs tx.clientInfo
          info := tx.clientInfo
          number := tx.changes.length } }
  else { tx with clientInfoDirty := false }

/-- What a `send` call returned; the result of `send_message_` is not looked at. -/
def sendReturns (tx : InfoTx) (outgoing : Outgoing) (n : Int) : InfoTx :=
  if tx.sockOpen = false ∨ n ≤ 0 then { tx with sending := none }
  else
    let left := outgoing.left.drop n.toNat
    if left = [] then
      { tx with
        sending := none
        handed := some (outgoing.number, outgoing.info) }
    else { tx with sending := some { outgoing with left := left } }

/-- The network task goes on to something else only between messages. -/
def betweenMessages (tx next : InfoTx) : InfoTx := if tx.sending = none then next else tx

def step (tx : InfoTx) : InfoEvent → InfoTx
  | .change info => tx.sendClientInfo info
  | .serviceTx nowUs => tx.betweenMessages (tx.serviceTx nowUs)
  | .otherMessage => tx.betweenMessages { tx with nextMessageId := tx.nextMessageId + 1 }
  | .sendReturns n =>
      match tx.sending with
      | none => tx
      | some outgoing => tx.sendReturns outgoing n
  | .closeSocket => tx.betweenMessages { tx with sockOpen := false }
  | .connectSocket => tx.betweenMessages { tx with sockOpen := true }

/-- The latest change has been handed to a socket in full, or is marked pending with its own
values, or is on its way right now. -/
def Kept (tx : InfoTx) : Prop :=
  ∀ latest ∈ tx.changes.getLast?, tx.handed = some (tx.changes.length, latest) ∨
    (tx.clientInfoDirty = true ∧ tx.clientInfo = latest) ∨
    ∃ outgoing ∈ tx.sending, outgoing.number = tx.changes.length ∧ outgoing.info = latest

/-- A `send` of a ClientInfo fails only where a newer change is marked by then. -/
def Survives (tx : InfoTx) (event : InfoEvent) : Prop :=
  ∀ n, event = .sendReturns n → tx.sending ≠ none → tx.sockOpen = false ∨ n ≤ 0 →
    tx.clientInfoDirty = true

structure Orderly (tx : InfoTx) : Prop where
  values : ∀ latest ∈ tx.changes.getLast?, tx.clientInfo = latest
  marked : tx.clientInfoDirty = true →
    tx.changes ≠ [] ∧ ∀ earlier ∈ tx.handed, earlier.1 < tx.changes.length
  carried : ∀ outgoing ∈ tx.sending,
    0 < outgoing.number ∧ outgoing.number ≤ tx.changes.length ∧
      (∀ earlier ∈ tx.handed, earlier.1 < outgoing.number) ∧
      (outgoing.number = tx.changes.length → tx.changes.getLast? = some outgoing.info) ∧
      (tx.clientInfoDirty = true → outgoing.number < tx.changes.length)
  known : ∀ earlier ∈ tx.handed, earlier.1 ≤ tx.changes.length

theorem boot_orderly : boot.Orderly :=
  { values := fun _ member => nomatch member
    marked := fun marked => nomatch marked
    carried := fun _ member => nomatch member
    known := fun _ member => nomatch member }

theorem boot_kept : boot.Kept := fun _ member => nomatch member

theorem sendClientInfo_orderly (tx : InfoTx) (info : ClientVolume) (orderly : tx.Orderly) :
    (tx.sendClientInfo info).Orderly := by
  have length : (tx.changes ++ [info]).length = tx.changes.length + 1 := by simp
  constructor
  · intro latest member
    rw [sendClientInfo, List.getLast?_concat, Option.mem_some_iff] at member
    exact member
  · intro _
    refine ⟨List.concat_ne_nil _ _, fun earlier member => ?_⟩
    have known := orderly.known earlier member
    rw [sendClientInfo, length]
    omega
  · intro outgoing member
    obtain ⟨positive, bound, before, _, _⟩ := orderly.carried outgoing member
    rw [sendClientInfo, length]
    exact ⟨positive, by omega, before, fun same => by omega, fun _ => by omega⟩
  · intro earlier member
    have known := orderly.known earlier member
    rw [sendClientInfo, length]
    omega

theorem sendClientInfo_kept (tx : InfoTx) (info : ClientVolume) :
    (tx.sendClientInfo info).Kept := by
  intro latest member
  rw [sendClientInfo, List.getLast?_concat, Option.mem_some_iff] at member
  exact Or.inr (Or.inl ⟨rfl, member⟩)

theorem serviceTx_orderly (tx : InfoTx) (nowUs : Int) (orderly : tx.Orderly)
    (idle : tx.sending = none) : (tx.serviceTx nowUs).Orderly := by
  rw [serviceTx]
  split
  · rename_i dirty
    obtain ⟨some_, before⟩ := orderly.marked dirty
    constructor
    · exact orderly.values
    · exact fun marked => nomatch marked
    · intro outgoing member
      cases member
      refine ⟨List.length_pos_of_ne_nil some_, le_rfl, before, fun _ => ?_,
        fun marked => nomatch marked⟩
      have newest := List.getLast?_eq_some_getLast some_
      rw [newest, orderly.values _ newest]
    · exact orderly.known
  · constructor
    · exact orderly.values
    · exact fun marked => nomatch marked
    · intro outgoing member
      rw [idle] at member
      cases member
    · exact orderly.known

theorem serviceTx_kept (tx : InfoTx) (nowUs : Int) (kept : tx.Kept) (idle : tx.sending = none)
    (orderly : tx.Orderly) : (tx.serviceTx nowUs).Kept := by
  intro latest member
  rw [serviceTx] at member ⊢
  split at member
  · rename_i dirty
    rw [if_pos dirty]
    exact Or.inr (Or.inr ⟨_, rfl, rfl, orderly.values latest member⟩)
  · rename_i clean
    rw [if_neg clean]
    rcases kept latest member with handed | ⟨dirty, _⟩ | ⟨outgoing, present, _⟩
    · exact Or.inl handed
    · exact absurd dirty clean
    · rw [idle] at present
      cases present

theorem sendReturns_orderly (tx : InfoTx) (outgoing : Outgoing) (n : Int) (orderly : tx.Orderly)
    (sending : tx.sending = some outgoing) : (tx.sendReturns outgoing n).Orderly := by
  obtain ⟨positive, bound, before, latest, newer⟩ := orderly.carried outgoing sending
  rw [sendReturns]
  split
  · exact
      { values := orderly.values
        marked := orderly.marked
        carried := fun _ member => nomatch member
        known := orderly.known }
  · dsimp only
    split
    · constructor
      · exact orderly.values
      · intro dirty
        refine ⟨(orderly.marked dirty).1, fun earlier member => ?_⟩
        cases member
        exact newer dirty
      · exact fun _ member => nomatch member
      · intro earlier member
        cases member
        exact bound
    · constructor
      · exact orderly.values
      · exact orderly.marked
      · intro other member
        cases member
        exact ⟨positive, bound, before, latest, newer⟩
      · exact orderly.known

/-- A failed `send` loses the latest change unless it was an older one's; any other keeps it. -/
theorem sendReturns_kept_iff (tx : InfoTx) (outgoing : Outgoing) (n : Int)
    (orderly : tx.Orderly) (kept : tx.Kept) (sending : tx.sending = some outgoing) :
    (tx.sendReturns outgoing n).Kept ↔
      (tx.sockOpen = false ∨ n ≤ 0 → tx.clientInfoDirty = true) := by
  obtain ⟨positive, bound, before, latest, newer⟩ := orderly.carried outgoing sending
  rw [sendReturns]
  split
  · rename_i failed
    rw [imp_iff_right failed]
    constructor
    · intro after
      have some_ : tx.changes ≠ [] := List.ne_nil_of_length_pos (by omega)
      rcases after _ (List.getLast?_eq_some_getLast some_) with handed | ⟨dirty, _⟩ | ⟨_, none_, _⟩
      · have earlier := before _ handed
        dsimp only at earlier
        omega
      · exact dirty
      · cases none_
    · intro dirty newest member
      exact Or.inr (Or.inl ⟨dirty, orderly.values newest member⟩)
  · rename_i sent
    rw [iff_true_right (fun failed => absurd failed sent)]
    dsimp only
    split
    · intro newest member
      rcases kept newest member with handed | pending | ⟨other, present, number, info⟩
      · have earlier := before _ handed
        dsimp only at earlier
        omega
      · exact Or.inr (Or.inl pending)
      · rw [sending, Option.mem_some_iff] at present
        rw [← present] at number info
        exact Or.inl (by rw [number, info])
    · intro newest member
      rcases kept newest member with handed | pending | ⟨other, present, number, info⟩
      · exact Or.inl handed
      · exact Or.inr (Or.inl pending)
      · rw [sending, Option.mem_some_iff] at present
        rw [← present] at number info
        exact Or.inr (Or.inr ⟨_, rfl, number, info⟩)

theorem Orderly.frame {tx : InfoTx} (orderly : tx.Orderly) (nextMessageId : UInt16)
    (sockOpen : Bool) :
    ({ tx with nextMessageId := nextMessageId, sockOpen := sockOpen } : InfoTx).Orderly :=
  { values := orderly.values
    marked := orderly.marked
    carried := orderly.carried
    known := orderly.known }

theorem betweenMessages_of (holds : InfoTx → Prop) (tx next : InfoTx) (here : holds tx)
    (there : tx.sending = none → holds next) : holds (tx.betweenMessages next) := by
  rw [betweenMessages]
  split
  · rename_i idle
    exact there idle
  · exact here

theorem step_orderly (tx : InfoTx) (event : InfoEvent) (orderly : tx.Orderly) :
    (tx.step event).Orderly := by
  cases event with
  | change info => exact sendClientInfo_orderly tx info orderly
  | serviceTx nowUs =>
      exact betweenMessages_of _ tx _ orderly (serviceTx_orderly tx nowUs orderly)
  | otherMessage => exact betweenMessages_of _ tx _ orderly (fun _ => orderly.frame _ _)
  | sendReturns n =>
      rw [step]
      split
      · exact orderly
      · rename_i outgoing sending
        exact sendReturns_orderly tx outgoing n orderly sending
  | closeSocket => exact betweenMessages_of _ tx _ orderly (fun _ => orderly.frame _ _)
  | connectSocket => exact betweenMessages_of _ tx _ orderly (fun _ => orderly.frame _ _)

theorem step_kept_iff (tx : InfoTx) (event : InfoEvent) (orderly : tx.Orderly) (kept : tx.Kept) :
    (tx.step event).Kept ↔ tx.Survives event := by
  cases event with
  | change info => exact iff_of_true (sendClientInfo_kept tx info) nofun
  | serviceTx nowUs =>
      exact iff_of_true (betweenMessages_of Kept tx _ kept
        fun idle => serviceTx_kept tx nowUs kept idle orderly) nofun
  | otherMessage => exact iff_of_true (betweenMessages_of Kept tx _ kept fun _ => kept) nofun
  | sendReturns n =>
      rw [step]
      split
      · rename_i idle
        exact iff_of_true kept fun _ _ busy => absurd idle busy
      · rename_i outgoing sending
        rw [sendReturns_kept_iff tx outgoing n orderly kept sending]
        constructor
        · intro condition other same _ failed
          cases same
          exact condition failed
        · intro survives
          exact survives n rfl (by rw [sending]; exact Option.some_ne_none _)
  | closeSocket => exact iff_of_true (betweenMessages_of Kept tx _ kept fun _ => kept) nofun
  | connectSocket => exact iff_of_true (betweenMessages_of Kept tx _ kept fun _ => kept) nofun

theorem length_clientInfoMessage (id : UInt16) (nowUs : Int) (info : ClientVolume) :
    (clientInfoMessage id nowUs info).length = 26 + (buildClientInfoPayload info).length := by
  rw [clientInfoMessage, List.length_append]
  rfl

theorem sends_handed (tx : InfoTx) (outgoing : Outgoing) (results : List Nat)
    (opened : tx.sockOpen = true) (sending : tx.sending = some outgoing)
    (some_ : outgoing.left ≠ []) (positive : ∀ n ∈ results, 0 < n)
    (whole : results.sum = outgoing.left.length) :
    ((results.map fun n : Nat => InfoEvent.sendReturns n).foldl step tx).handed =
      some (outgoing.number, outgoing.info) := by
  induction results generalizing tx outgoing with
  | nil =>
      have none_ : outgoing.left = [] := List.eq_nil_of_length_eq_zero whole.symm
      exact absurd none_ some_
  | cons n rest ih =>
      have here := positive n List.mem_cons_self
      have passes : ¬(tx.sockOpen = false ∨ (n : Int) ≤ 0) := by
        rw [opened]
        simp
        omega
      have left : (outgoing.left.drop n).length = rest.sum := by
        rw [List.sum_cons] at whole
        rw [List.length_drop]
        omega
      have stepped : tx.step (.sendReturns n) = tx.sendReturns outgoing n := by
        rw [step, sending]
      rw [List.map_cons, List.foldl_cons, stepped, sendReturns, if_neg passes, Int.toNat_natCast]
      dsimp only
      split
      · rename_i last
        have none_ : rest = [] := by
          rw [List.eq_nil_iff_forall_not_mem]
          intro other member
          have more := positive other (List.mem_cons_of_mem n member)
          have within := List.le_sum_of_mem member
          rw [last, List.length_nil] at left
          omega
        rw [none_]
        rfl
      · rename_i going
        exact ih { tx with sending := some { outgoing with left := outgoing.left.drop n } }
          { outgoing with left := outgoing.left.drop n } opened rfl going
          (fun other member => positive other (List.mem_cons_of_mem n member)) left.symm

/-- A change that is marked pending goes out with the next service pass whose sends succeed. -/
theorem pending_handed (tx : InfoTx) (nowUs : Int) (results : List Nat) (orderly : tx.Orderly)
    (dirty : tx.clientInfoDirty = true) (idle : tx.sending = none) (opened : tx.sockOpen = true)
    (positive : ∀ n ∈ results, 0 < n)
    (whole : results.sum =
      (clientInfoMessage (tx.nextMessageId + 1) nowUs tx.clientInfo).length) :
    ((InfoEvent.serviceTx nowUs :: results.map fun n : Nat => .sendReturns n).foldl step tx).handed =
      tx.changes.getLast?.map fun latest => (tx.changes.length, latest) := by
  have newest := List.getLast?_eq_some_getLast (orderly.marked dirty).1
  rw [List.foldl_cons, step, betweenMessages, if_pos idle, serviceTx, if_pos dirty, newest,
    ← orderly.values _ newest, Option.map_some]
  have some_ : clientInfoMessage (tx.nextMessageId + 1) nowUs tx.clientInfo ≠ [] := by
    apply List.ne_nil_of_length_pos
    rw [length_clientInfoMessage]
    omega
  refine sends_handed _
    { left := clientInfoMessage (tx.nextMessageId + 1) nowUs tx.clientInfo
      info := tx.clientInfo
      number := tx.changes.length } results ?_ rfl some_ positive whole
  exact opened

theorem run_orderly (events : List InfoEvent) : (events.foldl step boot).Orderly :=
  Run.visits_last step Orderly boot events
    (Run.visits_of_preserved step Orderly step_orderly boot events boot_orderly)

/-- No change is lost in just the runs in which no `send` fails after its change was taken and
before a newer one; and what is pending goes out later. -/
theorem changes_kept_iff (events : List InfoEvent) :
    (Run.Visits step Kept boot events ↔ Run.Along step Survives boot events) ∧
    ∀ (nowUs : Int) (results : List Nat), (events.foldl step boot).clientInfoDirty = true →
      (events.foldl step boot).sending = none → (events.foldl step boot).sockOpen = true →
      (∀ n ∈ results, 0 < n) →
      results.sum = (clientInfoMessage ((events.foldl step boot).nextMessageId + 1) nowUs
        (events.foldl step boot).clientInfo).length →
      ((events ++ InfoEvent.serviceTx nowUs ::
          results.map fun n : Nat => .sendReturns n).foldl step boot).handed =
        (events.foldl step boot).changes.getLast?.map fun latest =>
          ((events.foldl step boot).changes.length, latest) := by
  constructor
  · apply Run.visits_iff_along_of_invariant step (fun tx => tx.Orderly ∧ tx.Kept) Kept Survives
    · exact fun tx invariant => invariant.2
    · exact fun tx event invariant => step_kept_iff tx event invariant.1 invariant.2
    · intro tx event invariant survives
      exact ⟨step_orderly tx event invariant.1,
        (step_kept_iff tx event invariant.1 invariant.2).mpr survives⟩
    · exact ⟨boot_orderly, boot_kept⟩
  · intro nowUs results dirty idle opened positive whole
    rw [List.foldl_append]
    exact pending_handed _ nowUs results (run_orderly events) dirty idle opened positive whole

/-- A change, a service pass, and a connection that has broken by then. -/
theorem change_on_broken_connection_lost :
    ¬ ∀ events : List InfoEvent, Run.Visits step Kept boot events := by
  intro always
  have visits := always [.connectSocket, .change { volumePercent := 50, muted := false },
    .serviceTx 0, .sendReturns (-1)]
  rcases Run.visits_last step Kept boot _ visits _ rfl with handed | ⟨dirty, _⟩ | ⟨_, none_, _⟩
  · cases handed
  · cases dirty
  · cases none_

end InfoTx

end Media
