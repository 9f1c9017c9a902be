import SnapcastSync.ClockSync.PeerSlots
import SnapcastSync.Lib.Run

/-! Whose reports the peer slots hold. Beside the device runs a record of which sender each
quantity of each slot was written from and whose samples its average has; a slot has integrity
where that is the device it is named after, or nothing. -/

namespace ClockSync

variable {K : Type}

/-- What a slot keeps of the device it is named after. -/
inductive Quantity where
  | bias
  | commonErr
  | phase
  | line
  | pipeline
  | crystal
deriving DecidableEq

def Peer.Absent (peer : Peer K) : Quantity → Prop
  | .bias => peer.biasUs = int32Min
  | .commonErr => peer.commonErrUs = int32Min
  | .phase => peer.phaseUs = renderPhaseUnknown
  | .line => peer.mapValid = false
  | .pipeline => peer.pipelineUs = pipelineUnknown
  | .crystal => peer.crystalPpm = none

/-- A device with a record of whose its slots are: for each slot the senders that its quantities
were written from, those of the samples in its average, and what the last roll averaged, the
device of each slot with a sender of one of its samples. -/
structure Owned (K : Type) where
  sync : TsfSync K
  origin : Nat → Quantity → Option Mac
  averaged : Nat → List Mac
  rolled : List (Option Mac × Mac)

/-- The gate of the phase half of `receive_`. -/
def Comparable (args : ServiceArgs K) (packet : TsfPacket K) : Prop :=
  packet.streamIdHash ≠ 0 ∧ args.streamIdHash ≠ 0 ∧ packet.streamIdHash = args.streamIdHash

instance (args : ServiceArgs K) (packet : TsfPacket K) : Decidable (Comparable args packet) :=
  inferInstanceAs (Decidable (_ ∧ _))

def phaseSampledUs (args : ServiceArgs K) (packet : TsfPacket K) : Int :=
  if packet.renderPhaseAgeMs = 65535 then args.localNowUs
  else args.localNowUs - packet.renderPhaseAgeMs * 1000

namespace TsfSync

variable [Field K] [LinearOrder K] [FloorRing K]

/-- The phase pairs with a sample of the own ring, and its slot has room for one more. -/
def pairsWith (sync : TsfSync K) (slot : Nat) (phaseUs sampledUs : Int) : Bool :=
  decide (phaseUs ≠ renderPhaseUnknown) &&
    match sync.nearestOwnPhase sampledUs with
    | none => false
    | some (gap, _) =>
        decide (|gap| ≤ gdavgPairWindowUs ∧ slot < maxPeers ∧ sync.gdavgN.getD slot 0 < 65535)

def rollsAt (sync : TsfSync K) (localNowUs : Int) : Bool :=
  decide (gdavgRollIntervalUs ≤
    localNowUs - (if sync.gdavgRollUs = 0 then localNowUs else sync.gdavgRollUs))

def reports (sync : TsfSync K) (args : ServiceArgs K) (datagram : Datagram K) : Quantity → Bool
  | .bias => decide (datagram.packet.renderBiasUs ≠ int32Min)
  | .commonErr => decide (datagram.packet.commonErrUs ≠ int32Min)
  | .phase =>
      decide (Comparable args datagram.packet) &&
        decide (datagram.packet.renderPhaseUs ≠ renderPhaseUnknown)
  | .line => (sync.hear args datagram).acceptsLine args datagram
  | .pipeline => true
  | .crystal => true

end TsfSync

namespace Owned

variable [Field K] [LinearOrder K] [FloorRing K]

def create (plausibilityUs : Int) : Owned K :=
  { sync := TsfSync.create plausibilityUs
    origin := fun _ _ => none
    averaged := fun _ => []
    rolled := [] }

/-- The slot of a sender is written from it; one that it takes over starts from nothing. -/
def heardOrigin (owned : Owned K) (args : ServiceArgs K) (datagram : Datagram K) :
    Nat → Quantity → Option Mac :=
  fun slot quantity =>
    if slot = owned.sync.peer.takenSlot datagram.packet.senderMac then
      if owned.sync.reports args datagram quantity then some datagram.packet.senderMac
      else if ∃ peer ∈ owned.sync.peer.slots, peer.mac = datagram.packet.senderMac then
        owned.origin slot quantity
      else none
    else owned.origin slot quantity

def heardAveraged (owned : Owned K) (args : ServiceArgs K) (datagram : Datagram K) :
    Nat → List Mac :=
  fun slot =>
    if slot = owned.sync.peer.takenSlot datagram.packet.senderMac ∧
        Comparable args datagram.packet ∧
        owned.sync.pairsWith slot datagram.packet.renderPhaseUs
          (phaseSampledUs args datagram.packet) then
      owned.averaged slot ++ [datagram.packet.senderMac]
    else owned.averaged slot

def contributions (peers : PeerTable K) (averaged : Nat → List Mac) : List (Option Mac × Mac) :=
  (List.range maxPeers).flatMap fun slot =>
    (averaged slot).map fun mac => (peers.slots[slot]?.map Peer.mac, mac)

def hear (owned : Owned K) (args : ServiceArgs K) (datagram : Datagram K) : Owned K :=
  let sync := owned.sync.receive args datagram
  let averaged := owned.heardAveraged args datagram
  if Comparable args datagram.packet ∧ owned.sync.rollsAt args.localNowUs then
    { sync := sync
      origin := owned.heardOrigin args datagram
      averaged := fun _ => []
      rolled := contributions sync.peer averaged }
  else
    { sync := sync
      origin := owned.heardOrigin args datagram
      averaged := averaged
      rolled := owned.rolled }

def step (owned : Owned K) : Action K → Owned K
  | .receive args datagram =>
      if owned.sync.concerns args datagram.packet then owned.hear args datagram else owned
  | action => { owned with sync := owned.sync.act action }

/-- Used slots first, with distinct addresses; each quantity of a slot absent or written from its
device; each sample of its average, and of the last roll, its device's. -/
structure Integrity (owned : Owned K) : Prop where
  used : ∃ count, ∀ (slot : Nat) (held : PeerSlot K), owned.sync.peer.layout[slot]? = some held →
    (held.used = true ↔ slot < count)
  distinct : ∀ (one other : Nat) (left right : PeerSlot K),
    owned.sync.peer.layout[one]? = some left → owned.sync.peer.layout[other]? = some right →
      left.used = true → right.used = true → left.peer.mac = right.peer.mac → one = other
  reported : ∀ slot peer, owned.sync.peer.slots[slot]? = some peer →
    ∀ quantity, peer.Absent quantity ∨ owned.origin slot quantity = some peer.mac
  averaged : ∀ slot, ∀ mac ∈ owned.averaged slot,
    owned.sync.peer.slots[slot]?.map Peer.mac = some mac
  rolled : ∀ pair ∈ owned.rolled, pair.1 = some pair.2

end Owned

def Peer.senderWrite (args : ServiceArgs K) (packet : TsfPacket K) (peer : Peer K) : Peer K :=
  { peer with
    seenUs := args.localNowUs
    pipelineUs := packet.pipelineUs
    crystalPpm := packet.crystalPpm
    biasUs := if packet.renderBiasUs ≠ int32Min then packet.renderBiasUs else peer.biasUs
    biasSeenUs := if packet.renderBiasUs ≠ int32Min then args.localNowUs else peer.biasSeenUs
    commonErrUs := if packet.commonErrUs ≠ int32Min then packet.commonErrUs else peer.commonErrUs
    commonSeenUs :=
      if packet.commonErrUs ≠ int32Min then args.localNowUs else peer.commonSeenUs }

def Peer.phaseWrite (args : ServiceArgs K) (packet : TsfPacket K) (peer : Peer K) : Peer K :=
  if Comparable args packet ∧ packet.renderPhaseUs ≠ renderPhaseUnknown then
    { peer with
      phaseUs := packet.renderPhaseUs
      phaseSeenUs := phaseSampledUs args packet }
  else peer

def Peer.lineWrite (args : ServiceArgs K) (packet : TsfPacket K) (accepted : Bool)
    (peer : Peer K) : Peer K :=
  if accepted then
    { peer with
      mapValid := true
      mapSeenUs := args.localNowUs
      tsfBaseUs := packet.tsfBaseUs
      tmsBaseUs := packet.tsfMinusServerUs
      driftPpm := packet.driftPpm }
  else peer

def writeAs (mac : Mac) (write : Peer K → Peer K) (slots : List (Peer K)) : List (Peer K) :=
  slots.map fun peer => if peer.mac = mac then write peer else peer

theorem writeAs_writeAs (mac : Mac) (first second : Peer K → Peer K) (slots : List (Peer K))
    (sameMac : ∀ peer, (first peer).mac = peer.mac) :
    writeAs mac second (writeAs mac first slots) =
      writeAs mac (fun peer => second (first peer)) slots := by
  rw [writeAs, writeAs, writeAs, List.map_map]
  apply List.map_congr_left
  intro peer _
  rw [Function.comp_apply]
  by_cases named : peer.mac = mac
  · rw [if_pos named, if_pos ((sameMac peer).trans named), if_pos named]
  · rw [if_neg named, if_neg named, if_neg named]

theorem writeAs_self (mac : Mac) (slots : List (Peer K)) :
    writeAs mac (fun peer => peer) slots = slots := by
  rw [writeAs]
  have same : (fun peer : Peer K => if peer.mac = mac then peer else peer) = id := by
    funext peer
    split <;> rfl
  rw [same, List.map_id]

theorem Peer.phaseWrite_mac (args : ServiceArgs K) (packet : TsfPacket K) (peer : Peer K) :
    (peer.phaseWrite args packet).mac = peer.mac := by
  rw [phaseWrite]
  split <;> rfl

theorem Peer.lineWrite_mac (args : ServiceArgs K) (packet : TsfPacket K) (accepted : Bool)
    (peer : Peer K) : (peer.lineWrite args packet accepted).mac = peer.mac := by
  rw [lineWrite]
  split <;> rfl

namespace TsfSync

variable [Field K] [LinearOrder K] [FloorRing K]

def SameAverages (left right : TsfSync K) : Prop :=
  left.gdavgN = right.gdavgN ∧ left.gdavgRollUs = right.gdavgRollUs ∧ left.ownPh = right.ownPh

theorem recomputeGroupDelta_averages (sync : TsfSync K) (localNowUs : Int) :
    (sync.recomputeGroupDelta localNowUs).peer = sync.peer ∧
      (sync.recomputeGroupDelta localNowUs).SameAverages sync := by
  unfold recomputeGroupDelta
  split
  · exact ⟨rfl, rfl, rfl, rfl⟩
  · split
    · exact ⟨rfl, rfl, rfl, rfl⟩
    · dsimp only
      split
      · split <;> exact ⟨rfl, rfl, rfl, rfl⟩
      · exact ⟨rfl, rfl, rfl, rfl⟩

theorem recordPeerPhase_averages (sync : TsfSync K) (mac : Mac) (phaseUs sampledUs : Int) :
    (sync.recordPeerPhase mac phaseUs sampledUs).peer.slots =
        (if phaseUs = renderPhaseUnknown then sync.peer.slots
          else writeAs mac (fun peer => { peer with
            phaseUs := phaseUs
            phaseSeenUs := sampledUs }) sync.peer.slots) ∧
      (sync.recordPeerPhase mac phaseUs sampledUs).SameAverages sync := by
  unfold recordPeerPhase
  split
  · exact ⟨rfl, rfl, rfl, rfl⟩
  · obtain ⟨peer, same⟩ :=
      (sync.storePeerPhase mac phaseUs sampledUs).recomputeGroupDelta_averages sampledUs
    rw [peer]
    exact ⟨rfl, same⟩

omit [Field K] [LinearOrder K] [FloorRing K] in
theorem nearestOwnPhase_congr {left right : TsfSync K} (same : left.ownPh = right.ownPh)
    (sampledUs : Int) : left.nearestOwnPhase sampledUs = right.nearestOwnPhase sampledUs := by
  rw [nearestOwnPhase, nearestOwnPhase, same]

omit [Field K] [LinearOrder K] [FloorRing K] in
theorem pairsWith_congr {left right : TsfSync K} (same : left.SameAverages right) (slot : Nat)
    (phaseUs sampledUs : Int) :
    left.pairsWith slot phaseUs sampledUs = right.pairsWith slot phaseUs sampledUs := by
  rw [pairsWith, pairsWith, nearestOwnPhase_congr same.2.2, same.1]

omit [LinearOrder K] [FloorRing K] in
theorem pairAveragedDelta_averages (sync : TsfSync K) (slot : Nat) (phaseUs sampledUs : Int) :
    (sync.pairAveragedDelta slot phaseUs sampledUs).peer = sync.peer ∧
      (sync.pairAveragedDelta slot phaseUs sampledUs).gdavgRollUs = sync.gdavgRollUs ∧
      (sync.pairAveragedDelta slot phaseUs sampledUs).gdavgN =
        if sync.pairsWith slot phaseUs sampledUs then sync.gdavgN.modify slot (· + 1)
        else sync.gdavgN := by
  rw [pairAveragedDelta, pairsWith]
  by_cases unknown : phaseUs = renderPhaseUnknown
  · rw [if_pos unknown, decide_eq_false (not_not.mpr unknown)]
    exact ⟨rfl, rfl, rfl⟩
  · rw [if_neg unknown, decide_eq_true unknown, Bool.true_and]
    cases sync.nearestOwnPhase sampledUs with
    | none => exact ⟨rfl, rfl, rfl⟩
    | some nearest =>
        obtain ⟨gap, own⟩ := nearest
        dsimp only
        by_cases pairs : |gap| ≤ gdavgPairWindowUs ∧ slot < maxPeers ∧
            sync.gdavgN.getD slot 0 < 65535
        · rw [if_pos pairs]
          refine ⟨rfl, rfl, ?_⟩
          simp only [decide_eq_true pairs, if_true]
        · rw [if_neg pairs]
          refine ⟨rfl, rfl, ?_⟩
          simp only [decide_eq_false pairs, Bool.false_eq_true, if_false]

theorem rollAveragedDelta_averages (sync : TsfSync K) (localNowUs : Int) :
    (sync.rollAveragedDelta localNowUs).peer = sync.peer ∧
      (sync.rollAveragedDelta localNowUs).gdavgN =
        if sync.rollsAt localNowUs then List.replicate maxPeers 0 else sync.gdavgN := by
  rw [rollAveragedDelta, rollsAt]
  generalize (if sync.gdavgRollUs = 0 then localNowUs else sync.gdavgRollUs) = rollUs
  by_cases due : gdavgRollIntervalUs ≤ localNowUs - rollUs
  · dsimp only
    rw [if_pos due, decide_eq_true due]
    exact ⟨rfl, rfl⟩
  · dsimp only
    rw [if_neg due, decide_eq_false due]
    exact ⟨rfl, rfl⟩

theorem receivePhase_slots (sync : TsfSync K) (args : ServiceArgs K) (packet : TsfPacket K) :
    (sync.receivePhase args packet).peer.slots =
      writeAs packet.senderMac (Peer.phaseWrite args packet) sync.peer.slots := by
  have gate : Comparable args packet ↔ (packet.streamIdHash ≠ 0 ∧ args.streamIdHash ≠ 0 ∧
      packet.streamIdHash = args.streamIdHash) := Iff.rfl
  rw [receivePhase, ← phaseSampledUs]
  by_cases comparable : Comparable args packet
  · rw [if_pos (gate.mp comparable)]
    dsimp only
    rw [(rollAveragedDelta_averages _ _).1, (pairAveragedDelta_averages _ _ _ _).1,
      (recordPeerPhase_averages _ _ _ _).1]
    by_cases unknown : packet.renderPhaseUs = renderPhaseUnknown
    · have kept : Peer.phaseWrite args packet = fun peer => peer := by
        funext peer
        rw [Peer.phaseWrite, if_neg (fun both => both.2 unknown)]
      rw [if_pos unknown, kept, writeAs_self]
    · have written : Peer.phaseWrite args packet = fun peer =>
          { peer with
            phaseUs := packet.renderPhaseUs
            phaseSeenUs := phaseSampledUs args packet } := by
        funext peer
        rw [Peer.phaseWrite, if_pos ⟨comparable, unknown⟩]
      rw [if_neg unknown, written]
  · have kept : Peer.phaseWrite args packet = fun peer => peer := by
      funext peer
      rw [Peer.phaseWrite, if_neg (fun both => comparable both.1)]
    rw [if_neg (fun matched => comparable (gate.mpr matched)), kept, writeAs_self]

theorem receivePhase_gdavgN (sync : TsfSync K) (args : ServiceArgs K) (packet : TsfPacket K) :
    (sync.receivePhase args packet).gdavgN =
      if Comparable args packet then
        if sync.rollsAt args.localNowUs then List.replicate maxPeers 0
        else if sync.pairsWith (sync.peer.slotOf packet.senderMac) packet.renderPhaseUs
            (phaseSampledUs args packet) then
          sync.gdavgN.modify (sync.peer.slotOf packet.senderMac) (· + 1)
        else sync.gdavgN
      else sync.gdavgN := by
  have gate : Comparable args packet ↔ (packet.streamIdHash ≠ 0 ∧ args.streamIdHash ≠ 0 ∧
      packet.streamIdHash = args.streamIdHash) := Iff.rfl
  rw [receivePhase, ← phaseSampledUs]
  by_cases comparable : Comparable args packet
  · obtain ⟨_, same⟩ := sync.recordPeerPhase_averages packet.senderMac packet.renderPhaseUs
      (phaseSampledUs args packet)
    rw [if_pos (gate.mp comparable), if_pos comparable]
    dsimp only
    obtain ⟨_, rollUs, counts⟩ := (sync.recordPeerPhase packet.senderMac packet.renderPhaseUs
      (phaseSampledUs args packet)).pairAveragedDelta_averages
        (sync.peer.slotOf packet.senderMac) packet.renderPhaseUs (phaseSampledUs args packet)
    rw [← PeerTable.slotOf, (rollAveragedDelta_averages _ _).2, rollsAt, rollUs, counts,
      pairsWith_congr same, same.1, same.2.1, ← rollsAt]
  · rw [if_neg (fun matched => comparable (gate.mpr matched)), if_neg comparable]

def heardPeer (sync : TsfSync K) (args : ServiceArgs K) (datagram : Datagram K) (peer : Peer K) :
    Peer K :=
  ((peer.senderWrite args datagram.packet).phaseWrite args datagram.packet).lineWrite args
    datagram.packet ((sync.hear args datagram).acceptsLine args datagram)

theorem hear_slots (sync : TsfSync K) (args : ServiceArgs K) (datagram : Datagram K) :
    (sync.hear args datagram).peer.slots = writeAs datagram.packet.senderMac
      (fun peer => (peer.senderWrite args datagram.packet).phaseWrite args datagram.packet)
      (sync.peer.findPeer datagram.packet.senderMac args.localNowUs).slots := by
  rw [hear, receivePhase_slots]
  exact writeAs_writeAs _ (Peer.senderWrite args datagram.packet) _ _ fun _ => rfl

theorem receive_slots (sync : TsfSync K) (args : ServiceArgs K) (datagram : Datagram K)
    (concerned : sync.concerns args datagram.packet = true) :
    (sync.receive args datagram).peer.slots = writeAs datagram.packet.senderMac
      (sync.heardPeer args datagram)
      (sync.peer.findPeer datagram.packet.senderMac args.localNowUs).slots := by
  have kept : ∀ peer : Peer K,
      ((peer.senderWrite args datagram.packet).phaseWrite args datagram.packet).mac = peer.mac :=
    fun peer => Peer.phaseWrite_mac args datagram.packet _
  rw [receive, if_pos concerned]
  dsimp only
  cases accepted : (sync.hear args datagram).acceptsLine args datagram with
  | true =>
      have stored : ((sync.hear args datagram).storeLine args datagram.packet).peer.slots =
          writeAs datagram.packet.senderMac (Peer.lineWrite args datagram.packet true)
            (sync.hear args datagram).peer.slots := rfl
      rw [if_pos rfl, stored, hear_slots, writeAs_writeAs _ _ _ _ kept]
      congr 1
      funext peer
      rw [heardPeer, accepted]
  | false =>
      rw [if_neg Bool.false_ne_true, hear_slots]
      congr 1
      funext peer
      rw [heardPeer, accepted]
      rfl

theorem receive_gdavgN (sync : TsfSync K) (args : ServiceArgs K) (datagram : Datagram K)
    (concerned : sync.concerns args datagram.packet = true) :
    (sync.receive args datagram).gdavgN =
      if Comparable args datagram.packet then
        if sync.rollsAt args.localNowUs then List.replicate maxPeers 0
        else if sync.pairsWith (sync.peer.takenSlot datagram.packet.senderMac)
            datagram.packet.renderPhaseUs (phaseSampledUs args datagram.packet) then
          sync.gdavgN.modify (sync.peer.takenSlot datagram.packet.senderMac) (· + 1)
        else sync.gdavgN
      else sync.gdavgN := by
  have slot : (sync.recordSender args datagram).peer.slotOf datagram.packet.senderMac =
      sync.peer.takenSlot datagram.packet.senderMac := by
    obtain ⟨peer, named, here⟩ : ∃ peer : Peer K, peer.mac = datagram.packet.senderMac ∧
        (sync.peer.findPeer datagram.packet.senderMac args.localNowUs).slots[
          sync.peer.takenSlot datagram.packet.senderMac]? = some peer := by
      rcases (sync.peer.findPeer_slots datagram.packet.senderMac args.localNowUs).2 with
        ⟨peer, named, _, here⟩ | ⟨_, _, _, here⟩ | ⟨_, _, _, here⟩
      · exact ⟨peer, named, here⟩
      · exact ⟨_, rfl, here⟩
      · exact ⟨_, rfl, here⟩
    have written : (sync.recordSender args datagram).peer.slots[
        sync.peer.takenSlot datagram.packet.senderMac]? =
          some (peer.senderWrite args datagram.packet) := by
      change ((_ : List (Peer K)).map _)[_]? = _
      rw [List.getElem?_map, here, Option.map_some, if_pos named]
      rfl
    exact PeerTable.slotOf_eq _ _ _ _ written named
  have counts : (sync.receive args datagram).gdavgN = (sync.hear args datagram).gdavgN := by
    rw [receive, if_pos concerned]
    dsimp only
    split <;> rfl
  have frame : (sync.recordSender args datagram).SameAverages sync := ⟨rfl, rfl, rfl⟩
  have rolls : (sync.recordSender args datagram).rollsAt args.localNowUs =
      sync.rollsAt args.localNowUs := rfl
  rw [counts, hear, receivePhase_gdavgN, slot, pairsWith_congr frame, rolls, frame.1]

end TsfSync

section Absence

variable [Field K] [LinearOrder K] [FloorRing K]

theorem heardPeer_mac (sync : TsfSync K) (args : ServiceArgs K) (datagram : Datagram K)
    (peer : Peer K) : (sync.heardPeer args datagram peer).mac = peer.mac := by
  rw [TsfSync.heardPeer, Peer.lineWrite_mac, Peer.phaseWrite_mac]
  rfl

theorem heardPeer_absent (sync : TsfSync K) (args : ServiceArgs K) (datagram : Datagram K)
    (peer : Peer K) (quantity : Quantity)
    (silent : sync.reports args datagram quantity = false) :
    (sync.heardPeer args datagram peer).Absent quantity ↔ peer.Absent quantity := by
  have line : ∀ (accepted : Bool) (written : Peer K),
      (written.lineWrite args datagram.packet accepted).biasUs = written.biasUs ∧
        (written.lineWrite args datagram.packet accepted).commonErrUs = written.commonErrUs ∧
        (written.lineWrite args datagram.packet accepted).phaseUs = written.phaseUs := by
    intro accepted written
    rw [Peer.lineWrite]
    split <;> exact ⟨rfl, rfl, rfl⟩
  have phase : ∀ written : Peer K,
      (written.phaseWrite args datagram.packet).biasUs = written.biasUs ∧
        (written.phaseWrite args datagram.packet).commonErrUs = written.commonErrUs ∧
        (written.phaseWrite args datagram.packet).mapValid = written.mapValid := by
    intro written
    rw [Peer.phaseWrite]
    split <;> exact ⟨rfl, rfl, rfl⟩
  cases quantity with
  | bias =>
      have kept : (peer.senderWrite args datagram.packet).biasUs = peer.biasUs :=
        if_neg (of_decide_eq_false silent)
      rw [Peer.Absent, Peer.Absent, TsfSync.heardPeer, (line _ _).1, (phase _).1, kept]
  | commonErr =>
      have kept : (peer.senderWrite args datagram.packet).commonErrUs = peer.commonErrUs :=
        if_neg (of_decide_eq_false silent)
      rw [Peer.Absent, Peer.Absent, TsfSync.heardPeer, (line _ _).2.1, (phase _).2.1, kept]
  | phase =>
      have unpaired : ¬(Comparable args datagram.packet ∧
          datagram.packet.renderPhaseUs ≠ renderPhaseUnknown) := by
        intro both
        rw [TsfSync.reports, decide_eq_true both.1, decide_eq_true both.2] at silent
        cases silent
      rw [Peer.Absent, Peer.Absent, TsfSync.heardPeer, (line _ _).2.2, Peer.phaseWrite,
        if_neg unpaired]
      rfl
  | line =>
      have rejected : (sync.hear args datagram).acceptsLine args datagram = false := silent
      rw [Peer.Absent, Peer.Absent, TsfSync.heardPeer, rejected, Peer.lineWrite,
        if_neg Bool.false_ne_true, (phase _).2.2]
      rfl
  | pipeline => cases silent
  | crystal => cases silent

end Absence

/-- The sender has no slot and all eight are used, so that the stalest one becomes its own. -/
def PeerTable.TakesOver (table : PeerTable K) (mac : Mac) : Prop :=
  (¬ ∃ peer ∈ table.slots, peer.mac = mac) ∧ ¬ table.slots.length < maxPeers

namespace Owned

variable [Field K] [LinearOrder K] [FloorRing K]

omit [LinearOrder K] [FloorRing K] in
theorem integrity_iff (owned : Owned K) :
    owned.Integrity ↔
      (∀ slot peer, owned.sync.peer.slots[slot]? = some peer →
        ∀ quantity, peer.Absent quantity ∨ owned.origin slot quantity = some peer.mac) ∧
      (∀ slot, ∀ mac ∈ owned.averaged slot,
        owned.sync.peer.slots[slot]?.map Peer.mac = some mac) ∧
      ∀ pair ∈ owned.rolled, pair.1 = some pair.2 :=
  ⟨fun integrity => ⟨integrity.reported, integrity.averaged, integrity.rolled⟩,
    fun parts =>
      { used := ⟨owned.sync.peer.slots.length, owned.sync.peer.layout_used⟩
        distinct := owned.sync.peer.layout_distinct
        reported := parts.1
        averaged := parts.2.1
        rolled := parts.2.2 }⟩

omit [LinearOrder K] [FloorRing K] in
theorem fresh_absent (mac : Mac) (localNowUs : Int) (quantity : Quantity) :
    (Peer.fresh mac localNowUs : Peer K).Absent quantity := by
  cases quantity <;> rfl

omit [LinearOrder K] [FloorRing K] in
/-- The path that takes over a slot leaves two of its quantities at zero. -/
theorem evicted_absent_iff (mac : Mac) (localNowUs : Int) (quantity : Quantity) :
    (Peer.evicted mac localNowUs : Peer K).Absent quantity ↔
      quantity ≠ .bias ∧ quantity ≠ .commonErr := by
  cases quantity with
  | bias => exact iff_of_false (fun absent => by cases absent) (fun both => both.1 rfl)
  | commonErr => exact iff_of_false (fun absent => by cases absent) (fun both => both.2 rfl)
  | phase => exact iff_of_true rfl ⟨Quantity.noConfusion, Quantity.noConfusion⟩
  | line => exact iff_of_true rfl ⟨Quantity.noConfusion, Quantity.noConfusion⟩
  | pipeline => exact iff_of_true rfl ⟨Quantity.noConfusion, Quantity.noConfusion⟩
  | crystal => exact iff_of_true rfl ⟨Quantity.noConfusion, Quantity.noConfusion⟩

end Owned

namespace TsfSync

variable [Field K] [LinearOrder K] [FloorRing K]

theorem receive_other_slots (sync : TsfSync K) (args : ServiceArgs K) (datagram : Datagram K)
    (concerned : sync.concerns args datagram.packet = true) (slot : Nat)
    (other : slot ≠ sync.peer.takenSlot datagram.packet.senderMac) :
    (sync.receive args datagram).peer.slots[slot]? = sync.peer.slots[slot]? := by
  obtain ⟨others, taken⟩ := sync.peer.findPeer_slots datagram.packet.senderMac args.localNowUs
  obtain ⟨base, named, found⟩ : ∃ base : Peer K, base.mac = datagram.packet.senderMac ∧
      (sync.peer.findPeer datagram.packet.senderMac args.localNowUs).slots[
        sync.peer.takenSlot datagram.packet.senderMac]? = some base := by
    rcases taken with ⟨peer, named, _, here⟩ | ⟨_, _, _, here⟩ | ⟨_, _, _, here⟩
    · exact ⟨peer, named, here⟩
    · exact ⟨_, rfl, here⟩
    · exact ⟨_, rfl, here⟩
  rw [receive_slots _ _ _ concerned, writeAs, List.getElem?_map, ← others slot other]
  cases held : (sync.peer.findPeer datagram.packet.senderMac args.localNowUs).slots[slot]? with
  | none => rfl
  | some peer =>
      have different : peer.mac ≠ datagram.packet.senderMac :=
        fun same => other (PeerTable.slot_inj _ held found (same.trans named.symm))
      rw [Option.map_some, if_neg different]

theorem receive_taken_slot (sync : TsfSync K) (args : ServiceArgs K) (datagram : Datagram K)
    (concerned : sync.concerns args datagram.packet = true) :
    ∃ base : Peer K, base.mac = datagram.packet.senderMac ∧
      (sync.receive args datagram).peer.slots[
        sync.peer.takenSlot datagram.packet.senderMac]? =
          some (sync.heardPeer args datagram base) ∧
      (sync.peer.slots[sync.peer.takenSlot datagram.packet.senderMac]? = some base ∨
        (sync.peer.slots[sync.peer.takenSlot datagram.packet.senderMac]? = none ∧
          (¬ ∃ peer ∈ sync.peer.slots, peer.mac = datagram.packet.senderMac) ∧
          ¬ sync.peer.TakesOver datagram.packet.senderMac ∧
          base = Peer.fresh datagram.packet.senderMac args.localNowUs) ∨
        (sync.peer.TakesOver datagram.packet.senderMac ∧
          (∃ victim, victim.mac ≠ datagram.packet.senderMac ∧
            sync.peer.slots[sync.peer.takenSlot datagram.packet.senderMac]? = some victim) ∧
          base = Peer.evicted datagram.packet.senderMac args.localNowUs)) := by
  have written (base : Peer K) (named : base.mac = datagram.packet.senderMac)
      (found : (sync.peer.findPeer datagram.packet.senderMac args.localNowUs).slots[
        sync.peer.takenSlot datagram.packet.senderMac]? = some base) :
      (sync.receive args datagram).peer.slots[
        sync.peer.takenSlot datagram.packet.senderMac]? =
          some (sync.heardPeer args datagram base) := by
    rw [receive_slots _ _ _ concerned, writeAs, List.getElem?_map, found, Option.map_some,
      if_pos named]
  rcases (sync.peer.findPeer_slots datagram.packet.senderMac args.localNowUs).2 with
    ⟨peer, named, before, here⟩ | ⟨unknown, vacant, before, here⟩ |
      ⟨unknown, full, ⟨victim, member, before⟩, here⟩
  · exact ⟨peer, named, written _ named here, Or.inl before⟩
  · exact ⟨_, rfl, written _ rfl here,
      Or.inr (Or.inl ⟨before, unknown, fun takes => takes.2 vacant, rfl⟩)⟩
  · exact ⟨_, rfl, written _ rfl here, Or.inr (Or.inr ⟨⟨unknown, full⟩,
      ⟨victim, fun same => unknown ⟨victim, member, same⟩, before⟩, rfl⟩)⟩

omit [Field K] [LinearOrder K] [FloorRing K] in
theorem not_takesOver_of_slot (sync : TsfSync K) (mac : Mac) (slot : Nat) (peer : Peer K)
    (here : sync.peer.slots[slot]? = some peer) (named : peer.mac = mac) :
    ¬ sync.peer.TakesOver mac :=
  fun takes => takes.1 ⟨peer, List.mem_of_getElem? here, named⟩

end TsfSync

namespace Owned

variable [Field K] [LinearOrder K] [FloorRing K]

theorem heard_macs (owned : Owned K) (args : ServiceArgs K) (datagram : Datagram K)
    (concerned : owned.sync.concerns args datagram.packet = true) (slot : Nat) :
    (owned.sync.receive args datagram).peer.slots[slot]?.map Peer.mac =
      if slot = owned.sync.peer.takenSlot datagram.packet.senderMac then
        some datagram.packet.senderMac
      else owned.sync.peer.slots[slot]?.map Peer.mac := by
  by_cases here : slot = owned.sync.peer.takenSlot datagram.packet.senderMac
  · obtain ⟨base, named, found, _⟩ := owned.sync.receive_taken_slot args datagram concerned
    rw [if_pos here, here, found, Option.map_some, heardPeer_mac, named]
  · rw [if_neg here, owned.sync.receive_other_slots args datagram concerned slot here]

/-- Absent quantities stay absent, reported ones are the sender's: all but the bias and the common
error of a slot that is taken over, which start as zeros. -/
theorem heard_reported_iff (owned : Owned K) (args : ServiceArgs K) (datagram : Datagram K)
    (concerned : owned.sync.concerns args datagram.packet = true)
    (integrity : owned.Integrity) :
    (∀ slot peer, (owned.sync.receive args datagram).peer.slots[slot]? = some peer →
      ∀ quantity, peer.Absent quantity ∨
        owned.heardOrigin args datagram slot quantity = some peer.mac) ↔
      (owned.sync.peer.TakesOver datagram.packet.senderMac →
        datagram.packet.renderBiasUs ≠ int32Min ∧ datagram.packet.commonErrUs ≠ int32Min) := by
  obtain ⟨base, named, found, kind⟩ := owned.sync.receive_taken_slot args datagram concerned
  have silentOrigin (unknown : ¬ ∃ peer ∈ owned.sync.peer.slots,
      peer.mac = datagram.packet.senderMac) (quantity : Quantity)
      (silent : owned.sync.reports args datagram quantity = false) :
      owned.heardOrigin args datagram
        (owned.sync.peer.takenSlot datagram.packet.senderMac) quantity = none := by
    rw [heardOrigin, if_pos rfl, silent, if_neg Bool.false_ne_true, if_neg unknown]
  constructor
  · intro all takes
    rcases kind with before | ⟨_, _, not_, _⟩ | ⟨_, _, evicted⟩
    · exact absurd takes (owned.sync.not_takesOver_of_slot _ _ base before named)
    · exact absurd takes not_
    · have reported (quantity : Quantity) (zero : ¬ base.Absent quantity) :
          owned.sync.reports args datagram quantity = true := by
        by_contra silent
        rw [Bool.not_eq_true] at silent
        rcases all _ _ found quantity with absent | origin
        · exact zero ((heardPeer_absent _ _ _ _ _ silent).mp absent)
        · rw [silentOrigin takes.1 quantity silent] at origin
          cases origin
      rw [evicted] at reported
      have bias := reported .bias fun absent => ((evicted_absent_iff _ _ _).mp absent).1 rfl
      have common := reported .commonErr fun absent => ((evicted_absent_iff _ _ _).mp absent).2 rfl
      exact ⟨of_decide_eq_true bias, of_decide_eq_true common⟩
  · intro condition slot peer present quantity
    by_cases here : slot = owned.sync.peer.takenSlot datagram.packet.senderMac
    · rw [here, found] at present
      cases present
      rw [here, heardPeer_mac, named]
      cases reported : owned.sync.reports args datagram quantity with
      | true =>
          right
          rw [heardOrigin, if_pos rfl, reported, if_pos rfl]
      | false =>
          rw [heardPeer_absent _ _ _ _ _ reported]
          rcases kind with before | ⟨_, _, _, fresh⟩ | ⟨takes, _, evicted⟩
          · have known : ∃ peer ∈ owned.sync.peer.slots, peer.mac = datagram.packet.senderMac :=
              ⟨base, List.mem_of_getElem? before, named⟩
            have held := integrity.reported _ base before quantity
            rw [named] at held
            rw [heardOrigin, if_pos rfl, reported, if_neg Bool.false_ne_true, if_pos known]
            exact held
          · left
            rw [fresh]
            exact fresh_absent _ _ quantity
          · left
            obtain ⟨bias, common⟩ := condition takes
            rw [evicted, evicted_absent_iff]
            refine ⟨fun same => ?_, fun same => ?_⟩
            · rw [same] at reported
              exact absurd bias (of_decide_eq_false reported)
            · rw [same] at reported
              exact absurd common (of_decide_eq_false reported)
    · rw [owned.sync.receive_other_slots args datagram concerned slot here] at present
      have held := integrity.reported slot peer present quantity
      rw [heardOrigin, if_neg here]
      exact held

/-- A slot that is taken over has an average without samples of the device before. -/
theorem heard_averaged_iff (owned : Owned K) (args : ServiceArgs K) (datagram : Datagram K)
    (concerned : owned.sync.concerns args datagram.packet = true)
    (integrity : owned.Integrity) :
    (∀ slot, ∀ mac ∈ owned.heardAveraged args datagram slot,
      (owned.sync.receive args datagram).peer.slots[slot]?.map Peer.mac = some mac) ↔
      (owned.sync.peer.TakesOver datagram.packet.senderMac →
        owned.averaged (owned.sync.peer.takenSlot datagram.packet.senderMac) = []) := by
  obtain ⟨base, named, _, kind⟩ := owned.sync.receive_taken_slot args datagram concerned
  constructor
  · intro all takes
    rcases kind with before | ⟨_, _, not_, _⟩ | ⟨_, ⟨victim, different, before⟩, _⟩
    · exact absurd takes (owned.sync.not_takesOver_of_slot _ _ base before named)
    · exact absurd takes not_
    · rw [List.eq_nil_iff_forall_not_mem]
      intro mac member
      have kept : mac ∈ owned.heardAveraged args datagram
          (owned.sync.peer.takenSlot datagram.packet.senderMac) := by
        rw [heardAveraged]
        split
        · exact List.mem_append_left _ member
        · exact member
      have new := all _ mac kept
      have old := integrity.averaged _ mac member
      rw [heard_macs owned args datagram concerned, if_pos rfl, Option.some_inj] at new
      rw [before, Option.map_some, Option.some_inj] at old
      exact different (old.trans new.symm)
  · intro condition slot mac member
    rw [heard_macs owned args datagram concerned]
    by_cases here : slot = owned.sync.peer.takenSlot datagram.packet.senderMac
    · rw [if_pos here]
      have earlier : ∀ mac ∈ owned.averaged slot, mac = datagram.packet.senderMac := by
        intro mac old
        rw [here] at old
        have owner := integrity.averaged _ mac old
        rcases kind with before | ⟨before, _, _, _⟩ | ⟨takes, _, _⟩
        · rw [before, Option.map_some, Option.some_inj] at owner
          exact owner.symm.trans named
        · rw [before] at owner
          cases owner
        · rw [condition takes] at old
          cases old
      rw [heardAveraged] at member
      split at member
      · rcases List.mem_append.mp member with old | new
        · rw [earlier mac old]
        · rw [List.mem_singleton.mp new]
      · rw [earlier mac member]
    · rw [if_neg here]
      rw [heardAveraged, if_neg (fun both => here both.1)] at member
      exact integrity.averaged slot mac member

omit [LinearOrder K] [FloorRing K] in
theorem takenSlot_lt (table : PeerTable K) (mac : Mac) : table.takenSlot mac < maxPeers := by
  have found : ∃ peer, (table.findPeer mac 0).slots[table.takenSlot mac]? = some peer := by
    rcases (table.findPeer_slots mac 0).2 with
      ⟨peer, _, _, here⟩ | ⟨_, _, _, here⟩ | ⟨_, _, _, here⟩
    · exact ⟨peer, here⟩
    · exact ⟨_, here⟩
    · exact ⟨_, here⟩
  obtain ⟨peer, here⟩ := found
  exact lt_of_lt_of_le (List.getElem?_eq_some_iff.mp here).1 (table.findPeer mac 0).bounded

def Counted (owned : Owned K) : Prop :=
  owned.sync.gdavgN = (List.range maxPeers).map fun slot => (owned.averaged slot).length

omit [Field K] [LinearOrder K] [FloorRing K] in
theorem Counted.getD (owned : Owned K) (counted : owned.Counted) (slot : Nat)
    (within : slot < maxPeers) :
    owned.sync.gdavgN.getD slot 0 = (owned.averaged slot).length := by
  rw [counted, List.getD_eq_getElem?_getD, List.getElem?_map, List.getElem?_range within]
  rfl

omit [Field K] [LinearOrder K] [FloorRing K] in
theorem modify_range (count : Nat → Nat) (size slot : Nat) :
    ((List.range size).map count).modify slot (· + 1) =
      (List.range size).map fun other => if other = slot then count other + 1 else count other := by
  apply List.ext_getElem?
  intro other
  rw [List.getElem?_modify, List.getElem?_map, List.getElem?_map]
  rcases Nat.lt_or_ge other size with within | beyond
  · rw [List.getElem?_range within, Option.map_some, Option.map_some, Option.map_eq_map,
      Option.map_some]
    by_cases here : other = slot
    · rw [if_pos here, if_pos here.symm]
    · rw [if_neg here, if_neg (fun same => here same.symm)]
  · rw [List.getElem?_eq_none (by rwa [List.length_range])]
    rfl

omit [Field K] [LinearOrder K] [FloorRing K] in
theorem heardAveraged_length (owned : Owned K) (args : ServiceArgs K) (datagram : Datagram K)
    (slot : Nat) :
    (owned.heardAveraged args datagram slot).length =
      if slot = owned.sync.peer.takenSlot datagram.packet.senderMac ∧
          Comparable args datagram.packet ∧
          owned.sync.pairsWith (owned.sync.peer.takenSlot datagram.packet.senderMac)
            datagram.packet.renderPhaseUs (phaseSampledUs args datagram.packet) then
        (owned.averaged slot).length + 1
      else (owned.averaged slot).length := by
  rw [heardAveraged]
  by_cases here : slot = owned.sync.peer.takenSlot datagram.packet.senderMac
  · rw [← here]
    split
    · rw [List.length_append, List.length_singleton]
    · rfl
  · rw [if_neg (fun all => here all.1), if_neg (fun all => here all.1)]

theorem hear_counted (owned : Owned K) (args : ServiceArgs K) (datagram : Datagram K)
    (concerned : owned.sync.concerns args datagram.packet = true) (counted : owned.Counted) :
    (owned.hear args datagram).Counted := by
  have after := owned.sync.receive_gdavgN args datagram concerned
  rw [counted, modify_range] at after
  rw [hear]
  split
  case isTrue rolled =>
    rw [if_pos rolled.1, if_pos rolled.2] at after
    exact after
  case isFalse kept =>
    rw [Counted, after]
    dsimp only
    simp only [heardAveraged_length]
    by_cases comparable : Comparable args datagram.packet
    · rw [if_pos comparable, if_neg (fun rolls => kept ⟨comparable, rolls⟩)]
      simp only [comparable, true_and]
      cases owned.sync.pairsWith (owned.sync.peer.takenSlot datagram.packet.senderMac)
          datagram.packet.renderPhaseUs (phaseSampledUs args datagram.packet) with
      | true => simp only [and_true, if_true]
      | false => simp only [Bool.false_eq_true, and_false, if_false]
    · rw [if_neg comparable]
      simp only [comparable, false_and, and_false, if_false]

omit [Field K] [LinearOrder K] [FloorRing K] in
theorem contributions_own_iff (peers : PeerTable K) (averaged : Nat → List Mac)
    (beyond : ∀ slot, maxPeers ≤ slot → averaged slot = []) :
    (∀ pair ∈ contributions peers averaged, pair.1 = some pair.2) ↔
      ∀ slot, ∀ mac ∈ averaged slot, peers.slots[slot]?.map Peer.mac = some mac := by
  constructor
  · intro all slot mac member
    have within : slot < maxPeers := by
      by_contra outside
      rw [beyond slot (Nat.le_of_not_lt outside)] at member
      cases member
    exact all (peers.slots[slot]?.map Peer.mac, mac) (List.mem_flatMap.mpr
      ⟨slot, List.mem_range.mpr within, List.mem_map.mpr ⟨mac, member, rfl⟩⟩)
  · intro all pair member
    obtain ⟨slot, _, from_⟩ := List.mem_flatMap.mp member
    obtain ⟨mac, sample, rfl⟩ := List.mem_map.mp from_
    exact all slot mac sample

omit [LinearOrder K] [FloorRing K] in
theorem heardAveraged_beyond (owned : Owned K) (args : ServiceArgs K) (datagram : Datagram K)
    (integrity : owned.Integrity) (slot : Nat) (beyond : maxPeers ≤ slot) :
    owned.heardAveraged args datagram slot = [] := by
  have other : slot ≠ owned.sync.peer.takenSlot datagram.packet.senderMac :=
    fun same => absurd (takenSlot_lt owned.sync.peer datagram.packet.senderMac)
      (Nat.not_lt.mpr (same ▸ beyond))
  rw [heardAveraged, if_neg (fun all => other all.1), List.eq_nil_iff_forall_not_mem]
  intro mac member
  have named := integrity.averaged slot mac member
  rw [List.getElem?_eq_none (owned.sync.peer.bounded.trans beyond)] at named
  cases named

def Reinitialised (owned : Owned K) (packet : TsfPacket K) : Prop :=
  owned.sync.peer.TakesOver packet.senderMac →
    packet.renderBiasUs ≠ int32Min ∧ packet.commonErrUs ≠ int32Min ∧
      owned.sync.gdavgN.getD (owned.sync.peer.takenSlot packet.senderMac) 0 = 0

theorem hear_integrity_iff (owned : Owned K) (args : ServiceArgs K) (datagram : Datagram K)
    (concerned : owned.sync.concerns args datagram.packet = true)
    (integrity : owned.Integrity) (counted : owned.Counted) :
    (owned.hear args datagram).Integrity ↔ owned.Reinitialised datagram.packet := by
  have reported := owned.heard_reported_iff args datagram concerned integrity
  have averaged := owned.heard_averaged_iff args datagram concerned integrity
  have pooled := contributions_own_iff (owned.sync.receive args datagram).peer
    (owned.heardAveraged args datagram) (owned.heardAveraged_beyond args datagram integrity)
  have empty : owned.averaged (owned.sync.peer.takenSlot datagram.packet.senderMac) = [] ↔
      owned.sync.gdavgN.getD (owned.sync.peer.takenSlot datagram.packet.senderMac) 0 = 0 := by
    rw [counted.getD owned _ (takenSlot_lt _ _), List.length_eq_zero_iff]
  have condition : owned.Reinitialised datagram.packet ↔
      (owned.sync.peer.TakesOver datagram.packet.senderMac →
        datagram.packet.renderBiasUs ≠ int32Min ∧ datagram.packet.commonErrUs ≠ int32Min) ∧
      (owned.sync.peer.TakesOver datagram.packet.senderMac →
        owned.averaged (owned.sync.peer.takenSlot datagram.packet.senderMac) = []) := by
    rw [Reinitialised, ← imp_and, empty, and_assoc]
  rw [integrity_iff, condition, ← reported, ← averaged, hear]
  split
  · dsimp only
    rw [pooled]
    exact and_congr_right fun _ => ⟨fun parts => parts.2, fun named =>
      ⟨fun _ _ absent => absurd absent List.not_mem_nil, named⟩⟩
  · dsimp only
    exact and_congr_right fun _ =>
      ⟨fun parts => parts.1, fun named => ⟨named, integrity.rolled⟩⟩

end Owned

def Owned.Reinitialises [Field K] [LinearOrder K] [FloorRing K] (owned : Owned K) :
    Action K → Prop
  | .receive args datagram =>
      owned.sync.concerns args datagram.packet = true → owned.Reinitialised datagram.packet
  | _ => True

structure TsfSync.KeepsSlots (sync after : TsfSync K) : Prop where
  counts : after.gdavgN = sync.gdavgN
  slots : ∃ rewrite : Peer K → Peer K, (∀ peer, (rewrite peer).mac = peer.mac) ∧
    (∀ peer quantity, peer.Absent quantity → (rewrite peer).Absent quantity) ∧
      after.peer.slots = sync.peer.slots.map rewrite

namespace TsfSync

variable [Field K] [LinearOrder K] [FloorRing K]

omit [Field K] [LinearOrder K] [FloorRing K] in
theorem KeepsSlots.of_eq {sync after : TsfSync K} (counts : after.gdavgN = sync.gdavgN)
    (peer : after.peer = sync.peer) : sync.KeepsSlots after :=
  { counts := counts
    slots := ⟨id, fun _ => rfl, fun _ _ absent => absent, by rw [peer, List.map_id]⟩ }

omit [Field K] [LinearOrder K] [FloorRing K] in
theorem reset_keepsSlots (sync : TsfSync K) : sync.KeepsSlots sync.reset :=
  { counts := rfl
    slots := by
      refine ⟨fun peer => { peer with mapValid := false }, fun _ => rfl, ?_, rfl⟩
      intro peer quantity absent
      cases quantity with
      | line => rfl
      | bias => exact absent
      | commonErr => exact absent
      | phase => exact absent
      | pipeline => exact absent
      | crystal => exact absent }

omit [FloorRing K] in
theorem trackTsfRate_gdavgN (sync : TsfSync K) (sample : TsfSample) :
    (sync.trackTsfRate sample).gdavgN = sync.gdavgN := by
  unfold trackTsfRate
  split
  · rfl
  · split
    · dsimp only
      split <;> rfl
    · rfl

theorem updateConsensus_keepsSlots (sync : TsfSync K) (localNowUs : Int) :
    sync.KeepsSlots (sync.updateConsensus localNowUs) := by
  unfold updateConsensus
  split
  · exact KeepsSlots.of_eq rfl rfl
  · dsimp only
    split
    · exact KeepsSlots.of_eq rfl rfl
    · exact KeepsSlots.of_eq rfl rfl

theorem setRenderPhase_keepsSlots (sync : TsfSync K) (phaseUs atUs : Int) :
    sync.KeepsSlots (sync.setRenderPhase phaseUs atUs) := by
  have recomputed (stored : TsfSync K) (counts : stored.gdavgN = sync.gdavgN)
      (peer : stored.peer = sync.peer) :
      sync.KeepsSlots (stored.recomputeGroupDelta atUs) := by
    obtain ⟨kept, same⟩ := stored.recomputeGroupDelta_averages atUs
    exact KeepsSlots.of_eq (same.1.trans counts) (kept.trans peer)
  rw [setRenderPhase]
  dsimp only
  split
  · apply recomputed
    · split <;> rfl
    · split <;> rfl
  · split
    · exact KeepsSlots.of_eq rfl rfl
    · exact KeepsSlots.of_eq rfl rfl

theorem commonErrConsensus_keepsSlots (sync : TsfSync K) (localNowUs : Int) :
    sync.KeepsSlots (sync.commonErrConsensus localNowUs).1 := by
  unfold commonErrConsensus
  dsimp only
  split
  · exact KeepsSlots.of_eq rfl rfl
  · split
    · exact KeepsSlots.of_eq rfl rfl
    · exact KeepsSlots.of_eq rfl rfl

end TsfSync

namespace Owned

variable [Field K] [LinearOrder K] [FloorRing K]

omit [LinearOrder K] [FloorRing K] in
theorem kept_integrity (owned : Owned K) (after : TsfSync K)
    (keeps : owned.sync.KeepsSlots after) (integrity : owned.Integrity) :
    ({ owned with sync := after } : Owned K).Integrity := by
  obtain ⟨rewrite, sameMac, absent, slots⟩ := keeps.slots
  rw [integrity_iff]
  dsimp only
  refine ⟨?_, ?_, integrity.rolled⟩
  · intro slot peer here quantity
    rw [slots, List.getElem?_map] at here
    obtain ⟨before, held, rfl⟩ := Option.map_eq_some_iff.mp here
    rw [sameMac]
    exact (integrity.reported slot before held quantity).imp_left (absent before quantity)
  · intro slot mac member
    have named := integrity.averaged slot mac member
    rw [slots, List.getElem?_map, Option.map_map]
    have macs : Peer.mac ∘ rewrite = Peer.mac := funext sameMac
    rw [macs]
    exact named

theorem step_keepsSlots (owned : Owned K) (action : Action K)
    (other : ∀ args datagram, action ≠ .receive args datagram) :
    ∃ after, owned.step action = { owned with sync := after } ∧ owned.sync.KeepsSlots after := by
  cases action with
  | reset => exact ⟨_, rfl, owned.sync.reset_keepsSlots⟩
  | note notes => exact ⟨_, rfl, TsfSync.KeepsSlots.of_eq rfl rfl⟩
  | receive args datagram => exact absurd rfl (other args datagram)
  | broadcast args timerUs sample =>
      refine ⟨_, rfl, ?_⟩
      cases sample with
      | none => exact TsfSync.KeepsSlots.of_eq rfl rfl
      | some now =>
          exact TsfSync.KeepsSlots.of_eq (owned.sync.trackTsfRate_gdavgN now)
            (owned.sync.trackTsfRate_peer now)
  | updateConsensus localNowUs => exact ⟨_, rfl, owned.sync.updateConsensus_keepsSlots localNowUs⟩
  | setRenderPhase phaseUs atUs => exact ⟨_, rfl, owned.sync.setRenderPhase_keepsSlots phaseUs atUs⟩
  | commonErrConsensus localNowUs =>
      exact ⟨_, rfl, owned.sync.commonErrConsensus_keepsSlots localNowUs⟩
  | setPeers peerAddrs => exact ⟨_, rfl, TsfSync.KeepsSlots.of_eq rfl rfl⟩

theorem step_counted (owned : Owned K) (action : Action K) (counted : owned.Counted) :
    (owned.step action).Counted := by
  by_cases beacon : ∃ args datagram, action = .receive args datagram
  · obtain ⟨args, datagram, rfl⟩ := beacon
    rw [step]
    split
    case isTrue concerned => exact owned.hear_counted args datagram concerned counted
    case isFalse => exact counted
  · obtain ⟨after, stepped, keeps⟩ := owned.step_keepsSlots action
      (fun args datagram same => beacon ⟨args, datagram, same⟩)
    rw [stepped, Counted, keeps.counts]
    exact counted

theorem step_integrity_iff (owned : Owned K) (action : Action K)
    (integrity : owned.Integrity) (counted : owned.Counted) :
    (owned.step action).Integrity ↔ owned.Reinitialises action := by
  by_cases beacon : ∃ args datagram, action = .receive args datagram
  · obtain ⟨args, datagram, rfl⟩ := beacon
    rw [step, Reinitialises]
    split
    case isTrue concerned =>
      rw [owned.hear_integrity_iff args datagram concerned integrity counted]
      exact ⟨fun condition _ => condition, fun condition => condition concerned⟩
    case isFalse ignored =>
      exact iff_of_true integrity fun concerned => absurd concerned ignored
  · have other : ∀ args datagram, action ≠ .receive args datagram :=
      fun args datagram same => beacon ⟨args, datagram, same⟩
    obtain ⟨after, stepped, keeps⟩ := owned.step_keepsSlots action other
    rw [stepped]
    refine iff_of_true (owned.kept_integrity after keeps integrity) ?_
    cases action with
    | receive args datagram => exact absurd rfl (other args datagram)
    | _ => trivial

omit [LinearOrder K] [FloorRing K] in
theorem create_integrity (plausibilityUs : Int) : (create plausibilityUs : Owned K).Integrity := by
  rw [integrity_iff]
  refine ⟨?_, ?_, ?_⟩
  · intro slot peer here
    cases here
  · intro slot mac member
    cases member
  · intro pair member
    cases member

/-- The slots keep their integrity through a run exactly when every device that takes over a slot
reports a bias and a common error in its first beacon, and no sample of the device before is left
in the average. -/
theorem slots_integrity_iff (plausibilityUs : Int) (actions : List (Action K)) :
    (Run.Visits step Integrity (create plausibilityUs) actions ↔
      Run.Along step Reinitialises (create plausibilityUs) actions) ∧
    ∀ (table : PeerTable K) (mac : Mac) (localNowUs : Int),
      findPeerSlot table.layout mac localNowUs =
        ((table.findPeer mac localNowUs).layout, table.takenSlot mac) := by
  refine ⟨?_, fun table mac localNowUs => table.findPeerSlot_layout mac localNowUs⟩
  refine Run.visits_iff_along_of_invariant step
    (fun owned => owned.Integrity ∧ owned.Counted) Integrity Reinitialises
    (fun _ both => both.1) ?_ ?_ _ actions ⟨create_integrity plausibilityUs, rfl⟩
  · intro owned action both
    exact owned.step_integrity_iff action both.1 both.2
  · intro owned action both allowed
    exact ⟨(owned.step_integrity_iff action both.1 both.2).mpr allowed,
      owned.step_counted action both.2⟩

end Owned

private def arrival (byte : UInt8) : Action Rat :=
  .receive
    { localNowUs := 1000000 * byte.toNat
      est := ⟨false, false, 0, 0⟩
      serverIdHash := 7
      streamIdHash := 0 }
    { packet :=
        { magic := tsfMagic
          version := tsfVersion
          bssid := Vector.replicate 6 0
          senderMac := Vector.replicate 6 byte
          noMapping := true
          serverIdHash := 7
          tsfBaseUs := 0
          tsfMinusServerUs := 0
          driftPpm := 0
          pipelineUs := pipelineUnknown
          renderPhaseUs := renderPhaseUnknown
          crystalPpm := none
          adoptedTmsAtBaseUs := tmsAdoptUnknown
          streamIdHash := 0
          renderPhaseAgeMs := 0
          renderBiasUs := int32Min
          commonErrUs := int32Min }
      fromAddr := 40
      sample := none }

private def arrivals : List (Action Rat) := [1, 2, 3, 4, 5, 6, 7, 8, 9].map arrival

/-- Nine devices that have nothing to report: the ninth takes the slot of the first, which then
has a bias of zero. -/
theorem ninth_device_reports_zero :
    ¬ ∀ (plausibilityUs : Int) (actions : List (Action Rat)),
      Run.Visits Owned.step Owned.Integrity (Owned.create plausibilityUs) actions := by
  intro always
  have last := Run.visits_last Owned.step Owned.Integrity _ _ (always 100000 arrivals)
  have taken : ((arrivals.foldl Owned.step (Owned.create 100000)).sync.peer.slots[0]?.map
      fun peer => peer.biasUs) = some 0 := by decide +kernel
  have silent : (arrivals.foldl Owned.step (Owned.create 100000)).origin 0 .bias = none := by
    decide +kernel
  obtain ⟨peer, here, zero⟩ := Option.map_eq_some_iff.mp taken
  rcases last.reported 0 peer here .bias with absent | named
  · rw [Peer.Absent, zero] at absent
    exact absurd absent (by decide)
  · rw [silent] at named
    cases named

end ClockSync
