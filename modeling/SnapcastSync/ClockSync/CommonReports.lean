import SnapcastSync.ClockSync.ServiceActions

/-! The common errors that a device holds of its peers: what a beacon does to them, and that
nothing else the device does changes them. -/

namespace ClockSync

variable {K : Type}

def Peer.commonReport (peer : Peer K) : Option (Int × Int) :=
  if peer.commonErrUs = int32Min then none else some (peer.commonErrUs, peer.commonSeenUs)

namespace PeerTable

def reported (table : PeerTable K) (mac : Mac) : Option (Int × Int) :=
  (table.get? mac).bind Peer.commonReport

def macs (table : PeerTable K) : List Mac := table.slots.map Peer.mac

theorem mem_macs (table : PeerTable K) (mac : Mac) :
    mac ∈ table.macs ↔ ∃ peer ∈ table.slots, peer.mac = mac :=
  List.mem_map

theorem reported_of_mem (table : PeerTable K) (peer : Peer K) (member : peer ∈ table.slots) :
    table.reported peer.mac = peer.commonReport := by
  unfold reported
  rw [table.get?_eq_some peer member, Option.bind_some]

theorem macs_modify (table : PeerTable K) (target : Mac) (write : Peer K → Peer K)
    (sameMac : ∀ peer, (write peer).mac = peer.mac) :
    (table.modify target write sameMac).macs = table.macs := by
  unfold macs modify
  rw [List.map_map]
  apply List.map_congr_left
  intro peer _
  rw [Function.comp_apply]
  split
  · exact sameMac peer
  · rfl

theorem macs_mapSlots (table : PeerTable K) (write : Peer K → Peer K)
    (sameMac : ∀ peer, (write peer).mac = peer.mac) :
    (table.mapSlots write sameMac).macs = table.macs := by
  unfold macs mapSlots
  rw [List.map_map]
  exact List.map_congr_left fun peer _ => sameMac peer

theorem reported_modify (table : PeerTable K) (target mac : Mac) (write : Peer K → Peer K)
    (sameMac : ∀ peer, (write peer).mac = peer.mac)
    (sameReport : ∀ peer, (write peer).commonReport = peer.commonReport) :
    (table.modify target write sameMac).reported mac = table.reported mac := by
  unfold reported
  rw [get?_modify]
  by_cases here : mac = target
  · rw [if_pos here]
    cases table.get? mac with
    | none => rfl
    | some peer => exact sameReport peer
  · rw [if_neg here]

/-- A sender that has a slot, or finds one that was never used. -/
def Room (table : PeerTable K) (mac : Mac) : Prop :=
  mac ∈ table.macs ∨ table.slots.length < maxPeers

section FindPeer

variable [Zero K] (table : PeerTable K) (newcomer : Mac) (localNowUs : Int)

theorem macs_findPeer (room : table.Room newcomer) :
    (table.findPeer newcomer localNowUs).macs =
      if newcomer ∈ table.macs then table.macs else table.macs ++ [newcomer] := by
  by_cases known : newcomer ∈ table.macs
  · rw [if_pos known]
    unfold findPeer
    rw [dif_pos ((mem_macs table newcomer).mp known)]
  · rw [if_neg known]
    have unknown := (mem_macs table newcomer).not.mp known
    unfold macs
    rw [findPeer_vacant table newcomer localNowUs unknown (room.resolve_left known),
      List.map_append]
    rfl

theorem reported_findPeer (room : table.Room newcomer) (mac : Mac) :
    (table.findPeer newcomer localNowUs).reported mac = table.reported mac := by
  by_cases known : newcomer ∈ table.macs
  · unfold findPeer
    rw [dif_pos ((mem_macs table newcomer).mp known)]
  · have unknown := (mem_macs table newcomer).not.mp known
    unfold reported get?
    rw [findPeer_vacant table newcomer localNowUs unknown (room.resolve_left known),
      List.find?_append]
    cases table.slots.find? fun peer => peer.mac = mac with
    | some peer => rfl
    | none =>
        rw [Option.none_or, List.find?_singleton]
        split
        · rfl
        · rfl

end FindPeer

end PeerTable

namespace TsfSync

structure SameReports (before after : TsfSync K) : Prop where
  mac : after.myMac = before.myMac
  own : after.pubCommonErrUs = before.pubCommonErrUs
  heldUs : after.commonCUs = before.commonCUs
  heldAtUs : after.commonCAtUs = before.commonCAtUs
  macs : after.peer.macs = before.peer.macs
  reported : ∀ mac, after.peer.reported mac = before.peer.reported mac

theorem SameReports.refl (sync : TsfSync K) : SameReports sync sync :=
  ⟨rfl, rfl, rfl, rfl, rfl, fun _ => rfl⟩

theorem SameReports.trans {first second third : TsfSync K} (early : SameReports first second)
    (late : SameReports second third) : SameReports first third :=
  ⟨late.mac.trans early.mac, late.own.trans early.own, late.heldUs.trans early.heldUs,
    late.heldAtUs.trans early.heldAtUs, late.macs.trans early.macs,
    fun mac => (late.reported mac).trans (early.reported mac)⟩

theorem SameReports.of_eq {before after : TsfSync K} (mac : after.myMac = before.myMac)
    (own : after.pubCommonErrUs = before.pubCommonErrUs)
    (heldUs : after.commonCUs = before.commonCUs)
    (heldAtUs : after.commonCAtUs = before.commonCAtUs) (peer : after.peer = before.peer) :
    SameReports before after :=
  ⟨mac, own, heldUs, heldAtUs, by rw [peer], fun _ => by rw [peer]⟩

theorem SameReports.of_modify (sync : TsfSync K) (target : Mac) (write : Peer K → Peer K)
    (sameMac : ∀ peer, (write peer).mac = peer.mac)
    (sameReport : ∀ peer, (write peer).commonReport = peer.commonReport) :
    SameReports sync { sync with peer := sync.peer.modify target write sameMac } :=
  ⟨rfl, rfl, rfl, rfl, PeerTable.macs_modify _ _ _ sameMac,
    fun mac => PeerTable.reported_modify _ _ mac _ sameMac sameReport⟩

theorem reset_reports (sync : TsfSync K) : SameReports sync sync.reset := by
  have macs := PeerTable.macs_mapSlots sync.peer (fun peer => { peer with mapValid := false })
    fun _ => rfl
  refine ⟨rfl, rfl, rfl, rfl, macs, ?_⟩
  intro mac
  unfold reset PeerTable.reported
  rw [PeerTable.get?_mapSlots]
  cases sync.peer.get? mac with
  | none => rfl
  | some peer => rfl

variable [Field K] [LinearOrder K] [FloorRing K]

theorem recomputeGroupDelta_reports (sync : TsfSync K) (localNowUs : Int) :
    SameReports sync (sync.recomputeGroupDelta localNowUs) := by
  unfold recomputeGroupDelta
  split
  · exact SameReports.of_eq rfl rfl rfl rfl rfl
  · split
    · exact SameReports.refl sync
    · dsimp only
      split
      · split
        · exact SameReports.of_eq rfl rfl rfl rfl rfl
        · exact SameReports.refl sync
      · exact SameReports.of_eq rfl rfl rfl rfl rfl

theorem setRenderPhase_reports (sync : TsfSync K) (phaseUs atUs : Int) :
    SameReports sync (sync.setRenderPhase phaseUs atUs) := by
  unfold setRenderPhase
  dsimp only
  generalize ring : (if phaseUs ≠ renderPhaseUnknown ∧ atUs ≠ 0 then _ else _) = ringed
  have stored : SameReports sync ringed := by
    subst ring
    split
    · exact SameReports.of_eq rfl rfl rfl rfl rfl
    · exact SameReports.of_eq rfl rfl rfl rfl rfl
  split
  · exact stored.trans (recomputeGroupDelta_reports ringed atUs)
  · exact stored

theorem recordPeerPhase_reports (sync : TsfSync K) (mac : Mac) (phaseUs sampledUs : Int) :
    SameReports sync (sync.recordPeerPhase mac phaseUs sampledUs) := by
  unfold recordPeerPhase
  split
  · exact SameReports.refl sync
  · have stored : SameReports sync (sync.storePeerPhase mac phaseUs sampledUs) :=
      SameReports.of_modify sync mac _ _ fun _ => rfl
    exact stored.trans (recomputeGroupDelta_reports _ sampledUs)

omit [LinearOrder K] [FloorRing K] in
theorem pairAveragedDelta_reports (sync : TsfSync K) (index : Nat) (phaseUs sampledUs : Int) :
    SameReports sync (sync.pairAveragedDelta index phaseUs sampledUs) := by
  unfold pairAveragedDelta
  split
  · exact SameReports.refl sync
  · split
    · exact SameReports.refl sync
    · split
      · exact SameReports.of_eq rfl rfl rfl rfl rfl
      · exact SameReports.refl sync

theorem rollAveragedDelta_reports (sync : TsfSync K) (localNowUs : Int) :
    SameReports sync (sync.rollAveragedDelta localNowUs) := by
  unfold rollAveragedDelta
  generalize (if sync.gdavgRollUs = 0 then localNowUs else sync.gdavgRollUs) = rollUs
  dsimp only
  split
  · exact SameReports.of_eq rfl rfl rfl rfl rfl
  · exact SameReports.of_eq rfl rfl rfl rfl rfl

theorem receivePhase_reports (sync : TsfSync K) (args : ServiceArgs K) (packet : TsfPacket K) :
    SameReports sync (sync.receivePhase args packet) := by
  unfold receivePhase
  split
  · exact ((recordPeerPhase_reports _ _ _ _).trans (pairAveragedDelta_reports _ _ _ _)).trans
      (rollAveragedDelta_reports _ _)
  · exact SameReports.refl sync

theorem updateConsensus_reports (sync : TsfSync K) (localNowUs : Int) :
    SameReports sync (sync.updateConsensus localNowUs) := by
  unfold updateConsensus
  split
  · exact SameReports.of_eq rfl rfl rfl rfl rfl
  · dsimp only
    split
    · exact SameReports.refl sync
    · exact SameReports.of_eq rfl rfl rfl rfl rfl

omit [FloorRing K] in
theorem trackTsfRate_reports (sync : TsfSync K) (sample : TsfSample) :
    SameReports sync (sync.trackTsfRate sample) := by
  unfold trackTsfRate
  split
  · exact SameReports.of_eq rfl rfl rfl rfl rfl
  · split
    · dsimp only
      split
      · exact SameReports.of_eq rfl rfl rfl rfl rfl
      · exact SameReports.of_eq rfl rfl rfl rfl rfl
    · exact SameReports.refl sync

theorem broadcast_reports (sync : TsfSync K) (args : ServiceArgs K) (timerUs : Int)
    (sample : Option TsfSample) : SameReports sync (sync.broadcast args timerUs sample).1 := by
  cases sample with
  | none => exact SameReports.refl sync
  | some now =>
      have tracked := trackTsfRate_reports sync now
      exact ⟨tracked.mac, tracked.own, tracked.heldUs, tracked.heldAtUs, tracked.macs,
        tracked.reported⟩

/-- Neither a beacon, nor a consensus of the common error, nor a report of the own one. -/
def KeepsReports (sync : TsfSync K) : Action K → Prop
  | .note notes => notes.myMac = sync.myMac ∧ notes.pubCommonErrUs = sync.pubCommonErrUs
  | .receive _ _ => False
  | .commonErrConsensus _ => False
  | _ => True

theorem act_reports (sync : TsfSync K) (action : Action K) (keeps : sync.KeepsReports action) :
    SameReports sync (sync.act action) := by
  cases action with
  | reset => exact reset_reports sync
  | note notes => exact SameReports.of_eq keeps.1 keeps.2 rfl rfl rfl
  | receive args datagram => cases keeps
  | broadcast args timerUs sample => exact broadcast_reports sync args timerUs sample
  | updateConsensus localNowUs => exact updateConsensus_reports sync localNowUs
  | setRenderPhase phaseUs atUs => exact setRenderPhase_reports sync phaseUs atUs
  | commonErrConsensus localNowUs => cases keeps
  | setPeers peerAddrs => exact SameReports.of_eq rfl rfl rfl rfl rfl

/-- What is held of a sender once its beacon is in: an unknown common error is not kept. -/
def laterReport (held : Option (Int × Int)) (commonErrUs localNowUs : Int) :
    Option (Int × Int) :=
  if commonErrUs = int32Min then held else some (commonErrUs, localNowUs)

omit [LinearOrder K] [FloorRing K] in
theorem recordSender_reported (sync : TsfSync K) (args : ServiceArgs K) (datagram : Datagram K)
    (room : sync.peer.Room datagram.packet.senderMac) (mac : Mac) :
    (sync.recordSender args datagram).peer.reported mac =
      if mac = datagram.packet.senderMac then
        laterReport (sync.peer.reported mac) datagram.packet.commonErrUs args.localNowUs
      else sync.peer.reported mac := by
  have found := sync.peer.reported_findPeer datagram.packet.senderMac args.localNowUs room mac
  have known := sync.peer.findPeer_known datagram.packet.senderMac args.localNowUs
  unfold PeerTable.reported at found
  unfold recordSender PeerTable.reported
  dsimp only
  rw [PeerTable.get?_modify]
  by_cases here : mac = datagram.packet.senderMac
  · rw [if_pos here, if_pos here, ← found, here]
    cases slot : (sync.peer.findPeer datagram.packet.senderMac args.localNowUs).get?
        datagram.packet.senderMac with
    | none =>
        rw [slot] at known
        cases known
    | some peer =>
        rw [Option.map_some, Option.bind_some, Option.bind_some]
        unfold laterReport Peer.commonReport
        dsimp only
        by_cases unknown : datagram.packet.commonErrUs = int32Min
        · rw [if_pos unknown, if_neg (not_not.mpr unknown), if_neg (not_not.mpr unknown)]
        · rw [if_neg unknown, if_pos unknown, if_pos unknown, if_neg unknown]
  · rw [if_neg here, if_neg here]
    exact found

theorem receive_reports (sync : TsfSync K) (args : ServiceArgs K) (datagram : Datagram K)
    (concerned : sync.concerns args datagram.packet = true)
    (room : sync.peer.Room datagram.packet.senderMac) :
    (sync.receive args datagram).myMac = sync.myMac ∧
      (sync.receive args datagram).pubCommonErrUs = sync.pubCommonErrUs ∧
      (sync.receive args datagram).commonCUs = sync.commonCUs ∧
      (sync.receive args datagram).commonCAtUs = sync.commonCAtUs ∧
      (sync.receive args datagram).peer.macs =
        (if datagram.packet.senderMac ∈ sync.peer.macs then sync.peer.macs
          else sync.peer.macs ++ [datagram.packet.senderMac]) ∧
      ∀ mac, (sync.receive args datagram).peer.reported mac =
        if mac = datagram.packet.senderMac then
          laterReport (sync.peer.reported mac) datagram.packet.commonErrUs args.localNowUs
        else sync.peer.reported mac := by
  have phase := receivePhase_reports (sync.recordSender args datagram) args datagram.packet
  have kept : SameReports (sync.recordSender args datagram) (sync.receive args datagram) := by
    unfold receive
    rw [if_pos concerned]
    dsimp only
    split
    · have stored : SameReports (sync.hear args datagram)
          ((sync.hear args datagram).storeLine args datagram.packet) :=
        SameReports.of_modify _ _ _ _ fun _ => rfl
      exact SameReports.trans phase stored
    · exact phase
  have listed : (sync.recordSender args datagram).peer.macs =
      (if datagram.packet.senderMac ∈ sync.peer.macs then sync.peer.macs
        else sync.peer.macs ++ [datagram.packet.senderMac]) := by
    unfold recordSender
    rw [PeerTable.macs_modify]
    exact sync.peer.macs_findPeer datagram.packet.senderMac args.localNowUs room
  refine ⟨kept.mac, kept.own, kept.heldUs, kept.heldAtUs, kept.macs.trans listed, ?_⟩
  intro mac
  exact (kept.reported mac).trans (recordSender_reported sync args datagram room mac)

end TsfSync

end ClockSync
