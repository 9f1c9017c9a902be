import SnapcastSync.ClockSync.Beacon
import SnapcastSync.Lib.Run

/-! What happens to a published line afterwards: on its owner, which pools it for as long as
it counts it as published, and on a device that received its beacon, which pools it for as
long as the slot holds it, fresh and with a credible drift. -/

namespace ClockSync

open Rounding

variable {K : Type}

structure Notes (K : Type) where
  myMac : Mac
  haveMac : Bool
  bssid : Mac
  haveBssid : Bool
  pipelineUs : Int
  renderPhaseBroadcast : Bool
  pubRenderBiasUs : Int
  pubCommonErrUs : Int
  pubCrystalPpm : Option K
  pubServerIdHash : UInt32
  pubStreamIdHash : UInt32
  lastPhaseTxUs : Int
  lastServiceUs : Int
  lastConsensusUs : Int

/-- What a device does to its state, at the grain at which its lines change. -/
inductive Action (K : Type) where
  | reset
  | note (notes : Notes K)
  | receive (args : ServiceArgs K) (datagram : Datagram K)
  | broadcast (args : ServiceArgs K) (timerUs : Int) (sample : Option TsfSample)
  | updateConsensus (localNowUs : Int)
  | setRenderPhase (phaseUs atUs : Int)
  | commonErrConsensus (localNowUs : Int)
  | setPeers (peerAddrs : List Addr)

def Action.silent : Action K → Bool
  | .broadcast _ _ (some _) => false
  | _ => true

def Action.isReset : Action K → Bool
  | .reset => true
  | _ => false

namespace TsfSync

def notes (sync : TsfSync K) : Notes K :=
  { myMac := sync.myMac
    haveMac := sync.haveMac
    bssid := sync.bssid
    haveBssid := sync.haveBssid
    pipelineUs := sync.pipelineUs
    renderPhaseBroadcast := sync.renderPhaseBroadcast
    pubRenderBiasUs := sync.pubRenderBiasUs
    pubCommonErrUs := sync.pubCommonErrUs
    pubCrystalPpm := sync.pubCrystalPpm
    pubServerIdHash := sync.pubServerIdHash
    pubStreamIdHash := sync.pubStreamIdHash
    lastPhaseTxUs := sync.lastPhaseTxUs
    lastServiceUs := sync.lastServiceUs
    lastConsensusUs := sync.lastConsensusUs }

def note (sync : TsfSync K) (notes : Notes K) : TsfSync K :=
  { sync with
    myMac := notes.myMac
    haveMac := notes.haveMac
    bssid := notes.bssid
    haveBssid := notes.haveBssid
    pipelineUs := notes.pipelineUs
    renderPhaseBroadcast := notes.renderPhaseBroadcast
    pubRenderBiasUs := notes.pubRenderBiasUs
    pubCommonErrUs := notes.pubCommonErrUs
    pubCrystalPpm := notes.pubCrystalPpm
    pubServerIdHash := notes.pubServerIdHash
    pubStreamIdHash := notes.pubStreamIdHash
    lastPhaseTxUs := notes.lastPhaseTxUs
    lastServiceUs := notes.lastServiceUs
    lastConsensusUs := notes.lastConsensusUs }

variable [Field K] [LinearOrder K] [FloorRing K]

def act (sync : TsfSync K) : Action K → TsfSync K
  | .reset => sync.reset
  | .note notes => sync.note notes
  | .receive args datagram => sync.receive args datagram
  | .broadcast args timerUs sample => (sync.broadcast args timerUs sample).1
  | .updateConsensus localNowUs => sync.updateConsensus localNowUs
  | .setRenderPhase phaseUs atUs => sync.setRenderPhase phaseUs atUs
  | .commonErrConsensus localNowUs => (sync.commonErrConsensus localNowUs).1
  | .setPeers peerAddrs => { sync with roster := sync.roster.setPeers peerAddrs }

def PoolsOwn (sync : TsfSync K) (line : Line K) : Prop :=
  sync.pubValid = true ∧ sync.pubLine = line

def PoolsFrom (sync : TsfSync K) (mac : Mac) (line : Line K) (localNowUs : Int) : Prop :=
  ∃ peer ∈ sync.peer.slots, peer.mac = mac ∧ peer.pooled localNowUs = true ∧ peer.line = line

/-- A state that some actions lead to; none of them sends a mapping if `quiet`. -/
def Leads (quiet : Prop) (sync after : TsfSync K) : Prop :=
  ∃ actions : List (Action K), after = actions.foldl act sync ∧
    (quiet → ∀ action ∈ actions, action.silent = true)

end TsfSync

section Leads

variable [Field K] [LinearOrder K] [FloorRing K]

namespace TsfSync

theorem Leads.refl (quiet : Prop) (sync : TsfSync K) : Leads quiet sync sync :=
  ⟨[], rfl, by intro _ action member; cases member⟩

theorem Leads.trans {quiet : Prop} {first second third : TsfSync K}
    (early : Leads quiet first second) (late : Leads quiet second third) :
    Leads quiet first third := by
  obtain ⟨before, rfl, beforeSilent⟩ := early
  obtain ⟨after, rfl, afterSilent⟩ := late
  refine ⟨before ++ after, (List.foldl_append).symm, ?_⟩
  intro still action member
  rcases List.mem_append.mp member with here | there
  · exact beforeSilent still action here
  · exact afterSilent still action there

theorem Leads.single {quiet : Prop} (sync : TsfSync K) (action : Action K)
    (silent : quiet → action.silent = true) : Leads quiet sync (sync.act action) :=
  ⟨[action], rfl, by
    intro still other member
    rw [List.mem_singleton.mp member]
    exact silent still⟩

theorem leads_note (quiet : Prop) (sync : TsfSync K) (notes : Notes K) :
    Leads quiet sync (sync.note notes) :=
  Leads.single sync (.note notes) fun _ => rfl

theorem leads_associate (quiet : Prop) (sync : TsfSync K) (bssid : Mac) :
    Leads quiet sync (sync.associate bssid) := by
  unfold associate
  by_cases same : (sync.haveBssid && decide (bssid = sync.bssid)) = true
  · rw [if_pos same]
    exact Leads.refl quiet sync
  · rw [if_neg same]
    cases sync.haveBssid with
    | false => exact leads_note quiet sync { sync.notes with bssid := bssid, haveBssid := true }
    | true =>
        have left : Leads quiet sync sync.reset := Leads.single sync .reset fun _ => rfl
        exact left.trans
          (leads_note quiet sync.reset { sync.reset.notes with bssid := bssid, haveBssid := true })

theorem leads_listen (quiet : Prop) (sync : TsfSync K) (args : ServiceArgs K)
    (inbox : List (Datagram K)) : Leads quiet sync (sync.listen args inbox) := by
  unfold listen
  induction inbox generalizing sync with
  | nil => exact Leads.refl quiet sync
  | cons datagram rest ih =>
      have here : Leads quiet sync (sync.receive args datagram) :=
        Leads.single sync (.receive args datagram) fun _ => rfl
      exact here.trans (ih (sync.receive args datagram))

theorem leads_named (quiet : Prop) (sync : TsfSync K) (args : ServiceArgs K)
    (ownMac : Option Mac) : Leads quiet sync ((sync.beginTick args).learnMac ownMac) := by
  have ticked : Leads quiet sync (sync.beginTick args) :=
    leads_note quiet sync { sync.notes with
      lastServiceUs := args.localNowUs
      pubServerIdHash := args.serverIdHash
      pubStreamIdHash := args.streamIdHash }
  refine ticked.trans ?_
  unfold learnMac
  split
  · rename_i mac _
    exact leads_note quiet _ { (sync.beginTick args).notes with haveMac := true, myMac := mac }
  · exact Leads.refl quiet _

theorem leads_disassociate (quiet : Prop) (sync : TsfSync K) :
    Leads quiet sync sync.disassociate := by
  unfold disassociate
  by_cases joined : sync.haveBssid = true
  · rw [if_pos joined]
    have left : Leads quiet sync sync.reset := Leads.single sync .reset fun _ => rfl
    exact left.trans (leads_note quiet sync.reset { sync.reset.notes with haveBssid := false })
  · rw [if_neg joined]
    exact Leads.refl quiet sync

theorem leads_consensusTick (quiet : Prop) (sync : TsfSync K) (localNowUs : Int) :
    Leads quiet sync (sync.consensusTick localNowUs) := by
  unfold consensusTick
  by_cases due : consensusIntervalUs ≤ localNowUs - sync.lastConsensusUs
  · rw [if_pos due]
    have noted := leads_note quiet sync { sync.notes with lastConsensusUs := localNowUs }
    exact noted.trans (Leads.single _ (.updateConsensus localNowUs) fun _ => rfl)
  · rw [if_neg due]
    exact Leads.refl quiet sync

theorem leads_publish (sync : TsfSync K) (args : ServiceArgs K) (radio : Radio K) :
    Leads ((sync.publish args radio).2 = none) sync (sync.publish args radio).1 := by
  unfold publish
  by_cases trusted : (args.est.valid && args.est.mature) = true
  · rw [if_pos trusted]
    by_cases due : beaconIntervalUs ≤ args.localNowUs - sync.lastTxUs
    · rw [if_pos due]
      apply Leads.single sync (.broadcast args radio.timerUs radio.sample)
      intro quiet
      cases sampled : radio.sample with
      | none => rfl
      | some sample =>
          rw [sampled] at quiet
          cases quiet
    · rw [if_neg due]
      exact Leads.refl _ sync
  · rw [if_neg trusted]
    split
    · exact leads_note _ sync { sync.notes with lastPhaseTxUs := args.localNowUs }
    · exact Leads.refl _ sync

theorem leads_service (sync : TsfSync K) (args : ServiceArgs K) (radio : Radio K) :
    Leads ((sync.service args radio).2 = none) sync (sync.service args radio).1 := by
  have named := fun quiet => leads_named quiet sync args radio.ownMac
  unfold service
  dsimp only
  split
  · exact Leads.refl _ sync
  · split
    · exact named _
    · cases radio.apBssid with
      | none => exact (named _).trans (leads_disassociate _ _)
      | some bssid =>
          have joined := fun quiet => (named quiet).trans (leads_associate quiet _ bssid)
          dsimp only
          split
          · exact joined _
          · have heard := fun quiet =>
              (joined quiet).trans (leads_listen quiet _ args radio.inbox)
            exact ((heard _).trans (leads_publish _ args radio)).trans
              (leads_consensusTick _ _ args.localNowUs)

end TsfSync

end Leads

def Peer.held (peer : Peer K) : Option (Int × Line K) :=
  if peer.mapValid then some (peer.mapSeenUs, peer.line) else none

namespace PeerTable

def heldLine (table : PeerTable K) (mac : Mac) : Option (Int × Line K) :=
  (table.get? mac).bind Peer.held

def evicts (table : PeerTable K) (newcomer mac : Mac) : Bool :=
  !(table.slots.any fun peer => decide (peer.mac = newcomer)) &&
    decide (maxPeers ≤ table.slots.length) &&
      match table.slots with
      | [] => false
      | head :: tail => decide ((oldest head tail).mac = mac)

theorem heldLine_modify (table : PeerTable K) (target mac : Mac) (write : Peer K → Peer K)
    (sameMac : ∀ peer, (write peer).mac = peer.mac)
    (sameHeld : ∀ peer, (write peer).held = peer.held) :
    (table.modify target write sameMac).heldLine mac = table.heldLine mac := by
  unfold heldLine
  rw [get?_modify]
  by_cases here : mac = target
  · rw [if_pos here]
    cases table.get? mac with
    | none => rfl
    | some peer => exact sameHeld peer
  · rw [if_neg here]

theorem get?_modify_isSome (table : PeerTable K) (target mac : Mac) (write : Peer K → Peer K)
    (sameMac : ∀ peer, (write peer).mac = peer.mac) :
    ((table.modify target write sameMac).get? mac).isSome = (table.get? mac).isSome := by
  rw [get?_modify]
  split
  · rw [Option.isSome_map]
  · rfl

theorem oldest_mem (head : Peer K) (tail : List (Peer K)) : oldest head tail ∈ head :: tail := by
  unfold oldest
  induction tail generalizing head with
  | nil => exact List.mem_singleton_self head
  | cons next rest ih =>
      rw [List.foldl_cons]
      by_cases staler : next.seenUs < head.seenUs
      · rw [if_pos staler]
        exact List.mem_cons_of_mem head (ih next)
      · rw [if_neg staler]
        rcases List.mem_cons.mp (ih head) with first | later
        · rw [first]
          exact List.mem_cons_self
        · exact List.mem_cons_of_mem head (List.mem_cons_of_mem next later)

private theorem find?_replace (slots : List (Peer K)) (victim mac : Mac) (newcomer : Peer K)
    (absent : ∀ peer ∈ slots, peer.mac ≠ newcomer.mac) (apart : newcomer.mac ≠ victim)
    (empty : newcomer.held = none) :
    ((slots.map fun peer => if peer.mac = victim then newcomer else peer).find?
        fun peer => peer.mac = mac).bind Peer.held =
      if victim = mac then none else (slots.find? fun peer => peer.mac = mac).bind Peer.held := by
  by_cases here : victim = mac
  · rw [if_pos here]
    have gone : (slots.map fun peer => if peer.mac = victim then newcomer else peer).find?
        (fun peer => peer.mac = mac) = none := by
      rw [List.find?_eq_none]
      intro replaced member
      obtain ⟨peer, _, rfl⟩ := List.mem_map.mp member
      rw [decide_eq_true_eq, ← here]
      by_cases same : peer.mac = victim
      · rw [if_pos same]
        exact apart
      · rw [if_neg same]
        exact same
    rw [gone]
    rfl
  · rw [if_neg here]
    by_cases new : newcomer.mac = mac
    · have unknown : slots.find? (fun peer => peer.mac = mac) = none := by
        rw [List.find?_eq_none]
        intro peer member
        rw [decide_eq_true_eq, ← new]
        exact absent peer member
      rw [unknown]
      cases found : (slots.map fun peer => if peer.mac = victim then newcomer else peer).find?
          fun peer => peer.mac = mac with
      | none => rfl
      | some replaced =>
          obtain ⟨peer, member, same⟩ := List.mem_map.mp (List.mem_of_find?_eq_some found)
          have named := List.find?_some found
          rw [decide_eq_true_eq] at named
          by_cases atVictim : peer.mac = victim
          · rw [if_pos atVictim] at same
            rw [← same]
            exact empty
          · rw [if_neg atVictim] at same
            exact absurd (by rw [same, named, new]) (absent peer member)
    · have macs : ∀ peer : Peer K,
          ((if peer.mac = victim then newcomer else peer).mac = mac ↔ peer.mac = mac) := by
        intro peer
        by_cases atVictim : peer.mac = victim
        · rw [if_pos atVictim, atVictim]
          exact iff_of_false new here
        · rw [if_neg atVictim]
      rw [List.find?_map]
      simp only [Function.comp_def, macs]
      cases found : slots.find? fun peer => peer.mac = mac with
      | none => rfl
      | some peer =>
          have named := List.find?_some found
          rw [decide_eq_true_eq] at named
          have other : peer.mac ≠ victim := fun same => here (same.symm.trans named)
          rw [Option.map_some, if_neg other]

section FindPeer

variable [Zero K] (table : PeerTable K) (newcomer : Mac) (localNowUs : Int)

theorem findPeer_vacant (unknown : ¬ ∃ peer ∈ table.slots, peer.mac = newcomer)
    (vacant : table.slots.length < maxPeers) :
    (table.findPeer newcomer localNowUs).slots =
      table.slots ++ [Peer.fresh newcomer localNowUs] := by
  unfold findPeer
  rw [dif_neg unknown, dif_pos vacant]

theorem findPeer_full (unknown : ¬ ∃ peer ∈ table.slots, peer.mac = newcomer)
    (full : ¬ table.slots.length < maxPeers) (head : Peer K) (tail : List (Peer K))
    (listed : table.slots = head :: tail) :
    (table.findPeer newcomer localNowUs).slots =
      table.slots.map fun peer =>
        if peer.mac = (oldest head tail).mac then Peer.evicted newcomer localNowUs else peer := by
  unfold findPeer
  rw [dif_neg unknown, dif_neg full]
  split
  · rename_i empty
    rw [empty] at listed
    cases listed
  · rename_i first rest same
    rw [listed] at same
    cases same
    rfl

theorem heldLine_findPeer (mac : Mac) :
    (table.findPeer newcomer localNowUs).heldLine mac =
      if table.evicts newcomer mac then none else table.heldLine mac := by
  unfold evicts
  by_cases known : ∃ peer ∈ table.slots, peer.mac = newcomer
  · have listed : (table.slots.any fun peer => decide (peer.mac = newcomer)) = true := by
      obtain ⟨peer, member, same⟩ := known
      exact List.any_eq_true.mpr ⟨peer, member, decide_eq_true same⟩
    have same : table.findPeer newcomer localNowUs = table := by
      unfold findPeer
      rw [dif_pos known]
    rw [same, listed]
    rfl
  · have absent : ∀ peer ∈ table.slots, peer.mac ≠ newcomer :=
      fun peer member same => known ⟨peer, member, same⟩
    have unlisted : (table.slots.any fun peer => decide (peer.mac = newcomer)) = false := by
      rw [List.any_eq_false]
      intro peer member
      rw [decide_eq_true_eq]
      exact absent peer member
    rw [unlisted, Bool.not_false, Bool.true_and]
    by_cases vacant : table.slots.length < maxPeers
    · rw [decide_eq_false (not_le.mpr vacant), Bool.false_and]
      unfold heldLine get?
      rw [findPeer_vacant table newcomer localNowUs known vacant, List.find?_append]
      cases table.slots.find? fun peer => peer.mac = mac with
      | some peer => rfl
      | none =>
          rw [Option.none_or, List.find?_singleton]
          split <;> rfl
    · rw [decide_eq_true (not_lt.mp vacant), Bool.true_and]
      cases listed : table.slots with
      | nil =>
          rw [listed] at vacant
          exact absurd (Nat.zero_lt_succ 7) vacant
      | cons head tail =>
          have member : oldest head tail ∈ table.slots := by
            rw [listed]
            exact oldest_mem head tail
          unfold heldLine get?
          rw [findPeer_full table newcomer localNowUs known vacant head tail listed,
            find?_replace table.slots _ mac _ absent (Ne.symm (absent _ member)) rfl]
          simp only [decide_eq_true_eq]

theorem findPeer_known : ((table.findPeer newcomer localNowUs).get? newcomer).isSome = true := by
  unfold get?
  rw [List.find?_isSome]
  by_cases known : ∃ peer ∈ table.slots, peer.mac = newcomer
  · obtain ⟨peer, member, same⟩ := known
    refine ⟨peer, ?_, decide_eq_true same⟩
    unfold findPeer
    rw [dif_pos ⟨peer, member, same⟩]
    exact member
  · by_cases vacant : table.slots.length < maxPeers
    · rw [findPeer_vacant table newcomer localNowUs known vacant]
      exact ⟨Peer.fresh newcomer localNowUs, List.mem_append_right _ List.mem_cons_self,
        decide_eq_true rfl⟩
    · cases listed : table.slots with
      | nil =>
          rw [listed] at vacant
          exact absurd (Nat.zero_lt_succ 7) vacant
      | cons head tail =>
          have member : oldest head tail ∈ table.slots := by
            rw [listed]
            exact oldest_mem head tail
          rw [findPeer_full table newcomer localNowUs known vacant head tail listed]
          refine ⟨Peer.evicted newcomer localNowUs, ?_, decide_eq_true rfl⟩
          exact List.mem_map.mpr ⟨oldest head tail, member, if_pos rfl⟩

end FindPeer

end PeerTable

namespace TsfSync

structure SameLines (before after : TsfSync K) : Prop where
  valid : after.pubValid = before.pubValid
  line : after.pubLine = before.pubLine
  roster : after.roster = before.roster
  known : ∀ mac, (after.peer.get? mac).isSome = (before.peer.get? mac).isSome
  held : ∀ mac, after.peer.heldLine mac = before.peer.heldLine mac

theorem SameLines.refl (sync : TsfSync K) : SameLines sync sync :=
  ⟨rfl, rfl, rfl, fun _ => rfl, fun _ => rfl⟩

theorem SameLines.trans {first second third : TsfSync K} (early : SameLines first second)
    (late : SameLines second third) : SameLines first third :=
  ⟨late.valid.trans early.valid, late.line.trans early.line, late.roster.trans early.roster,
    fun mac => (late.known mac).trans (early.known mac),
    fun mac => (late.held mac).trans (early.held mac)⟩

theorem SameLines.of_eq {before after : TsfSync K} (valid : after.pubValid = before.pubValid)
    (line : after.pubLine = before.pubLine) (roster : after.roster = before.roster)
    (peer : after.peer = before.peer) : SameLines before after :=
  ⟨valid, line, roster, fun mac => by rw [peer], fun mac => by rw [peer]⟩

variable [Field K] [LinearOrder K] [FloorRing K]

theorem recomputeGroupDelta_lines (sync : TsfSync K) (localNowUs : Int) :
    SameLines sync (sync.recomputeGroupDelta localNowUs) := by
  unfold recomputeGroupDelta
  split
  · exact SameLines.of_eq rfl rfl rfl rfl
  · split
    · exact SameLines.refl sync
    · dsimp only
      split
      · split
        · exact SameLines.of_eq rfl rfl rfl rfl
        · exact SameLines.refl sync
      · exact SameLines.of_eq rfl rfl rfl rfl

theorem setRenderPhase_lines (sync : TsfSync K) (phaseUs atUs : Int) :
    SameLines sync (sync.setRenderPhase phaseUs atUs) := by
  unfold setRenderPhase
  dsimp only
  generalize ring : (if phaseUs ≠ renderPhaseUnknown ∧ atUs ≠ 0 then _ else _) = ringed
  have stored : SameLines sync ringed := by
    subst ring
    split
    · exact SameLines.of_eq rfl rfl rfl rfl
    · exact SameLines.of_eq rfl rfl rfl rfl
  split
  · exact stored.trans (recomputeGroupDelta_lines ringed atUs)
  · exact stored

theorem recordPeerPhase_lines (sync : TsfSync K) (mac : Mac) (phaseUs sampledUs : Int) :
    SameLines sync (sync.recordPeerPhase mac phaseUs sampledUs) := by
  unfold recordPeerPhase
  split
  · exact SameLines.refl sync
  · have stored : SameLines sync (sync.storePeerPhase mac phaseUs sampledUs) := by
      refine ⟨rfl, rfl, rfl, ?_, ?_⟩
      · intro other
        unfold storePeerPhase
        rw [PeerTable.get?_modify_isSome]
      · intro other
        unfold storePeerPhase
        rw [PeerTable.heldLine_modify]
        exact fun _ => rfl
    exact stored.trans (recomputeGroupDelta_lines _ sampledUs)

omit [LinearOrder K] [FloorRing K] in
theorem pairAveragedDelta_lines (sync : TsfSync K) (index : Nat) (phaseUs sampledUs : Int) :
    SameLines sync (sync.pairAveragedDelta index phaseUs sampledUs) := by
  unfold pairAveragedDelta
  split
  · exact SameLines.refl sync
  · split
    · exact SameLines.refl sync
    · split
      · exact SameLines.of_eq rfl rfl rfl rfl
      · exact SameLines.refl sync

theorem rollAveragedDelta_lines (sync : TsfSync K) (localNowUs : Int) :
    SameLines sync (sync.rollAveragedDelta localNowUs) := by
  unfold rollAveragedDelta
  generalize (if sync.gdavgRollUs = 0 then localNowUs else sync.gdavgRollUs) = rollUs
  dsimp only
  split
  · exact SameLines.of_eq rfl rfl rfl rfl
  · exact SameLines.of_eq rfl rfl rfl rfl

theorem receivePhase_lines (sync : TsfSync K) (args : ServiceArgs K) (packet : TsfPacket K) :
    SameLines sync (sync.receivePhase args packet) := by
  unfold receivePhase
  split
  · exact ((recordPeerPhase_lines _ _ _ _).trans (pairAveragedDelta_lines _ _ _ _)).trans
      (rollAveragedDelta_lines _ _)
  · exact SameLines.refl sync

theorem commonErrConsensus_lines (sync : TsfSync K) (localNowUs : Int) :
    SameLines sync (sync.commonErrConsensus localNowUs).1 := by
  unfold commonErrConsensus
  dsimp only
  split
  · exact SameLines.of_eq rfl rfl rfl rfl
  · split
    · exact SameLines.refl sync
    · exact SameLines.refl sync

theorem updateConsensus_lines (sync : TsfSync K) (localNowUs : Int) :
    SameLines sync (sync.updateConsensus localNowUs) := by
  unfold updateConsensus
  split
  · exact SameLines.of_eq rfl rfl rfl rfl
  · dsimp only
    split
    · exact SameLines.refl sync
    · exact SameLines.of_eq rfl rfl rfl rfl

theorem hear_lines (sync : TsfSync K) (args : ServiceArgs K) (datagram : Datagram K) :
    (sync.hear args datagram).pubValid = sync.pubValid ∧
      (sync.hear args datagram).pubLine = sync.pubLine ∧
      ((sync.hear args datagram).peer.get? datagram.packet.senderMac).isSome = true ∧
      ∀ mac, (sync.hear args datagram).peer.heldLine mac =
        if sync.peer.evicts datagram.packet.senderMac mac then none
        else sync.peer.heldLine mac := by
  have phase := receivePhase_lines (sync.recordSender args datagram) args datagram.packet
  refine ⟨phase.valid, phase.line, ?_, ?_⟩
  · rw [hear, phase.known, recordSender, PeerTable.get?_modify_isSome]
    exact sync.peer.findPeer_known datagram.packet.senderMac args.localNowUs
  · intro mac
    rw [hear, phase.held, recordSender, PeerTable.heldLine_modify, PeerTable.heldLine_findPeer]
    exact fun _ => rfl

theorem receive_pub (sync : TsfSync K) (args : ServiceArgs K) (datagram : Datagram K) :
    (sync.receive args datagram).pubValid = sync.pubValid ∧
      (sync.receive args datagram).pubLine = sync.pubLine := by
  obtain ⟨valid, line, _, _⟩ := hear_lines sync args datagram
  unfold receive
  dsimp only
  split
  · split
    · exact ⟨valid, line⟩
    · exact ⟨valid, line⟩
  · exact ⟨rfl, rfl⟩

theorem receive_held (sync : TsfSync K) (args : ServiceArgs K) (datagram : Datagram K)
    (mac : Mac) :
    (sync.receive args datagram).peer.heldLine mac =
      if sync.concerns args datagram.packet = true then
        if (sync.hear args datagram).acceptsLine args datagram = true ∧
            mac = datagram.packet.senderMac then
          some (args.localNowUs, datagram.packet.line)
        else if sync.peer.evicts datagram.packet.senderMac mac then none
        else sync.peer.heldLine mac
      else sync.peer.heldLine mac := by
  obtain ⟨_, _, known, held⟩ := hear_lines sync args datagram
  unfold receive
  dsimp only
  by_cases concerned : sync.concerns args datagram.packet = true
  · rw [if_pos concerned, if_pos concerned]
    by_cases accepted : (sync.hear args datagram).acceptsLine args datagram = true
    · rw [if_pos accepted]
      by_cases sender : mac = datagram.packet.senderMac
      · rw [if_pos ⟨accepted, sender⟩, sender]
        obtain ⟨peer, found⟩ := Option.isSome_iff_exists.mp known
        unfold PeerTable.heldLine storeLine
        rw [PeerTable.get?_modify, if_pos rfl, found]
        rfl
      · rw [if_neg (fun both => sender both.2), ← held mac]
        unfold PeerTable.heldLine storeLine
        rw [PeerTable.get?_modify, if_neg sender]
    · rw [if_neg accepted, if_neg (fun both => accepted both.1), held mac]
  · rw [if_neg concerned, if_neg concerned]

omit [Field K] [LinearOrder K] [FloorRing K] in
theorem reset_held (sync : TsfSync K) (mac : Mac) : sync.reset.peer.heldLine mac = none := by
  unfold reset PeerTable.heldLine
  rw [PeerTable.get?_mapSlots]
  cases sync.peer.get? mac <;> rfl

omit [FloorRing K] in
theorem trackTsfRate_peer (sync : TsfSync K) (sample : TsfSample) :
    (sync.trackTsfRate sample).peer = sync.peer := by
  unfold trackTsfRate
  split
  · rfl
  · split
    · dsimp only
      split <;> rfl
    · rfl

theorem broadcast_peer (sync : TsfSync K) (args : ServiceArgs K) (timerUs : Int)
    (sample : Option TsfSample) : (sync.broadcast args timerUs sample).1.peer = sync.peer := by
  cases sample with
  | none => rfl
  | some now => exact trackTsfRate_peer sync now

theorem act_pub (sync : TsfSync K) (action : Action K) (silent : action.silent = true)
    (kept : action.isReset = false) :
    (sync.act action).pubValid = sync.pubValid ∧ (sync.act action).pubLine = sync.pubLine := by
  cases action with
  | reset => cases kept
  | note notes => exact ⟨rfl, rfl⟩
  | receive args datagram => exact receive_pub sync args datagram
  | broadcast args timerUs sample =>
      cases sample with
      | none => exact ⟨rfl, rfl⟩
      | some now => cases silent
  | updateConsensus localNowUs =>
      have same := updateConsensus_lines sync localNowUs
      exact ⟨same.valid, same.line⟩
  | setRenderPhase phaseUs atUs =>
      have same := setRenderPhase_lines sync phaseUs atUs
      exact ⟨same.valid, same.line⟩
  | commonErrConsensus localNowUs =>
      have same := commonErrConsensus_lines sync localNowUs
      exact ⟨same.valid, same.line⟩
  | setPeers peerAddrs => exact ⟨rfl, rfl⟩

theorem unpublished_stays (sync : TsfSync K) (actions : List (Action K))
    (silent : ∀ action ∈ actions, action.silent = true) (unpublished : sync.pubValid = false) :
    (actions.foldl act sync).pubValid = false := by
  induction actions generalizing sync with
  | nil => exact unpublished
  | cons action rest ih =>
      have restSilent := fun other member => silent other (List.mem_cons_of_mem action member)
      apply ih (sync.act action) restSilent
      cases reset : action.isReset with
      | false =>
          rw [(act_pub sync action (silent action List.mem_cons_self) reset).1]
          exact unpublished
      | true =>
          cases action with
          | reset => rfl
          | _ => cases reset

/-- The owner pools its line until it resets, however long it has been silent. -/
theorem poolsOwn_iff (sync : TsfSync K) (line : Line K) (actions : List (Action K))
    (silent : ∀ action ∈ actions, action.silent = true) (published : sync.PoolsOwn line) :
    (actions.foldl act sync).PoolsOwn line ↔ ∀ action ∈ actions, action.isReset = false := by
  induction actions generalizing sync with
  | nil =>
      refine iff_of_true published ?_
      intro action member
      cases member
  | cons action rest ih =>
      have restSilent := fun other member => silent other (List.mem_cons_of_mem action member)
      rw [List.foldl_cons, List.forall_mem_cons]
      cases reset : action.isReset with
      | false =>
          obtain ⟨valid, same⟩ := act_pub sync action (silent action List.mem_cons_self) reset
          rw [ih (sync.act action) restSilent
            ⟨valid.trans published.1, same.trans published.2⟩]
          exact (and_iff_right rfl).symm
      | true =>
          have gone : (sync.act action).pubValid = false := by
            cases action with
            | reset => rfl
            | _ => cases reset
          refine iff_of_false ?_ fun kept => Bool.noConfusion kept.1
          rintro ⟨valid, _⟩
          rw [unpublished_stays (sync.act action) rest restSilent gone] at valid
          cases valid

omit [FloorRing K] in
theorem poolsFrom_iff (sync : TsfSync K) (mac : Mac) (line : Line K) (localNowUs : Int) :
    sync.PoolsFrom mac line localNowUs ↔
      |line.driftPpm| ≤ maxPlausibleDriftPpm ∧
        ∃ since, sync.peer.heldLine mac = some (since, line) ∧
          localNowUs - since ≤ peerMapStaleUs := by
  unfold PoolsFrom PeerTable.heldLine
  constructor
  · rintro ⟨peer, member, rfl, pooled, rfl⟩
    obtain ⟨valid, fresh, credible⟩ := (peer.pooled_iff localNowUs).mp pooled
    refine ⟨credible, peer.mapSeenUs, ?_, fresh⟩
    rw [sync.peer.get?_eq_some peer member, Option.bind_some, Peer.held, if_pos valid]
  · rintro ⟨credible, since, held, fresh⟩
    obtain ⟨peer, found, offered⟩ := Option.bind_eq_some_iff.mp held
    obtain ⟨member, named⟩ := sync.peer.get?_mem mac peer found
    unfold Peer.held at offered
    by_cases valid : peer.mapValid = true
    · rw [if_pos valid, Option.some_inj, Prod.mk.injEq] at offered
      obtain ⟨rfl, rfl⟩ := offered
      exact ⟨peer, member, named, (peer.pooled_iff localNowUs).mpr ⟨valid, fresh, credible⟩, rfl⟩
    · rw [if_neg valid] at offered
      cases offered

end TsfSync

/-- A device with what has become of one beacon on it: whether it arrived, and the instant
since which the device holds its line, as the beacons and resets since then leave it. -/
structure Reception (K : Type) where
  sync : TsfSync K
  received : Bool
  heldSince : Option Int

namespace Reception

variable [Field K] [LinearOrder K] [FloorRing K]

def start (sync : TsfSync K) : Reception K :=
  { sync := sync
    received := false
    heldSince := none }

def arrives (packet : TsfPacket K) (reception : Reception K) : Action K → Bool
  | .receive args datagram =>
      reception.sync.concerns args datagram.packet && !datagram.packet.noMapping &&
        decide (datagram.packet.senderMac = packet.senderMac) &&
          decide (datagram.packet.line = packet.line)
  | _ => false

def keeps (packet : TsfPacket K) (reception : Reception K) : Action K → Option Int
  | .reset => none
  | .receive args datagram =>
      if reception.sync.concerns args datagram.packet then
        if (reception.sync.hear args datagram).acceptsLine args datagram = true ∧
            packet.senderMac = datagram.packet.senderMac then
          if datagram.packet.line = packet.line then some args.localNowUs else none
        else if reception.sync.peer.evicts datagram.packet.senderMac packet.senderMac then none
        else reception.heldSince
      else reception.heldSince
  | _ => reception.heldSince

def step (packet : TsfPacket K) (reception : Reception K) (action : Action K) : Reception K :=
  { sync := reception.sync.act action
    received := reception.received || reception.arrives packet action
    heldSince := reception.keeps packet action }

def Faithful (packet : TsfPacket K) (reception : Reception K) : Prop :=
  ∀ since, reception.heldSince = some since ↔
    reception.sync.peer.heldLine packet.senderMac = some (since, packet.line)

theorem step_faithful (packet : TsfPacket K) (reception : Reception K) (action : Action K)
    (faithful : reception.Faithful packet) : (reception.step packet action).Faithful packet := by
  intro since
  have unchanged : ∀ after : TsfSync K, TsfSync.SameLines reception.sync after →
      (reception.heldSince = some since ↔
        after.peer.heldLine packet.senderMac = some (since, packet.line)) := by
    intro after same
    rw [same.held]
    exact faithful since
  cases action with
  | reset =>
      change none = some since ↔
        reception.sync.reset.peer.heldLine packet.senderMac = some (since, packet.line)
      rw [TsfSync.reset_held]
      exact iff_of_false (fun absent => by cases absent) fun absent => by cases absent
  | note notes => exact unchanged _ (TsfSync.SameLines.of_eq rfl rfl rfl rfl)
  | receive args datagram =>
      change reception.keeps packet (.receive args datagram) = some since ↔
        (reception.sync.receive args datagram).peer.heldLine packet.senderMac =
          some (since, packet.line)
      rw [TsfSync.receive_held]
      simp only [keeps]
      by_cases concerned : reception.sync.concerns args datagram.packet = true
      · rw [if_pos concerned, if_pos concerned]
        by_cases stored : (reception.sync.hear args datagram).acceptsLine args datagram = true ∧
            packet.senderMac = datagram.packet.senderMac
        · rw [if_pos stored, if_pos stored, Option.some_inj, Prod.mk.injEq]
          by_cases same : datagram.packet.line = packet.line
          · rw [if_pos same, Option.some_inj, and_iff_left same]
          · rw [if_neg same]
            exact iff_of_false (fun absent => by cases absent) fun both => same both.2
        · rw [if_neg stored, if_neg stored]
          by_cases evicted : reception.sync.peer.evicts datagram.packet.senderMac
              packet.senderMac = true
          · rw [if_pos evicted, if_pos evicted]
            exact iff_of_false (fun absent => by cases absent) fun absent => by cases absent
          · rw [if_neg evicted, if_neg evicted]
            exact faithful since
      · rw [if_neg concerned, if_neg concerned]
        exact faithful since
  | broadcast args timerUs sample =>
      change reception.heldSince = some since ↔
        (reception.sync.broadcast args timerUs sample).1.peer.heldLine packet.senderMac =
          some (since, packet.line)
      rw [TsfSync.broadcast_peer]
      exact faithful since
  | updateConsensus localNowUs => exact unchanged _ (TsfSync.updateConsensus_lines _ _)
  | setRenderPhase phaseUs atUs => exact unchanged _ (TsfSync.setRenderPhase_lines _ _ _)
  | commonErrConsensus localNowUs => exact unchanged _ (TsfSync.commonErrConsensus_lines _ _)
  | setPeers peerAddrs => exact faithful since

theorem run_faithful (packet : TsfPacket K) (reception : Reception K)
    (actions : List (Action K)) (faithful : reception.Faithful packet) :
    (actions.foldl (step packet) reception).Faithful packet := by
  have visits := Run.visits_of_preserved (step packet) (Faithful packet)
    (step_faithful packet) reception actions faithful
  exact Run.visits_last (step packet) (Faithful packet) reception actions visits

/-- At a device that did not hold the line before, what is pooled follows the account. -/
theorem poolsFrom_iff_held (packet : TsfPacket K) (sync : TsfSync K) (actions : List (Action K))
    (unheard : ∀ since,
      sync.peer.heldLine packet.senderMac ≠ some (since, packet.line)) (localNowUs : Int) :
    (actions.foldl (step packet) (start sync)).sync.PoolsFrom packet.senderMac packet.line
        localNowUs ↔
      |packet.driftPpm| ≤ maxPlausibleDriftPpm ∧
        ∃ since, (actions.foldl (step packet) (start sync)).heldSince = some since ∧
          localNowUs - since ≤ peerMapStaleUs := by
  have fresh : (start sync).Faithful packet := by
    intro since
    exact iff_of_false (fun absent => by cases absent) (unheard since)
  have faithful := run_faithful packet (start sync) actions fresh
  rw [TsfSync.poolsFrom_iff]
  change _ ∧ _ ↔ _
  simp only [faithful _]
  rfl

end Reception

/-- A device of the group: its state before the beacon went out, what it does from then on,
and the instant on its clock at which its consensus looks at the line. -/
structure Hearer (K : Type) where
  sync : TsfSync K
  actions : List (Action K)
  nowUs : Int

section Symmetry

variable [Field K] [LinearOrder K] [FloorRing K]

def Hearer.reception (hearer : Hearer K) (packet : TsfPacket K) : Reception K :=
  hearer.actions.foldl (Reception.step packet) (Reception.start hearer.sync)

/-- The owner counts the line of its latest beacon exactly when everyone who received that
beacon does. -/
def Symmetric (owner : TsfSync K) (packet : TsfPacket K) (hearers : List (Hearer K)) : Prop :=
  owner.PoolsOwn packet.line ↔
    ∀ hearer ∈ hearers, (hearer.reception packet).received = true →
      (hearer.reception packet).sync.PoolsFrom packet.senderMac packet.line hearer.nowUs

def Hearer.Retains (hearer : Hearer K) (packet : TsfPacket K) : Prop :=
  |packet.driftPpm| ≤ maxPlausibleDriftPpm ∧
    ∃ since, (hearer.reception packet).heldSince = some since ∧
      hearer.nowUs - since ≤ peerMapStaleUs

/-- The owner's side knows neither a drift bound nor an age: its only condition is that it
was not reset. So the two sides agree just when the hearers' conditions come to the same. -/
theorem symmetric_iff_retained (owner published : TsfSync K) (args : ServiceArgs K)
    (timerUs : Int) (sample : Option TsfSample) (packet : TsfPacket K)
    (sent : owner.broadcast args timerUs sample = (published, some packet))
    (later : List (Action K)) (latest : ∀ action ∈ later, action.silent = true)
    (hearers : List (Hearer K))
    (unheard : ∀ hearer ∈ hearers, ∀ since,
      hearer.sync.peer.heldLine packet.senderMac ≠ some (since, packet.line)) :
    Symmetric (later.foldl TsfSync.act published) packet hearers ↔
      ((∀ action ∈ later, action.isReset = false) ↔
        ∀ hearer ∈ hearers, (hearer.reception packet).received = true →
          hearer.Retains packet) := by
  have publishes : published.PoolsOwn packet.line := by
    cases sample with
    | none => cases sent
    | some now =>
        cases sent
        exact ⟨rfl, rfl⟩
  unfold Symmetric
  rw [TsfSync.poolsOwn_iff published packet.line later latest publishes]
  apply iff_congr Iff.rfl
  apply forall₂_congr
  intro hearer member
  exact imp_congr_right fun _ =>
    Reception.poolsFrom_iff_held packet hearer.sync hearer.actions (unheard hearer member) _

end Symmetry

private def station (byte : UInt8) : TsfSync Rat :=
  { TsfSync.create 100000 with
    haveMac := true
    myMac := Vector.replicate 6 byte }

private def trusted : ServiceArgs Rat :=
  { localNowUs := 1000000
    est := ⟨true, true, 0, 0⟩
    serverIdHash := 7
    streamIdHash := 0 }

private def reading : TsfSample := ⟨1000000, 1000000⟩

private def announced : TsfSync Rat × Option (TsfPacket Rat) :=
  (station 1).broadcast trusted 1000000 (some reading)

private def announcement : TsfPacket Rat := announced.2.get rfl

private def listener (nowUs : Int) : Hearer Rat :=
  { sync := station 2
    actions := [.receive trusted ⟨announcement, 42, some reading⟩]
    nowUs := nowUs }

private theorem listener_unheard (nowUs : Int) :
    ∀ hearer ∈ [listener nowUs], ∀ since,
      hearer.sync.peer.heldLine announcement.senderMac ≠ some (since, announcement.line) := by
  intro hearer member since held
  rw [List.mem_singleton.mp member] at held
  cases held

private theorem listener_held (nowUs : Int) :
    ((listener nowUs).reception announcement).heldSince = some 1000000 := by
  change ((listener 0).reception announcement).heldSince = some 1000000
  decide +kernel

private theorem announced_sent :
    (station 1).broadcast trusted 1000000 (some reading) = (announced.1, some announcement) := rfl

theorem symmetric_iff_retained_fresh : Symmetric announced.1 announcement [listener 2000000] := by
  refine (symmetric_iff_retained (station 1) announced.1 trusted 1000000 (some reading)
    announcement announced_sent [] (fun _ absent => by cases absent) [listener 2000000]
    (listener_unheard 2000000)).mpr (iff_of_true (fun _ absent => by cases absent) ?_)
  intro hearer member _
  rw [List.mem_singleton.mp member]
  exact ⟨by decide +kernel, 1000000, listener_held 2000000, by decide⟩

/-- Six seconds after its last beacon the owner still pools its line, and nobody else does. -/
theorem asymmetric_when_silent :
    ¬ ∀ (owner published : TsfSync Rat) (args : ServiceArgs Rat) (timerUs : Int)
      (sample : Option TsfSample) (packet : TsfPacket Rat),
      owner.broadcast args timerUs sample = (published, some packet) →
      ∀ later : List (Action Rat), (∀ action ∈ later, action.silent = true) →
      ∀ hearers : List (Hearer Rat),
      (∀ hearer ∈ hearers, ∀ since,
        hearer.sync.peer.heldLine packet.senderMac ≠ some (since, packet.line)) →
      Symmetric (later.foldl TsfSync.act published) packet hearers := by
  intro always
  have symmetric := always (station 1) announced.1 trusted 1000000 (some reading) announcement
    announced_sent [] (fun _ absent => by cases absent) [listener 7000000]
    (listener_unheard 7000000)
  have pooled := symmetric.mp ⟨rfl, rfl⟩ (listener 7000000) List.mem_cons_self
    (by decide +kernel)
  obtain ⟨_, since, held, fresh⟩ :=
    (Reception.poolsFrom_iff_held announcement (station 2) _
      (listener_unheard 7000000 _ List.mem_cons_self) 7000000).mp pooled
  have aged := Option.some_inj.mp ((listener_held 7000000).symm.trans held)
  rw [← aged] at fresh
  exact absurd fresh (by decide)

end ClockSync
