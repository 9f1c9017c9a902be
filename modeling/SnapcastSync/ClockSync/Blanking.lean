import SnapcastSync.ClockSync.OffsetFilter
import SnapcastSync.ClockSync.Recomputation
import SnapcastSync.ClockSync.ServiceActions

/-! Values that a flag says are not there: the line of a device or a peer, the mapping, the rate
and its reference. No function of the timebase reads one, so a state with them blanked out
computes the same. -/

namespace ClockSync

open Rounding

variable {K : Type}

theorem kept_twice {α : Type} (valid : Bool) (value gone : α) :
    (bif valid then bif valid then value else gone else gone) =
      bif valid then value else gone := by
  cases valid with
  | false => rfl
  | true => rfl

theorem dropped_twice {α : Type} (unset : Bool) (value gone : α) :
    (bif unset then gone else bif unset then gone else value) =
      bif unset then gone else value := by
  cases unset with
  | false => rfl
  | true => rfl

namespace PeerTable

theorem eq_of_slots {left right : PeerTable K} (same : left.slots = right.slots) :
    left = right := by
  cases left
  cases right
  cases same
  rfl

section Rewrite

variable (table : PeerTable K) (rewrite : Peer K → Peer K)
    (sameMac : ∀ peer, (rewrite peer).mac = peer.mac)

theorem mapSlots_modify (mac : Mac) (write : Peer K → Peer K)
    (writeMac : ∀ peer, (write peer).mac = peer.mac)
    (commute : ∀ peer, rewrite (write peer) = write (rewrite peer)) :
    (table.modify mac write writeMac).mapSlots rewrite sameMac =
      (table.mapSlots rewrite sameMac).modify mac write writeMac := by
  apply eq_of_slots
  change (table.slots.map _).map rewrite = (table.slots.map rewrite).map _
  rw [List.map_map, List.map_map]
  apply List.map_congr_left
  intro peer _
  simp only [Function.comp_apply]
  rw [apply_ite rewrite, commute, sameMac]

theorem oldest_map (sameSeen : ∀ peer, (rewrite peer).seenUs = peer.seenUs) (head : Peer K)
    (tail : List (Peer K)) :
    oldest (rewrite head) (tail.map rewrite) = rewrite (oldest head tail) := by
  unfold oldest
  induction tail generalizing head with
  | nil => rfl
  | cons next rest ih =>
      rw [List.map_cons, List.foldl_cons, List.foldl_cons, sameSeen, sameSeen]
      by_cases staler : next.seenUs < head.seenUs
      · rw [if_pos staler, if_pos staler]
        exact ih next
      · rw [if_neg staler, if_neg staler]
        exact ih head

theorem mapSlots_findPeer [Zero K] (sameSeen : ∀ peer, (rewrite peer).seenUs = peer.seenUs) (mac : Mac)
    (localNowUs : Int) (fresh : rewrite (Peer.fresh mac localNowUs) = Peer.fresh mac localNowUs)
    (evicted : rewrite (Peer.evicted mac localNowUs) = Peer.evicted mac localNowUs) :
    (table.findPeer mac localNowUs).mapSlots rewrite sameMac =
      (table.mapSlots rewrite sameMac).findPeer mac localNowUs := by
  have listed : (table.mapSlots rewrite sameMac).slots = table.slots.map rewrite := rfl
  apply eq_of_slots
  change (table.findPeer mac localNowUs).slots.map rewrite = _
  by_cases known : ∃ peer ∈ table.slots, peer.mac = mac
  · have still : ∃ peer ∈ (table.mapSlots rewrite sameMac).slots, peer.mac = mac := by
      obtain ⟨peer, member, named⟩ := known
      exact ⟨rewrite peer, List.mem_map_of_mem member, (sameMac peer).trans named⟩
    unfold findPeer
    rw [dif_pos known, dif_pos still]
    rfl
  · have neither : ¬ ∃ peer ∈ (table.mapSlots rewrite sameMac).slots, peer.mac = mac := by
      rintro ⟨rewritten, member, named⟩
      obtain ⟨peer, present, rfl⟩ := List.mem_map.mp member
      exact known ⟨peer, present, (sameMac peer).symm.trans named⟩
    by_cases vacant : table.slots.length < maxPeers
    · have room : (table.mapSlots rewrite sameMac).slots.length < maxPeers := by
        rw [listed, List.length_map]
        exact vacant
      rw [findPeer_vacant table mac localNowUs known vacant,
        findPeer_vacant _ mac localNowUs neither room, List.map_append, List.map_singleton,
        fresh, listed]
    · have full : ¬ (table.mapSlots rewrite sameMac).slots.length < maxPeers := by
        rw [listed, List.length_map]
        exact vacant
      cases slots : table.slots with
      | nil =>
          rw [slots] at vacant
          exact absurd (Nat.zero_lt_succ 7) vacant
      | cons head tail =>
          have mapped : (table.mapSlots rewrite sameMac).slots =
              rewrite head :: tail.map rewrite := by
            rw [listed, slots, List.map_cons]
          rw [findPeer_full table mac localNowUs known vacant head tail slots,
            findPeer_full _ mac localNowUs neither full _ _ mapped, listed,
            oldest_map rewrite sameSeen, List.map_map, List.map_map]
          apply List.map_congr_left
          intro peer _
          simp only [Function.comp_apply]
          rw [apply_ite rewrite, evicted, sameMac, sameMac]

end Rewrite

end PeerTable

namespace OffsetFilter

def blank (filter : OffsetFilter K) : OffsetFilter K :=
  { filter with
    offsetRateRefTsfUs :=
      bif filter.offsetRateRefLocalUs == 0 then 0 else filter.offsetRateRefTsfUs }

theorem blank_of_running (filter : OffsetFilter K) (running : filter.offsetRateRefLocalUs ≠ 0) :
    filter.blank = filter := by
  unfold blank
  rw [beq_false_of_ne running, cond_false]

theorem blank_blank (filter : OffsetFilter K) : filter.blank.blank = filter.blank := by
  simp only [blank, dropped_twice]

theorem trackSandwich_blank (filter : OffsetFilter K) (sandwichUs : Int) :
    filter.blank.trackSandwich sandwichUs = (filter.trackSandwich sandwichUs).blank := by
  unfold trackSandwich
  dsimp only
  rw [apply_ite blank]
  rfl

end OffsetFilter

section Field

variable [Field K]

def Peer.withoutLine (peer : Peer K) : Peer K :=
  { peer with
    mapSeenUs := 0
    tsfBaseUs := 0
    tmsBaseUs := 0
    driftPpm := 0 }

/-- A slot without the line that nobody reads while it is not valid. -/
def Peer.blank (peer : Peer K) : Peer K :=
  if peer.mapValid then peer else peer.withoutLine

theorem Peer.blank_view {α : Type} (view : Peer K → α)
    (elsewhere : ∀ peer, view peer.withoutLine = view peer) (peer : Peer K) :
    view peer.blank = view peer := by
  unfold Peer.blank
  rw [apply_ite view, elsewhere, ite_self]

theorem Peer.blank_mac (peer : Peer K) : peer.blank.mac = peer.mac :=
  Peer.blank_view Peer.mac (fun _ => rfl) peer

theorem Peer.blank_write (write : Peer K → Peer K)
    (lines : ∀ peer, write peer.withoutLine = (write peer).withoutLine)
    (valid : ∀ peer, (write peer).mapValid = peer.mapValid) (peer : Peer K) :
    (write peer).blank = write peer.blank := by
  unfold Peer.blank
  rw [valid, apply_ite write, lines]

namespace TsfSync

/-- The state without the values whose own flags say that they are not there. -/
def blank (sync : TsfSync K) : TsfSync K :=
  { sync with
    peer := sync.peer.mapSlots Peer.blank Peer.blank_mac
    rateRefTsfUs := bif sync.rateRefLocalUs == 0 then 0 else sync.rateRefTsfUs
    tsfRatePpm := bif sync.tsfRateValid then sync.tsfRatePpm else 0
    pubTsfBase := bif sync.pubValid then sync.pubTsfBase else 0
    pubTmsBase := bif sync.pubValid then sync.pubTmsBase else 0
    pubDriftPpm := bif sync.pubValid then sync.pubDriftPpm else 0
    mapTsfBaseUs := bif sync.mappingValid then sync.mapTsfBaseUs else 0
    mapTsfMinusServerUs := bif sync.mappingValid then sync.mapTsfMinusServerUs else 0
    mapDriftPpm := bif sync.mappingValid then sync.mapDriftPpm else 0
    mapUpdatedLocalUs := bif sync.mappingValid then sync.mapUpdatedLocalUs else 0 }

theorem pairedPhase_blank (sync : TsfSync K) (localNowUs : Int) (peer : Peer K)
    (drift : sync.blank.mapDriftPpm = sync.mapDriftPpm) :
    pairedPhase sync.blank localNowUs peer.blank = pairedPhase sync localNowUs peer := by
  have same : pairedPhase sync.blank localNowUs peer = pairedPhase sync localNowUs peer := by
    unfold pairedPhase
    rw [drift]
    rfl
  rw [← same]
  unfold Peer.blank
  split
  · rfl
  · rfl

theorem storePeerPhase_blank (sync : TsfSync K) (mac : Mac) (phaseUs sampledUs : Int) :
    sync.blank.storePeerPhase mac phaseUs sampledUs =
      (sync.storePeerPhase mac phaseUs sampledUs).blank := by
  have slots := PeerTable.mapSlots_modify sync.peer Peer.blank Peer.blank_mac mac
    (fun peer => { peer with
      phaseUs := phaseUs
      phaseSeenUs := sampledUs })
    (fun _ => rfl) (Peer.blank_write _ (fun _ => rfl) fun _ => rfl)
  unfold storePeerPhase blank
  dsimp only
  rw [slots]

theorem pairAveragedDelta_blank (sync : TsfSync K) (index : Nat) (phaseUs sampledUs : Int)
    (drift : sync.blank.mapDriftPpm = sync.mapDriftPpm ∨ phaseUs = renderPhaseUnknown) :
    sync.blank.pairAveragedDelta index phaseUs sampledUs =
      (sync.pairAveragedDelta index phaseUs sampledUs).blank := by
  unfold pairAveragedDelta
  by_cases unknown : phaseUs = renderPhaseUnknown
  · rw [if_pos unknown, if_pos unknown]
  · rw [if_neg unknown, if_neg unknown]
    have nearest : sync.blank.nearestOwnPhase sampledUs = sync.nearestOwnPhase sampledUs := rfl
    rw [nearest]
    cases sync.nearestOwnPhase sampledUs with
    | none => rfl
    | some found =>
        have added : (fun sum : K => sum + (((phaseUs - found.2.phaseUs : Int) : K) -
              sync.blank.mapDriftPpm * ppm * found.1)) =
            fun sum => sum + (((phaseUs - found.2.phaseUs : Int) : K) -
              sync.mapDriftPpm * ppm * found.1) := by
          rw [drift.resolve_right unknown]
        dsimp only
        rw [apply_ite blank, added]
        rfl

theorem recordSender_blank (sync : TsfSync K) (args : ServiceArgs K) (datagram : Datagram K) :
    sync.blank.recordSender args datagram = (sync.recordSender args datagram).blank := by
  have seen : ∀ peer : Peer K, peer.blank.seenUs = peer.seenUs :=
    Peer.blank_view Peer.seenUs fun _ => rfl
  have found := PeerTable.mapSlots_findPeer sync.peer Peer.blank Peer.blank_mac seen
    datagram.packet.senderMac args.localNowUs rfl rfl
  unfold recordSender blank
  dsimp only
  rw [PeerTable.mapSlots_modify, found]
  exact Peer.blank_write _ (fun _ => rfl) fun _ => rfl

theorem storeLine_blank (sync : TsfSync K) (args : ServiceArgs K) (packet : TsfPacket K) :
    sync.blank.storeLine args packet = (sync.storeLine args packet).blank := by
  unfold storeLine blank
  dsimp only
  rw [PeerTable.mapSlots_modify]
  intro peer
  cases valid : peer.mapValid with
  | false => simp only [Peer.blank, valid, Bool.false_eq_true, if_false, if_true]; rfl
  | true => simp only [Peer.blank, valid, if_true]

theorem blank_drift_of_phaseOnly {before after : TsfSync K} (same : PhaseOnly before after)
    (drift : before.blank.mapDriftPpm = before.mapDriftPpm) :
    after.blank.mapDriftPpm = after.mapDriftPpm := by
  obtain ⟨valid, _, line⟩ := same.mapping
  have driftPpm : after.mapDriftPpm = before.mapDriftPpm := congrArg Line.driftPpm line
  unfold blank at drift ⊢
  dsimp only at drift ⊢
  rw [valid, driftPpm]
  exact drift

theorem mappingLive_blank (sync : TsfSync K) (localNowUs : Int) :
    sync.blank.mappingLive localNowUs = sync.mappingLive localNowUs := by
  unfold mappingLive blank
  cases sync.mappingValid with
  | false => rfl
  | true => rfl

theorem mapLine_blank (sync : TsfSync K) (valid : sync.mappingValid = true) :
    sync.blank.mapLine = sync.mapLine := by
  unfold mapLine blank
  dsimp only
  rw [valid, cond_true, cond_true, cond_true]

theorem blank_peers (table : PeerTable K) :
    (table.mapSlots Peer.blank Peer.blank_mac).mapSlots Peer.blank Peer.blank_mac =
      table.mapSlots Peer.blank Peer.blank_mac := by
  apply PeerTable.eq_of_slots
  change (table.slots.map Peer.blank).map Peer.blank = table.slots.map Peer.blank
  rw [List.map_map]
  apply List.map_congr_left
  intro peer _
  cases valid : peer.mapValid with
  | false => simp only [Function.comp_apply, Peer.blank, valid, Peer.withoutLine, if_false,
      Bool.false_eq_true]
  | true => simp only [Function.comp_apply, Peer.blank, valid, if_true]

theorem blank_refs (sync : TsfSync K) (refTsfUs refLocalUs : Int) :
    ({ sync.blank with
        rateRefTsfUs := refTsfUs
        rateRefLocalUs := refLocalUs } : TsfSync K).blank =
      ({ sync with
        rateRefTsfUs := refTsfUs
        rateRefLocalUs := refLocalUs } : TsfSync K).blank := by
  simp only [blank, blank_peers, kept_twice]

theorem blank_rate (sync : TsfSync K) (refTsfUs refLocalUs : Int) (ratePpm : K)
    (rateValid : Bool) :
    ({ sync.blank with
        rateRefTsfUs := refTsfUs
        rateRefLocalUs := refLocalUs
        tsfRatePpm := ratePpm
        tsfRateValid := rateValid } : TsfSync K).blank =
      ({ sync with
        rateRefTsfUs := refTsfUs
        rateRefLocalUs := refLocalUs
        tsfRatePpm := ratePpm
        tsfRateValid := rateValid } : TsfSync K).blank := by
  simp only [blank, blank_peers, kept_twice]

theorem blank_published (sync : TsfSync K) (pubTsfBase pubTmsBase : Int) (pubDriftPpm : K)
    (lastTxUs : Int) :
    ({ sync.blank with
        pubValid := true
        pubTsfBase := pubTsfBase
        pubTmsBase := pubTmsBase
        pubDriftPpm := pubDriftPpm
        lastTxUs := lastTxUs } : TsfSync K).blank =
      ({ sync with
        pubValid := true
        pubTsfBase := pubTsfBase
        pubTmsBase := pubTmsBase
        pubDriftPpm := pubDriftPpm
        lastTxUs := lastTxUs } : TsfSync K).blank := by
  simp only [blank, blank_peers, kept_twice, dropped_twice]

theorem blank_adopted (sync : TsfSync K) (consensusN timebaseEpoch : Nat)
    (tsfBaseUs tsfMinusServerUs : Int) (driftPpm : K) (localNowUs : Int) :
    (({ sync.blank with
        consensusN := consensusN
        timebaseEpoch := timebaseEpoch } : TsfSync K).adopt tsfBaseUs tsfMinusServerUs driftPpm
          localNowUs).blank =
      (({ sync with
        consensusN := consensusN
        timebaseEpoch := timebaseEpoch } : TsfSync K).adopt tsfBaseUs tsfMinusServerUs driftPpm
          localNowUs).blank := by
  simp only [blank, adopt, blank_peers, kept_twice, dropped_twice]

theorem blank_blank (sync : TsfSync K) : sync.blank.blank = sync.blank := by
  simp only [blank, blank_peers, kept_twice, dropped_twice]

theorem reset_blank (sync : TsfSync K) : sync.blank.reset.blank = sync.reset.blank := by
  have slots : (((sync.peer.mapSlots Peer.blank Peer.blank_mac).mapSlots
        (fun peer => { peer with mapValid := false }) fun _ => rfl).mapSlots
          Peer.blank Peer.blank_mac) =
      (sync.peer.mapSlots (fun peer => { peer with mapValid := false }) fun _ => rfl).mapSlots
        Peer.blank Peer.blank_mac := by
    apply PeerTable.eq_of_slots
    change ((sync.peer.slots.map Peer.blank).map _).map Peer.blank =
      (sync.peer.slots.map _).map Peer.blank
    rw [List.map_map, List.map_map, List.map_map]
    apply List.map_congr_left
    intro peer _
    cases valid : peer.mapValid with
    | false => simp only [Function.comp_apply, Peer.blank, valid, Peer.withoutLine,
        Bool.false_eq_true, if_false]
    | true => simp only [Function.comp_apply, Peer.blank, valid, if_true]
  simp only [blank, reset, slots, cond_false]
  rfl

end TsfSync

end Field

section Order

variable [Field K] [LinearOrder K]

namespace TsfSync

theorem trackTsfRate_blank (sync : TsfSync K) (sample : TsfSample) :
    (sync.blank.trackTsfRate sample).blank = (sync.trackTsfRate sample).blank := by
  have started : sync.blank.rateRefLocalUs = sync.rateRefLocalUs := rfl
  unfold trackTsfRate
  rw [started]
  by_cases unset : sync.rateRefLocalUs = 0
  · rw [if_pos unset, if_pos unset]
    exact blank_refs sync sample.tsfUs sample.localUs
  · rw [if_neg unset, if_neg unset]
    by_cases due : rateWindowUs ≤ sample.localUs - sync.rateRefLocalUs
    · rw [if_pos due, if_pos due]
      have reference : sync.blank.rateRefTsfUs = sync.rateRefTsfUs := by
        unfold blank
        dsimp only
        rw [beq_false_of_ne unset, cond_false]
      have valid : sync.blank.tsfRateValid = sync.tsfRateValid := rfl
      have averaged : ∀ measuredPpm : K,
          (if sync.tsfRateValid then (sync.blank.tsfRatePpm + measuredPpm) / ((2 : Nat) : K)
            else measuredPpm) =
          if sync.tsfRateValid then (sync.tsfRatePpm + measuredPpm) / ((2 : Nat) : K)
            else measuredPpm := by
        intro measuredPpm
        unfold blank
        cases sync.tsfRateValid with
        | false => rfl
        | true => rfl
      rw [reference, valid]
      dsimp only
      rw [averaged]
      split
      · exact blank_rate sync _ _ _ _
      · exact blank_refs sync _ _
    · rw [if_neg due, if_neg due]
      exact blank_blank sync

theorem publishedDrift_blank (sync : TsfSync K) (est : Estimate K) :
    sync.blank.publishedDrift est = sync.publishedDrift est := by
  unfold publishedDrift blank
  cases sync.tsfRateValid with
  | false => rfl
  | true => rfl

theorem pooledLines_blank (slots : List (Peer K)) (localNowUs : Int) :
    pooledLines (slots.map Peer.blank) localNowUs = pooledLines slots localNowUs := by
  have pooled : ∀ peer : Peer K, peer.blank.pooled localNowUs = peer.pooled localNowUs := by
    intro peer
    cases valid : peer.mapValid with
    | false =>
        simp only [Peer.blank, valid, Bool.false_eq_true, if_false, Peer.pooled,
          Peer.mapMissing, Peer.withoutLine, Bool.not_false, Bool.true_or, Bool.not_true,
          Bool.false_and]
    | true => simp only [Peer.blank, valid, if_true]
  unfold pooledLines
  rw [List.filter_map, List.map_map]
  simp only [Function.comp_def, pooled]
  apply List.map_congr_left
  intro peer member
  have valid := ((Peer.pooled_iff peer localNowUs).mp (List.mem_filter.mp member).2).1
  simp only [Peer.blank, valid, if_true]

theorem contributing_blank (sync : TsfSync K) (localNowUs : Int) :
    sync.blank.contributing localNowUs = sync.contributing localNowUs := by
  have own : (if sync.blank.pubValid then [sync.blank.pubLine] else []) =
      if sync.pubValid then [sync.pubLine] else [] := by
    unfold pubLine blank
    cases sync.pubValid with
    | false => rfl
    | true => rfl
  unfold contributing
  rw [own]
  exact congrArg _ (pooledLines_blank sync.peer.slots localNowUs)

end TsfSync

namespace OffsetFilter

theorem measuredRate_blank (filter : OffsetFilter K) (sample : TsfSample) :
    filter.blank.measuredRate sample = filter.measuredRate sample := by
  by_cases unset : filter.offsetRateRefLocalUs = 0
  · have blanked : filter.blank.measuredRate sample = none := if_pos unset
    have plain : filter.measuredRate sample = none := if_pos unset
    rw [blanked, plain]
  · rw [filter.blank_of_running unset]

theorem trackOffsetRate_blank (filter : OffsetFilter K) (sample : TsfSample) :
    (filter.blank.trackOffsetRate sample).blank = (filter.trackOffsetRate sample).blank := by
  by_cases unset : filter.offsetRateRefLocalUs = 0
  · unfold trackOffsetRate
    have started : filter.blank.offsetRateRefLocalUs = filter.offsetRateRefLocalUs := rfl
    rw [started, measuredRate_blank, if_pos (Or.inl unset), if_pos (Or.inl unset)]
    have unmeasured : filter.measuredRate sample = none := if_pos unset
    rw [unmeasured]
    rfl
  · rw [filter.blank_of_running unset]

theorem prepare_blank (filter : OffsetFilter K) (driftPpm : K) (read : TsfRead) :
    (filter.blank.prepare driftPpm read).blank = (filter.prepare driftPpm read).blank := by
  have forward : ∀ (early : OffsetFilter K) (localUs : Int),
      (early.feedForward driftPpm localUs).blank = early.blank.feedForward driftPpm localUs :=
    fun _ _ => rfl
  unfold prepare
  rw [trackSandwich_blank]
  dsimp only
  rw [forward, forward]
  have trust : (filter.trackSandwich read.sandwichUs).blank.trustUs =
      (filter.trackSandwich read.sandwichUs).trustUs := rfl
  rw [trust]
  by_cases trusted : read.sandwichUs ≤ (filter.trackSandwich read.sandwichUs).trustUs
  · rw [if_pos trusted, if_pos trusted, trackOffsetRate_blank]
  · rw [if_neg trusted, if_neg trusted, blank_blank]

theorem mirroredRate_blank (filter : OffsetFilter K) (read : TsfRead) :
    filter.blank.mirroredRate read = filter.mirroredRate read := by
  unfold mirroredRate
  rw [trackSandwich_blank]
  dsimp only
  rw [measuredRate_blank]
  rfl

theorem settle_blank (filter : OffsetFilter K) (rawUs sandwichUs : Int) :
    (filter.settle rawUs sandwichUs).blank = filter.blank.settle rawUs sandwichUs := by
  unfold settle
  rw [apply_ite blank, apply_ite blank]
  rfl

end OffsetFilter

end Order

variable [Field K] [LinearOrder K] [FloorRing K]

namespace TsfSync

theorem recomputeGroupDelta_blank (sync : TsfSync K) (localNowUs : Int)
    (drift : sync.blank.mapDriftPpm = sync.mapDriftPpm) :
    sync.blank.recomputeGroupDelta localNowUs = (sync.recomputeGroupDelta localNowUs).blank := by
  have paired : sync.blank.peer.slots.filterMap (pairedPhase sync.blank localNowUs) =
      sync.peer.slots.filterMap (pairedPhase sync localNowUs) := by
    change (sync.peer.slots.map Peer.blank).filterMap _ = _
    rw [List.filterMap_map]
    congr 1
    funext peer
    exact pairedPhase_blank sync localNowUs peer drift
  unfold recomputeGroupDelta
  rw [paired]
  simp only [apply_ite blank]
  rfl

theorem setRenderPhase_blank (sync : TsfSync K) (phaseUs atUs : Int)
    (drift : sync.blank.mapDriftPpm = sync.mapDriftPpm ∨ atUs = 0) :
    sync.blank.setRenderPhase phaseUs atUs = (sync.setRenderPhase phaseUs atUs).blank := by
  have recomputed : ∀ stored : TsfSync K, atUs ≠ 0 →
      stored.mappingValid = sync.mappingValid → stored.mapDriftPpm = sync.mapDriftPpm →
      stored.blank.recomputeGroupDelta atUs = (stored.recomputeGroupDelta atUs).blank := by
    intro stored sampled valid same
    apply recomputeGroupDelta_blank
    have kept := drift.resolve_right sampled
    unfold blank at kept ⊢
    dsimp only at kept ⊢
    rw [valid, same]
    exact kept
  have stored : sync.blank.phaseStored phaseUs atUs = (sync.phaseStored phaseUs atUs).blank := by
    unfold phaseStored
    simp only [apply_ite blank]
    rfl
  rw [setRenderPhase_eq, setRenderPhase_eq, stored, apply_ite blank]
  by_cases sampled : atUs = 0
  · rw [if_neg (not_not.mpr sampled), if_neg (not_not.mpr sampled)]
  · rw [if_pos sampled, if_pos sampled]
    apply recomputed _ sampled
    · unfold phaseStored
      dsimp only
      split
      · rfl
      · rfl
    · unfold phaseStored
      dsimp only
      split
      · rfl
      · rfl

theorem rollAveragedDelta_blank (sync : TsfSync K) (localNowUs : Int) :
    sync.blank.rollAveragedDelta localNowUs = (sync.rollAveragedDelta localNowUs).blank := by
  have rolled : sync.blank.gdavgRollUs = sync.gdavgRollUs := rfl
  unfold rollAveragedDelta
  rw [rolled]
  generalize (if sync.gdavgRollUs = 0 then localNowUs else sync.gdavgRollUs) = rollUs
  dsimp only
  rw [apply_ite blank]
  rfl

theorem recordPeerPhase_blank (sync : TsfSync K) (mac : Mac) (phaseUs sampledUs : Int)
    (drift : sync.blank.mapDriftPpm = sync.mapDriftPpm ∨ phaseUs = renderPhaseUnknown) :
    sync.blank.recordPeerPhase mac phaseUs sampledUs =
      (sync.recordPeerPhase mac phaseUs sampledUs).blank := by
  unfold recordPeerPhase
  by_cases unknown : phaseUs = renderPhaseUnknown
  · rw [if_pos unknown, if_pos unknown]
  · rw [if_neg unknown, if_neg unknown, storePeerPhase_blank]
    exact recomputeGroupDelta_blank _ sampledUs (drift.resolve_right unknown)

theorem receivePhase_blank (sync : TsfSync K) (args : ServiceArgs K) (packet : TsfPacket K)
    (drift : sync.blank.mapDriftPpm = sync.mapDriftPpm ∨ ¬ packet.CarriesPhase args) :
    sync.blank.receivePhase args packet = (sync.receivePhase args packet).blank := by
  have index : sync.blank.peer.slots.findIdx (fun peer => peer.mac = packet.senderMac) =
      sync.peer.slots.findIdx fun peer => peer.mac = packet.senderMac := by
    change (sync.peer.slots.map Peer.blank).findIdx _ = _
    rw [List.findIdx_map]
    simp only [Function.comp_def, Peer.blank_mac]
  unfold receivePhase
  rw [index, apply_ite blank]
  by_cases streamed : packet.streamIdHash ≠ 0 ∧ args.streamIdHash ≠ 0 ∧
      packet.streamIdHash = args.streamIdHash
  · rw [if_pos streamed, if_pos streamed]
    have known : sync.blank.mapDriftPpm = sync.mapDriftPpm ∨
        packet.renderPhaseUs = renderPhaseUnknown := by
      rcases drift with kept | silent
      · exact Or.inl kept
      · exact Or.inr (by_contra fun known => silent ⟨streamed, known⟩)
    have recorded : ∀ sampledUs, (sync.recordPeerPhase packet.senderMac packet.renderPhaseUs
        sampledUs).blank.mapDriftPpm = (sync.recordPeerPhase packet.senderMac
          packet.renderPhaseUs sampledUs).mapDriftPpm ∨
        packet.renderPhaseUs = renderPhaseUnknown := by
      intro sampledUs
      rcases known with kept | unknown
      · exact Or.inl (blank_drift_of_phaseOnly (recordPeerPhase_phaseOnly sync _ _ sampledUs) kept)
      · exact Or.inr unknown
    dsimp only
    rw [recordPeerPhase_blank _ _ _ _ known, pairAveragedDelta_blank _ _ _ _ (recorded _),
      rollAveragedDelta_blank]
  · rw [if_neg streamed, if_neg streamed]

theorem receive_blank (sync : TsfSync K) (args : ServiceArgs K) (datagram : Datagram K)
    (drift : sync.blank.mapDriftPpm = sync.mapDriftPpm ∨
      ¬ datagram.packet.CarriesPhase args) :
    sync.blank.receive args datagram = (sync.receive args datagram).blank := by
  have heard : sync.blank.hear args datagram = (sync.hear args datagram).blank := by
    unfold hear
    rw [recordSender_blank]
    exact receivePhase_blank _ args datagram.packet drift
  unfold receive
  rw [heard]
  dsimp only
  rw [apply_ite blank, apply_ite blank, storeLine_blank]
  rfl

theorem commonErrConsensus_blank (sync : TsfSync K) (localNowUs : Int) :
    sync.blank.commonErrConsensus localNowUs =
      ((sync.commonErrConsensus localNowUs).1.blank, (sync.commonErrConsensus localNowUs).2) := by
  have common := @Peer.blank_view K _ _ Peer.commonErrUs fun _ => rfl
  have seen := @Peer.blank_view K _ _ Peer.commonSeenUs fun _ => rfl
  have vals : sync.blank.commonErrVals localNowUs = sync.commonErrVals localNowUs := by
    unfold commonErrVals
    refine congrArg₂ (· ++ ·) rfl ?_
    change ((sync.peer.slots.map Peer.blank).filter _).map _ = _
    rw [List.filter_map, List.map_map]
    simp only [Function.comp_def, common, seen]
  unfold commonErrConsensus
  rw [vals]
  dsimp only
  split
  · rfl
  · have stamped : sync.blank.commonCAtUs = sync.commonCAtUs := rfl
    rw [stamped]
    split
    · rfl
    · rfl

theorem publishedTms_blank (sync : TsfSync K) (args : ServiceArgs K) (sample : TsfSample) :
    sync.blank.publishedTms args sample = sync.publishedTms args sample := by
  have valid : sync.blank.pubValid = sync.pubValid := rfl
  unfold publishedTms
  rw [valid]
  by_cases published : sync.pubValid = true
  · have line : sync.blank.pubLine = sync.pubLine := by
      unfold pubLine blank
      dsimp only
      rw [published, cond_true, cond_true, cond_true]
    have base : sync.blank.pubTsfBase = sync.pubTsfBase := congrArg Line.tsfBaseUs line
    rw [line, base]
  · rw [if_neg published, if_neg published]

theorem broadcast_blank (sync : TsfSync K) (args : ServiceArgs K) (timerUs : Int)
    (sample : Option TsfSample) :
    (sync.blank.broadcast args timerUs sample).1.blank =
        (sync.broadcast args timerUs sample).1.blank ∧
      (sync.blank.broadcast args timerUs sample).2 = (sync.broadcast args timerUs sample).2 := by
  cases sample with
  | none => exact ⟨blank_blank sync, rfl⟩
  | some now =>
      have tracked := trackTsfRate_blank sync now
      have tms : (sync.blank.trackTsfRate now).publishedTms args now =
          (sync.trackTsfRate now).publishedTms args now := by
        rw [← publishedTms_blank, tracked, publishedTms_blank]
      have drift : (sync.blank.trackTsfRate now).publishedDrift args.est =
          (sync.trackTsfRate now).publishedDrift args.est := by
        rw [← publishedDrift_blank, tracked, publishedDrift_blank]
      have adopted : (if sync.blank.mappingValid then sync.blank.mapLine.tmsAt now.tsfUs
            else tmsAdoptUnknown) =
          if sync.mappingValid then sync.mapLine.tmsAt now.tsfUs else tmsAdoptUnknown := by
        unfold mapLine blank
        cases sync.mappingValid with
        | false => rfl
        | true => rfl
      constructor
      · unfold broadcast
        dsimp only
        rw [tms, drift, ← blank_published, tracked, blank_published]
      · unfold broadcast
        dsimp only
        rw [tms, drift, adopted]
        rfl

theorem updateConsensus_blank (sync : TsfSync K) (localNowUs : Int) :
    (sync.blank.updateConsensus localNowUs).blank = (sync.updateConsensus localNowUs).blank := by
  have reference : consensusReference sync.blank localNowUs =
      consensusReference sync localNowUs := by
    rw [consensusReference_eq, consensusReference_eq, contributing_blank]
  have stepped : ∀ refTsf tmsTarget : Int,
      (sync.blank.mappingValid &&
          decide (mapStepReportUs < |tmsTarget - sync.blank.mapLine.tmsAt refTsf|)) =
        (sync.mappingValid &&
          decide (mapStepReportUs < |tmsTarget - sync.mapLine.tmsAt refTsf|)) := by
    intro refTsf tmsTarget
    unfold mapLine blank
    cases sync.mappingValid with
    | false => rfl
    | true => rfl
  unfold updateConsensus
  rw [reference]
  cases consensusReference sync localNowUs with
  | none =>
      have emptied := blank_blank ({ sync with consensusN := 0 } : TsfSync K)
      exact emptied
  | some refTsf =>
      have pool : consensusPool sync.blank localNowUs refTsf =
          consensusPool sync localNowUs refTsf := by
        rw [consensusPool_eq, consensusPool_eq, contributing_blank]
      have epoch : sync.blank.timebaseEpoch = sync.timebaseEpoch := rfl
      dsimp only
      rw [pool, stepped, epoch]
      by_cases empty : (consensusPool sync localNowUs refTsf).dv.length = 0
      · rw [if_pos empty, if_pos empty]
        exact blank_blank sync
      · rw [if_neg empty, if_neg empty]
        exact blank_adopted sync _ _ _ _ _ _

theorem sharedServerOffset_blank (sync : TsfSync K) (filter : OffsetFilter K)
    (localNowUs : Int) (read : Option TsfRead) :
    (sync.blank.sharedServerOffset filter.blank localNowUs read).1.blank =
        (sync.sharedServerOffset filter localNowUs read).1.blank ∧
      (sync.blank.sharedServerOffset filter.blank localNowUs read).2.1.blank =
        (sync.sharedServerOffset filter localNowUs read).2.1.blank ∧
      (sync.blank.sharedServerOffset filter.blank localNowUs read).2.2 =
        (sync.sharedServerOffset filter localNowUs read).2.2 := by
  have invalid : filter.blank.invalidate.blank = filter.invalidate.blank :=
    filter.invalidate.blank_blank
  unfold sharedServerOffset
  rw [mappingLive_blank]
  by_cases live : sync.mappingLive localNowUs = true
  · rw [if_pos live, if_pos live]
    have line := mapLine_blank sync (Bool.and_eq_true_iff.mp live).1
    have drift : sync.blank.mapDriftPpm = sync.mapDriftPpm := congrArg Line.driftPpm line
    cases read with
    | none =>
        have holds : filter.blank.holds localNowUs = filter.holds localNowUs := rfl
        have held : filter.blank.heldUs sync.mapDriftPpm localNowUs =
          filter.heldUs sync.mapDriftPpm localNowUs := rfl
        dsimp only
        rw [holds, drift, held]
        by_cases bridged : filter.holds localNowUs = true
        · rw [if_pos bridged, if_pos bridged]
          exact ⟨blank_blank sync, filter.blank_blank, rfl⟩
        · rw [if_neg bridged, if_neg bridged]
          exact ⟨blank_blank sync, invalid, rfl⟩
    | some taken =>
        dsimp only
        rw [line, drift]
        cases evaluateMapping (some taken.sample) sync.mapLine with
        | ok rawUs extrapolationUs =>
            have settled : ((filter.blank.prepare sync.mapDriftPpm taken).settle rawUs
                  taken.sandwichUs).blank =
                ((filter.prepare sync.mapDriftPpm taken).settle rawUs taken.sandwichUs).blank := by
              rw [OffsetFilter.settle_blank, OffsetFilter.prepare_blank,
                OffsetFilter.settle_blank]
            have value := congrArg OffsetFilter.offsetFilterUs settled
            have mirrored : (sync.blank.mirrorCrystal (filter.mirroredRate taken)).blank =
                (sync.mirrorCrystal (filter.mirroredRate taken)).blank := by
              cases filter.mirroredRate taken with
              | none => exact blank_blank sync
              | some rate =>
                  exact blank_blank ({ sync with pubCrystalPpm := some rate } : TsfSync K)
            rw [OffsetFilter.mirroredRate_blank]
            exact ⟨mirrored, settled, congrArg (some ∘ truncToInt) value⟩
        | noTsf => exact ⟨blank_blank sync, invalid, rfl⟩
        | ageClamp extrapolationUs => exact ⟨blank_blank sync, invalid, rfl⟩
  · rw [if_neg live, if_neg live]
    exact ⟨blank_blank sync, invalid, rfl⟩

end TsfSync

end ClockSync
