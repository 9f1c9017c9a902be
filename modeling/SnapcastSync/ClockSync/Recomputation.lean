import SnapcastSync.ClockSync.Contribution

/-! Where the group delta is recomputed: on a sample of the own phase and on a beacon with a
phase of the stream, and nowhere else; and which samples a recomputation pairs. -/

namespace ClockSync

open Rounding

variable {K : Type}

def TsfPacket.sampledUs (packet : TsfPacket K) (localNowUs : Int) : Int :=
  if packet.renderPhaseAgeMs = 65535 then localNowUs
  else localNowUs - packet.renderPhaseAgeMs * 1000

def TsfPacket.CarriesPhase (packet : TsfPacket K) (args : ServiceArgs K) : Prop :=
  (packet.streamIdHash ≠ 0 ∧ args.streamIdHash ≠ 0 ∧
    packet.streamIdHash = args.streamIdHash) ∧ packet.renderPhaseUs ≠ renderPhaseUnknown

instance (packet : TsfPacket K) (args : ServiceArgs K) : Decidable (packet.CarriesPhase args) :=
  inferInstanceAs (Decidable (_ ∧ _))

variable [Field K] [LinearOrder K] [FloorRing K]

namespace TsfSync

def pairedSlots (sync : TsfSync K) (localNowUs : Int) : List (Peer K) :=
  sync.peer.slots.filter fun peer => (pairedPhase sync localNowUs peer).isSome

/-- The latest of the samples that a recomputation pairs, the own one among them; none where it
pairs nothing. -/
def pairingUs (sync : TsfSync K) (localNowUs : Int) : Option Int :=
  if sync.renderPhaseUs = renderPhaseUnknown ∨ sync.renderPhaseAtUs = 0 ∨
      sync.pairedSlots localNowUs = [] then none
  else
    some ((sync.pairedSlots localNowUs).foldl (fun latest peer => max latest peer.phaseSeenUs)
      sync.renderPhaseAtUs)

/-- `set_render_phase_us` before its recomputation. -/
def phaseStored (sync : TsfSync K) (phaseUs atUs : Int) : TsfSync K :=
  let stored := { sync with
    renderPhaseUs := phaseUs
    renderPhaseAtUs := atUs }
  if phaseUs ≠ renderPhaseUnknown ∧ atUs ≠ 0 then
    { stored with
      ownPh := stored.ownPh.setIfInBounds stored.ownPhIdx ⟨phaseUs, atUs⟩
      ownPhIdx := (stored.ownPhIdx + 1) % ownPhaseRing }
  else stored

/-- The recomputation of the group delta that an action runs: on what state, and when. -/
def recomputes (sync : TsfSync K) : Action K → Option (TsfSync K × Int)
  | .setRenderPhase phaseUs atUs =>
      if atUs ≠ 0 then some (sync.phaseStored phaseUs atUs, atUs) else none
  | .receive args datagram =>
      if sync.concerns args datagram.packet = true ∧ datagram.packet.CarriesPhase args then
        some ((sync.recordSender args datagram).storePeerPhase datagram.packet.senderMac
            datagram.packet.renderPhaseUs (datagram.packet.sampledUs args.localNowUs),
          datagram.packet.sampledUs args.localNowUs)
      else none
  | _ => none

omit [LinearOrder K] [FloorRing K] in
theorem recomputes_receive (sync : TsfSync K) (args : ServiceArgs K) (datagram : Datagram K)
    (concerned : sync.concerns args datagram.packet = true)
    (carries : datagram.packet.CarriesPhase args) :
    sync.recomputes (.receive args datagram) =
      some ((sync.recordSender args datagram).storePeerPhase datagram.packet.senderMac
          datagram.packet.renderPhaseUs (datagram.packet.sampledUs args.localNowUs),
        datagram.packet.sampledUs args.localNowUs) :=
  if_pos ⟨concerned, carries⟩

structure SameDelta (before after : TsfSync K) : Prop where
  phase : after.renderPhaseUs = before.renderPhaseUs
  delta : after.renderGroupDeltaUs = before.renderGroupDeltaUs
  at_ : after.groupDeltaAtUs = before.groupDeltaAtUs

omit [Field K] [LinearOrder K] [FloorRing K] in
theorem SameDelta.trans {first second third : TsfSync K} (early : SameDelta first second)
    (late : SameDelta second third) : SameDelta first third :=
  ⟨late.phase.trans early.phase, late.delta.trans early.delta, late.at_.trans early.at_⟩

omit [LinearOrder K] [FloorRing K] in
theorem pairAveragedDelta_delta (sync : TsfSync K) (index : Nat) (phaseUs sampledUs : Int) :
    SameDelta sync (sync.pairAveragedDelta index phaseUs sampledUs) := by
  unfold pairAveragedDelta
  split
  · exact ⟨rfl, rfl, rfl⟩
  · split
    · exact ⟨rfl, rfl, rfl⟩
    · split
      · exact ⟨rfl, rfl, rfl⟩
      · exact ⟨rfl, rfl, rfl⟩

theorem rollAveragedDelta_delta (sync : TsfSync K) (localNowUs : Int) :
    SameDelta sync (sync.rollAveragedDelta localNowUs) := by
  unfold rollAveragedDelta
  generalize (if sync.gdavgRollUs = 0 then localNowUs else sync.gdavgRollUs) = rollUs
  dsimp only
  split
  · exact ⟨rfl, rfl, rfl⟩
  · exact ⟨rfl, rfl, rfl⟩

theorem updateConsensus_delta (sync : TsfSync K) (localNowUs : Int) :
    SameDelta sync (sync.updateConsensus localNowUs) := by
  unfold updateConsensus
  dsimp only
  split
  · exact ⟨rfl, rfl, rfl⟩
  · split
    · exact ⟨rfl, rfl, rfl⟩
    · exact ⟨rfl, rfl, rfl⟩

theorem broadcast_delta (sync : TsfSync K) (args : ServiceArgs K) (timerUs : Int)
    (sample : Option TsfSample) : SameDelta sync (sync.broadcast args timerUs sample).1 := by
  have tracked : ∀ now : TsfSample, SameDelta sync (sync.trackTsfRate now) := by
    intro now
    unfold trackTsfRate
    split
    · exact ⟨rfl, rfl, rfl⟩
    · split
      · dsimp only
        split
        · exact ⟨rfl, rfl, rfl⟩
        · exact ⟨rfl, rfl, rfl⟩
      · exact ⟨rfl, rfl, rfl⟩
  cases sample with
  | none => exact ⟨rfl, rfl, rfl⟩
  | some now => exact (tracked now).trans ⟨rfl, rfl, rfl⟩

theorem commonErrConsensus_delta (sync : TsfSync K) (localNowUs : Int) :
    SameDelta sync (sync.commonErrConsensus localNowUs).1 := by
  unfold commonErrConsensus
  dsimp only
  split
  · exact ⟨rfl, rfl, rfl⟩
  · split
    · exact ⟨rfl, rfl, rfl⟩
    · exact ⟨rfl, rfl, rfl⟩

/-- The phase half of a beacon recomputes the delta if it carries a phase of the stream. -/
theorem receivePhase_delta (sync : TsfSync K) (args : ServiceArgs K) (packet : TsfPacket K) :
    (packet.CarriesPhase args →
      SameDelta ((sync.storePeerPhase packet.senderMac packet.renderPhaseUs
          (packet.sampledUs args.localNowUs)).recomputeGroupDelta
            (packet.sampledUs args.localNowUs))
        (sync.receivePhase args packet)) ∧
      (¬ packet.CarriesPhase args → SameDelta sync (sync.receivePhase args packet)) := by
  have averaged : ∀ (recorded : TsfSync K) (index : Nat) (sampledUs : Int),
      SameDelta recorded
        ((recorded.pairAveragedDelta index packet.renderPhaseUs sampledUs).rollAveragedDelta
          args.localNowUs) :=
    fun recorded index sampledUs =>
      (pairAveragedDelta_delta recorded index _ sampledUs).trans
        (rollAveragedDelta_delta _ args.localNowUs)
  constructor
  · rintro ⟨streamed, known⟩
    have recorded : sync.recordPeerPhase packet.senderMac packet.renderPhaseUs
        (packet.sampledUs args.localNowUs) =
        (sync.storePeerPhase packet.senderMac packet.renderPhaseUs
          (packet.sampledUs args.localNowUs)).recomputeGroupDelta
            (packet.sampledUs args.localNowUs) := if_neg known
    unfold receivePhase
    rw [if_pos streamed, ← recorded]
    exact averaged _ _ _
  · intro silent
    unfold receivePhase
    by_cases streamed : packet.streamIdHash ≠ 0 ∧ args.streamIdHash ≠ 0 ∧
        packet.streamIdHash = args.streamIdHash
    · have unknown : packet.renderPhaseUs = renderPhaseUnknown := by
        by_contra known
        exact silent ⟨streamed, known⟩
      have recorded : sync.recordPeerPhase packet.senderMac packet.renderPhaseUs
          (packet.sampledUs args.localNowUs) = sync := if_pos unknown
      have same : SameDelta sync ((sync.recordPeerPhase packet.senderMac packet.renderPhaseUs
          (packet.sampledUs args.localNowUs))) := by
        rw [recorded]
        exact ⟨rfl, rfl, rfl⟩
      rw [if_pos streamed]
      exact same.trans (averaged _ _ _)
    · rw [if_neg streamed]
      exact ⟨rfl, rfl, rfl⟩

theorem receive_delta (sync : TsfSync K) (args : ServiceArgs K) (datagram : Datagram K) :
    match sync.recomputes (.receive args datagram) with
    | some (stored, instantUs) =>
        SameDelta (stored.recomputeGroupDelta instantUs) (sync.receive args datagram)
    | none => SameDelta sync (sync.receive args datagram) := by
  have kept : sync.concerns args datagram.packet = true →
      SameDelta (sync.hear args datagram) (sync.receive args datagram) := by
    intro concerned
    unfold receive
    rw [if_pos concerned]
    dsimp only
    split
    · exact ⟨rfl, rfl, rfl⟩
    · exact ⟨rfl, rfl, rfl⟩
  obtain ⟨carrying, silent⟩ :=
    receivePhase_delta (sync.recordSender args datagram) args datagram.packet
  by_cases concerned : sync.concerns args datagram.packet = true
  · by_cases carries : datagram.packet.CarriesPhase args
    · rw [sync.recomputes_receive args datagram concerned carries]
      exact (carrying carries).trans (kept concerned)
    · have trigger : sync.recomputes (.receive args datagram) = none :=
        if_neg fun both => carries both.2
      have recorded : SameDelta sync (sync.recordSender args datagram) := ⟨rfl, rfl, rfl⟩
      rw [trigger]
      exact (recorded.trans (silent carries)).trans (kept concerned)
  · have trigger : sync.recomputes (.receive args datagram) = none :=
      if_neg fun both => concerned both.1
    have ignored : sync.receive args datagram = sync := if_neg concerned
    rw [trigger, ignored]
    exact ⟨rfl, rfl, rfl⟩

theorem setRenderPhase_eq (sync : TsfSync K) (phaseUs atUs : Int) :
    sync.setRenderPhase phaseUs atUs =
      if atUs ≠ 0 then (sync.phaseStored phaseUs atUs).recomputeGroupDelta atUs
      else sync.phaseStored phaseUs atUs := rfl

omit [Field K] [LinearOrder K] [FloorRing K] in
theorem phaseStored_delta (sync : TsfSync K) (phaseUs atUs : Int) :
    (sync.phaseStored phaseUs atUs).renderPhaseUs = phaseUs ∧
      (sync.phaseStored phaseUs atUs).renderPhaseAtUs = atUs ∧
      (sync.phaseStored phaseUs atUs).renderGroupDeltaUs = sync.renderGroupDeltaUs ∧
      (sync.phaseStored phaseUs atUs).groupDeltaAtUs = sync.groupDeltaAtUs := by
  unfold phaseStored
  dsimp only
  split
  · exact ⟨rfl, rfl, rfl, rfl⟩
  · exact ⟨rfl, rfl, rfl, rfl⟩

/-- What an action without a recomputation does: it may withdraw or replace the own phase. -/
theorem act_delta_of_none (sync : TsfSync K) (action : Action K)
    (quiet : sync.recomputes action = none) :
    (sync.act action).renderGroupDeltaUs = sync.renderGroupDeltaUs ∧
      (sync.act action).groupDeltaAtUs = sync.groupDeltaAtUs ∧
      ((sync.act action).renderPhaseUs = sync.renderPhaseUs ∨
        ∃ phaseUs, action = .setRenderPhase phaseUs 0 ∧
          (sync.act action).renderPhaseUs = phaseUs) := by
  have same : ∀ after : TsfSync K, SameDelta sync after →
      after.renderGroupDeltaUs = sync.renderGroupDeltaUs ∧
        after.groupDeltaAtUs = sync.groupDeltaAtUs ∧
        (after.renderPhaseUs = sync.renderPhaseUs ∨
          ∃ phaseUs, action = .setRenderPhase phaseUs 0 ∧ after.renderPhaseUs = phaseUs) :=
    fun after kept => ⟨kept.delta, kept.at_, Or.inl kept.phase⟩
  cases action with
  | reset => exact same _ ⟨rfl, rfl, rfl⟩
  | note notes => exact same _ ⟨rfl, rfl, rfl⟩
  | receive args datagram =>
      have received := receive_delta sync args datagram
      rw [quiet] at received
      exact same _ received
  | broadcast args timerUs sample => exact same _ (broadcast_delta sync args timerUs sample)
  | updateConsensus localNowUs => exact same _ (updateConsensus_delta sync localNowUs)
  | setRenderPhase phaseUs atUs =>
      have undated : atUs = 0 := by
        by_contra dated
        have trigger : sync.recomputes (.setRenderPhase phaseUs atUs) =
            some (sync.phaseStored phaseUs atUs, atUs) := if_pos dated
        rw [quiet] at trigger
        cases trigger
      obtain ⟨phase, _, delta, at_⟩ := phaseStored_delta sync phaseUs atUs
      have stored : sync.act (.setRenderPhase phaseUs atUs) = sync.phaseStored phaseUs atUs :=
        (setRenderPhase_eq sync phaseUs atUs).trans (if_neg (not_not.mpr undated))
      rw [stored]
      subst undated
      exact ⟨delta, at_, Or.inr ⟨phaseUs, rfl, phase⟩⟩
  | commonErrConsensus localNowUs => exact same _ (commonErrConsensus_delta sync localNowUs)
  | setPeers peerAddrs => exact same _ ⟨rfl, rfl, rfl⟩

theorem act_delta_of_some (sync : TsfSync K) (action : Action K) (stored : TsfSync K)
    (instantUs : Int) (trigger : sync.recomputes action = some (stored, instantUs)) :
    SameDelta (stored.recomputeGroupDelta instantUs) (sync.act action) ∧
      stored.renderGroupDeltaUs = sync.renderGroupDeltaUs ∧
      stored.groupDeltaAtUs = sync.groupDeltaAtUs := by
  cases action with
  | setRenderPhase phaseUs atUs =>
      have dated : atUs ≠ 0 := by
        intro undated
        have quiet : sync.recomputes (.setRenderPhase phaseUs atUs) = none :=
          if_neg (not_not.mpr undated)
        rw [quiet] at trigger
        cases trigger
      have found : sync.recomputes (.setRenderPhase phaseUs atUs) =
          some (sync.phaseStored phaseUs atUs, atUs) := if_pos dated
      have acted : sync.act (.setRenderPhase phaseUs atUs) =
          (sync.phaseStored phaseUs atUs).recomputeGroupDelta atUs :=
        (setRenderPhase_eq sync phaseUs atUs).trans (if_pos dated)
      obtain ⟨_, _, delta, at_⟩ := phaseStored_delta sync phaseUs atUs
      rw [acted]
      rw [found] at trigger
      cases trigger
      exact ⟨⟨rfl, rfl, rfl⟩, delta, at_⟩
  | receive args datagram =>
      have received := receive_delta sync args datagram
      rw [trigger] at received
      refine ⟨received, ?_⟩
      unfold recomputes at trigger
      dsimp only at trigger
      split at trigger
      · cases trigger
        exact ⟨rfl, rfl⟩
      · cases trigger
  | reset => cases trigger
  | note notes => cases trigger
  | broadcast args timerUs sample => cases trigger
  | updateConsensus localNowUs => cases trigger
  | commonErrConsensus localNowUs => cases trigger
  | setPeers peerAddrs => cases trigger

/-- What a recomputation does: it clears the delta without an own phase, keeps or clears it
where nothing pairs, and stamps a new one where something does. -/
inductive Recomputation (before after : TsfSync K) (instantUs : Int) : Prop where
  | withdrawn (cleared : after.renderGroupDeltaUs = int32Min)
  | unpaired (known : after.renderPhaseUs ≠ renderPhaseUnknown)
      (none_ : before.pairingUs instantUs = none)
      (aged : after.renderGroupDeltaUs = int32Min ∨
        (after.renderGroupDeltaUs = before.renderGroupDeltaUs ∧
          after.groupDeltaAtUs = before.groupDeltaAtUs))
  | paired (known : after.renderPhaseUs ≠ renderPhaseUnknown) (pairingUs : Int)
      (found : before.pairingUs instantUs = some pairingUs)
      (stamped : after.groupDeltaAtUs = instantUs)

theorem recomputeGroupDelta_cases (sync : TsfSync K) (localNowUs : Int) :
    Recomputation sync (sync.recomputeGroupDelta localNowUs) localNowUs := by
  by_cases unknown : sync.renderPhaseUs = renderPhaseUnknown
  · apply Recomputation.withdrawn
    unfold recomputeGroupDelta
    rw [if_pos unknown]
  · by_cases undated : sync.renderPhaseAtUs = 0
    · have same : sync.recomputeGroupDelta localNowUs = sync := by
        unfold recomputeGroupDelta
        rw [if_neg unknown, if_pos undated]
      rw [same]
      exact .unpaired unknown (if_pos (Or.inr (Or.inl undated))) (Or.inr ⟨rfl, rfl⟩)
    · have counted : (0 :: sync.peer.slots.filterMap (pairedPhase sync localNowUs)).length < 2 ↔
          sync.pairedSlots localNowUs = [] := by
        have empty : sync.peer.slots.filterMap (pairedPhase sync localNowUs) = [] ↔
            sync.pairedSlots localNowUs = [] := by
          unfold pairedSlots
          rw [List.filterMap_eq_nil_iff, List.filter_eq_nil_iff]
          simp only [Option.not_isSome_iff_eq_none]
        rw [List.length_cons, ← empty, ← List.length_eq_zero_iff]
        omega
      unfold recomputeGroupDelta
      rw [if_neg unknown, if_neg undated]
      dsimp only
      by_cases alone : sync.pairedSlots localNowUs = []
      · rw [if_pos (counted.mpr alone)]
        apply Recomputation.unpaired
        · split
          · exact unknown
          · exact unknown
        · exact if_pos (Or.inr (Or.inr alone))
        · split
          · exact Or.inl rfl
          · exact Or.inr ⟨rfl, rfl⟩
      · rw [if_neg (mt counted.mp alone)]
        have some_ : ¬ (sync.renderPhaseUs = renderPhaseUnknown ∨ sync.renderPhaseAtUs = 0 ∨
            sync.pairedSlots localNowUs = []) := by
          rw [not_or, not_or]
          exact ⟨unknown, undated, alone⟩
        exact .paired unknown _ (if_neg some_) rfl

omit [Field K] [LinearOrder K] [FloorRing K] in
theorem le_foldl_latest (peers : List (Peer K)) (start : Int) :
    start ≤ peers.foldl (fun latest peer => max latest peer.phaseSeenUs) start ∧
      ∀ peer ∈ peers,
        peer.phaseSeenUs ≤ peers.foldl (fun latest peer => max latest peer.phaseSeenUs) start := by
  induction peers generalizing start with
  | nil =>
      refine ⟨le_refl start, ?_⟩
      intro peer member
      cases member
  | cons head tail ih =>
      obtain ⟨first, later⟩ := ih (max start head.phaseSeenUs)
      rw [List.foldl_cons]
      constructor
      · exact le_trans (le_max_left _ _) first
      · intro peer member
        rcases List.mem_cons.mp member with rfl | within
        · exact le_trans (le_max_right _ _) first
        · exact later peer within

omit [LinearOrder K] [FloorRing K] in
theorem pairingUs_bounds (sync : TsfSync K) (localNowUs pairing : Int)
    (found : sync.pairingUs localNowUs = some pairing) :
    sync.pairedSlots localNowUs ≠ [] ∧ sync.renderPhaseAtUs ≤ pairing ∧
      ∀ peer ∈ sync.pairedSlots localNowUs, peer.phaseSeenUs ≤ pairing := by
  unfold pairingUs at found
  split at found
  · cases found
  · rename_i pairs
    rw [not_or, not_or] at pairs
    cases found
    obtain ⟨own, held⟩ := le_foldl_latest (sync.pairedSlots localNowUs) sync.renderPhaseAtUs
    exact ⟨pairs.2.2, own, held⟩

omit [LinearOrder K] [FloorRing K] in
theorem storePeerPhase_pairs (sync : TsfSync K) (mac : Mac) (phaseUs sampledUs : Int)
    (slot : ∃ peer, sync.peer.get? mac = some peer) (known : phaseUs ≠ renderPhaseUnknown)
    (near : |sampledUs - sync.renderPhaseAtUs| ≤ phasePairWindowUs) :
    ∃ peer ∈ (sync.storePeerPhase mac phaseUs sampledUs).pairedSlots sampledUs,
      peer.phaseSeenUs = sampledUs := by
  obtain ⟨peer, listed⟩ := slot
  have stored : (sync.storePeerPhase mac phaseUs sampledUs).peer.get? mac =
      some { peer with
        phaseUs := phaseUs
        phaseSeenUs := sampledUs } := by
    unfold storePeerPhase
    rw [PeerTable.get?_modify, if_pos rfl, listed]
    rfl
  obtain ⟨there, _⟩ := PeerTable.get?_mem _ mac _ stored
  refine ⟨_, List.mem_filter.mpr ⟨there, ?_⟩, rfl⟩
  have usable : ¬ (phaseUs = renderPhaseUnknown ∨ phaseStaleUs < sampledUs - sampledUs) := by
    rw [not_or, sub_self]
    exact ⟨known, by decide⟩
  have close : ¬ (phasePairWindowUs < sampledUs - sync.renderPhaseAtUs ∨
      sampledUs - sync.renderPhaseAtUs < -phasePairWindowUs) := by
    rw [abs_le] at near
    omega
  unfold pairedPhase
  dsimp only
  rw [if_neg usable]
  change (if phasePairWindowUs < sampledUs - sync.renderPhaseAtUs ∨
    sampledUs - sync.renderPhaseAtUs < -phasePairWindowUs then none else some _).isSome = true
  rw [if_neg close]
  rfl

omit [LinearOrder K] [FloorRing K] in
/-- The pairing of a recomputation near the own sample is no older than what triggered it. -/
theorem instant_le_pairing (sync : TsfSync K) (action : Action K) (stored : TsfSync K)
    (instantUs pairing : Int) (trigger : sync.recomputes action = some (stored, instantUs))
    (found : stored.pairingUs instantUs = some pairing)
    (near : |instantUs - stored.renderPhaseAtUs| ≤ phasePairWindowUs) :
    instantUs ≤ pairing := by
  obtain ⟨_, own, held⟩ := stored.pairingUs_bounds instantUs pairing found
  cases action with
  | setRenderPhase phaseUs atUs =>
      unfold recomputes at trigger
      dsimp only at trigger
      split at trigger
      · cases trigger
        rw [(phaseStored_delta sync phaseUs instantUs).2.1] at own
        exact own
      · cases trigger
  | receive args datagram =>
      unfold recomputes at trigger
      dsimp only at trigger
      split at trigger
      · rename_i both
        cases trigger
        have slot : ∃ peer, (sync.recordSender args datagram).peer.get?
            datagram.packet.senderMac = some peer := by
          apply Option.isSome_iff_exists.mp
          unfold recordSender
          rw [PeerTable.get?_modify_isSome]
          exact sync.peer.findPeer_known datagram.packet.senderMac args.localNowUs
        obtain ⟨peer, paired, seen⟩ := storePeerPhase_pairs _ _ _ _ slot both.2.2 near
        rw [← seen]
        exact held peer paired
      · cases trigger
  | reset => cases trigger
  | note notes => cases trigger
  | broadcast args timerUs sample => cases trigger
  | updateConsensus localNowUs => cases trigger
  | commonErrConsensus localNowUs => cases trigger
  | setPeers peerAddrs => cases trigger

end TsfSync

end ClockSync
