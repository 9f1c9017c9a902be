import SnapcastSync.ClockSync.Contribution

/-! A service tick as the list of actions it takes, in their order, each given the tick's own
arguments; and what the actions that neither publish nor adopt leave alone. -/

namespace ClockSync

variable {K : Type} [Field K] [LinearOrder K] [FloorRing K]

namespace TsfSync

def associateActions (sync : TsfSync K) (bssid : Mac) : List (Action K) :=
  if sync.haveBssid && decide (bssid = sync.bssid) then []
  else
    let left := if sync.haveBssid then sync.reset else sync
    (if sync.haveBssid then [.reset] else []) ++
      [.note { left.notes with bssid := bssid, haveBssid := true }]

def disassociateActions (sync : TsfSync K) : List (Action K) :=
  if sync.haveBssid then [.reset, .note { sync.reset.notes with haveBssid := false }] else []

def publishActions (sync : TsfSync K) (args : ServiceArgs K) (radio : Radio K) :
    List (Action K) :=
  if args.est.valid && args.est.mature then
    if beaconIntervalUs ≤ args.localNowUs - sync.lastTxUs then
      [.broadcast args radio.timerUs radio.sample]
    else []
  else if sync.renderPhaseForBeacon ≠ renderPhaseUnknown ∧
      4 * beaconIntervalUs ≤ args.localNowUs - sync.lastPhaseTxUs then
    [.note { sync.notes with lastPhaseTxUs := args.localNowUs }]
  else []

def consensusActions (sync : TsfSync K) (localNowUs : Int) : List (Action K) :=
  if consensusIntervalUs ≤ localNowUs - sync.lastConsensusUs then
    [.note { sync.notes with lastConsensusUs := localNowUs }, .updateConsensus localNowUs]
  else []

def exchangeActions (sync : TsfSync K) (args : ServiceArgs K) (radio : Radio K) :
    List (Action K) :=
  let heard := sync.listen args radio.inbox
  radio.inbox.map (.receive args) ++
    (heard.publishActions args radio ++
      (heard.publish args radio).1.consensusActions args.localNowUs)

def serviceActions (sync : TsfSync K) (args : ServiceArgs K) (radio : Radio K) :
    List (Action K) :=
  if args.localNowUs - sync.lastServiceUs < serviceMinIntervalUs then []
  else
    let named := (sync.beginTick args).learnMac radio.ownMac
    .note named.notes ::
      if !named.haveMac then []
      else
        match radio.apBssid with
        | none => named.disassociateActions
        | some bssid =>
            named.associateActions bssid ++
              if !radio.socketReady then []
              else (named.associate bssid).exchangeActions args radio

theorem associateActions_eq (sync : TsfSync K) (bssid : Mac) :
    (sync.associateActions bssid).foldl act sync = sync.associate bssid := by
  unfold associateActions associate
  by_cases same : (sync.haveBssid && decide (bssid = sync.bssid)) = true
  · rw [if_pos same, if_pos same]
    rfl
  · rw [if_neg same, if_neg same]
    cases sync.haveBssid with
    | false => rfl
    | true => rfl

theorem disassociateActions_eq (sync : TsfSync K) :
    sync.disassociateActions.foldl act sync = sync.disassociate := by
  unfold disassociateActions disassociate
  cases sync.haveBssid with
  | false => rfl
  | true => rfl

theorem publishActions_eq (sync : TsfSync K) (args : ServiceArgs K) (radio : Radio K) :
    (sync.publishActions args radio).foldl act sync = (sync.publish args radio).1 := by
  unfold publishActions publish
  by_cases trusted : (args.est.valid && args.est.mature) = true
  · rw [if_pos trusted, if_pos trusted]
    by_cases due : beaconIntervalUs ≤ args.localNowUs - sync.lastTxUs
    · rw [if_pos due, if_pos due]
      rfl
    · rw [if_neg due, if_neg due]
      rfl
  · rw [if_neg trusted, if_neg trusted]
    by_cases due : sync.renderPhaseForBeacon ≠ renderPhaseUnknown ∧
        4 * beaconIntervalUs ≤ args.localNowUs - sync.lastPhaseTxUs
    · rw [if_pos due, if_pos due]
      rfl
    · rw [if_neg due, if_neg due]
      rfl

theorem consensusActions_eq (sync : TsfSync K) (localNowUs : Int) :
    (sync.consensusActions localNowUs).foldl act sync = sync.consensusTick localNowUs := by
  unfold consensusActions consensusTick
  by_cases due : consensusIntervalUs ≤ localNowUs - sync.lastConsensusUs
  · rw [if_pos due, if_pos due]
    rfl
  · rw [if_neg due, if_neg due]
    rfl

theorem exchangeActions_eq (sync : TsfSync K) (args : ServiceArgs K) (radio : Radio K) :
    (sync.exchangeActions args radio).foldl act sync =
      (((sync.listen args radio.inbox).publish args radio).1).consensusTick args.localNowUs := by
  have heard : (radio.inbox.map (.receive args)).foldl act sync =
      sync.listen args radio.inbox := by
    rw [List.foldl_map]
    rfl
  unfold exchangeActions
  rw [List.foldl_append, heard, List.foldl_append, publishActions_eq, consensusActions_eq]

omit [Field K] [LinearOrder K] [FloorRing K] in
theorem notes_eq (sync : TsfSync K) (args : ServiceArgs K) (ownMac : Option Mac) :
    sync.note ((sync.beginTick args).learnMac ownMac).notes =
      (sync.beginTick args).learnMac ownMac := by
  unfold learnMac
  split
  · rfl
  · rfl

theorem serviceActions_eq (sync : TsfSync K) (args : ServiceArgs K) (radio : Radio K) :
    (sync.serviceActions args radio).foldl act sync = (sync.service args radio).1 := by
  unfold serviceActions service
  by_cases early : args.localNowUs - sync.lastServiceUs < serviceMinIntervalUs
  · rw [if_pos early, if_pos early]
    rfl
  · rw [if_neg early, if_neg early]
    have ticked : sync.act (.note ((sync.beginTick args).learnMac radio.ownMac).notes) =
        (sync.beginTick args).learnMac radio.ownMac := notes_eq sync args radio.ownMac
    dsimp only
    rw [List.foldl_cons, ticked]
    generalize (sync.beginTick args).learnMac radio.ownMac = named
    cases named.haveMac with
    | false => rfl
    | true =>
        cases radio.apBssid with
        | none => exact disassociateActions_eq named
        | some bssid =>
            change (named.associateActions bssid ++ _).foldl act named = _
            rw [List.foldl_append, associateActions_eq]
            cases radio.socketReady with
            | false => rfl
            | true => exact exchangeActions_eq (named.associate bssid) args radio

end TsfSync

def Action.During (args : ServiceArgs K) : Action K → Prop
  | .receive own _ => own = args
  | .broadcast own _ _ => own = args
  | .updateConsensus localNowUs => localNowUs = args.localNowUs
  | _ => True

namespace TsfSync

omit [Field K] [LinearOrder K] [FloorRing K] in
theorem publishActions_during (sync : TsfSync K) (args : ServiceArgs K) (radio : Radio K) :
    ∀ action ∈ sync.publishActions args radio, action.During args := by
  intro action member
  unfold publishActions at member
  split at member
  · split at member
    · rw [List.mem_singleton.mp member]
      exact rfl
    · cases member
  · split at member
    · rw [List.mem_singleton.mp member]
      exact trivial
    · cases member

omit [Field K] [LinearOrder K] [FloorRing K] in
theorem consensusActions_during (sync : TsfSync K) (args : ServiceArgs K) :
    ∀ action ∈ sync.consensusActions args.localNowUs, action.During args := by
  intro action member
  unfold consensusActions at member
  split at member
  · rcases List.mem_cons.mp member with first | later
    · rw [first]
      exact trivial
    · rw [List.mem_singleton.mp later]
      exact rfl
  · cases member

theorem exchangeActions_during (sync : TsfSync K) (args : ServiceArgs K) (radio : Radio K) :
    ∀ action ∈ sync.exchangeActions args radio, action.During args := by
  intro action member
  unfold exchangeActions at member
  rcases List.mem_append.mp member with heard | later
  · obtain ⟨datagram, _, rfl⟩ := List.mem_map.mp heard
    exact rfl
  · rcases List.mem_append.mp later with published | consented
    · exact publishActions_during _ args radio action published
    · exact consensusActions_during _ args action consented

omit [Field K] [LinearOrder K] [FloorRing K] in
theorem associateActions_during (sync : TsfSync K) (args : ServiceArgs K) (bssid : Mac) :
    ∀ action ∈ sync.associateActions bssid, action.During args := by
  intro action member
  unfold associateActions at member
  split at member
  · cases member
  · rcases List.mem_append.mp member with left | noted
    · split at left
      · rw [List.mem_singleton.mp left]
        exact trivial
      · cases left
    · rw [List.mem_singleton.mp noted]
      exact trivial

omit [Field K] [LinearOrder K] [FloorRing K] in
theorem disassociateActions_during (sync : TsfSync K) (args : ServiceArgs K) :
    ∀ action ∈ sync.disassociateActions, action.During args := by
  intro action member
  unfold disassociateActions at member
  split at member
  · rcases List.mem_cons.mp member with first | later
    · rw [first]
      exact trivial
    · rw [List.mem_singleton.mp later]
      exact trivial
  · cases member

theorem serviceActions_during (sync : TsfSync K) (args : ServiceArgs K) (radio : Radio K) :
    ∀ action ∈ sync.serviceActions args radio, action.During args := by
  intro action member
  unfold serviceActions at member
  split at member
  · cases member
  · rcases List.mem_cons.mp member with first | later
    · rw [first]
      exact trivial
    · split at later
      · cases later
      · split at later
        · exact disassociateActions_during _ args action later
        · rcases List.mem_append.mp later with joined | exchanged
          · exact associateActions_during _ args _ action joined
          · split at exchanged
            · cases exchanged
            · exact exchangeActions_during _ args radio action exchanged

end TsfSync

namespace TsfSync

def PhaseOnly (before after : TsfSync K) : Prop :=
  after =
    { before with
      renderPhaseUs := after.renderPhaseUs
      renderPhaseAtUs := after.renderPhaseAtUs
      peer := after.peer
      ownPh := after.ownPh
      ownPhIdx := after.ownPhIdx
      gdavgSum := after.gdavgSum
      gdavgN := after.gdavgN
      gdavgRollUs := after.gdavgRollUs
      renderGroupDeltaAvgUs := after.renderGroupDeltaAvgUs
      gdavgPairsPub := after.gdavgPairsPub
      renderGroupDeltaUs := after.renderGroupDeltaUs
      groupDeltaN := after.groupDeltaN
      groupDeltaAtUs := after.groupDeltaAtUs
      groupDeltaHeldUs := after.groupDeltaHeldUs
      groupDeltaHeldAtUs := after.groupDeltaHeldAtUs
      commonCUs := after.commonCUs
      commonCAtUs := after.commonCAtUs
      commonCN := after.commonCN
      roster := after.roster }

omit [Field K] [LinearOrder K] [FloorRing K] in
theorem PhaseOnly.trans {first second third : TsfSync K} (early : PhaseOnly first second)
    (late : PhaseOnly second third) : PhaseOnly first third := by
  unfold PhaseOnly at early late ⊢
  rw [late, early]

omit [Field K] [LinearOrder K] [FloorRing K] in
theorem PhaseOnly.mapping {before after : TsfSync K} (same : PhaseOnly before after) :
    after.mappingValid = before.mappingValid ∧
      after.mapUpdatedLocalUs = before.mapUpdatedLocalUs ∧ after.mapLine = before.mapLine := by
  unfold PhaseOnly at same
  exact ⟨(congrArg TsfSync.mappingValid same :), (congrArg TsfSync.mapUpdatedLocalUs same :),
    (congrArg TsfSync.mapLine same :)⟩

theorem recomputeGroupDelta_phaseOnly (sync : TsfSync K) (localNowUs : Int) :
    PhaseOnly sync (sync.recomputeGroupDelta localNowUs) := by
  unfold recomputeGroupDelta
  split
  · exact rfl
  · split
    · exact rfl
    · dsimp only
      split
      · split
        · exact rfl
        · exact rfl
      · exact rfl

theorem setRenderPhase_phaseOnly (sync : TsfSync K) (phaseUs atUs : Int) :
    PhaseOnly sync (sync.setRenderPhase phaseUs atUs) := by
  unfold setRenderPhase
  dsimp only
  generalize ring : (if phaseUs ≠ renderPhaseUnknown ∧ atUs ≠ 0 then _ else _) = ringed
  have stored : PhaseOnly sync ringed := by
    subst ring
    split
    · exact rfl
    · exact rfl
  split
  · exact stored.trans (recomputeGroupDelta_phaseOnly ringed atUs)
  · exact stored

theorem recordPeerPhase_phaseOnly (sync : TsfSync K) (mac : Mac) (phaseUs sampledUs : Int) :
    PhaseOnly sync (sync.recordPeerPhase mac phaseUs sampledUs) := by
  unfold recordPeerPhase
  split
  · exact rfl
  · have stored : PhaseOnly sync (sync.storePeerPhase mac phaseUs sampledUs) := rfl
    exact stored.trans (recomputeGroupDelta_phaseOnly _ sampledUs)

omit [LinearOrder K] [FloorRing K] in
theorem pairAveragedDelta_phaseOnly (sync : TsfSync K) (index : Nat)
    (phaseUs sampledUs : Int) :
    PhaseOnly sync (sync.pairAveragedDelta index phaseUs sampledUs) := by
  unfold pairAveragedDelta
  split
  · exact rfl
  · split
    · exact rfl
    · split
      · exact rfl
      · exact rfl

theorem rollAveragedDelta_phaseOnly (sync : TsfSync K) (localNowUs : Int) :
    PhaseOnly sync (sync.rollAveragedDelta localNowUs) := by
  unfold rollAveragedDelta
  generalize (if sync.gdavgRollUs = 0 then localNowUs else sync.gdavgRollUs) = rollUs
  dsimp only
  split
  · exact rfl
  · exact rfl

theorem receivePhase_phaseOnly (sync : TsfSync K) (args : ServiceArgs K)
    (packet : TsfPacket K) : PhaseOnly sync (sync.receivePhase args packet) := by
  unfold receivePhase
  split
  · exact ((recordPeerPhase_phaseOnly _ _ _ _).trans (pairAveragedDelta_phaseOnly _ _ _ _)).trans
      (rollAveragedDelta_phaseOnly _ _)
  · exact rfl

theorem receive_phaseOnly (sync : TsfSync K) (args : ServiceArgs K) (datagram : Datagram K) :
    PhaseOnly sync (sync.receive args datagram) := by
  have heard : PhaseOnly sync (sync.hear args datagram) := by
    have recorded : PhaseOnly sync (sync.recordSender args datagram) := rfl
    exact recorded.trans (receivePhase_phaseOnly _ args datagram.packet)
  unfold receive
  dsimp only
  split
  · split
    · have stored : PhaseOnly (sync.hear args datagram)
          ((sync.hear args datagram).storeLine args datagram.packet) := rfl
      exact heard.trans stored
    · exact heard
  · exact rfl

theorem commonErrConsensus_phaseOnly (sync : TsfSync K) (localNowUs : Int) :
    PhaseOnly sync (sync.commonErrConsensus localNowUs).1 := by
  unfold commonErrConsensus
  dsimp only
  split
  · exact rfl
  · split
    · exact rfl
    · exact rfl

end TsfSync

end ClockSync
