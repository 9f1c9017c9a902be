import SnapcastSync.ClockSync.Blanking
import SnapcastSync.Lib.Unwinding

/-! What of one access point's TSF epoch survives `reset_`. Two devices that differ in such
values only are reset and driven by the same calls; what they compute and send from then on
is compared. -/

namespace ClockSync

open Rounding

variable {K : Type} [Field K] [LinearOrder K] [FloorRing K]

/-- The actions that pair phases, for which the drift of the mapping carries them together. -/
def Action.Pairs : Action K → Prop
  | .setRenderPhase _ atUs => atUs ≠ 0
  | .receive args datagram => datagram.packet.CarriesPhase args
  | _ => False

instance (action : Action K) : Decidable action.Pairs :=
  match action with
  | .setRenderPhase _ atUs => inferInstanceAs (Decidable (atUs ≠ 0))
  | .receive args datagram => inferInstanceAs (Decidable (datagram.packet.CarriesPhase args))
  | .reset => isFalse id
  | .note _ => isFalse id
  | .broadcast _ _ _ => isFalse id
  | .updateConsensus _ => isFalse id
  | .commonErrConsensus _ => isFalse id
  | .setPeers _ => isFalse id

namespace TsfSync

def Mapped (sync : TsfSync K) (action : Action K) : Prop :=
  sync.mappingValid = true ∨ sync.mapDriftPpm = 0 ∨ ¬ action.Pairs

instance (sync : TsfSync K) [DecidableEq K] (action : Action K) :
    Decidable (sync.Mapped action) :=
  inferInstanceAs (Decidable (_ ∨ _ ∨ _))

/-- No flag tells the two states apart, and no value that is there. -/
def Alike (first second : TsfSync K) : Prop := first.blank = second.blank

theorem act_blank (sync : TsfSync K) (action : Action K) (mapped : sync.Mapped action) :
    (sync.blank.act action).blank = (sync.act action).blank := by
  have drift : sync.blank.mapDriftPpm = sync.mapDriftPpm ∨ ¬ action.Pairs := by
    rcases mapped with valid | zero | unpaired
    · apply Or.inl
      unfold blank
      dsimp only
      rw [valid, cond_true]
    · apply Or.inl
      unfold blank
      dsimp only
      rw [zero, Bool.cond_self]
    · exact Or.inr unpaired
  cases action with
  | reset => exact reset_blank sync
  | note notes => exact blank_blank (sync.note notes)
  | receive args datagram =>
      change (sync.blank.receive args datagram).blank = _
      rw [receive_blank sync args datagram drift]
      exact blank_blank _
  | broadcast args timerUs sample => exact (broadcast_blank sync args timerUs sample).1
  | updateConsensus localNowUs => exact updateConsensus_blank sync localNowUs
  | setRenderPhase phaseUs atUs =>
      change (sync.blank.setRenderPhase phaseUs atUs).blank = _
      rw [setRenderPhase_blank sync phaseUs atUs (drift.imp_right not_not.mp)]
      exact blank_blank _
  | commonErrConsensus localNowUs =>
      change (sync.blank.commonErrConsensus localNowUs).1.blank = _
      rw [commonErrConsensus_blank]
      exact blank_blank _
  | setPeers peerAddrs =>
      exact blank_blank ({ sync with roster := sync.roster.setPeers peerAddrs } : TsfSync K)

theorem Alike.act {first second : TsfSync K} (alike : Alike first second) (action : Action K)
    (firstMapped : first.Mapped action) (secondMapped : second.Mapped action) :
    Alike (first.act action) (second.act action) := by
  unfold Alike at alike ⊢
  rw [← act_blank first action firstMapped, alike, act_blank second action secondMapped]

theorem Alike.foldl {first second : TsfSync K} (alike : Alike first second)
    (actions : List (Action K)) (firstMapped : Run.Along TsfSync.act Mapped first actions)
    (secondMapped : Run.Along TsfSync.act Mapped second actions) :
    Alike (actions.foldl TsfSync.act first) (actions.foldl TsfSync.act second) := by
  induction actions generalizing first second with
  | nil => exact alike
  | cons action rest ih =>
      exact ih (alike.act action firstMapped.1 secondMapped.1) firstMapped.2 secondMapped.2

omit [LinearOrder K] [FloorRing K] in
theorem Alike.view {α : Type} {first second : TsfSync K} (alike : Alike first second)
    (view : TsfSync K → α) (blanked : ∀ sync, view sync.blank = view sync) :
    view first = view second := by
  unfold Alike at alike
  rw [← blanked first, alike, blanked second]

def phaseOnlyPacket (sync : TsfSync K) (serverIdHash streamIdHash : UInt32) (ageMs : Nat) :
    TsfPacket K :=
  { magic := tsfMagic
    version := tsfVersion
    bssid := sync.bssid
    senderMac := sync.myMac
    noMapping := true
    serverIdHash := serverIdHash
    tsfBaseUs := 0
    tsfMinusServerUs := 0
    driftPpm := 0
    pipelineUs := sync.pipelineUs
    renderPhaseUs := sync.renderPhaseForBeacon
    crystalPpm := sync.pubCrystalPpm
    adoptedTmsAtBaseUs := tmsAdoptUnknown
    streamIdHash := streamIdHash
    renderPhaseAgeMs := ageMs
    renderBiasUs := sync.pubRenderBiasUs
    commonErrUs := sync.pubCommonErrUs }

/-- The packet of `broadcast_phase_only_`, where a service tick sends one. -/
def phaseOnlyBeacon (sync : TsfSync K) (args : ServiceArgs K) (timerUs : Int) :
    Option (TsfPacket K) :=
  if args.est.valid && args.est.mature then none
  else if sync.renderPhaseForBeacon ≠ renderPhaseUnknown ∧
      4 * beaconIntervalUs ≤ args.localNowUs - sync.lastPhaseTxUs then
    some (sync.phaseOnlyPacket args.serverIdHash args.streamIdHash
      (sync.renderPhaseAgeMs timerUs))
  else none

/-- The state in which a service tick comes to its socket, if it gets so far. -/
def joins (sync : TsfSync K) (args : ServiceArgs K) (radio : Radio K) : Option (TsfSync K) :=
  if args.localNowUs - sync.lastServiceUs < serviceMinIntervalUs then none
  else
    let named := (sync.beginTick args).learnMac radio.ownMac
    if !named.haveMac then none
    else
      match radio.apBssid with
      | none => none
      | some bssid => if !radio.socketReady then none else some (named.associate bssid)

def packets (sync : TsfSync K) (args : ServiceArgs K) (radio : Radio K) : List (TsfPacket K) :=
  match sync.joins args radio with
  | none => []
  | some joined =>
      let heard := joined.listen args radio.inbox
      (heard.publish args radio).2.toList ++ (heard.phaseOnlyBeacon args radio.timerUs).toList

theorem service_packet (sync : TsfSync K) (args : ServiceArgs K) (radio : Radio K)
    (packet : TsfPacket K) (sent : (sync.service args radio).2 = some packet) :
    packet ∈ sync.packets args radio := by
  unfold service at sent
  unfold packets joins
  split at sent
  · cases sent
  · rename_i due
    rw [if_neg due]
    dsimp only at sent ⊢
    split at sent
    · cases sent
    · rename_i named
      rw [if_neg named]
      cases bssid : radio.apBssid with
      | none =>
          rw [bssid] at sent
          cases sent
      | some joined =>
          rw [bssid] at sent
          dsimp only at sent ⊢
          split at sent
          · cases sent
          · rename_i ready
            rw [if_neg ready]
            dsimp only at sent ⊢
            rw [sent]
            exact List.mem_cons_self

theorem Alike.note {first second : TsfSync K} (alike : Alike first second) (notes : Notes K) :
    Alike (first.note notes) (second.note notes) :=
  alike.act (.note notes) (Or.inr (Or.inr id)) (Or.inr (Or.inr id))

theorem Alike.reset {first second : TsfSync K} (alike : Alike first second) :
    Alike first.reset second.reset :=
  alike.act .reset (Or.inr (Or.inr id)) (Or.inr (Or.inr id))

omit [LinearOrder K] [FloorRing K] in
theorem Alike.notes {first second : TsfSync K} (alike : Alike first second) :
    first.notes = second.notes := alike.view TsfSync.notes fun _ => rfl

theorem Alike.edit {first second : TsfSync K} (alike : Alike first second)
    (edit : Notes K → Notes K) :
    Alike (first.note (edit first.notes)) (second.note (edit second.notes)) := by
  rw [alike.notes]
  exact alike.note _

theorem Alike.named {first second : TsfSync K} (alike : Alike first second)
    (args : ServiceArgs K) (ownMac : Option Mac) :
    Alike ((first.beginTick args).learnMac ownMac) ((second.beginTick args).learnMac ownMac) := by
  have notes : ((first.beginTick args).learnMac ownMac).notes =
      ((second.beginTick args).learnMac ownMac).notes := by
    apply alike.view fun sync => ((sync.beginTick args).learnMac ownMac).notes
    intro sync
    have held : (sync.blank.beginTick args).haveMac = (sync.beginTick args).haveMac := rfl
    unfold learnMac
    rw [held]
    cases (sync.beginTick args).haveMac with
    | false =>
        cases ownMac with
        | none => rfl
        | some mac => rfl
    | true => rfl
  rw [← notes_eq first, ← notes_eq second, notes]
  exact alike.note _

theorem Alike.disassociate {first second : TsfSync K} (alike : Alike first second) :
    Alike first.disassociate second.disassociate := by
  have joined : first.haveBssid = second.haveBssid := congrArg Notes.haveBssid alike.notes
  unfold TsfSync.disassociate
  rw [joined]
  by_cases there : second.haveBssid = true
  · rw [if_pos there, if_pos there]
    exact alike.reset.edit fun notes => { notes with haveBssid := false }
  · rw [if_neg there, if_neg there]
    exact alike

theorem Alike.associate {first second : TsfSync K} (alike : Alike first second) (bssid : Mac) :
    Alike (first.associate bssid) (second.associate bssid) := by
  have joined : first.haveBssid = second.haveBssid := congrArg Notes.haveBssid alike.notes
  have there : first.bssid = second.bssid := congrArg Notes.bssid alike.notes
  unfold TsfSync.associate
  rw [joined, there]
  by_cases same : (second.haveBssid && decide (bssid = second.bssid)) = true
  · rw [if_pos same, if_pos same]
    exact alike
  · rw [if_neg same, if_neg same]
    dsimp only
    by_cases left : second.haveBssid = true
    · rw [if_pos left, if_pos left]
      exact alike.reset.edit fun notes => { notes with
        bssid := bssid
        haveBssid := true }
    · rw [if_neg left, if_neg left]
      exact alike.edit fun notes => { notes with
        bssid := bssid
        haveBssid := true }

theorem Alike.publish {first second : TsfSync K} (alike : Alike first second)
    (args : ServiceArgs K) (radio : Radio K) :
    Alike (first.publish args radio).1 (second.publish args radio).1 ∧
      (first.publish args radio).2 = (second.publish args radio).2 := by
  have sent : first.lastTxUs = second.lastTxUs := alike.view TsfSync.lastTxUs fun _ => rfl
  have phase : first.renderPhaseForBeacon = second.renderPhaseForBeacon :=
    alike.view TsfSync.renderPhaseForBeacon fun _ => rfl
  have reported : first.lastPhaseTxUs = second.lastPhaseTxUs :=
    congrArg Notes.lastPhaseTxUs alike.notes
  unfold TsfSync.publish
  rw [phase]
  by_cases trusted : (args.est.valid && args.est.mature) = true
  · rw [if_pos trusted, if_pos trusted]
    by_cases due : beaconIntervalUs ≤ args.localNowUs - second.lastTxUs
    · rw [if_pos due, if_pos (sent ▸ due)]
      have unpaired : ¬ (Action.broadcast args radio.timerUs radio.sample).Pairs := id
      exact ⟨alike.act (.broadcast args radio.timerUs radio.sample) (Or.inr (Or.inr unpaired))
          (Or.inr (Or.inr unpaired)),
        alike.view (fun sync => (sync.broadcast args radio.timerUs radio.sample).2)
          fun sync => (broadcast_blank sync args radio.timerUs radio.sample).2⟩
    · rw [if_neg due, if_neg (sent ▸ due)]
      exact ⟨alike, rfl⟩
  · rw [if_neg trusted, if_neg trusted]
    by_cases due : second.renderPhaseForBeacon ≠ renderPhaseUnknown ∧
        4 * beaconIntervalUs ≤ args.localNowUs - second.lastPhaseTxUs
    · rw [if_pos due, if_pos (reported ▸ due)]
      exact ⟨alike.edit fun notes => { notes with lastPhaseTxUs := args.localNowUs }, rfl⟩
    · rw [if_neg due, if_neg (reported ▸ due)]
      exact ⟨alike, rfl⟩

theorem Alike.consensusTick {first second : TsfSync K} (alike : Alike first second)
    (localNowUs : Int) :
    Alike (first.consensusTick localNowUs) (second.consensusTick localNowUs) := by
  have last : first.lastConsensusUs = second.lastConsensusUs :=
    congrArg Notes.lastConsensusUs alike.notes
  unfold TsfSync.consensusTick
  rw [last]
  by_cases due : consensusIntervalUs ≤ localNowUs - second.lastConsensusUs
  · rw [if_pos due, if_pos due]
    have noted := alike.edit fun notes => { notes with lastConsensusUs := localNowUs }
    exact noted.act (.updateConsensus localNowUs) (Or.inr (Or.inr id)) (Or.inr (Or.inr id))
  · rw [if_neg due, if_neg due]
    exact alike

def MappedInbox (args : ServiceArgs K) (radio : Radio K) (joined : Option (TsfSync K)) : Prop :=
  ∀ sync ∈ joined, Run.Along TsfSync.act Mapped sync (radio.inbox.map (.receive args))

theorem Alike.service {first second : TsfSync K} (alike : Alike first second)
    (args : ServiceArgs K) (radio : Radio K)
    (firstMapped : MappedInbox args radio (first.joins args radio))
    (secondMapped : MappedInbox args radio (second.joins args radio)) :
    Alike (first.service args radio).1 (second.service args radio).1 ∧
      first.packets args radio = second.packets args radio := by
  have last : first.lastServiceUs = second.lastServiceUs :=
    congrArg Notes.lastServiceUs alike.notes
  have named := alike.named args radio.ownMac
  have known := congrArg Notes.haveMac named.notes
  unfold TsfSync.packets
  unfold TsfSync.joins at firstMapped secondMapped ⊢
  unfold TsfSync.service
  rw [last] at firstMapped ⊢
  by_cases early : args.localNowUs - second.lastServiceUs < serviceMinIntervalUs
  · simp only [if_pos early]
    exact ⟨alike, trivial⟩
  · simp only [if_neg early] at firstMapped secondMapped ⊢
    change ((first.beginTick args).learnMac radio.ownMac).haveMac =
      ((second.beginTick args).learnMac radio.ownMac).haveMac at known
    rw [known] at firstMapped ⊢
    generalize (first.beginTick args).learnMac radio.ownMac = firstNamed at *
    generalize (second.beginTick args).learnMac radio.ownMac = secondNamed at *
    by_cases nameless : (!secondNamed.haveMac) = true
    · simp only [if_pos nameless]
      exact ⟨named, trivial⟩
    · simp only [if_neg nameless] at firstMapped secondMapped ⊢
      generalize radio.apBssid = apBssid at *
      cases apBssid with
      | none => exact ⟨named.disassociate, rfl⟩
      | some bssid =>
          have joined := named.associate bssid
          dsimp only at firstMapped secondMapped ⊢
          by_cases closed : (!radio.socketReady) = true
          · simp only [if_pos closed]
            exact ⟨joined, trivial⟩
          · simp only [if_neg closed] at firstMapped secondMapped ⊢
            have received := joined.foldl (radio.inbox.map (.receive args))
              (firstMapped _ rfl) (secondMapped _ rfl)
            rw [List.foldl_map, List.foldl_map] at received
            obtain ⟨published, packet⟩ := Alike.publish received args radio
            have reported := Alike.view received
              (fun sync => sync.phaseOnlyBeacon args radio.timerUs) fun _ => rfl
            refine ⟨published.consensusTick args.localNowUs, ?_⟩
            exact congrArg₂ (· ++ ·) (congrArg Option.toList packet)
              (congrArg Option.toList reported)

end TsfSync

/-- The shared object with what its player-task half keeps for itself. -/
structure Device (K : Type) where
  sync : TsfSync K
  filter : OffsetFilter K
  phaseTxLastUs : Int
  phaseTxIntervalUs : Int

inductive DeviceCall (K : Type) where
  | call (action : Action K)
  | service (args : ServiceArgs K) (radio : TsfSync.Radio K)
  | sharedServerOffset (localNowUs : Int) (read : Option TsfRead)
  | sendPhaseReport (localNowUs : Int) (socketReady : Bool)

structure Observed (K : Type) where
  mapping : Option (Line K × Int)
  groupDelta : Int × Nat
  heldDelta : Int × Int
  averagedDelta : Int × Nat
  crystalPpm : Option K
  tsfRatePpm : Option K
  packets : List (TsfPacket K)
  offset : Option Int

namespace Device

def create (plausibilityUs : Int) : Device K :=
  { sync := TsfSync.create plausibilityUs
    filter := OffsetFilter.create
    phaseTxLastUs := 0
    phaseTxIntervalUs := 20000 }

def sendPhaseReport (device : Device K) (localNowUs : Int) (socketReady : Bool) :
    Device K × Option (TsfPacket K) :=
  let sync := device.sync
  if localNowUs - device.phaseTxLastUs < device.phaseTxIntervalUs then (device, none)
  else if !sync.haveMac || !sync.haveBssid || !socketReady then (device, none)
  else if sync.renderPhaseForBeacon = renderPhaseUnknown ∨ sync.renderPhaseAtUs = 0 then
    (device, none)
  else
    ({ device with phaseTxLastUs := localNowUs },
      some (sync.phaseOnlyPacket sync.pubServerIdHash sync.pubStreamIdHash
        (clamp (Int.tdiv (localNowUs - sync.renderPhaseAtUs) 1000) 0 65534).toNat))

def observe (sync : TsfSync K) (packets : List (TsfPacket K)) (offset : Option Int) :
    Observed K :=
  { mapping :=
      if sync.mappingValid then some (sync.mapLine, sync.mapUpdatedLocalUs) else none
    groupDelta := (sync.renderGroupDeltaUs, sync.groupDeltaN)
    heldDelta := (sync.groupDeltaHeldUs, sync.groupDeltaHeldAtUs)
    averagedDelta := (sync.renderGroupDeltaAvgUs, sync.gdavgPairsPub)
    crystalPpm := sync.pubCrystalPpm
    tsfRatePpm := if sync.tsfRateValid then some sync.tsfRatePpm else none
    packets := packets
    offset := offset }

def actionPackets (sync : TsfSync K) : Action K → List (TsfPacket K)
  | .broadcast args timerUs sample => (sync.broadcast args timerUs sample).2.toList
  | _ => []

def step (device : Device K) : DeviceCall K → Device K × Observed K
  | .call action =>
      let after := device.sync.act action
      ({ device with sync := after }, observe after (actionPackets device.sync action) none)
  | .service args radio =>
      let after := (device.sync.service args radio).1
      ({ device with sync := after }, observe after (device.sync.packets args radio) none)
  | .sharedServerOffset localNowUs read =>
      let answered := device.sync.sharedServerOffset device.filter localNowUs read
      ({ device with
          sync := answered.1
          filter := answered.2.1 },
        observe answered.1 [] answered.2.2)
  | .sendPhaseReport localNowUs socketReady =>
      let sent := device.sendPhaseReport localNowUs socketReady
      (sent.1, observe sent.1.sync sent.2.toList none)

def reset (device : Device K) : Device K := { device with sync := device.sync.reset }

def Mapped (device : Device K) : DeviceCall K → Prop
  | .call action => device.sync.Mapped action
  | .service args radio => TsfSync.MappedInbox args radio (device.sync.joins args radio)
  | _ => True

structure Alike (first second : Device K) : Prop where
  sync : first.sync.Alike second.sync
  filter : first.filter.blank = second.filter.blank
  sent : first.phaseTxLastUs = second.phaseTxLastUs
  interval : first.phaseTxIntervalUs = second.phaseTxIntervalUs

omit [LinearOrder K] [FloorRing K] in
theorem observe_alike {first second : TsfSync K} (alike : first.Alike second)
    (packets : List (TsfPacket K)) (offset : Option Int) :
    observe first packets offset = observe second packets offset := by
  apply alike.view fun sync => observe sync packets offset
  intro sync
  have mapping : (if sync.blank.mappingValid then
        some (sync.blank.mapLine, sync.blank.mapUpdatedLocalUs) else none) =
      if sync.mappingValid then some (sync.mapLine, sync.mapUpdatedLocalUs) else none := by
    unfold TsfSync.mapLine TsfSync.blank
    cases sync.mappingValid with
    | false => rfl
    | true => rfl
  have rate : (if sync.blank.tsfRateValid then some sync.blank.tsfRatePpm else none) =
      if sync.tsfRateValid then some sync.tsfRatePpm else none := by
    unfold TsfSync.blank
    cases sync.tsfRateValid with
    | false => rfl
    | true => rfl
  unfold observe
  rw [mapping, rate]
  rfl

omit [LinearOrder K] [FloorRing K] in
theorem sendPhaseReport_alike {first second : Device K} (alike : first.Alike second)
    (localNowUs : Int) (socketReady : Bool) :
    (first.sendPhaseReport localNowUs socketReady).1.Alike
        (second.sendPhaseReport localNowUs socketReady).1 ∧
      (first.sendPhaseReport localNowUs socketReady).2 =
        (second.sendPhaseReport localNowUs socketReady).2 := by
  have reports : ∀ sync : TsfSync K,
      ((sync.blank.haveMac, sync.blank.haveBssid, sync.blank.renderPhaseForBeacon,
          sync.blank.renderPhaseAtUs, sync.blank.pubServerIdHash, sync.blank.pubStreamIdHash),
        sync.blank.phaseOnlyPacket) =
      ((sync.haveMac, sync.haveBssid, sync.renderPhaseForBeacon, sync.renderPhaseAtUs,
          sync.pubServerIdHash, sync.pubStreamIdHash), sync.phaseOnlyPacket) := fun _ => rfl
  have same := alike.sync.view (fun sync =>
    ((sync.haveMac, sync.haveBssid, sync.renderPhaseForBeacon, sync.renderPhaseAtUs,
      sync.pubServerIdHash, sync.pubStreamIdHash), sync.phaseOnlyPacket)) reports
  simp only [Prod.mk.injEq] at same
  obtain ⟨⟨mac, bssid, phase, at_, server, stream⟩, packet⟩ := same
  unfold sendPhaseReport
  dsimp only
  rw [alike.sent, alike.interval, mac, bssid, phase, at_, server, stream, packet]
  split
  · exact ⟨alike, rfl⟩
  · split
    · exact ⟨alike, rfl⟩
    · split
      · exact ⟨alike, rfl⟩
      · exact ⟨⟨alike.sync, alike.filter, rfl, rfl⟩, rfl⟩

theorem step_alike {first second : Device K} (alike : first.Alike second)
    (call : DeviceCall K) (firstMapped : first.Mapped call) (secondMapped : second.Mapped call) :
    (first.step call).2 = (second.step call).2 ∧
      (first.step call).1.Alike (second.step call).1 := by
  cases call with
  | call action =>
      have acted := alike.sync.act action firstMapped secondMapped
      refine ⟨?_, acted, alike.filter, alike.sent, alike.interval⟩
      have packets : actionPackets first.sync action = actionPackets second.sync action := by
        cases action with
        | broadcast args timerUs sample =>
            exact alike.sync.view (fun sync => (sync.broadcast args timerUs sample).2.toList)
              fun sync => congrArg Option.toList
                (TsfSync.broadcast_blank sync args timerUs sample).2
        | _ => rfl
      exact (observe_alike acted _ none).trans (congrArg (observe _ · none) packets)
  | service args radio =>
      obtain ⟨served, packets⟩ := alike.sync.service args radio firstMapped secondMapped
      refine ⟨?_, served, alike.filter, alike.sent, alike.interval⟩
      exact (observe_alike served _ none).trans (congrArg (observe _ · none) packets)
  | sharedServerOffset localNowUs read =>
      have blanked := fun device : Device K =>
        TsfSync.sharedServerOffset_blank device.sync device.filter localNowUs read
      have synced : (first.sync.sharedServerOffset first.filter localNowUs read).1.Alike
          (second.sync.sharedServerOffset second.filter localNowUs read).1 := by
        unfold TsfSync.Alike
        rw [← (blanked first).1, alike.sync, alike.filter, (blanked second).1]
      have filtered : (first.sync.sharedServerOffset first.filter localNowUs read).2.1.blank =
          (second.sync.sharedServerOffset second.filter localNowUs read).2.1.blank := by
        rw [← (blanked first).2.1, alike.sync, alike.filter, (blanked second).2.1]
      have answered : (first.sync.sharedServerOffset first.filter localNowUs read).2.2 =
          (second.sync.sharedServerOffset second.filter localNowUs read).2.2 := by
        rw [← (blanked first).2.2, alike.sync, alike.filter, (blanked second).2.2]
      refine ⟨?_, synced, filtered, alike.sent, alike.interval⟩
      exact (observe_alike synced [] _).trans (congrArg (observe _ []) answered)
  | sendPhaseReport localNowUs socketReady =>
      obtain ⟨after, packet⟩ := sendPhaseReport_alike alike localNowUs socketReady
      refine ⟨?_, after⟩
      exact (observe_alike after.sync _ none).trans
        (congrArg (observe _ · none) (congrArg Option.toList packet))

end Device

def Peer.timeless (peer : Peer K) : Peer K :=
  { peer with
    phaseUs := renderPhaseUnknown
    tsfBaseUs := 0
    tmsBaseUs := 0
    driftPpm := 0 }

/-- The state without every value that is expressed in the epoch of the access point's TSF, and
without the rate and drift measured against it. -/
def TsfSync.timeless (sync : TsfSync K) : TsfSync K :=
  { sync with
    renderPhaseUs := renderPhaseUnknown
    peer := sync.peer.mapSlots Peer.timeless fun _ => rfl
    ownPh := sync.ownPh.map fun own => { own with phaseUs := 0 }
    gdavgSum := List.replicate maxPeers 0
    renderGroupDeltaAvgUs := int32Min
    renderGroupDeltaUs := int32Min
    groupDeltaHeldUs := int32Min
    rateRefTsfUs := 0
    tsfRatePpm := 0
    pubTsfBase := 0
    pubTmsBase := 0
    pubDriftPpm := 0
    mapTsfBaseUs := 0
    mapTsfMinusServerUs := 0
    mapDriftPpm := 0 }

namespace Device

def timeless (device : Device K) : Device K :=
  { device with
    sync := device.sync.timeless
    filter := { device.filter with offsetRateRefTsfUs := 0 } }

def EpochOnly (first second : Device K) : Prop := first.timeless = second.timeless

/-- Of the values that `reset_` does not name, none is there. -/
structure Clean (device : Device K) : Prop where
  ownPhase : device.sync.renderPhaseUs = renderPhaseUnknown
  peerPhases : ∀ peer ∈ device.sync.peer.slots, peer.phaseUs = renderPhaseUnknown
  ring : device.sync.ownPh = Vector.replicate ownPhaseRing ⟨0, 0⟩
  sums : device.sync.gdavgSum = List.replicate maxPeers 0
  averaged : device.sync.renderGroupDeltaAvgUs = int32Min
  live : device.sync.renderGroupDeltaUs = int32Min
  held : device.sync.groupDeltaHeldUs = int32Min
  rateWindow : device.filter.offsetRateRefLocalUs = 0

omit [LinearOrder K] [FloorRing K] in
theorem reset_blank_of_clean (device : Device K) (clean : device.Clean) :
    device.sync.reset.blank = device.timeless.sync.reset.blank := by
  have slots : (device.sync.peer.mapSlots (fun peer => { peer with mapValid := false })
        fun _ => rfl).mapSlots Peer.blank Peer.blank_mac =
      ((device.sync.peer.mapSlots Peer.timeless fun _ => rfl).mapSlots
        (fun peer => { peer with mapValid := false }) fun _ => rfl).mapSlots
          Peer.blank Peer.blank_mac := by
    apply PeerTable.eq_of_slots
    change (device.sync.peer.slots.map _).map Peer.blank =
      ((device.sync.peer.slots.map Peer.timeless).map _).map Peer.blank
    rw [List.map_map, List.map_map, List.map_map]
    apply List.map_congr_left
    intro peer member
    have unknown := clean.peerPhases peer member
    simp only [Function.comp_apply, Peer.blank, Peer.withoutLine, Peer.timeless,
      Bool.false_eq_true, if_false, unknown]
  have ring : device.sync.ownPh.map (fun own => { own with phaseUs := 0 }) =
      device.sync.ownPh := by
    rw [clean.ring, Vector.map_replicate]
  simp only [timeless, TsfSync.timeless, TsfSync.blank, TsfSync.reset, slots, ring,
    clean.ownPhase, clean.sums, clean.averaged, clean.live, clean.held, cond_false]
  rfl

omit [LinearOrder K] [FloorRing K] in
theorem filter_blank_of_clean (device : Device K) (clean : device.Clean) :
    device.filter.blank = device.timeless.filter.blank := by
  unfold OffsetFilter.blank timeless
  dsimp only
  rw [clean.rateWindow]
  rfl

omit [LinearOrder K] [FloorRing K] in
theorem reset_alike {first second : Device K} (epoch : first.EpochOnly second)
    (firstClean : first.Clean) (secondClean : second.Clean) :
    first.reset.Alike second.reset := by
  have sync := congrArg (fun device : Device K => device.sync.reset.blank) epoch
  have filter := congrArg (fun device : Device K => device.filter.blank) epoch
  have sent := congrArg Device.phaseTxLastUs epoch
  have interval := congrArg Device.phaseTxIntervalUs epoch
  refine ⟨?_, ?_, sent, interval⟩
  · exact ((reset_blank_of_clean first firstClean).trans sync).trans
      (reset_blank_of_clean second secondClean).symm
  · exact ((filter_blank_of_clean first firstClean).trans filter).trans
      (filter_blank_of_clean second secondClean).symm

/-- Everything that is computed, sent or answered after the reset is the same. -/
def Isolated (first second : Device K) (calls : List (DeviceCall K)) : Prop :=
  Unwinding.answers step first.reset calls = Unwinding.answers step second.reset calls

theorem isolated_of_clean (first second : Device K) (epoch : first.EpochOnly second)
    (firstClean : first.Clean) (secondClean : second.Clean) (calls : List (DeviceCall K))
    (firstMapped : Run.Along (Unwinding.next step) Mapped first.reset calls)
    (secondMapped : Run.Along (Unwinding.next step) Mapped second.reset calls) :
    Isolated first second calls := by
  apply Unwinding.answers_eq step Alike Mapped
  · intro first second call alike firstMapped secondMapped
    exact (step_alike alike call firstMapped secondMapped).1
  · intro first second call alike firstMapped secondMapped
    exact (step_alike alike call firstMapped secondMapped).2
  · exact reset_alike epoch firstClean secondClean
  · exact firstMapped
  · exact secondMapped

private def tickArgs (localNowUs : Int) (mature : Bool) : ServiceArgs Rat :=
  { localNowUs := localNowUs
    est := ⟨mature, mature, 50, 0⟩
    serverIdHash := 7
    streamIdHash := 5 }

private def heardFrom (bssid : UInt8) (timerUs : Int) : TsfSync.Radio Rat :=
  { ownMac := some (Vector.replicate 6 1)
    apBssid := some (Vector.replicate 6 bssid)
    socketReady := true
    inbox := []
    timerUs := timerUs
    sample := some ⟨timerUs + 500, timerUs⟩ }

private def mappedOn (tsfBaseUs tmsBaseUs : Int) (driftPpm : Rat) : Device Rat :=
  { Device.create 100000 with
    sync :=
      { TsfSync.create 100000 with
        haveMac := true
        haveBssid := true
        bssid := Vector.replicate 6 9
        pubValid := true
        pubTsfBase := tsfBaseUs
        pubTmsBase := tmsBaseUs
        pubDriftPpm := driftPpm
        mappingValid := true
        mapTsfBaseUs := tsfBaseUs
        mapTsfMinusServerUs := tmsBaseUs
        mapDriftPpm := driftPpm } }

private theorem mappedOn_clean (tsfBaseUs tmsBaseUs : Int) (driftPpm : Rat) :
    (mappedOn tsfBaseUs tmsBaseUs driftPpm).Clean := by
  refine ⟨rfl, ?_, rfl, rfl, rfl, rfl, rfl, rfl⟩
  intro peer member
  cases member

/-- A new access point is joined and a mapping adopted there before the first phase. -/
private def joinedCalls : List (DeviceCall Rat) :=
  [.service (tickArgs 4000000 true) (heardFrom 3 4000000),
    .call (.setRenderPhase 100 4100000),
    .sharedServerOffset 4200000 (some ⟨⟨4200500, 4200000⟩, 45⟩)]

private theorem mappedOn_epoch :
    (mappedOn 5000000 700 12).EpochOnly (mappedOn 80000000 (-40) 31) := rfl

theorem isolated_joinedCalls :
    Isolated (mappedOn 5000000 700 12) (mappedOn 80000000 (-40) 31) joinedCalls :=
  isolated_of_clean _ _ mappedOn_epoch (mappedOn_clean 5000000 700 12)
    (mappedOn_clean 80000000 (-40) 31) joinedCalls
    ⟨fun _ _ => trivial, Or.inl (by decide +kernel), trivial, trivial⟩
    ⟨fun _ _ => trivial, Or.inl (by decide +kernel), trivial, trivial⟩

private def sampledOn (phaseUs : Int) : List (DeviceCall Rat) :=
  [.service (tickArgs 2000000 false) (heardFrom 9 2000000),
    .call (.setRenderPhase phaseUs 2100000)]

theorem setRenderPhase_alone (sync : TsfSync K) (phaseUs atUs : Int)
    (known : phaseUs ≠ renderPhaseUnknown) (sampled : atUs ≠ 0)
    (alone : sync.peer.slots = []) (unpaired : sync.groupDeltaAtUs = 0) :
    (sync.setRenderPhase phaseUs atUs).timeless =
      ({ sync with
        renderPhaseAtUs := atUs
        ownPh := sync.ownPh.setIfInBounds sync.ownPhIdx ⟨0, atUs⟩
        ownPhIdx := (sync.ownPhIdx + 1) % ownPhaseRing } : TsfSync K).timeless := by
  have stored : sync.phaseStored phaseUs atUs =
      { sync with
        renderPhaseUs := phaseUs
        renderPhaseAtUs := atUs
        ownPh := sync.ownPh.setIfInBounds sync.ownPhIdx ⟨phaseUs, atUs⟩
        ownPhIdx := (sync.ownPhIdx + 1) % ownPhaseRing } := if_pos ⟨known, sampled⟩
  have recomputed : (sync.phaseStored phaseUs atUs).recomputeGroupDelta atUs =
      sync.phaseStored phaseUs atUs := by
    rw [stored]
    unfold TsfSync.recomputeGroupDelta
    dsimp only
    rw [if_neg known, if_neg sampled, alone]
    simp [unpaired]
  rw [TsfSync.setRenderPhase_eq, if_pos sampled, recomputed, stored]
  unfold TsfSync.timeless
  dsimp only
  rw [Vector.map_setIfInBounds, Vector.map_setIfInBounds]

private theorem sampledOn_epoch :
    EpochOnly ((sampledOn 100).foldl (Unwinding.next step) (Device.create 100000))
      ((sampledOn 200).foldl (Unwinding.next step) (Device.create 100000)) := by
  have sampled : ∀ phaseUs : Int, phaseUs ≠ renderPhaseUnknown →
      ((sampledOn phaseUs).foldl (Unwinding.next step) (Device.create 100000)).sync.timeless =
        (((sampledOn 0).foldl (Unwinding.next step) (Device.create 100000)).sync.timeless) := by
    intro phaseUs known
    have first := setRenderPhase_alone
      ((TsfSync.create 100000).service (tickArgs 2000000 false) (heardFrom 9 2000000)).1
      phaseUs 2100000 known (by decide) (by decide +kernel) (by decide +kernel)
    have zero := setRenderPhase_alone
      ((TsfSync.create 100000).service (tickArgs 2000000 false) (heardFrom 9 2000000)).1
      0 2100000 (by decide) (by decide) (by decide +kernel) (by decide +kernel)
    exact first.trans zero.symm
  have synced := (sampled 100 (by decide)).trans (sampled 200 (by decide)).symm
  unfold EpochOnly timeless
  rw [synced]
  rfl

/-- The own phase of the old epoch goes out with the first beacon on the new access point. -/
theorem leaked_by_beacon :
    ¬ ∀ (plausibilityUs : Int) (firstPast secondPast calls : List (DeviceCall Rat)),
      EpochOnly (firstPast.foldl (Unwinding.next step) (Device.create plausibilityUs))
        (secondPast.foldl (Unwinding.next step) (Device.create plausibilityUs)) →
      Isolated (firstPast.foldl (Unwinding.next step) (Device.create plausibilityUs))
        (secondPast.foldl (Unwinding.next step) (Device.create plausibilityUs)) calls := by
  intro always
  have same := always 100000 (sampledOn 100) (sampledOn 200)
    [.service (tickArgs 4000000 true) (heardFrom 3 4000000)] sampledOn_epoch
  have phases := congrArg
    (List.map fun observed => observed.packets.map TsfPacket.renderPhaseUs) same
  exact absurd phases (by decide +kernel)

end Device

end ClockSync
