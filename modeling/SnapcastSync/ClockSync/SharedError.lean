import SnapcastSync.ClockSync.CommonReports
import SnapcastSync.ClockSync.Convergence
import SnapcastSync.Lib.Run

/-! A group of devices that publish their common errors in beacons, none of which is lost, and
average what they hold. A device counts its own error as it is now and those of its peers as
they last were. -/

namespace ClockSync

open Rounding

variable {K : Type}

/-- The group, with the beacons on their way from each sender to each receiver, oldest first.
Beside the devices stand what the latest beacon of each carried, what each last heard of each
other and when, the same of what was known, and the values each last formed a consensus of. -/
structure Network (n : Nat) (K : Type) where
  device : Fin n → TsfSync K
  air : Fin n → Fin n → List (TsfPacket K)
  saidUs : Fin n → Option Int
  heard : Fin n → Fin n → Option (Int × Int)
  known : Fin n → Fin n → Option (Int × Int)
  formed : Fin n → List K

inductive GroupEvent (n : Nat) (K : Type) where
  | work (device : Fin n) (action : Action K)
  | report (device : Fin n) (commonErrUs : Int)
  | beacon (sender : Fin n) (packet : TsfPacket K)
  | hear (receiver sender : Fin n) (args : ServiceArgs K) (fromAddr : Addr)
      (sample : Option TsfSample)
  | ask (device : Fin n) (localNowUs : Int)

namespace TsfSync

/-- `set_common_err_us`. -/
def setCommonErr (sync : TsfSync K) (commonErrUs : Int) : TsfSync K :=
  { sync with pubCommonErrUs := commonErrUs }

def ownErr (sync : TsfSync K) : Option Int :=
  if sync.pubCommonErrUs = int32Min then none else some sync.pubCommonErrUs

def saying (sync : TsfSync K) (packet : TsfPacket K) : TsfPacket K :=
  { packet with
    senderMac := sync.myMac
    commonErrUs := sync.pubCommonErrUs }

def HoldsCommon (sync : TsfSync K) (localNowUs : Int) : Prop :=
  sync.commonCAtUs ≠ 0 ∧ localNowUs - sync.commonCAtUs ≤ groupDeltaStaleUs

end TsfSync

def freshUs (localNowUs : Int) (report : Int × Int) : Option Int :=
  if localNowUs - report.2 < phaseStaleUs then some report.1 else none

namespace Network

variable {n : Nat}

def start [Zero K] (macs : Fin n → Mac) (plausibilityUs : Int) : Network n K :=
  { device := fun device =>
      { TsfSync.create plausibilityUs with
        haveMac := true
        myMac := macs device }
    air := fun _ _ => []
    saidUs := fun _ => none
    heard := fun _ _ => none
    known := fun _ _ => none
    formed := fun _ => [] }

def setDevice (network : Network n K) (device : Fin n) (sync : TsfSync K) : Network n K :=
  { network with device := Function.update network.device device sync }

variable [Field K] [LinearOrder K] [FloorRing K]

def setPair {α : Type} (table : Fin n → Fin n → α) (receiver sender : Fin n) (value : α) :
    Fin n → Fin n → α :=
  Function.update table receiver (Function.update (table receiver) sender value)

def step (network : Network n K) : GroupEvent n K → Network n K
  | .work device action => network.setDevice device ((network.device device).act action)
  | .report device commonErrUs =>
      network.setDevice device ((network.device device).setCommonErr commonErrUs)
  | .beacon sender packet =>
      { network with
        air := fun receiver other =>
          if other = sender ∧ receiver ≠ sender then
            network.air receiver other ++ [(network.device sender).saying packet]
          else network.air receiver other
        saidUs := Function.update network.saidUs sender
          (some (network.device sender).pubCommonErrUs) }
  | .hear receiver sender args fromAddr sample =>
      match network.air receiver sender with
      | [] => network
      | packet :: rest =>
          { network with
            device := Function.update network.device receiver
              ((network.device receiver).receive args ⟨packet, fromAddr, sample⟩)
            air := setPair network.air receiver sender rest
            heard := setPair network.heard receiver sender
              (some (packet.commonErrUs, args.localNowUs))
            known := setPair network.known receiver sender
              (TsfSync.laterReport (network.known receiver sender) packet.commonErrUs
                args.localNowUs) }
  | .ask device localNowUs =>
      let vals := (network.device device).commonErrVals localNowUs
      { network with
        device := Function.update network.device device
          ((network.device device).commonErrConsensus localNowUs).1
        formed := Function.update network.formed device
          (if 2 ≤ vals.length then vals else network.formed device) }

/-- No beacon is lost: each that comes in concerns its receiver. What a device does beside the
events of the group leaves its address and the common errors alone. -/
def Delivered (network : Network n K) : GroupEvent n K → Prop
  | .work device action => (network.device device).KeepsReports action
  | .hear receiver sender args _ _ =>
      ∀ packet ∈ (network.air receiver sender).head?,
        (network.device receiver).concerns args packet = true
  | _ => True

/-- Each device holds the latest beacon of each other, and it is not stale. -/
structure Settled (network : Network n K) (localNowUs : Fin n → Int) : Prop where
  landed : ∀ receiver sender, network.air receiver sender = []
  fresh : ∀ receiver sender, sender ≠ receiver →
    ∃ us atUs, network.heard receiver sender = some (us, atUs) ∧
      localNowUs receiver - atUs < phaseStaleUs

def ownErrs (network : Network n K) : List Int :=
  (List.finRange n).filterMap fun device => (network.device device).ownErr

/-- What a device counts as its own is what the others count as its: known, it is what its
latest beacon carried; unknown, the last one known is stale. And where fewer than two are
known, the devices hold a consensus of the same values, or none of them holds one. -/
structure Told (network : Network n K) (localNowUs : Fin n → Int) : Prop where
  current : ∀ device us, (network.device device).ownErr = some us →
    network.saidUs device = some us
  lapsed : ∀ receiver sender, sender ≠ receiver → (network.device sender).ownErr = none →
    ∀ us atUs, network.known receiver sender = some (us, atUs) →
      phaseStaleUs ≤ localNowUs receiver - atUs
  bridged : network.ownErrs.length < 2 → ∀ left right,
    ((network.device left).HoldsCommon (localNowUs left) ↔
      (network.device right).HoldsCommon (localNowUs right)) ∧
    ((network.device left).HoldsCommon (localNowUs left) →
      (network.formed left).Perm (network.formed right))

def answer (network : Network n K) (localNowUs : Fin n → Int) (device : Fin n) : Option Int :=
  ((network.device device).commonErrConsensus (localNowUs device)).2.map Prod.fst

/-- The common error is shared: all have one or none, and no two are more than 1 us apart. -/
def Shares (network : Network n K) (localNowUs : Fin n → Int) : Prop :=
  ∀ left right,
    (network.answer localNowUs left).isSome = (network.answer localNowUs right).isSome ∧
    ∀ leftUs ∈ network.answer localNowUs left, ∀ rightUs ∈ network.answer localNowUs right,
      |leftUs - rightUs| ≤ 1

/-- What the run keeps: each device holds, in slots of the group, the last known common error it
was told by each other, and its consensus is the mean of what it was formed of. -/
structure Faithful (macs : Fin n → Mac) (network : Network n K) : Prop where
  named : ∀ device, (network.device device).myMac = macs device
  members : ∀ receiver, ∀ mac ∈ (network.device receiver).peer.macs,
    ∃ sender, sender ≠ receiver ∧ mac = macs sender
  reported : ∀ receiver sender, sender ≠ receiver →
    (network.device receiver).peer.reported (macs sender) = network.known receiver sender
  senders : ∀ receiver sender, ∀ packet ∈ network.air receiver sender,
    sender ≠ receiver ∧ packet.senderMac = macs sender
  latest : ∀ receiver sender, sender ≠ receiver →
    ((network.air receiver sender).getLast?.map TsfPacket.commonErrUs).or
      ((network.heard receiver sender).map Prod.fst) = network.saidUs sender
  kept : ∀ receiver sender us atUs, network.heard receiver sender = some (us, atUs) →
    us ≠ int32Min → network.known receiver sender = some (us, atUs)
  consented : ∀ device, (network.device device).commonCAtUs ≠ 0 →
    (network.device device).commonCUs =
      llround (robustMean (network.formed device) consensusScaleFloorUs)

omit [LinearOrder K] [FloorRing K] in
theorem setPair_apply {α : Type} (table : Fin n → Fin n → α) (receiver sender : Fin n)
    (value : α) (left right : Fin n) :
    setPair table receiver sender value left right =
      if left = receiver ∧ right = sender then value else table left right := by
  by_cases here : left = receiver
  · subst here
    by_cases there : right = sender
    · subst there
      simp [setPair]
    · simp [setPair, there]
  · simp [setPair, here]

theorem start_faithful (macs : Fin n → Mac) (plausibilityUs : Int) :
    Faithful macs (start (K := K) macs plausibilityUs) := by
  constructor
  · intro device
    rfl
  · intro receiver mac member
    cases member
  · intro receiver sender _
    rfl
  · intro receiver sender packet flying
    cases flying
  · intro receiver sender _
    rfl
  · intro receiver sender us atUs told
    cases told
  · intro device formed
    exact absurd rfl formed

theorem Faithful.setDevice {macs : Fin n → Mac} {network : Network n K}
    (faithful : Faithful macs network) (device : Fin n) (commonErrUs : Int) (after : TsfSync K)
    (same : ((network.device device).setCommonErr commonErrUs).SameReports after) :
    Faithful macs (network.setDevice device after) := by
  constructor
  · intro other
    by_cases here : other = device
    · subst here
      simpa [Network.setDevice, TsfSync.setCommonErr, same.mac] using faithful.named other
    · simpa [Network.setDevice, here] using faithful.named other
  · intro receiver
    by_cases here : receiver = device
    · subst here
      simpa [Network.setDevice, TsfSync.setCommonErr, same.macs] using faithful.members receiver
    · simpa [Network.setDevice, here] using faithful.members receiver
  · intro receiver sender
    by_cases here : receiver = device
    · subst here
      simpa [Network.setDevice, TsfSync.setCommonErr, same.reported] using
        faithful.reported receiver sender
    · simpa [Network.setDevice, here] using faithful.reported receiver sender
  · exact faithful.senders
  · exact faithful.latest
  · exact faithful.kept
  · intro other
    by_cases here : other = device
    · subst here
      simpa [Network.setDevice, TsfSync.setCommonErr, same.heldUs, same.heldAtUs] using
        faithful.consented other
    · simpa [Network.setDevice, here] using faithful.consented other

theorem beacon_faithful {macs : Fin n → Mac} {network : Network n K}
    (faithful : Faithful macs network) (sender : Fin n) (packet : TsfPacket K) :
    Faithful macs (network.step (.beacon sender packet)) := by
  constructor
  · exact faithful.named
  · exact faithful.members
  · exact faithful.reported
  · intro receiver other flying member
    simp only [step] at member
    by_cases sent : other = sender ∧ receiver ≠ sender
    · rw [if_pos sent] at member
      rcases List.mem_append.mp member with earlier | last
      · exact faithful.senders receiver other flying earlier
      · rw [List.mem_singleton.mp last, sent.1]
        exact ⟨sent.2.symm, faithful.named sender⟩
    · rw [if_neg sent] at member
      exact faithful.senders receiver other flying member
  · intro receiver other apart
    by_cases here : other = sender
    · subst here
      simp [step, apart.symm, TsfSync.saying]
    · simpa [step, here] using faithful.latest receiver other apart
  · exact faithful.kept
  · exact faithful.consented

theorem Faithful.room {macs : Fin n → Mac} {network : Network n K}
    (faithful : Faithful macs network) (fits : n ≤ maxPeers + 1) (receiver sender : Fin n)
    (apart : sender ≠ receiver) : (network.device receiver).peer.Room (macs sender) := by
  by_cases known : macs sender ∈ (network.device receiver).peer.macs
  · exact Or.inl known
  · have group : (macs sender :: (network.device receiver).peer.macs) ⊆
        (peersOf receiver).map macs := by
      intro mac member
      rw [List.mem_map]
      rcases List.mem_cons.mp member with rfl | held
      · exact ⟨sender, (mem_peersOf receiver sender).mpr apart, rfl⟩
      · obtain ⟨other, otherApart, rfl⟩ := faithful.members receiver mac held
        exact ⟨other, (mem_peersOf receiver other).mpr otherApart, rfl⟩
    have slots : (macs sender :: (network.device receiver).peer.macs).Nodup :=
      List.nodup_cons.mpr ⟨known, (network.device receiver).peer.distinct⟩
    have bounded := (slots.subperm group).length_le
    have whole := (finRange_perm_peersOf receiver).length_eq
    simp only [PeerTable.macs, List.length_cons, List.length_map, List.length_finRange]
      at bounded whole
    right
    omega

omit [Field K] [LinearOrder K] [FloorRing K] in
theorem latest_landed (packet : TsfPacket K) (rest : List (TsfPacket K))
    (heard : Option Int) :
    (rest.getLast?.map TsfPacket.commonErrUs).or (some packet.commonErrUs) =
      ((packet :: rest).getLast?.map TsfPacket.commonErrUs).or heard := by
  rw [List.getLast?_cons]
  cases rest.getLast? with
  | none => rfl
  | some last => rfl

theorem hear_faithful {macs : Fin n → Mac} {network : Network n K}
    (faithful : Faithful macs network) (distinct : Function.Injective macs)
    (fits : n ≤ maxPeers + 1) (receiver sender : Fin n) (args : ServiceArgs K)
    (fromAddr : Addr) (sample : Option TsfSample)
    (delivered : network.Delivered (.hear receiver sender args fromAddr sample)) :
    Faithful macs (network.step (.hear receiver sender args fromAddr sample)) := by
  cases flying : network.air receiver sender with
  | nil => simpa [step, flying] using faithful
  | cons packet rest =>
      have concerned : (network.device receiver).concerns args packet = true :=
        delivered packet (by simp [flying])
      obtain ⟨apart, addressed⟩ :=
        faithful.senders receiver sender packet (by simp [flying])
      have room := faithful.room fits receiver sender apart
      rw [← addressed] at room
      obtain ⟨mac, _, heldUs, heldAtUs, slots, reported⟩ := (network.device receiver).receive_reports
        args ⟨packet, fromAddr, sample⟩ concerned room
      dsimp only at slots reported
      rw [addressed] at slots reported
      simp only [step, flying]
      constructor
      · intro other
        by_cases here : other = receiver
        · subst here
          simpa [mac] using faithful.named other
        · simpa [here] using faithful.named other
      · intro other held member
        by_cases here : other = receiver
        · subst here
          simp only [Function.update_self, slots] at member
          split at member
          · exact faithful.members other held member
          · rcases List.mem_append.mp member with earlier | last
            · exact faithful.members other held earlier
            · exact ⟨sender, apart, List.mem_singleton.mp last⟩
        · simp only [Function.update_of_ne here] at member
          exact faithful.members other held member
      · intro left right leftApart
        have before := faithful.reported left right leftApart
        dsimp only
        by_cases here : left = receiver
        · subst here
          rw [Function.update_self, reported, setPair_apply, before]
          by_cases there : right = sender
          · rw [if_pos (congrArg macs there), if_pos ⟨rfl, there⟩, there]
          · rw [if_neg fun same => there (distinct same), if_neg fun both => there both.2]
        · rw [Function.update_of_ne here, setPair_apply, if_neg fun both => here both.1]
          exact before
      · intro left right other member
        dsimp only at member
        rw [setPair_apply] at member
        split at member
        · rename_i both
          rw [both.1, both.2]
          exact faithful.senders receiver sender other
            (by rw [flying]; exact List.mem_cons_of_mem packet member)
        · exact faithful.senders left right other member
      · intro left right leftApart
        have before := faithful.latest left right leftApart
        dsimp only
        rw [setPair_apply, setPair_apply]
        by_cases both : left = receiver ∧ right = sender
        · rw [if_pos both, if_pos both, ← before, both.1, both.2, flying]
          exact latest_landed packet rest _
        · rw [if_neg both, if_neg both]
          exact before
      · intro left right us atUs heard known
        dsimp only at heard ⊢
        rw [setPair_apply] at heard ⊢
        by_cases both : left = receiver ∧ right = sender
        · rw [if_pos both] at heard ⊢
          obtain ⟨rfl, rfl⟩ := Prod.mk.inj (Option.some.inj heard)
          exact if_neg known
        · rw [if_neg both] at heard ⊢
          exact faithful.kept left right us atUs heard known
      · intro other
        by_cases here : other = receiver
        · subst here
          simpa [heldUs, heldAtUs] using faithful.consented other
        · simpa [here] using faithful.consented other

theorem ask_faithful {macs : Fin n → Mac} {network : Network n K}
    (faithful : Faithful macs network) (device : Fin n) (localNowUs : Int) :
    Faithful macs (network.step (.ask device localNowUs)) := by
  by_cases several : 2 ≤ ((network.device device).commonErrVals localNowUs).length
  · simp only [step, TsfSync.commonErrConsensus, if_pos several]
    constructor
    · intro other
      by_cases here : other = device
      · subst here
        simpa using faithful.named other
      · simpa [here] using faithful.named other
    · intro receiver
      by_cases here : receiver = device
      · subst here
        simpa using faithful.members receiver
      · simpa [here] using faithful.members receiver
    · intro receiver sender
      by_cases here : receiver = device
      · subst here
        simpa using faithful.reported receiver sender
      · simpa [here] using faithful.reported receiver sender
    · exact faithful.senders
    · exact faithful.latest
    · exact faithful.kept
    · intro other
      by_cases here : other = device
      · subst here
        simp
      · simpa [here] using faithful.consented other
  · have same : network.step (.ask device localNowUs) = network := by
      simp only [step, TsfSync.commonErrConsensus, if_neg several]
      split
      · simp
      · simp
    rw [same]
    exact faithful

theorem step_faithful {macs : Fin n → Mac} (distinct : Function.Injective macs)
    (fits : n ≤ maxPeers + 1) (network : Network n K) (event : GroupEvent n K)
    (faithful : Faithful macs network) (delivered : network.Delivered event) :
    Faithful macs (network.step event) := by
  cases event with
  | work device action =>
      exact faithful.setDevice device (network.device device).pubCommonErrUs _
        (TsfSync.act_reports _ action delivered)
  | report device commonErrUs =>
      exact faithful.setDevice device commonErrUs _ (TsfSync.SameReports.refl _)
  | beacon sender packet => exact beacon_faithful faithful sender packet
  | hear receiver sender args fromAddr sample =>
      exact hear_faithful faithful distinct fits receiver sender args fromAddr sample delivered
  | ask device localNowUs => exact ask_faithful faithful device localNowUs

theorem run_faithful {macs : Fin n → Mac} (distinct : Function.Injective macs)
    (fits : n ≤ maxPeers + 1) (plausibilityUs : Int) (events : List (GroupEvent n K))
    (delivered : Run.Along step Delivered (start macs plausibilityUs) events) :
    Faithful macs (events.foldl step (start macs plausibilityUs)) := by
  have visited := Run.visits_of_along step (Faithful macs) (Faithful macs) Delivered
    (fun _ faithful => faithful) (step_faithful distinct fits) (start macs plausibilityUs) events
    (start_faithful macs plausibilityUs) delivered
  exact Run.visits_last step (Faithful macs) _ events visited

def countedUs (sync : TsfSync K) (localNowUs : Int) : List Int :=
  sync.ownErr.toList ++
    sync.peer.slots.filterMap fun peer => peer.commonReport.bind (freshUs localNowUs)

omit [LinearOrder K] [FloorRing K] in
theorem commonErrVals_eq (sync : TsfSync K) (localNowUs : Int) :
    sync.commonErrVals localNowUs = (countedUs sync localNowUs).map fun us : Int => (us : K) := by
  have peers : ∀ slots : List (Peer K),
      (slots.filter fun peer => decide (peer.commonErrUs ≠ int32Min) &&
          decide (localNowUs - peer.commonSeenUs < phaseStaleUs)).map
          (fun peer => (peer.commonErrUs : K)) =
        (slots.filterMap fun peer => peer.commonReport.bind (freshUs localNowUs)).map
          fun us : Int => (us : K) := by
    intro slots
    induction slots with
    | nil => rfl
    | cons head tail ih =>
        by_cases unknown : head.commonErrUs = int32Min
        · simp [Peer.commonReport, unknown] at ih ⊢
          exact ih
        · by_cases fresh : localNowUs - head.commonSeenUs < phaseStaleUs
          · simp [Peer.commonReport, freshUs, unknown, fresh] at ih ⊢
            exact ih
          · simp [Peer.commonReport, freshUs, unknown, fresh] at ih ⊢
            exact ih
  rw [TsfSync.commonErrVals, peers, countedUs, List.map_append, TsfSync.ownErr]
  by_cases unknown : sync.pubCommonErrUs = int32Min
  · simp [unknown]
  · simp [unknown]

omit [Field K] [LinearOrder K] [FloorRing K] in
theorem ownErr_some (sync : TsfSync K) (us : Int) (own : sync.ownErr = some us) :
    sync.pubCommonErrUs = us ∧ us ≠ int32Min := by
  rw [TsfSync.ownErr] at own
  split at own
  · cases own
  · rename_i known
    rw [← Option.some.inj own]
    exact ⟨rfl, known⟩

theorem Faithful.holds {macs : Fin n → Mac} {network : Network n K}
    (faithful : Faithful macs network) (localNowUs : Fin n → Int)
    (settled : network.Settled localNowUs) (told : network.Told localNowUs) (receiver : Fin n) :
    KeyedList.Holds Peer.mac
      (fun peer => peer.commonReport.bind (freshUs (localNowUs receiver))) macs
      (fun sender => (network.device sender).pubCommonErrUs)
      (network.device receiver).peer.slots
      ((peersOf receiver).filter fun sender => (network.device sender).ownErr.isSome) := by
  constructor
  · intro sender member
    obtain ⟨other, known⟩ := List.mem_filter.mp member
    have apart := (mem_peersOf receiver sender).mp other
    obtain ⟨us, own⟩ := Option.isSome_iff_exists.mp known
    obtain ⟨published, meant⟩ := ownErr_some _ us own
    have said := faithful.latest receiver sender apart
    obtain ⟨heardUs, atUs, heard, fresh⟩ := settled.fresh receiver sender apart
    rw [settled.landed, heard, told.current sender us own] at said
    have same : heardUs = us := Option.some.inj said
    rw [same] at heard
    have held := faithful.reported receiver sender apart
    rw [faithful.kept receiver sender us atUs heard meant] at held
    obtain ⟨peer, found, report⟩ := Option.bind_eq_some_iff.mp held
    obtain ⟨there, named⟩ := PeerTable.get?_mem _ _ peer found
    refine ⟨peer, there, named, ?_⟩
    rw [report, published]
    exact if_pos fresh
  · intro peer there unnamed
    have listed := (PeerTable.mem_macs _ peer.mac).mpr ⟨peer, there, rfl⟩
    obtain ⟨sender, apart, named⟩ := faithful.members receiver peer.mac listed
    have held := PeerTable.reported_of_mem _ peer there
    rw [named, faithful.reported receiver sender apart] at held
    have unknown : (network.device sender).ownErr = none := by
      cases own : (network.device sender).ownErr with
      | none => rfl
      | some us =>
          have member : sender ∈ (peersOf receiver).filter
              fun sender => (network.device sender).ownErr.isSome :=
            List.mem_filter.mpr ⟨(mem_peersOf receiver sender).mpr apart, by rw [own]; rfl⟩
          exact absurd named (unnamed sender member)
    cases report : peer.commonReport with
    | none => rfl
    | some last =>
        rw [report] at held
        have stale := told.lapsed receiver sender apart unknown last.1 last.2 held
        exact if_neg (not_lt.mpr stale)

omit [Field K] [LinearOrder K] [FloorRing K] in
theorem ownErrs_from (network : Network n K) (receiver : Fin n) :
    network.ownErrs.Perm ((network.device receiver).ownErr.toList ++
      ((peersOf receiver).filter fun sender => (network.device sender).ownErr.isSome).map
        fun sender => (network.device sender).pubCommonErrUs) := by
  have known : ∀ senders : List (Fin n),
      senders.filterMap (fun sender => (network.device sender).ownErr) =
        (senders.filter fun sender => (network.device sender).ownErr.isSome).map
          fun sender => (network.device sender).pubCommonErrUs := by
    intro senders
    induction senders with
    | nil => rfl
    | cons head tail ih =>
        cases own : (network.device head).ownErr with
        | none => simp [own, ih]
        | some us => simp [own, ih, (ownErr_some _ us own).1]
  have whole := (finRange_perm_peersOf receiver).filterMap
    fun sender => (network.device sender).ownErr
  rw [← known (peersOf receiver)]
  refine whole.trans ?_
  cases own : (network.device receiver).ownErr with
  | none => simp [own]
  | some us => simp [own]

theorem Faithful.counted_perm {macs : Fin n → Mac} {network : Network n K}
    (faithful : Faithful macs network) (distinct : Function.Injective macs)
    (localNowUs : Fin n → Int) (settled : network.Settled localNowUs)
    (told : network.Told localNowUs) (receiver : Fin n) :
    (countedUs (network.device receiver) (localNowUs receiver)).Perm network.ownErrs := by
  have named : (((peersOf receiver).filter
      fun sender => (network.device sender).ownErr.isSome).map macs).Nodup :=
    (((List.nodup_finRange n).filter _).filter _).map distinct
  have peers := KeyedList.filterMap_perm (network.device receiver).peer.slots _
    (network.device receiver).peer.distinct named
    (faithful.holds localNowUs settled told receiver)
  exact (peers.append_left _).trans (network.ownErrs_from receiver).symm

/-- An answer is a new consensus or, with fewer than two values, the one still held. -/
theorem answer_eq (network : Network n K) (localNowUs : Fin n → Int) (device : Fin n) :
    (2 ≤ (countedUs (network.device device) (localNowUs device)).length →
      network.answer localNowUs device = some (llround (robustMean
        ((countedUs (network.device device) (localNowUs device)).map fun us : Int => (us : K))
        consensusScaleFloorUs))) ∧
    ((countedUs (network.device device) (localNowUs device)).length < 2 →
      ((network.device device).HoldsCommon (localNowUs device) →
        network.answer localNowUs device = some (network.device device).commonCUs) ∧
      (¬ (network.device device).HoldsCommon (localNowUs device) →
        network.answer localNowUs device = none)) := by
  rw [answer, TsfSync.commonErrConsensus, commonErrVals_eq, List.length_map]
  refine ⟨?_, ?_⟩
  · intro several
    simp only [if_pos several, Option.map_some]
  · intro few
    simp only [if_neg (not_le.mpr few)]
    refine ⟨?_, ?_⟩
    · intro holding
      rw [TsfSync.HoldsCommon] at holding
      rw [if_pos holding]
      rfl
    · intro lapsed
      rw [TsfSync.HoldsCommon] at lapsed
      rw [if_neg lapsed]
      rfl

/-- Every device answers the same, or all hold a consensus of the same values, or none does. -/
theorem Faithful.answers {macs : Fin n → Mac} {network : Network n K}
    (faithful : Faithful macs network) (distinct : Function.Injective macs)
    (localNowUs : Fin n → Int) (settled : network.Settled localNowUs)
    (told : network.Told localNowUs) (left right : Fin n) :
    network.answer localNowUs left = network.answer localNowUs right := by
  have leftCounted := faithful.counted_perm distinct localNowUs settled told left
  have rightCounted := faithful.counted_perm distinct localNowUs settled told right
  obtain ⟨leftNew, leftHeld⟩ := network.answer_eq localNowUs left
  obtain ⟨rightNew, rightHeld⟩ := network.answer_eq localNowUs right
  by_cases several : 2 ≤ network.ownErrs.length
  · have same := (leftCounted.trans rightCounted.symm).map fun us : Int => (us : K)
    rw [leftNew (by rw [leftCounted.length_eq]; exact several),
      rightNew (by rw [rightCounted.length_eq]; exact several), robustMean_perm same]
  · have few := not_le.mp several
    obtain ⟨together, formed⟩ := told.bridged few left right
    have leftFew := leftHeld (by rw [leftCounted.length_eq]; exact few)
    have rightFew := rightHeld (by rw [rightCounted.length_eq]; exact few)
    by_cases holding : (network.device left).HoldsCommon (localNowUs left)
    · have rightHolding := together.mp holding
      rw [leftFew.1 holding, rightFew.1 rightHolding,
        faithful.consented left holding.1, faithful.consented right rightHolding.1,
        robustMean_perm (formed holding)]
    · rw [leftFew.2 holding, rightFew.2 fun held => holding (together.mpr held)]

/-- Whatever the devices report and when they ask: while no beacon is lost, and what each counts
as its own is what the others count as its, they share the common error. -/
theorem shares_of_told (macs : Fin n → Mac) (distinct : Function.Injective macs)
    (fits : n ≤ maxPeers + 1) (plausibilityUs : Int) (events : List (GroupEvent n K))
    (delivered : Run.Along step Delivered (start macs plausibilityUs) events)
    (localNowUs : Fin n → Int)
    (settled : (events.foldl step (start macs plausibilityUs)).Settled localNowUs)
    (told : (events.foldl step (start macs plausibilityUs)).Told localNowUs) :
    (events.foldl step (start macs plausibilityUs)).Shares localNowUs := by
  have faithful := run_faithful distinct fits plausibilityUs events delivered
  intro left right
  have same := faithful.answers distinct localNowUs settled told left right
  refine ⟨by rw [same], ?_⟩
  intro leftUs leftAnswer rightUs rightAnswer
  rw [same] at leftAnswer
  have equal := Option.mem_unique leftAnswer rightAnswer
  simp [equal]

end Network

private def memberMacs (device : Fin 2) : Mac := Vector.replicate 6 (UInt8.ofNat device.val)

private theorem memberMacs_injective : Function.Injective memberMacs := by
  intro left right
  revert left right
  decide

private def blankBeacon : TsfPacket Rat :=
  { magic := tsfMagic
    version := tsfVersion
    bssid := Vector.replicate 6 0
    senderMac := Vector.replicate 6 0
    noMapping := true
    serverIdHash := 7
    tsfBaseUs := 0
    tsfMinusServerUs := 0
    driftPpm := 0
    pipelineUs := pipelineUnknown
    renderPhaseUs := renderPhaseUnknown
    crystalPpm := none
    adoptedTmsAtBaseUs := tmsAdoptUnknown
    streamIdHash := 0
    renderPhaseAgeMs := 65535
    renderBiasUs := int32Min
    commonErrUs := int32Min }

private def hearAt (receiver sender : Fin 2) (localNowUs : Int) : GroupEvent 2 Rat :=
  .hear receiver sender ⟨localNowUs, ⟨false, false, 0, 0⟩, 7, 0⟩ 1 none

private def kitchen : Fin 2 := ⟨0, Nat.zero_lt_succ 1⟩
private def hall : Fin 2 := ⟨1, Nat.lt_succ_self 1⟩

private def toldEvents : List (GroupEvent 2 Rat) :=
  [.report kitchen 100, .report hall 300, .beacon kitchen blankBeacon, .beacon hall blankBeacon,
    hearAt kitchen hall 20000000, hearAt hall kitchen 20000000]

private def untoldEvents : List (GroupEvent 2 Rat) :=
  [.report kitchen 100, .report hall 300, .beacon hall blankBeacon, hearAt kitchen hall 20000000,
    .report hall int32Min, .beacon hall blankBeacon, hearAt kitchen hall 21000000,
    .beacon kitchen blankBeacon, hearAt hall kitchen 21000000]

private theorem told_delivered :
    Run.Along Network.step Network.Delivered (Network.start memberMacs 100000) toldEvents := by
  refine ⟨trivial, trivial, trivial, trivial, ?_, ?_, trivial⟩
  · intro packet flying
    cases flying
    decide +kernel
  · intro packet flying
    cases flying
    decide +kernel

private theorem untold_delivered :
    Run.Along Network.step Network.Delivered (Network.start memberMacs 100000) untoldEvents := by
  refine ⟨trivial, trivial, trivial, ?_, trivial, trivial, ?_, trivial, ?_, trivial⟩
  · intro packet flying
    cases flying
    decide +kernel
  · intro packet flying
    cases flying
    decide +kernel
  · intro packet flying
    cases flying
    decide +kernel

private theorem settled_of_heard (network : Network 2 Rat) (localNowUs : Fin 2 → Int)
    (landed : ∀ receiver sender, network.air receiver sender = [])
    (fresh : ∀ receiver sender, sender ≠ receiver → ((network.heard receiver sender).any
      fun last => decide (localNowUs receiver - last.2 < phaseStaleUs)) = true) :
    network.Settled localNowUs := by
  refine ⟨landed, ?_⟩
  intro receiver sender apart
  have here := fresh receiver sender apart
  cases heard : network.heard receiver sender with
  | none =>
      rw [heard] at here
      cases here
  | some last =>
      rw [heard] at here
      exact ⟨last.1, last.2, rfl, of_decide_eq_true here⟩

theorem shares_of_told_pair :
    (toldEvents.foldl Network.step (Network.start memberMacs 100000)).Shares
      fun _ => 22000000 := by
  have said : ∀ device, (toldEvents.foldl Network.step
      (Network.start memberMacs 100000)).saidUs device = ((toldEvents.foldl Network.step
        (Network.start memberMacs 100000)).device device).ownErr := by decide +kernel
  have known : ∀ device, ((toldEvents.foldl Network.step
      (Network.start memberMacs 100000)).device device).ownErr ≠ none := by decide +kernel
  apply Network.shares_of_told memberMacs memberMacs_injective (by decide) 100000 toldEvents
    told_delivered
  · exact settled_of_heard _ _ (by decide +kernel) (by decide +kernel)
  · constructor
    · intro device us own
      exact (said device).trans own
    · intro receiver sender _ unknown
      exact absurd unknown (known sender)
    · intro few
      exact absurd few (by decide +kernel)

theorem unshared_of_untold :
    ¬ ∀ (n : Nat) (macs : Fin n → Mac) (plausibilityUs : Int) (events : List (GroupEvent n Rat)),
      2 ≤ n → n ≤ maxPeers + 1 → Function.Injective macs →
      Run.Along Network.step Network.Delivered (Network.start macs plausibilityUs) events →
      ∀ localNowUs, (events.foldl Network.step (Network.start macs plausibilityUs)).Settled
          localNowUs →
        (events.foldl Network.step (Network.start macs plausibilityUs)).Shares localNowUs := by
  intro shared
  have settled : (untoldEvents.foldl Network.step (Network.start memberMacs 100000)).Settled
      fun _ => 22000000 :=
    settled_of_heard _ _ (by decide +kernel) (by decide +kernel)
  have both := (shared 2 memberMacs 100000 untoldEvents (le_refl 2) (by decide)
    memberMacs_injective untold_delivered (fun _ => 22000000) settled kitchen hall).1
  exact absurd both (by decide +kernel)

end ClockSync
