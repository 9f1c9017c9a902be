import SnapcastSync.ClockSync.ConsensusMath
import SnapcastSync.Lib.Rounding
import Mathlib.Data.List.Nodup

/-! The state of `TsfSync`: the device's own published line, the slots of its peers, the
adopted mapping, the render phases and the unicast roster. Times are integer
microseconds; floats and doubles are elements of an ordered field. Throttled log
bookkeeping and the offset filter of the player task are not part of this state. -/

namespace ClockSync

def int32Min : Int := -2 ^ 31
def int32Max : Int := 2 ^ 31 - 1
def int64Min : Int := -2 ^ 63

def renderPhaseUnknown : Int := int64Min
def pipelineUnknown : Int := int32Min
def tmsAdoptUnknown : Int := int64Min

def maxPeers : Nat := 8
def ownPhaseRing : Nat := 32
def peerMapStaleUs : Int := 5000000
def phaseStaleUs : Int := 15000000
def phasePairWindowUs : Int := 300000
def groupDeltaStaleUs : Int := 10000000
def beaconIntervalUs : Int := 1000000
def serviceMinIntervalUs : Int := 200000
def consensusIntervalUs : Int := 500000
def maxExtrapolationUs : Int := 10000000
def rateWindowUs : Int := 4000000
def tmsSlewMaxUsPerS : Int := 50
def tmsSlewCatchupUsPerS : Int := 300
def tmsCatchupThresholdUs : Int := 1000
def tmsSnapUs : Int := 20000
def mapStepReportUs : Int := tmsSnapUs

abbrev Mac := Vector UInt8 6
abbrev Addr := UInt32

/-- `TsfSync::Peer` of a used slot. A float that may be NaN is an option. -/
structure Peer (K : Type) where
  mac : Mac
  seenUs : Int
  phaseUs : Int
  phaseSeenUs : Int
  biasUs : Int
  biasSeenUs : Int
  commonErrUs : Int
  commonSeenUs : Int
  mapValid : Bool
  mapSeenUs : Int
  tsfBaseUs : Int
  tmsBaseUs : Int
  driftPpm : K
  pipelineUs : Int
  crystalPpm : Option K

def Peer.fresh {K : Type} [Zero K] (mac : Mac) (localNowUs : Int) : Peer K :=
  { mac := mac
    seenUs := localNowUs
    phaseUs := renderPhaseUnknown
    phaseSeenUs := 0
    biasUs := int32Min
    biasSeenUs := 0
    commonErrUs := int32Min
    commonSeenUs := 0
    mapValid := false
    mapSeenUs := 0
    tsfBaseUs := 0
    tmsBaseUs := 0
    driftPpm := 0
    pipelineUs := pipelineUnknown
    crystalPpm := none }

/-- The stalest slot handed to another sender; its bias and common error start as zeros,
not as unknown. -/
def Peer.evicted {K : Type} [Zero K] (mac : Mac) (localNowUs : Int) : Peer K :=
  { Peer.fresh mac localNowUs with
    biasUs := 0
    commonErrUs := 0 }

structure OwnPhase where
  phaseUs : Int
  atUs : Int
deriving DecidableEq, Repr

/-- `TsfSync::Estimate`, what the time filter says about the server clock. -/
structure Estimate (K : Type) where
  valid : Bool
  mature : Bool
  offsetMs : K
  drift : K

structure TsfSample where
  tsfUs : Int
  localUs : Int
deriving DecidableEq, Repr

/-- The used slots of `peer_`, in slot order. A slot is used up from the front and never
released, so the array is this list followed by unused slots. -/
structure PeerTable (K : Type) where
  slots : List (Peer K)
  bounded : slots.length ≤ maxPeers
  distinct : (slots.map Peer.mac).Nodup

namespace PeerTable

variable {K : Type}

def empty : PeerTable K :=
  { slots := []
    bounded := Nat.zero_le _
    distinct := List.nodup_nil }

def get? (table : PeerTable K) (mac : Mac) : Option (Peer K) :=
  table.slots.find? fun peer => peer.mac = mac

/-- Write through the pointer that `find_peer_` returned. -/
def modify (table : PeerTable K) (mac : Mac) (write : Peer K → Peer K)
    (sameMac : ∀ peer, (write peer).mac = peer.mac) : PeerTable K :=
  { slots := table.slots.map fun peer => if peer.mac = mac then write peer else peer
    bounded := by rw [List.length_map]; exact table.bounded
    distinct := by
      rw [List.map_map]
      have macs : (table.slots.map fun peer =>
          (if peer.mac = mac then write peer else peer).mac) = table.slots.map Peer.mac := by
        apply List.map_congr_left
        intro peer _
        by_cases same : peer.mac = mac
        · rw [if_pos same, sameMac]
        · rw [if_neg same]
      change (table.slots.map fun peer =>
          (if peer.mac = mac then write peer else peer).mac).Nodup
      rw [macs]
      exact table.distinct }

def mapSlots (table : PeerTable K) (write : Peer K → Peer K)
    (sameMac : ∀ peer, (write peer).mac = peer.mac) : PeerTable K :=
  { slots := table.slots.map write
    bounded := by rw [List.length_map]; exact table.bounded
    distinct := by
      have macs : Peer.mac ∘ write = Peer.mac := funext sameMac
      rw [List.map_map, macs]
      exact table.distinct }

def oldest (head : Peer K) (tail : List (Peer K)) : Peer K :=
  tail.foldl (fun oldest peer => if peer.seenUs < oldest.seenUs then peer else oldest) head

private theorem nodup_append_mac (slots : List (Peer K)) (peer : Peer K)
    (distinct : (slots.map Peer.mac).Nodup) (absent : ∀ other ∈ slots, other.mac ≠ peer.mac) :
    ((slots ++ [peer]).map Peer.mac).Nodup := by
  rw [List.map_append, List.nodup_append]
  refine ⟨distinct, List.nodup_singleton _, ?_⟩
  intro named member other single
  obtain ⟨held, inSlots, rfl⟩ := List.mem_map.mp member
  rw [List.mem_singleton.mp single]
  exact absent held inSlots

private theorem nodup_replace_mac (slots : List (Peer K)) (victim : Mac) (peer : Peer K)
    (distinct : (slots.map Peer.mac).Nodup) (absent : ∀ other ∈ slots, other.mac ≠ peer.mac) :
    ((slots.map fun held => if held.mac = victim then peer else held).map Peer.mac).Nodup := by
  induction slots with
  | nil => exact List.nodup_nil
  | cons head tail ih =>
      rw [List.map_cons, List.nodup_cons] at distinct
      have tailAbsent : ∀ other ∈ tail, other.mac ≠ peer.mac :=
        fun other member => absent other (List.mem_cons_of_mem head member)
      rw [List.map_cons, List.map_cons, List.nodup_cons]
      refine ⟨?_, ih distinct.2 tailAbsent⟩
      intro repeated
      rw [List.map_map] at repeated
      obtain ⟨other, member, same⟩ := List.mem_map.mp repeated
      have apart : other.mac ≠ head.mac := fun equal =>
        distinct.1 (List.mem_map.mpr ⟨other, member, equal⟩)
      have headAbsent := absent head List.mem_cons_self
      have otherAbsent := tailAbsent other member
      simp only [Function.comp_apply] at same
      by_cases atHead : head.mac = victim
      · rw [if_pos atHead, if_neg (fun equal => apart (equal.trans atHead.symm))] at same
        exact otherAbsent same
      · rw [if_neg atHead] at same
        by_cases atOther : other.mac = victim
        · rw [if_pos atOther] at same
          exact headAbsent same.symm
        · rw [if_neg atOther] at same
          exact apart same

/-- `find_peer_`: the table in which this sender has a slot. -/
def findPeer [Zero K] (table : PeerTable K) (mac : Mac) (localNowUs : Int) : PeerTable K :=
  if known : ∃ peer ∈ table.slots, peer.mac = mac then table
  else if vacant : table.slots.length < maxPeers then
    { slots := table.slots ++ [Peer.fresh mac localNowUs]
      bounded := by
        rw [List.length_append, List.length_singleton]
        omega
      distinct := nodup_append_mac table.slots _ table.distinct
        fun peer member same => known ⟨peer, member, same⟩ }
  else
    match listed : table.slots with
    | [] => table
    | head :: tail =>
        { slots := table.slots.map fun peer =>
            if peer.mac = (oldest head tail).mac then Peer.evicted mac localNowUs else peer
          bounded := by rw [List.length_map]; exact table.bounded
          distinct := nodup_replace_mac table.slots _ _ table.distinct
            fun peer member same => known ⟨peer, member, same⟩ }

theorem get?_mem (table : PeerTable K) (mac : Mac) (peer : Peer K)
    (found : table.get? mac = some peer) : peer ∈ table.slots ∧ peer.mac = mac := by
  have present := List.mem_of_find?_eq_some found
  have named := List.find?_some found
  exact ⟨present, of_decide_eq_true named⟩

theorem get?_eq_some (table : PeerTable K) (peer : Peer K) (member : peer ∈ table.slots) :
    table.get? peer.mac = some peer := by
  cases found : table.get? peer.mac with
  | none =>
      have absent := List.find?_eq_none.mp found peer member
      simp at absent
  | some other =>
      obtain ⟨present, named⟩ := table.get?_mem peer.mac other found
      rw [List.inj_on_of_nodup_map table.distinct present member named]

theorem get?_modify (table : PeerTable K) (target mac : Mac) (write : Peer K → Peer K)
    (sameMac : ∀ peer, (write peer).mac = peer.mac) :
    (table.modify target write sameMac).get? mac =
      if mac = target then (table.get? mac).map write else table.get? mac := by
  have macs : ∀ peer : Peer K,
      (if peer.mac = target then write peer else peer).mac = peer.mac := by
    intro peer
    by_cases same : peer.mac = target
    · rw [if_pos same, sameMac]
    · rw [if_neg same]
  have looked : (table.modify target write sameMac).get? mac =
      (table.get? mac).map fun peer => if peer.mac = target then write peer else peer := by
    unfold get? modify
    rw [List.find?_map]
    simp only [Function.comp_def, macs]
  rw [looked]
  cases found : table.get? mac with
  | none => simp
  | some peer =>
      have named := (table.get?_mem mac peer found).2
      rw [Option.map_some, named]
      by_cases same : mac = target
      · rw [if_pos same, if_pos same, Option.map_some]
      · rw [if_neg same, if_neg same]

theorem get?_mapSlots (table : PeerTable K) (mac : Mac) (write : Peer K → Peer K)
    (sameMac : ∀ peer, (write peer).mac = peer.mac) :
    (table.mapSlots write sameMac).get? mac = (table.get? mac).map write := by
  unfold get? mapSlots
  rw [List.find?_map]
  simp only [Function.comp_def, sameMac]

end PeerTable

/-- The unicast roster: the addresses of the control session and those learned from
accepted beacons. -/
structure Roster where
  peers : List Addr
  learnedPeers : List Addr
  peersBounded : peers.length ≤ 16
  learnedBounded : learnedPeers.length ≤ 16

namespace Roster

def empty : Roster :=
  { peers := []
    learnedPeers := []
    peersBounded := Nat.zero_le _
    learnedBounded := Nat.zero_le _ }

/-- `peer_count_`, a byte that every change of the lists refreshes. -/
def peerCount (roster : Roster) : Nat :=
  (roster.peers.length + roster.learnedPeers.length) % 256

theorem peerCount_eq (roster : Roster) :
    roster.peerCount = roster.peers.length + roster.learnedPeers.length := by
  have peers := roster.peersBounded
  have learned := roster.learnedBounded
  exact Nat.mod_eq_of_lt (by omega)

def setPeers (roster : Roster) (peerAddrs : List Addr) : Roster :=
  { peers := peerAddrs.take 16
    learnedPeers :=
      roster.learnedPeers.filter fun addr => !(peerAddrs.take 16).contains addr
    peersBounded := List.length_take_le 16 peerAddrs
    learnedBounded := le_trans (List.length_filter_le _ _) roster.learnedBounded }

/-- `learn_peer_`: the sender of an accepted beacon. -/
def learnPeer (roster : Roster) (addr : Addr) : Roster :=
  if known : addr ∈ roster.peers ∨ addr ∈ roster.learnedPeers ∨
      16 ≤ roster.learnedPeers.length then roster
  else
    { roster with
      learnedPeers := roster.learnedPeers ++ [addr]
      learnedBounded := by
        rw [List.length_append, List.length_singleton]
        have room := (not_or.mp (not_or.mp known).2).2
        omega }

def clearLearned (roster : Roster) : Roster :=
  { roster with
    learnedPeers := []
    learnedBounded := Nat.zero_le _ }

end Roster

structure TsfSync (K : Type) where
  plausibilityUs : Int
  myMac : Mac
  haveMac : Bool
  bssid : Mac
  haveBssid : Bool
  pipelineUs : Int
  renderPhaseUs : Int
  renderPhaseAtUs : Int
  renderPhaseBroadcast : Bool
  pubRenderBiasUs : Int
  pubCommonErrUs : Int
  pubCrystalPpm : Option K
  pubServerIdHash : UInt32
  pubStreamIdHash : UInt32
  lastTxUs : Int
  lastPhaseTxUs : Int
  lastServiceUs : Int
  peer : PeerTable K
  ownPh : Vector OwnPhase ownPhaseRing
  ownPhIdx : Nat
  gdavgSum : List K
  gdavgN : List Nat
  gdavgRollUs : Int
  renderGroupDeltaAvgUs : Int
  gdavgPairsPub : Nat
  renderGroupDeltaUs : Int
  groupDeltaN : Nat
  groupDeltaAtUs : Int
  groupDeltaHeldUs : Int
  groupDeltaHeldAtUs : Int
  commonCUs : Int
  commonCAtUs : Int
  commonCN : Nat
  roster : Roster
  rateRefTsfUs : Int
  rateRefLocalUs : Int
  tsfRatePpm : K
  tsfRateValid : Bool
  pubValid : Bool
  pubTsfBase : Int
  pubTmsBase : Int
  pubDriftPpm : K
  mappingValid : Bool
  mapTsfBaseUs : Int
  mapTsfMinusServerUs : Int
  mapDriftPpm : K
  mapUpdatedLocalUs : Int
  consensusN : Nat
  timebaseEpoch : Nat
  lastConsensusUs : Int

namespace TsfSync

variable {K : Type}

def create [Zero K] (plausibilityUs : Int) : TsfSync K :=
  { plausibilityUs := plausibilityUs
    myMac := Vector.replicate 6 0
    haveMac := false
    bssid := Vector.replicate 6 0
    haveBssid := false
    pipelineUs := int32Min
    renderPhaseUs := int64Min
    renderPhaseAtUs := 0
    renderPhaseBroadcast := true
    pubRenderBiasUs := int32Min
    pubCommonErrUs := int32Min
    pubCrystalPpm := none
    pubServerIdHash := 0
    pubStreamIdHash := 0
    lastTxUs := 0
    lastPhaseTxUs := 0
    lastServiceUs := 0
    peer := PeerTable.empty
    ownPh := Vector.replicate ownPhaseRing ⟨0, 0⟩
    ownPhIdx := 0
    gdavgSum := List.replicate maxPeers 0
    gdavgN := List.replicate maxPeers 0
    gdavgRollUs := 0
    renderGroupDeltaAvgUs := int32Min
    gdavgPairsPub := 0
    renderGroupDeltaUs := int32Min
    groupDeltaN := 0
    groupDeltaAtUs := 0
    groupDeltaHeldUs := int32Min
    groupDeltaHeldAtUs := 0
    commonCUs := 0
    commonCAtUs := 0
    commonCN := 0
    roster := Roster.empty
    rateRefTsfUs := 0
    rateRefLocalUs := 0
    tsfRatePpm := 0
    tsfRateValid := false
    pubValid := false
    pubTsfBase := 0
    pubTmsBase := 0
    pubDriftPpm := 0
    mappingValid := false
    mapTsfBaseUs := 0
    mapTsfMinusServerUs := 0
    mapDriftPpm := 0
    mapUpdatedLocalUs := 0
    consensusN := 0
    timebaseEpoch := 0
    lastConsensusUs := 0 }

/-- `reset_`: the network changed underneath the device. -/
def reset (sync : TsfSync K) : TsfSync K :=
  { sync with
    tsfRateValid := false
    rateRefLocalUs := 0
    pubValid := false
    peer := sync.peer.mapSlots (fun peer => { peer with mapValid := false }) fun _ => rfl
    roster := sync.roster.clearLearned
    consensusN := 0
    mappingValid := false }

def adopt (sync : TsfSync K) (tsfBaseUs tsfMinusServerUs : Int) (driftPpm : K)
    (localNowUs : Int) : TsfSync K :=
  { sync with
    mappingValid := true
    mapTsfBaseUs := tsfBaseUs
    mapTsfMinusServerUs := tsfMinusServerUs
    mapDriftPpm := driftPpm
    mapUpdatedLocalUs := localNowUs }

end TsfSync

end ClockSync
