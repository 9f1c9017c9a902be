import SnapcastSync.ClockSync.Mapping

/-! The render phases: the device's own against those its peers report, the live group
delta, the one-second average of the paired samples and the shared common error. -/

namespace ClockSync

open Rounding

variable {K : Type} [Field K] [LinearOrder K] [FloorRing K]

def consensusPhaseScaleFloorUs : K := ((20 : Nat) : K)
def gdavgPairWindowUs : Int := 60000
def gdavgRollIntervalUs : Int := 1000000

def pairedPhase (sync : TsfSync K) (localNowUs : Int) (peer : Peer K) : Option K :=
  if peer.phaseUs = renderPhaseUnknown ∨ phaseStaleUs < localNowUs - peer.phaseSeenUs then none
  else
    let pairGap := peer.phaseSeenUs - sync.renderPhaseAtUs
    if phasePairWindowUs < pairGap ∨ pairGap < -phasePairWindowUs then none
    else
      some (((peer.phaseUs - sync.renderPhaseUs : Int) : K) - sync.mapDriftPpm * ppm * pairGap)

namespace TsfSync

def recomputeGroupDelta (sync : TsfSync K) (localNowUs : Int) : TsfSync K :=
  if sync.renderPhaseUs = renderPhaseUnknown then
    { sync with
      renderGroupDeltaUs := int32Min
      groupDeltaN := 0 }
  else if sync.renderPhaseAtUs = 0 then sync
  else
    let vals := 0 :: sync.peer.slots.filterMap (pairedPhase sync localNowUs)
    if vals.length < 2 then
      if sync.groupDeltaAtUs ≠ 0 ∧ groupDeltaStaleUs < localNowUs - sync.groupDeltaAtUs then
        { sync with
          renderGroupDeltaUs := int32Min
          groupDeltaAtUs := 0 }
      else sync
    else
      let d := -llround (robustMean vals consensusPhaseScaleFloorUs)
      let dClamped := max (int32Min + 1) (min int32Max d)
      { sync with
        renderGroupDeltaUs := dClamped
        groupDeltaAtUs := localNowUs
        groupDeltaN := vals.length
        groupDeltaHeldUs := dClamped
        groupDeltaHeldAtUs := localNowUs }

/-- `set_render_phase_us`: the own phase, also kept in the ring of recent samples. -/
def setRenderPhase (sync : TsfSync K) (phaseUs atUs : Int) : TsfSync K :=
  let stored := { sync with
    renderPhaseUs := phaseUs
    renderPhaseAtUs := atUs }
  let ringed :=
    if phaseUs ≠ renderPhaseUnknown ∧ atUs ≠ 0 then
      { stored with
        ownPh := stored.ownPh.setIfInBounds stored.ownPhIdx ⟨phaseUs, atUs⟩
        ownPhIdx := (stored.ownPhIdx + 1) % ownPhaseRing }
    else stored
  if atUs ≠ 0 then ringed.recomputeGroupDelta atUs else ringed

def storePeerPhase (sync : TsfSync K) (mac : Mac) (phaseUs sampledUs : Int) : TsfSync K :=
  { sync with
    peer := sync.peer.modify mac
      (fun peer => { peer with
        phaseUs := phaseUs
        phaseSeenUs := sampledUs })
      fun _ => rfl }

def recordPeerPhase (sync : TsfSync K) (mac : Mac) (phaseUs sampledUs : Int) : TsfSync K :=
  if phaseUs = renderPhaseUnknown then sync
  else (sync.storePeerPhase mac phaseUs sampledUs).recomputeGroupDelta sampledUs

def nearestOwnPhase (sync : TsfSync K) (sampledUs : Int) : Option (Int × OwnPhase) :=
  sync.ownPh.toList.foldl
    (fun best own =>
      if own.atUs = 0 then best
      else
        let gap := sampledUs - own.atUs
        match best with
        | none => some (gap, own)
        | some (bestGap, kept) => if |gap| < |bestGap| then some (gap, own) else some (bestGap, kept))
    none

def pairAveragedDelta (sync : TsfSync K) (index : Nat) (phaseUs sampledUs : Int) : TsfSync K :=
  if phaseUs = renderPhaseUnknown then sync
  else
    match sync.nearestOwnPhase sampledUs with
    | none => sync
    | some (gap, own) =>
        if |gap| ≤ gdavgPairWindowUs ∧ index < maxPeers ∧ sync.gdavgN.getD index 0 < 65535 then
          { sync with
            gdavgSum := sync.gdavgSum.modify index fun sum =>
              sum + (((phaseUs - own.phaseUs : Int) : K) - sync.mapDriftPpm * ppm * gap)
            gdavgN := sync.gdavgN.modify index (· + 1) }
        else sync

def rollAveragedDelta (sync : TsfSync K) (localNowUs : Int) : TsfSync K :=
  let rollUs := if sync.gdavgRollUs = 0 then localNowUs else sync.gdavgRollUs
  if gdavgRollIntervalUs ≤ localNowUs - rollUs then
    let counted := (sync.gdavgSum.zip sync.gdavgN).filter fun slot => decide (0 < slot.2)
    let sum := counted.foldl (fun sum slot => sum + slot.1 / (slot.2 : K)) 0
    let pairs := counted.foldl (fun pairs slot => pairs + slot.2) 0
    let bound : K := ((2000000000 : Nat) : K)
    { sync with
      gdavgRollUs := localNowUs
      gdavgSum := List.replicate maxPeers 0
      gdavgN := List.replicate maxPeers 0
      renderGroupDeltaAvgUs :=
        if 0 < counted.length then
          truncToInt (clamp (-sum / ((counted.length + 1 : Nat) : K)) (-bound) bound)
        else int32Min
      gdavgPairsPub := if 0 < counted.length then min pairs 65535 else 0 }
  else { sync with gdavgRollUs := rollUs }

def commonErrVals (sync : TsfSync K) (localNowUs : Int) : List K :=
  (if sync.pubCommonErrUs ≠ int32Min then [(sync.pubCommonErrUs : K)] else []) ++
    (sync.peer.slots.filter fun peer =>
      decide (peer.commonErrUs ≠ int32Min) &&
        decide (localNowUs - peer.commonSeenUs < phaseStaleUs)).map
      fun peer => (peer.commonErrUs : K)

/-- What `common_err_consensus_us` answers, with the value it holds through a gap. -/
def commonErrConsensus (sync : TsfSync K) (localNowUs : Int) :
    TsfSync K × Option (Int × Nat) :=
  let vals := sync.commonErrVals localNowUs
  if 2 ≤ vals.length then
    let commonCUs := llround (robustMean vals consensusScaleFloorUs)
    ({ sync with
        commonCUs := commonCUs
        commonCAtUs := localNowUs
        commonCN := vals.length },
      some (commonCUs, vals.length))
  else if sync.commonCAtUs ≠ 0 ∧ localNowUs - sync.commonCAtUs ≤ groupDeltaStaleUs then
    (sync, some (sync.commonCUs, sync.commonCN))
  else (sync, none)

end TsfSync

end ClockSync
