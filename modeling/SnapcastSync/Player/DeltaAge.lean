import SnapcastSync.ClockSync.Recomputation
import SnapcastSync.Player.TimingStep

/-! The age of the group delta that the engine is handed. The delta is aged only where it is
recomputed, on a sample of the own phase or on a beacon with a phase; a chunk reads the value
that is stored. -/

namespace Player

open ClockSync Timing

variable {K : Type} [Field K] [LinearOrder K] [FloorRing K]

/-- What happens around the group delta: an action on the shared state, or a chunk for which the
engine is handed the evidence of the group. A TSF read that fails, or a beacon that is lost, is
no event at all. -/
inductive PhaseEvent (K : Type) where
  | act (action : Action K)
  | chunk (nowUs : Int)

/-- The shared state with the latest sample of the pairing that its delta comes from. -/
structure Aged (K : Type) where
  sync : TsfSync K
  pairingUs : Int

namespace Aged

def start (sync : TsfSync K) : Aged K :=
  { sync := sync
    pairingUs := 0 }

def perform (state : Aged K) : PhaseEvent K → Aged K
  | .act action =>
      { sync := state.sync.act action
        pairingUs :=
          match state.sync.recomputes action with
          | some (stored, instantUs) => (stored.pairingUs instantUs).getD state.pairingUs
          | none => state.pairingUs }
  | .chunk nowUs => { state with sync := (state.sync.commonErrConsensus nowUs).1 }

/-- A delta that the engine is handed is of a phase that is known now and of a pairing that is
not stale. -/
def HandsFresh (state : Aged K) : PhaseEvent K → Prop
  | .act _ => True
  | .chunk nowUs =>
      (groupEvidence (some state.sync) nowUs).2.present = true →
        state.sync.renderPhaseUs ≠ renderPhaseUnknown ∧
          nowUs - state.pairingUs ≤ groupDeltaStaleUs

/-- The own phase is withdrawn only while no delta is held; a beacon's phase is sampled within
the pairing window of the own one, or nothing pairs; and at a chunk with a delta the last
recomputation is not stale. -/
def Timely (state : Aged K) : PhaseEvent K → Prop
  | .act action =>
      (action = .setRenderPhase renderPhaseUnknown 0 →
        state.sync.renderGroupDeltaUs = int32Min) ∧
      ∀ stored instantUs, state.sync.recomputes action = some (stored, instantUs) →
        |instantUs - stored.renderPhaseAtUs| ≤ phasePairWindowUs ∨
          stored.pairedSlots instantUs = []
  | .chunk nowUs =>
      state.sync.renderGroupDeltaUs ≠ int32Min →
        nowUs - state.sync.groupDeltaAtUs ≤ groupDeltaStaleUs

def Stamped (state : Aged K) : Prop :=
  state.sync.renderGroupDeltaUs ≠ int32Min →
    state.sync.renderPhaseUs ≠ renderPhaseUnknown ∧
      state.sync.groupDeltaAtUs ≤ state.pairingUs

theorem stamped_act (state : Aged K) (action : Action K) (stamped : state.Stamped)
    (timely : state.Timely (.act action)) : (state.perform (.act action)).Stamped := by
  intro held
  cases trigger : state.sync.recomputes action with
  | none =>
      obtain ⟨delta, at_, phase⟩ := state.sync.act_delta_of_none action trigger
      have before : state.sync.renderGroupDeltaUs ≠ int32Min := by
        rw [← delta]
        exact held
      obtain ⟨known, stamp⟩ := stamped before
      have pairing : (state.perform (.act action)).pairingUs = state.pairingUs := by
        unfold perform
        dsimp only
        rw [trigger]
      rw [pairing]
      refine ⟨?_, at_ ▸ stamp⟩
      rcases phase with same | ⟨phaseUs, named, replaced⟩
      · exact fun unknown => known (same.symm.trans unknown)
      · intro unknown
        have withdrawn : phaseUs = renderPhaseUnknown := replaced.symm.trans unknown
        rw [withdrawn] at named
        exact before (timely.1 named)
  | some trigged =>
      obtain ⟨stored, instantUs⟩ := trigged
      obtain ⟨same, delta, at_⟩ := state.sync.act_delta_of_some action stored instantUs trigger
      have pairing : (state.perform (.act action)).pairingUs =
          (stored.pairingUs instantUs).getD state.pairingUs := by
        unfold perform
        dsimp only
        rw [trigger]
      have changed : (stored.recomputeGroupDelta instantUs).renderGroupDeltaUs ≠ int32Min := by
        rw [← same.delta]
        exact held
      rw [pairing]
      change (state.sync.act action).renderPhaseUs ≠ renderPhaseUnknown ∧
        (state.sync.act action).groupDeltaAtUs ≤ _
      rw [same.phase, same.at_]
      cases stored.recomputeGroupDelta_cases instantUs with
      | withdrawn cleared => exact absurd cleared changed
      | unpaired known none_ aged =>
          rw [none_]
          refine ⟨known, ?_⟩
          rcases aged with cleared | ⟨kept, keptAt⟩
          · exact absurd cleared changed
          · rw [keptAt, at_]
            rw [kept, delta] at changed
            exact (stamped changed).2
      | paired known pairingUs found stampedAt =>
          rw [found, stampedAt]
          refine ⟨known, ?_⟩
          rcases timely.2 stored instantUs trigger with near | alone
          · exact state.sync.instant_le_pairing action stored instantUs pairingUs trigger found near
          · exact absurd alone (stored.pairingUs_bounds instantUs pairingUs found).1

theorem stamped_perform (state : Aged K) (event : PhaseEvent K) (stamped : state.Stamped)
    (timely : state.Timely event) : (state.perform event).Stamped := by
  cases event with
  | act action => exact stamped_act state action stamped timely
  | chunk nowUs =>
      have same := state.sync.commonErrConsensus_delta nowUs
      intro held
      change (state.sync.commonErrConsensus nowUs).1.renderGroupDeltaUs ≠ int32Min at held
      rw [same.delta] at held
      change (state.sync.commonErrConsensus nowUs).1.renderPhaseUs ≠ renderPhaseUnknown ∧
        (state.sync.commonErrConsensus nowUs).1.groupDeltaAtUs ≤ state.pairingUs
      rw [same.phase, same.at_]
      exact stamped held

theorem handsFresh_of_timely (state : Aged K) (event : PhaseEvent K) (stamped : state.Stamped)
    (timely : state.Timely event) : state.HandsFresh event := by
  cases event with
  | act action => exact trivial
  | chunk nowUs =>
      intro present
      have held : state.sync.renderGroupDeltaUs ≠ int32Min := of_decide_eq_true present
      obtain ⟨known, stamp⟩ := stamped held
      have recent := timely held
      exact ⟨known, by omega⟩

/-- Over a run in which every event is timely, whatever delta a chunk is handed is of a known
phase and of a pairing that is not stale. -/
theorem handsFresh_of_along_timely (plausibilityUs : Int) (events : List (PhaseEvent K))
    (timely : Run.Along perform Timely (start (TsfSync.create plausibilityUs) : Aged K) events) :
    Run.Along perform HandsFresh (start (TsfSync.create plausibilityUs) : Aged K) events := by
  apply Run.along_of_along perform Stamped Timely HandsFresh stamped_perform handsFresh_of_timely
    _ events
  · exact fun held => absurd rfl held
  · exact timely

private def phaseArgs : ServiceArgs Rat :=
  { localNowUs := 1000000
    est :=
      { valid := false
        mature := false
        offsetMs := 0
        drift := 0 }
    serverIdHash := 7
    streamIdHash := 5 }

private def phaseBeacon : Datagram Rat :=
  { packet :=
      { magic := tsfMagic
        version := tsfVersion
        bssid := Vector.replicate 6 0
        senderMac := Vector.replicate 6 2
        noMapping := true
        serverIdHash := 7
        tsfBaseUs := 0
        tsfMinusServerUs := 0
        driftPpm := 0
        pipelineUs := pipelineUnknown
        renderPhaseUs := 140
        crystalPpm := none
        adoptedTmsAtBaseUs := tmsAdoptUnknown
        streamIdHash := 5
        renderPhaseAgeMs := 65535
        renderBiasUs := int32Min
        commonErrUs := int32Min }
    fromAddr := 42
    sample := none }

private def pairedThenChunk (nowUs : Int) : List (PhaseEvent Rat) :=
  [.act (.setRenderPhase 100 1000000), .act (.receive phaseArgs phaseBeacon), .chunk nowUs]

theorem handsFresh_paired :
    Run.Along perform HandsFresh (start (TsfSync.create 100000) : Aged Rat)
      (pairedThenChunk 1026122) := by
  apply handsFresh_of_along_timely
  refine ⟨⟨?_, ?_⟩, ⟨?_, ?_⟩, ?_, trivial⟩
  · intro named
    cases named
  · intro stored instantUs trigger
    cases trigger
    exact Or.inl (by decide +kernel)
  · intro named
    cases named
  · intro stored instantUs trigger
    have concerned : ((start (TsfSync.create 100000) : Aged Rat).perform
        (.act (.setRenderPhase 100 1000000))).sync.concerns phaseArgs phaseBeacon.packet = true ∧
        phaseBeacon.packet.CarriesPhase phaseArgs := by decide +kernel
    rw [TsfSync.recomputes_receive _ _ _ concerned.1 concerned.2] at trigger
    cases trigger
    exact Or.inl (by decide +kernel)
  · intro held
    decide +kernel

/-- A minute after the radio went out the chunk is still handed the last delta. -/
theorem stale_after_outage :
    ¬ ∀ (plausibilityUs : Int) (events : List (PhaseEvent Rat)),
      Run.Along perform HandsFresh (start (TsfSync.create plausibilityUs) : Aged Rat) events := by
  intro always
  have handed := (always 100000 (pairedThenChunk 61000000)).2.2.1
  have present : (groupEvidence (some (((start (TsfSync.create 100000) : Aged Rat).perform
      (.act (.setRenderPhase 100 1000000))).perform
        (.act (.receive phaseArgs phaseBeacon))).sync) 61000000).2.present = true := by
    decide +kernel
  exact absurd (handed present).2 (by decide +kernel)

end Aged

end Player
