import SnapcastSync.ClockSync.GroupDelta
import SnapcastSync.Lib.KeyedList
import Mathlib.Data.Fintype.EquivFin
import Mathlib.Data.Rat.Floor

/-! Devices that all move by the group delta they compute. Each differences the phases of the
others against its own and averages; the averages are one point seen from different places, so
the devices meet there. -/

namespace ClockSync

open Rounding

variable {K : Type} [Field K] [LinearOrder K] [FloorRing K]

def meetingPoint (phases : List Int) : K :=
  robustMean (phases.map fun phase : Int => (phase : K)) consensusPhaseScaleFloorUs

/-- One device of a group: it knows its own phase, it holds a phase of every other device that
was sampled at the same instant and is not stale, and none of its other slots pairs. -/
structure Paired {n : Nat} (macs : Fin n → Mac) (phases : Fin n → Int) (sync : TsfSync K)
    (localNowUs : Int) (device : Fin n) : Prop where
  own : sync.renderPhaseUs = phases device
  rendered : phases device ≠ renderPhaseUnknown
  sampled : sync.renderPhaseAtUs ≠ 0
  heard : ∀ other, other ≠ device → ∃ peer ∈ sync.peer.slots, peer.mac = macs other ∧
    peer.phaseUs = phases other ∧ phases other ≠ renderPhaseUnknown ∧
    localNowUs - peer.phaseSeenUs ≤ phaseStaleUs ∧ peer.phaseSeenUs = sync.renderPhaseAtUs
  others : ∀ peer ∈ sync.peer.slots, (∀ other, other ≠ device → peer.mac ≠ macs other) →
    pairedPhase sync localNowUs peer = none

/-- The delta that a device computes, and its phase once its audio has moved by it. -/
def TsfSync.deltaUs (sync : TsfSync K) (localNowUs : Int) : Int :=
  (sync.recomputeGroupDelta localNowUs).renderGroupDeltaUs

def TsfSync.movedPhaseUs (sync : TsfSync K) (localNowUs : Int) : Int :=
  sync.renderPhaseUs - sync.deltaUs localNowUs

def peersOf {n : Nat} (device : Fin n) : List (Fin n) :=
  (List.finRange n).filter fun other => other ≠ device

theorem mem_peersOf {n : Nat} (device other : Fin n) : other ∈ peersOf device ↔ other ≠ device := by
  unfold peersOf
  simp

theorem finRange_perm_peersOf {n : Nat} (device : Fin n) :
    (List.finRange n).Perm (device :: peersOf device) := by
  apply (List.perm_ext_iff_of_nodup (List.nodup_finRange n) _).mpr
  · intro other
    rw [List.mem_cons, mem_peersOf]
    by_cases same : other = device
    · exact iff_of_true (List.mem_finRange other) (Or.inl same)
    · exact iff_of_true (List.mem_finRange other) (Or.inr same)
  · rw [List.nodup_cons, mem_peersOf]
    exact ⟨fun apart => apart rfl, (List.nodup_finRange n).filter _⟩

omit [LinearOrder K] [FloorRing K] in
/-- A phase without a pairing gap is differenced as it is. -/
theorem pairedPhase_of_together (sync : TsfSync K) (localNowUs : Int) (peer : Peer K)
    (known : peer.phaseUs ≠ renderPhaseUnknown)
    (fresh : localNowUs - peer.phaseSeenUs ≤ phaseStaleUs)
    (together : peer.phaseSeenUs = sync.renderPhaseAtUs) :
    pairedPhase sync localNowUs peer =
      some ((peer.phaseUs - sync.renderPhaseUs : Int) : K) := by
  have usable : ¬ (peer.phaseUs = renderPhaseUnknown ∨
      phaseStaleUs < localNowUs - peer.phaseSeenUs) := by
    rw [not_or, not_lt]
    exact ⟨known, fresh⟩
  have near : ¬ (phasePairWindowUs < (0 : Int) ∨ (0 : Int) < -phasePairWindowUs) := by decide
  unfold pairedPhase
  rw [if_neg usable, together, sub_self]
  dsimp only
  rw [if_neg near, Int.cast_zero, mul_zero, sub_zero]

namespace Paired

variable {n : Nat} {macs : Fin n → Mac} {phases : Fin n → Int} {sync : TsfSync K}
  {localNowUs : Int} {device : Fin n}

omit [LinearOrder K] [FloorRing K] in
theorem holds (paired : Paired macs phases sync localNowUs device) :
    KeyedList.Holds Peer.mac (pairedPhase sync localNowUs) macs
      (fun other => ((phases other - phases device : Int) : K)) sync.peer.slots (peersOf device) := by
  constructor
  · intro other member
    obtain ⟨peer, there, named, phase, known, fresh, together⟩ :=
      paired.heard other ((mem_peersOf device other).mp member)
    rw [← phase] at known
    refine ⟨peer, there, named, ?_⟩
    rw [pairedPhase_of_together sync localNowUs peer known fresh together, phase, paired.own]
  · intro peer there unnamed
    exact paired.others peer there fun other apart =>
      unnamed other ((mem_peersOf device other).mpr apart)

omit [LinearOrder K] [FloorRing K] in
theorem values_perm (paired : Paired macs phases sync localNowUs device)
    (distinct : Function.Injective macs) :
    (0 :: sync.peer.slots.filterMap (pairedPhase sync localNowUs)).Perm
      ((List.finRange n).map fun other => ((phases other - phases device : Int) : K)) := by
  have named : ((peersOf device).map macs).Nodup :=
    ((List.nodup_finRange n).filter _).map distinct
  have heard := KeyedList.filterMap_perm sync.peer.slots (peersOf device) sync.peer.distinct named
    paired.holds
  have expanded := (finRange_perm_peersOf device).map fun other => ((phases other - phases device : Int) : K)
  rw [List.map_cons, sub_self, Int.cast_zero] at expanded
  exact (heard.cons 0).trans expanded.symm

end Paired

section Meeting

variable [IsStrictOrderedRing K] {n : Nat} {macs : Fin n → Mac} {phases : Fin n → Int}

def groupPhases {n : Nat} (phases : Fin n → Int) : List Int := (List.finRange n).map phases

omit [FloorRing K] in
/-- Seen from one device the robust mean is the meeting point less its phase. -/
theorem robustMean_from (phases : Fin n → Int) (device : Fin n) :
    robustMean ((List.finRange n).map fun other => ((phases other - phases device : Int) : K))
        consensusPhaseScaleFloorUs =
      meetingPoint (groupPhases phases) - (phases device : K) := by
  have relative : ((List.finRange n).map fun other => ((phases other - phases device : Int) : K)) =
      ((groupPhases phases).map fun phase : Int => (phase : K)).map (· + -(phases device : K)) := by
    unfold groupPhases
    rw [List.map_map, List.map_map]
    apply List.map_congr_left
    intro other _
    change ((phases other - phases device : Int) : K) = (phases other : K) + -(phases device : K)
    rw [Int.cast_sub, sub_eq_add_neg]
  have nonempty : (groupPhases phases).map (fun phase : Int => (phase : K)) ≠ [] := by
    unfold groupPhases
    rw [ne_eq, List.map_eq_nil_iff, List.map_eq_nil_iff]
    exact List.ne_nil_of_mem (List.mem_finRange device)
  unfold meetingPoint
  rw [relative, robustMean_shift _ _ _ nonempty, sub_eq_add_neg]

/-- What the int32 of the published delta can hold. -/
def FitsDelta (deltaUs : Int) : Prop := int32Min + 1 ≤ deltaUs ∧ deltaUs ≤ int32Max

theorem deltaUs_eq {sync : TsfSync K} {localNowUs : Int} {device : Fin n}
    (paired : Paired macs phases sync localNowUs device)
    (distinct : Function.Injective macs) (several : 2 ≤ n) :
    sync.deltaUs localNowUs =
      max (int32Min + 1) (min int32Max
        (-llround (meetingPoint (groupPhases phases) - (phases device : K)))) := by
  have values := paired.values_perm distinct
  have counted : ¬ (0 :: sync.peer.slots.filterMap (pairedPhase sync localNowUs)).length < 2 := by
    rw [values.length_eq, List.length_map, List.length_finRange, not_lt]
    exact several
  have known : ¬ sync.renderPhaseUs = renderPhaseUnknown := by
    rw [paired.own]
    exact paired.rendered
  unfold TsfSync.deltaUs TsfSync.recomputeGroupDelta
  dsimp only
  rw [if_neg known, if_neg paired.sampled, if_neg counted]
  change max (int32Min + 1) (min int32Max (-llround (robustMean _ _))) = _
  rw [robustMean_perm values, robustMean_from]

theorem movedPhaseUs_eq {sync : TsfSync K} {localNowUs : Int} {device : Fin n}
    (paired : Paired macs phases sync localNowUs device)
    (distinct : Function.Injective macs) (several : 2 ≤ n)
    (fits : FitsDelta (-llround (meetingPoint (groupPhases phases) - (phases device : K)))) :
    sync.movedPhaseUs localNowUs =
      phases device + llround (meetingPoint (groupPhases phases) - (phases device : K)) := by
  unfold TsfSync.movedPhaseUs
  rw [deltaUs_eq paired distinct several, paired.own, min_eq_right fits.2, max_eq_right fits.1]
  omega

theorem meetingPoint_mem (phases : Fin n → Int) (device : Fin n) (leastUs greatestUs : Int)
    (within : ∀ other, leastUs ≤ phases other ∧ phases other ≤ greatestUs) :
    (leastUs : K) ≤ meetingPoint (groupPhases phases) ∧
      meetingPoint (groupPhases phases) ≤ (greatestUs : K) := by
  have member : ∀ value ∈ (groupPhases phases).map (fun phase : Int => (phase : K)),
      ∃ other, value = (phases other : K) := by
    intro value there
    obtain ⟨phase, listed, rfl⟩ := List.mem_map.mp there
    obtain ⟨other, _, rfl⟩ := List.mem_map.mp listed
    exact ⟨other, rfl⟩
  apply robustMean_mem
  · unfold groupPhases
    rw [ne_eq, List.map_eq_nil_iff, List.map_eq_nil_iff]
    exact List.ne_nil_of_mem (List.mem_finRange device)
  · intro value there
    obtain ⟨other, rfl⟩ := member value there
    exact Int.cast_le.mpr (within other).1
  · intro value there
    obtain ⟨other, rfl⟩ := member value there
    exact Int.cast_le.mpr (within other).2

/-- The move of a device is no longer than the spread of the phases. -/
theorem llround_from_mem (phases : Fin n → Int) (device : Fin n) (leastUs greatestUs : Int)
    (within : ∀ other, leastUs ≤ phases other ∧ phases other ≤ greatestUs) :
    leastUs - phases device ≤
        llround (meetingPoint (groupPhases phases) - (phases device : K)) ∧
      llround (meetingPoint (groupPhases phases) - (phases device : K)) ≤
        greatestUs - phases device := by
  obtain ⟨lower, upper⟩ := meetingPoint_mem (K := K) phases device leastUs greatestUs within
  have below : ((leastUs - phases device : Int) : K) ≤
      meetingPoint (groupPhases phases) - (phases device : K) := by
    push_cast
    linarith
  have above : meetingPoint (groupPhases phases) - (phases device : K) ≤
      ((greatestUs - phases device : Int) : K) := by
    push_cast
    linarith
  have down := llround_mono below
  have up := llround_mono above
  rw [llround_intCast] at down up
  exact ⟨down, up⟩

/-- Devices that hold each other's phases, all sampled together, and all move by the delta they
compute, meet within a microsecond; each ends within half a microsecond of the common point, and
none leaves the span of the phases. The deltas must fit their int32. -/
theorem movedPhases_meet (macs : Fin n → Mac) (distinct : Function.Injective macs)
    (several : 2 ≤ n) (phases : Fin n → Int) (syncs : Fin n → TsfSync K)
    (localNowUs : Fin n → Int)
    (paired : ∀ device, Paired macs phases (syncs device) (localNowUs device) device)
    (leastUs greatestUs : Int)
    (within : ∀ device, leastUs ≤ phases device ∧ phases device ≤ greatestUs)
    (spread : greatestUs - leastUs ≤ int32Max) :
    (∀ left right, |(syncs left).movedPhaseUs (localNowUs left) -
      (syncs right).movedPhaseUs (localNowUs right)| ≤ 1) ∧
    (∀ device, |((syncs device).movedPhaseUs (localNowUs device) : K) -
      meetingPoint (groupPhases phases)| ≤ 1 / 2) ∧
    (∀ device, leastUs ≤ (syncs device).movedPhaseUs (localNowUs device) ∧
      (syncs device).movedPhaseUs (localNowUs device) ≤ greatestUs) := by
  have fits : ∀ device,
      FitsDelta (-llround (meetingPoint (groupPhases phases) - (phases device : K))) := by
    intro device
    obtain ⟨lower, upper⟩ := llround_from_mem (K := K) phases device leastUs greatestUs within
    have here := within device
    unfold FitsDelta
    unfold int32Max at spread ⊢
    unfold int32Min
    omega
  have moved := fun device => movedPhaseUs_eq (paired device) distinct several (fits device)
  refine ⟨?_, ?_, ?_⟩
  · intro left right
    rw [moved left, moved right]
    exact rebased_llround_close _ (phases left) (phases right)
  · intro device
    have near := llround_abs_sub_le (meetingPoint (groupPhases phases) - (phases device : K))
    rw [moved device, Int.cast_add]
    rw [sub_sub_eq_add_sub] at near
    rw [add_comm]
    exact near
  · intro device
    obtain ⟨lower, upper⟩ := llround_from_mem (K := K) phases device leastUs greatestUs within
    rw [moved device]
    omega

end Meeting

private def pairMacs (device : Fin 2) : Mac := Vector.replicate 6 (UInt8.ofNat device.val)

private theorem pairMacs_injective : Function.Injective pairMacs := by
  intro left right
  revert left right
  decide

private def pairSync (phases : Fin 2 → Int) (device : Fin 2) : TsfSync Rat :=
  { TsfSync.create 100000 with
    renderPhaseUs := phases device
    renderPhaseAtUs := 5000000
    peer :=
      { slots :=
          [{ Peer.fresh (pairMacs device.rev) 0 with
             phaseUs := phases device.rev
             phaseSeenUs := 5000000 }]
        bounded := Nat.le_of_ble_eq_true rfl
        distinct := List.nodup_singleton _ } }

private theorem pairSync_paired (phases : Fin 2 → Int)
    (known : ∀ device, phases device ≠ renderPhaseUnknown) (device : Fin 2) :
    Paired pairMacs phases (pairSync phases device) 5000000 device := by
  have other_eq : ∀ here other : Fin 2, other ≠ here → other = here.rev := by decide
  have rev_ne : ∀ here : Fin 2, here.rev ≠ here := by decide
  constructor
  · rfl
  · exact known device
  · exact (by decide : (5000000 : Int) ≠ 0)
  · intro other apart
    have fresh : (5000000 : Int) - 5000000 ≤ phaseStaleUs := by decide
    rw [other_eq device other apart]
    exact ⟨_, List.mem_singleton_self _, rfl, rfl, known _, fresh, rfl⟩
  · intro peer there unnamed
    rw [List.mem_singleton.mp there] at unnamed
    exact absurd rfl (unnamed device.rev (rev_ne device))

private def nearPhases (device : Fin 2) : Int := if device = 0 then 1000 else -237

theorem movedPhases_meet_pair :
    |(pairSync nearPhases 0).movedPhaseUs 5000000 - (pairSync nearPhases 1).movedPhaseUs 5000000| ≤
      1 :=
  (movedPhases_meet pairMacs pairMacs_injective (le_refl 2) nearPhases (pairSync nearPhases)
    (fun _ => 5000000) (pairSync_paired nearPhases (by decide)) (-237) 1000 (by decide)
    (by decide)).1 0 1

private def farPhases (device : Fin 2) : Int := if device = 0 then 2 ^ 33 else 0

theorem movedPhases_apart :
    ¬ ∀ (n : Nat) (macs : Fin n → Mac) (phases : Fin n → Int) (syncs : Fin n → TsfSync Rat)
      (localNowUs : Fin n → Int), 2 ≤ n → Function.Injective macs →
      (∀ device, Paired macs phases (syncs device) (localNowUs device) device) →
      ∀ left right, |(syncs left).movedPhaseUs (localNowUs left) -
        (syncs right).movedPhaseUs (localNowUs right)| ≤ 1 := by
  intro meet
  have near := meet 2 pairMacs farPhases (pairSync farPhases) (fun _ => 5000000) (le_refl 2)
    pairMacs_injective (pairSync_paired farPhases (by decide)) 0 1
  exact absurd near (by decide +kernel)

end ClockSync
