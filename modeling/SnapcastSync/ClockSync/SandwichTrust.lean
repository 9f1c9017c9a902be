import SnapcastSync.ClockSync.OffsetFilter
import SnapcastSync.Lib.Run

/-! Which TSF reads are trusted over a run of calls. A read is trusted up to twice a floor that
only changes when a block of reads ends; reads that stay untrusted double that floor from block
to block, so that they cannot stay untrusted for long. -/

namespace ClockSync

variable {K : Type} [Field K] [LinearOrder K] [FloorRing K]

/-- One call of `shared_server_offset_us`, with the mapping and the TSF read that it finds. -/
structure OffsetCall (K : Type) where
  sync : TsfSync K
  localNowUs : Int
  read : Option TsfRead

namespace OffsetCall

def okSandwich (call : OffsetCall K) : Option Int :=
  if call.sync.mappingLive call.localNowUs then
    match call.read with
    | none => none
    | some taken =>
        match evaluateMapping (some taken.sample) call.sync.mapLine with
        | .ok _ _ => some taken.sandwichUs
        | _ => none
  else none

def isOk (call : OffsetCall K) : Bool := call.okSandwich.isSome

end OffsetCall

namespace OffsetFilter

def step (filter : OffsetFilter K) (call : OffsetCall K) : OffsetFilter K :=
  (call.sync.sharedServerOffset filter call.localNowUs call.read).2.1

/-- The read of the call is near enough to the floor to move the filter. -/
def Trusts (filter : OffsetFilter K) (call : OffsetCall K) : Prop :=
  ∃ us ∈ call.okSandwich, us ≤ (filter.trackSandwich us).trustUs

def SameFloor (left right : OffsetFilter K) : Prop :=
  left.sandwichFloorUs = right.sandwichFloorUs ∧
    left.sandwichBlockMinUs = right.sandwichBlockMinUs ∧
    left.sandwichBlockN = right.sandwichBlockN

omit [FloorRing K] in
theorem prepare_sameFloor (filter : OffsetFilter K) (driftPpm : K) (read : TsfRead) :
    (filter.prepare driftPpm read).SameFloor (filter.trackSandwich read.sandwichUs) := by
  rw [prepare]
  generalize filter.trackSandwich read.sandwichUs = bracketed
  split
  · rw [trackOffsetRate]
    split
    · cases bracketed.measuredRate read.sample <;> exact ⟨rfl, rfl, rfl⟩
    · exact ⟨rfl, rfl, rfl⟩
  · exact ⟨rfl, rfl, rfl⟩

omit [FloorRing K] in
theorem settle_sameFloor (filter : OffsetFilter K) (rawUs sandwichUs : Int) :
    (filter.settle rawUs sandwichUs).SameFloor filter := by
  rw [settle]
  split
  · exact ⟨rfl, rfl, rfl⟩
  · split <;> exact ⟨rfl, rfl, rfl⟩

theorem step_sameFloor (filter : OffsetFilter K) (call : OffsetCall K) :
    (filter.step call).SameFloor
      (match call.okSandwich with
        | some us => filter.trackSandwich us
        | none => filter) := by
  unfold step TsfSync.sharedServerOffset OffsetCall.okSandwich
  by_cases live : call.sync.mappingLive call.localNowUs = true
  · rw [if_pos live, if_pos live]
    cases call.read with
    | none =>
        by_cases held : filter.holds call.localNowUs = true
        · simp only [held, if_true]
          exact ⟨rfl, rfl, rfl⟩
        · simp only [held]
          exact ⟨rfl, rfl, rfl⟩
    | some taken =>
        cases evaluation : evaluateMapping (some taken.sample) call.sync.mapLine with
        | ok rawUs extrapolationUs =>
            simp only [evaluation]
            obtain ⟨floor, blockMin, block⟩ :=
              settle_sameFloor (filter.prepare call.sync.mapDriftPpm taken) rawUs taken.sandwichUs
            obtain ⟨floor', blockMin', block'⟩ :=
              prepare_sameFloor filter call.sync.mapDriftPpm taken
            exact ⟨floor.trans floor', blockMin.trans blockMin', block.trans block'⟩
        | noTsf => simp only [evaluation]; exact ⟨rfl, rfl, rfl⟩
        | ageClamp extrapolationUs => simp only [evaluation]; exact ⟨rfl, rfl, rfl⟩
  · rw [if_neg live, if_neg live]
    exact ⟨rfl, rfl, rfl⟩

theorem sandwichFloorBlock_pos : 0 < sandwichFloorBlock := by decide

/-- Where untrusted reads have brought the floor: through each block it doubles. -/
structure AtLevel (level : Nat) (filter : OffsetFilter K) : Prop where
  block : filter.sandwichBlockN < sandwichFloorBlock
  floor : 2 ≤ level → 2 ^ (level - 1) ≤ filter.sandwichFloorUs + 1
  blockMin : 1 ≤ level → filter.sandwichBlockMinUs = 0 ∨ 2 ^ level ≤ filter.sandwichBlockMinUs + 1

omit [Field K] [LinearOrder K] [FloorRing K] in
theorem AtLevel.congr {level : Nat} {filter other : OffsetFilter K} (same : filter.SameFloor other)
    (here : other.AtLevel level) : filter.AtLevel level := by
  obtain ⟨floor, blockMin, block⟩ := same
  constructor
  · rw [block]
    exact here.block
  · rw [floor]
    exact here.floor
  · rw [blockMin]
    exact here.blockMin

theorem two_pow_le_of_untrusted {level : Nat} {floorUs us : Int} (positive : 1 ≤ us)
    (grown : 2 ≤ level → 2 ^ (level - 1) ≤ floorUs + 1)
    (untrusted : ¬ us ≤ floorUs * sandwichTrustFactor) (risen : 1 ≤ level) :
    2 ^ level ≤ us + 1 := by
  rw [sandwichTrustFactor] at untrusted
  rcases Nat.lt_or_ge level 2 with first | later
  · have one : level = 1 := by omega
    rw [one]
    omega
  · have floor := grown later
    have doubled : (2 : Int) ^ level = 2 * 2 ^ (level - 1) := by
      rw [← pow_succ', Nat.sub_add_cancel risen]
    omega

section Levels

omit [Field K] [LinearOrder K] [FloorRing K]

/-- An untrusted read inside a block keeps the floor, and the block stays as wide as it. -/
theorem AtLevel.inside {level : Nat} {filter : OffsetFilter K} {us : Int}
    (here : filter.AtLevel level) (positive : 1 ≤ us)
    (inside : ¬(sandwichFloorBlock ≤ filter.sandwichBlockN + 1 ∨ filter.sandwichFloorUs = 0))
    (untrusted : ¬ us ≤ (filter.trackSandwich us).trustUs) :
    (filter.trackSandwich us).AtLevel level ∧
      (filter.trackSandwich us).sandwichBlockN = filter.sandwichBlockN + 1 ∧
      (1 ≤ level → 2 ^ level ≤ us + 1) := by
  rw [trackSandwich, if_neg inside] at untrusted ⊢
  rw [not_or] at inside
  have reached : 1 ≤ level → 2 ^ level ≤ us + 1 :=
    two_pow_le_of_untrusted positive here.floor untrusted
  refine ⟨⟨Nat.lt_of_not_le inside.1, here.floor, ?_⟩, rfl, reached⟩
  intro risen
  right
  have wide := reached risen
  by_cases fresh : filter.sandwichBlockMinUs = 0
  · rw [if_pos fresh]
    exact wide
  · have least := (here.blockMin risen).resolve_left fresh
    have kept : 2 ^ level ≤ min filter.sandwichBlockMinUs us + 1 := by omega
    rw [if_neg fresh]
    exact kept

/-- An untrusted read that ends its block is not the least of it, so the new floor is at the next
level. -/
theorem AtLevel.ending {level : Nat} {filter : OffsetFilter K} {us : Int}
    (here : filter.AtLevel level) (positive : 1 ≤ us)
    (ending : sandwichFloorBlock ≤ filter.sandwichBlockN + 1 ∨ filter.sandwichFloorUs = 0)
    (untrusted : ¬ us ≤ (filter.trackSandwich us).trustUs) :
    (filter.trackSandwich us).AtLevel (level + 1) ∧
      (filter.trackSandwich us).sandwichBlockN = 0 ∧
      (1 ≤ level → 2 ^ level * sandwichTrustFactor ≤ us + 1) := by
  rw [trackSandwich, if_pos ending] at untrusted ⊢
  have narrow : ¬ us ≤ (if filter.sandwichBlockMinUs = 0 then us
      else min filter.sandwichBlockMinUs us) * sandwichTrustFactor := untrusted
  rw [sandwichTrustFactor] at narrow ⊢
  have begun : filter.sandwichBlockMinUs ≠ 0 := by
    intro fresh
    rw [if_pos fresh] at narrow
    omega
  rw [if_neg begun] at narrow ⊢
  have least : min filter.sandwichBlockMinUs us = filter.sandwichBlockMinUs := by omega
  rw [least] at narrow ⊢
  have grown : 1 ≤ level → 2 ^ level ≤ filter.sandwichBlockMinUs + 1 :=
    fun risen => (here.blockMin risen).resolve_left begun
  refine ⟨⟨sandwichFloorBlock_pos, fun next => grown (by omega), fun _ => Or.inl rfl⟩, rfl, ?_⟩
  intro risen
  have floor := grown risen
  omega

def widestLevel : Nat := 9

/-- At most so many more untrusted reads of up to 400 us can come. -/
def Untrusted (left : Nat) (filter : OffsetFilter K) : Prop :=
  ∃ level ≤ widestLevel, filter.AtLevel level ∧
    left + filter.sandwichBlockN = sandwichFloorBlock * (widestLevel - level)

theorem Untrusted.congr {left : Nat} {filter other : OffsetFilter K}
    (same : filter.SameFloor other) (here : other.Untrusted left) : filter.Untrusted left := by
  obtain ⟨level, bound, atLevel, count⟩ := here
  refine ⟨level, bound, atLevel.congr same, ?_⟩
  rw [same.2.2]
  exact count

theorem Untrusted.trackSandwich {left : Nat} {filter : OffsetFilter K} {us : Int}
    (here : filter.Untrusted left) (positive : 1 ≤ us) (widest : us ≤ 400)
    (untrusted : ¬ us ≤ (filter.trackSandwich us).trustUs) :
    ∃ fewer < left, (filter.trackSandwich us).Untrusted fewer := by
  obtain ⟨level, bound, atLevel, count⟩ := here
  have block := atLevel.block
  rw [widestLevel, sandwichFloorBlock] at *
  by_cases ends : sandwichFloorBlock ≤ filter.sandwichBlockN + 1 ∨ filter.sandwichFloorUs = 0
  · obtain ⟨next, started, wide⟩ := atLevel.ending positive ends untrusted
    have lower : level < 9 := by
      by_contra top
      have widest_level : level = 9 := by omega
      have wide := wide (by omega)
      rw [widest_level, sandwichTrustFactor] at wide
      omega
    refine ⟨256 * (9 - (level + 1)), by omega, level + 1, lower, next, ?_⟩
    rw [started]
    rfl
  · obtain ⟨same, counted, wide⟩ := atLevel.inside positive ends untrusted
    have lower : level < 9 := by
      by_contra top
      have widest_level : level = 9 := by omega
      have wide := wide (by omega)
      rw [widest_level] at wide
      omega
    refine ⟨left - 1, by omega, level, bound, same, ?_⟩
    rw [counted, sandwichFloorBlock, widestLevel]
    omega

structure BlockBegun (filter : OffsetFilter K) : Prop where
  block : filter.sandwichBlockN < sandwichFloorBlock
  blockMin : filter.sandwichBlockN = 0 → filter.sandwichBlockMinUs = 0

theorem BlockBegun.congr {filter other : OffsetFilter K} (same : filter.SameFloor other)
    (here : other.BlockBegun) : filter.BlockBegun := by
  obtain ⟨floor, blockMin, block⟩ := same
  constructor
  · rw [block]
    exact here.block
  · rw [block, blockMin]
    exact here.blockMin

theorem BlockBegun.trackSandwich (filter : OffsetFilter K) (us : Int) :
    (filter.trackSandwich us).BlockBegun := by
  rw [OffsetFilter.trackSandwich]
  split
  · exact ⟨sandwichFloorBlock_pos, fun _ => rfl⟩
  · rename_i inside
    rw [not_or] at inside
    exact ⟨Nat.lt_of_not_le inside.1, fun none => absurd none (Nat.succ_ne_zero _)⟩

/-- Fewer than nine blocks of untrusted reads can follow, wherever a block stands. -/
theorem BlockBegun.untrusted {filter : OffsetFilter K} (here : filter.BlockBegun) :
    ∃ left < widestLevel * sandwichFloorBlock, filter.Untrusted left := by
  have block := here.block
  rw [widestLevel, sandwichFloorBlock] at *
  rcases Nat.eq_zero_or_pos filter.sandwichBlockN with first | later
  · refine ⟨256 * 8, by decide, 1, by decide, ⟨here.block, fun two => absurd two (by decide), ?_⟩,
      by rw [first]; rfl⟩
    exact fun _ => Or.inl (here.blockMin first)
  · refine ⟨256 * 9 - filter.sandwichBlockN, by omega, 0, by decide,
      ⟨here.block, fun two => absurd two (by decide), fun one => absurd one (by decide)⟩, ?_⟩
    rw [sandwichFloorBlock, widestLevel]
    omega

end Levels

omit [LinearOrder K] [FloorRing K] in
theorem create_blockBegun : (create : OffsetFilter K).BlockBegun :=
  ⟨sandwichFloorBlock_pos, fun _ => rfl⟩

theorem step_blockBegun (filter : OffsetFilter K) (call : OffsetCall K)
    (here : filter.BlockBegun) : (filter.step call).BlockBegun := by
  apply BlockBegun.congr (filter.step_sameFloor call)
  split
  · exact BlockBegun.trackSandwich filter _
  · exact here

theorem untrusted_drops (left : Nat) (filter : OffsetFilter K) (call : OffsetCall K)
    (here : filter.Untrusted left) (width : ∀ us ∈ call.okSandwich, 1 ≤ us ∧ us ≤ 400)
    (ok : call.isOk = true) (missed : ¬ filter.Trusts call) :
    ∃ fewer < left, (filter.step call).Untrusted fewer := by
  obtain ⟨us, sandwich⟩ := Option.isSome_iff_exists.mp ok
  have bounds := width us sandwich
  have wide : ¬ us ≤ (filter.trackSandwich us).trustUs :=
    fun trusted => missed ⟨us, sandwich, trusted⟩
  obtain ⟨fewer, less, tracked⟩ := here.trackSandwich bounds.1 bounds.2 wide
  refine ⟨fewer, less, tracked.congr ?_⟩
  have same := filter.step_sameFloor call
  rw [sandwich] at same
  exact same

theorem untrusted_keeps (left : Nat) (filter : OffsetFilter K) (call : OffsetCall K)
    (here : filter.Untrusted left) (failed : call.isOk = false) :
    (filter.step call).Untrusted left := by
  apply here.congr
  have same := filter.step_sameFloor call
  rw [OffsetCall.isOk, Option.isSome_eq_false_iff, Option.isNone_iff_eq_none] at failed
  rw [failed] at same
  exact same

/-- From whatever state the calls of the past have left, one of any nine blocks of OK samples of
1 to 400 us is trusted. -/
theorem sandwich_trust (history later : List (OffsetCall K))
    (widths : ∀ call ∈ later, ∀ us ∈ call.okSandwich, 1 ≤ us ∧ us ≤ 400)
    (enough : widestLevel * sandwichFloorBlock ≤ later.countP OffsetCall.isOk) :
    ∃ before call after, later = before ++ call :: after ∧
      before.countP OffsetCall.isOk < widestLevel * sandwichFloorBlock ∧
      ((history ++ before).foldl step create).Trusts call := by
  have reached : (history.foldl step (create : OffsetFilter K)).BlockBegun :=
    Run.visits_last step _ _ history
      (Run.visits_of_preserved step _ step_blockBegun _ history create_blockBegun)
  obtain ⟨left, few, untrusted⟩ := reached.untrusted
  obtain ⟨before, call, after, split, counted, trusts⟩ := Run.exists_of_rank step
    OffsetCall.isOk (fun call => ∀ us ∈ call.okSandwich, 1 ≤ us ∧ us ≤ 400) Trusts Untrusted
    untrusted_drops untrusted_keeps left _ later untrusted widths (by omega)
  refine ⟨before, call, after, split, by omega, ?_⟩
  rw [List.foldl_append]
  exact trusts

def baseCall (sandwichUs : Int) : OffsetCall Rat :=
  { sync := { TsfSync.create 0 with mappingValid := true }
    localNowUs := 0
    read := some { sample := { tsfUs := 0, localUs := 0 }, sandwichUs := sandwichUs } }

theorem baseCall_okSandwich (sandwichUs : Int) :
    (baseCall sandwichUs).okSandwich = some sandwichUs := rfl

/-- After one read of 1 us, reads of 400 us only. -/
theorem narrow_then_wide_trust :
    ∃ before call after, List.replicate 2304 (baseCall 400) = before ++ call :: after ∧
      before.countP OffsetCall.isOk < widestLevel * sandwichFloorBlock ∧
      (([baseCall 1] ++ before).foldl step create).Trusts call := by
  apply sandwich_trust [baseCall 1] (List.replicate 2304 (baseCall 400))
  · intro call member us sandwich
    rw [List.eq_of_mem_replicate member, baseCall_okSandwich] at sandwich
    cases sandwich
    decide
  · have ok : (baseCall 400).isOk = true := by
      rw [OffsetCall.isOk, baseCall_okSandwich]
      rfl
    rw [List.countP_replicate, if_pos ok]
    decide

end OffsetFilter

end ClockSync
