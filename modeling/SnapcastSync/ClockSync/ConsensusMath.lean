import Mathlib.Algebra.Order.Archimedean.Basic
import Mathlib.Data.Finset.Max
import SnapcastSync.Lib.ReweightedMean

/-! The consensus estimator of `consensus_math.h`: one reweighting pass around the plain
mean. Values are exact field elements in place of doubles. -/

namespace ClockSync

open ReweightedMean

variable {K : Type} [Field K] [LinearOrder K]

def consensusReweightK : K := ((2 : Nat) : K)
def consensusScaleFloorUs : K := ((50 : Nat) : K)

/-- `robust_mean`, loop by loop. -/
def robustMean (vals : List K) (scaleFloor : K) : K :=
  let n : K := vals.length
  let sum := vals.foldl (fun sum val => sum + val) 0
  let mean0 := sum / n
  if vals.length < 3 then mean0
  else
    let dev := vals.foldl (fun dev val => dev + |val - mean0|) 0
    let scale := max (dev / n) scaleFloor * consensusReweightK
    let totals := vals.foldl
      (fun totals val =>
        let d := (val - mean0) / scale
        let w := 1 / (1 + d * d)
        (totals.1 + w, totals.2 + w * val))
      ((0, 0) : K × K)
    totals.2 / totals.1

def checkedDiv (num den : K) : Option K := if den = 0 then none else some (num / den)

/-- `robust_mean` with each of its divisions watched: `none` once one is by zero. -/
def checkedRobustMean (vals : List K) (scaleFloor : K) : Option K := do
  let n : K := vals.length
  let sum := vals.foldl (fun sum val => sum + val) 0
  let mean0 ← checkedDiv sum n
  if vals.length < 3 then some mean0
  else
    let dev := vals.foldl (fun dev val => dev + |val - mean0|) 0
    let spread ← checkedDiv dev n
    let scale := max spread scaleFloor * consensusReweightK
    let totals ← vals.foldlM
      (fun totals val => do
        let d ← checkedDiv (val - mean0) scale
        let w ← checkedDiv 1 (1 + d * d)
        some (totals.1 + w, totals.2 + w * val))
      ((0, 0) : K × K)
    checkedDiv totals.2 totals.1

def reweight (center scale value : K) : K :=
  let d := (value - center) / scale
  1 / (1 + d * d)

def reweightScale (vals : List K) (scaleFloor : K) : K :=
  max ((vals.map fun val => |val - mean vals|).sum / vals.length) scaleFloor *
    consensusReweightK

theorem robustMean_eq (vals : List K) (scaleFloor : K) :
    robustMean vals scaleFloor =
      if vals.length < 3 then mean vals
      else weighted (reweight (mean vals) (reweightScale vals scaleFloor)) vals := by
  simp only [robustMean, foldl_div_eq_mean, foldl_add_eq_sum, zero_add]
  split
  · rfl
  · rw [foldl_add_pair_eq_sum]
    simp only [zero_add]
    rfl

theorem robustMean_perm {first second : List K} (same : first.Perm second) (scaleFloor : K) :
    robustMean first scaleFloor = robustMean second scaleFloor := by
  have center := mean_perm same
  have scale : reweightScale first scaleFloor = reweightScale second scaleFloor := by
    unfold reweightScale
    rw [center, (same.map _).sum_eq, same.length_eq]
  rw [robustMean_eq, robustMean_eq, same.length_eq, center, scale, weighted_perm _ same]

theorem checkedDiv_of_ne_zero (num : K) {den : K} (nonzero : den ≠ 0) :
    checkedDiv num den = some (num / den) := if_neg nonzero

theorem checkedDiv_zero (num : K) : checkedDiv num 0 = none := if_pos rfl

/-- The inputs on which the estimate divides by zero: no value, or at least three that are all
the same with no floor under their spread. -/
def Degenerate (vals : List K) (scaleFloor : K) : Prop :=
  vals = [] ∨
    3 ≤ vals.length ∧ scaleFloor ≤ 0 ∧ ∀ first ∈ vals, ∀ second ∈ vals, first = second

theorem Degenerate.of_perm {first second : List K} (same : first.Perm second) (scaleFloor : K)
    (degenerate : Degenerate first scaleFloor) : Degenerate second scaleFloor := by
  rcases degenerate with rfl | ⟨many, floor, equal⟩
  · exact Or.inl same.nil_eq.symm
  · exact Or.inr ⟨same.length_eq ▸ many, floor, fun val val_mem other other_mem =>
      equal val (same.mem_iff.mpr val_mem) other (same.mem_iff.mpr other_mem)⟩

variable [IsStrictOrderedRing K]

theorem reweight_pos (center scale value : K) : 0 < reweight center scale value := by
  unfold reweight
  have square := mul_self_nonneg ((value - center) / scale)
  positivity

/-- The estimate stays among its values, however much it discounts some of them. -/
theorem robustMean_mem (vals : List K) (scaleFloor least greatest : K) (nonempty : vals ≠ [])
    (lower : ∀ val ∈ vals, least ≤ val) (upper : ∀ val ∈ vals, val ≤ greatest) :
    least ≤ robustMean vals scaleFloor ∧ robustMean vals scaleFloor ≤ greatest := by
  rw [robustMean_eq]
  split
  · rw [mean_eq_weighted]
    exact ⟨le_weighted _ (fun _ => one_pos) least vals nonempty lower,
      weighted_le _ (fun _ => one_pos) greatest vals nonempty upper⟩
  · have positive := reweight_pos (mean vals) (reweightScale vals scaleFloor)
    exact ⟨le_weighted _ positive least vals nonempty lower,
      weighted_le _ positive greatest vals nonempty upper⟩

/-- The estimate follows a common shift of its values, although its weights are not
linear in them. -/
theorem robustMean_shift (vals : List K) (scaleFloor shift : K) (nonempty : vals ≠ []) :
    robustMean (vals.map (· + shift)) scaleFloor = robustMean vals scaleFloor + shift := by
  have center := mean_shift vals shift nonempty
  have scale : reweightScale (vals.map (· + shift)) scaleFloor =
      reweightScale vals scaleFloor := by
    unfold reweightScale
    rw [center, List.map_map, List.length_map]
    simp only [Function.comp_def, add_sub_add_right_eq_sub]
  rw [robustMean_eq, robustMean_eq, List.length_map, center, scale]
  split
  · rfl
  · apply weighted_shift _ _ (reweight_pos (mean vals) (reweightScale vals scaleFloor))
      shift _ vals nonempty
    intro value
    simp only [reweight, add_sub_add_right_eq_sub]

theorem spread_nonneg (vals : List K) :
    0 ≤ (vals.map fun val => |val - mean vals|).sum / vals.length := by
  have total := sum_abs_nonneg (fun val => val - mean vals) vals
  positivity

theorem spread_eq_zero_iff (vals : List K) (nonempty : vals ≠ []) :
    (vals.map fun val => |val - mean vals|).sum / vals.length = 0 ↔
      ∀ first ∈ vals, ∀ second ∈ vals, first = second := by
  have count : (vals.length : K) ≠ 0 := by
    exact_mod_cast (List.length_pos_of_ne_nil nonempty).ne'
  rw [div_eq_zero_iff, or_iff_left count]
  constructor
  · intro flat
    have centred : ∀ val ∈ vals, val = mean vals := by
      intro val member
      have within := abs_le_sum_abs (fun val => val - mean vals) vals val member
      rw [flat] at within
      exact sub_eq_zero.mp (abs_nonpos_iff.mp within)
    intro first first_mem second second_mem
    rw [centred first first_mem, ← centred second second_mem]
  · intro equal
    have centred : ∀ val ∈ vals, |val - mean vals| = 0 := by
      intro val member
      have lower := le_weighted (fun _ => 1) (fun _ => one_pos) val vals nonempty
        (fun other other_mem => (equal val member other other_mem).le)
      have upper := weighted_le (fun _ => 1) (fun _ => one_pos) val vals nonempty
        (fun other other_mem => (equal other other_mem val member).le)
      rw [← mean_eq_weighted] at lower upper
      rw [le_antisymm upper lower, sub_self, abs_zero]
    rw [List.map_congr_left centred]
    simp

theorem reweightScale_nonneg (vals : List K) (scaleFloor : K) :
    0 ≤ reweightScale vals scaleFloor := by
  have spread := spread_nonneg vals
  unfold reweightScale consensusReweightK
  positivity

theorem reweightScale_pos_iff (vals : List K) (scaleFloor : K) (nonempty : vals ≠ []) :
    0 < reweightScale vals scaleFloor ↔
      ¬ (scaleFloor ≤ 0 ∧ ∀ first ∈ vals, ∀ second ∈ vals, first = second) := by
  have spread := spread_nonneg vals
  have flat := spread_eq_zero_iff vals nonempty
  have factor : (0 : K) < consensusReweightK := by
    unfold consensusReweightK
    positivity
  rw [reweightScale, mul_pos_iff_of_pos_right factor, lt_max_iff, spread.lt_iff_ne', Ne, flat,
    ← not_le, ← not_and_or, and_comm]

/-- Past the empty list, the divisions by zero are those of the deviations by the scale. -/
theorem checkedRobustMean_eq (vals : List K) (scaleFloor : K) (nonempty : vals ≠ []) :
    checkedRobustMean vals scaleFloor =
      if vals.length < 3 then some (mean vals)
      else
        (vals.foldlM (fun totals val =>
          (checkedDiv (val - mean vals) (reweightScale vals scaleFloor)).bind fun d =>
            (checkedDiv 1 (1 + d * d)).bind fun w =>
              some (totals.1 + w, totals.2 + w * val)) ((0, 0) : K × K)).bind
          fun totals => checkedDiv totals.2 totals.1 := by
  have count : (vals.length : K) ≠ 0 := by
    exact_mod_cast (List.length_pos_of_ne_nil nonempty).ne'
  simp only [checkedRobustMean, checkedDiv_of_ne_zero _ count, foldl_div_eq_mean,
    foldl_add_eq_sum, zero_add, Option.bind_eq_bind, Option.bind_some]
  rfl

theorem checkedRobustMean_degenerate (vals : List K) (scaleFloor : K)
    (degenerate : Degenerate vals scaleFloor) : checkedRobustMean vals scaleFloor = none := by
  rcases degenerate with rfl | ⟨many, flat⟩
  · simp [checkedRobustMean, checkedDiv_zero]
  · have nonempty : vals ≠ [] := List.ne_nil_of_length_pos (by omega)
    have scale : reweightScale vals scaleFloor = 0 := by
      have positive := (reweightScale_pos_iff vals scaleFloor nonempty).not.mpr (not_not.mpr flat)
      exact le_antisymm (not_lt.mp positive) (reweightScale_nonneg vals scaleFloor)
    rw [checkedRobustMean_eq vals scaleFloor nonempty, if_neg (by omega), scale]
    cases vals with
    | nil => exact absurd rfl nonempty
    | cons first rest =>
        rw [List.foldlM_cons, checkedDiv_zero]
        rfl

theorem checkedRobustMean_regular (vals : List K) (scaleFloor : K)
    (regular : ¬ Degenerate vals scaleFloor) :
    checkedRobustMean vals scaleFloor = some (robustMean vals scaleFloor) := by
  obtain ⟨nonempty, some_spread⟩ := not_or.mp regular
  rw [checkedRobustMean_eq vals scaleFloor nonempty, robustMean_eq]
  split
  · rfl
  · next many =>
      have scale : 0 < reweightScale vals scaleFloor :=
        (reweightScale_pos_iff vals scaleFloor nonempty).mpr fun flat =>
          some_spread ⟨by omega, flat⟩
      have weights : ∀ val : K,
          checkedDiv 1 (1 + (val - mean vals) / reweightScale vals scaleFloor *
            ((val - mean vals) / reweightScale vals scaleFloor)) =
          some (reweight (mean vals) (reweightScale vals scaleFloor) val) := by
        intro val
        have square := mul_self_nonneg ((val - mean vals) / reweightScale vals scaleFloor)
        exact checkedDiv_of_ne_zero _ (by positivity)
      have total := sum_weight_pos (reweight (mean vals) (reweightScale vals scaleFloor))
        (reweight_pos _ _) vals nonempty
      simp only [checkedDiv_of_ne_zero _ scale.ne', Option.bind_some, weights]
      rw [foldlM_add_pair_eq_sum]
      simp only [zero_add, Option.bind_some]
      exact checkedDiv_of_ne_zero _ total.ne'

theorem degenerate_shift (vals : List K) (scaleFloor shift : K) :
    Degenerate (vals.map (· + shift)) scaleFloor ↔ Degenerate vals scaleFloor := by
  simp only [Degenerate, List.map_eq_nil_iff, List.length_map, List.forall_mem_map,
    add_left_inj]

theorem checkedRobustMean_eq_none_iff (vals : List K) (scaleFloor : K) :
    checkedRobustMean vals scaleFloor = none ↔ Degenerate vals scaleFloor := by
  refine ⟨fun failed => ?_, checkedRobustMean_degenerate vals scaleFloor⟩
  by_contra regular
  rw [checkedRobustMean_regular vals scaleFloor regular] at failed
  cases failed

theorem checkedRobustMean_perm {first second : List K} (same : first.Perm second)
    (scaleFloor : K) :
    checkedRobustMean first scaleFloor = checkedRobustMean second scaleFloor := by
  by_cases degenerate : Degenerate first scaleFloor
  · rw [checkedRobustMean_degenerate first scaleFloor degenerate,
      checkedRobustMean_degenerate second scaleFloor (degenerate.of_perm same scaleFloor)]
  · have regular : ¬ Degenerate second scaleFloor := fun other =>
      degenerate (other.of_perm same.symm scaleFloor)
    rw [checkedRobustMean_regular first scaleFloor degenerate,
      checkedRobustMean_regular second scaleFloor regular, robustMean_perm same scaleFloor]

theorem checkedRobustMean_shift (vals : List K) (scaleFloor shift : K) :
    checkedRobustMean (vals.map (· + shift)) scaleFloor =
      (checkedRobustMean vals scaleFloor).map (· + shift) := by
  have shifted := degenerate_shift vals scaleFloor shift
  by_cases degenerate : Degenerate vals scaleFloor
  · rw [checkedRobustMean_degenerate vals scaleFloor degenerate,
      checkedRobustMean_degenerate _ scaleFloor (shifted.mpr degenerate), Option.map_none]
  · have nonempty : vals ≠ [] := fun nil => degenerate (Or.inl nil)
    rw [checkedRobustMean_regular vals scaleFloor degenerate,
      checkedRobustMean_regular _ scaleFloor (shifted.not.mpr degenerate),
      robustMean_shift vals scaleFloor shift nonempty, Option.map_some]

theorem checkedRobustMean_mem (vals : List K) (scaleFloor estimate : K)
    (found : checkedRobustMean vals scaleFloor = some estimate) :
    ∃ least greatest, IsLeast {val | val ∈ vals} least ∧
      IsGreatest {val | val ∈ vals} greatest ∧ least ≤ estimate ∧ estimate ≤ greatest := by
  have regular : ¬ Degenerate vals scaleFloor := by
    rw [← checkedRobustMean_eq_none_iff, found]
    exact Option.some_ne_none estimate
  have nonempty : vals ≠ [] := fun nil => regular (Or.inl nil)
  rw [checkedRobustMean_regular vals scaleFloor regular] at found
  cases found
  have some_val : vals.toFinset.Nonempty := List.toFinset_nonempty_iff vals |>.mpr nonempty
  have least := vals.toFinset.isLeast_min' some_val
  have greatest := vals.toFinset.isGreatest_max' some_val
  rw [List.coe_toFinset] at least greatest
  exact ⟨_, _, least, greatest, robustMean_mem vals scaleFloor _ _ nonempty
    (fun val member => least.2 member) (fun val member => greatest.2 member)⟩

theorem checkedRobustMean_few (vals : List K) (scaleFloor : K) (few : vals.length < 3) :
    checkedRobustMean vals scaleFloor = checkedDiv vals.sum vals.length := by
  by_cases nil : vals = []
  · subst nil
    rw [checkedRobustMean_degenerate [] scaleFloor (Or.inl rfl), List.length_nil, Nat.cast_zero,
      checkedDiv_zero]
  · have count : (vals.length : K) ≠ 0 := by
      exact_mod_cast (List.length_pos_of_ne_nil nil).ne'
    rw [checkedRobustMean_eq vals scaleFloor nil, if_pos few, checkedDiv_of_ne_zero _ count]
    rfl

/-- The values taken as a set: their order does not matter, a common shift goes through, and the
estimate stays between the least and the greatest of them. -/
theorem checkedRobustMean_setwise (vals : List K) (scaleFloor : K) :
    (checkedRobustMean vals scaleFloor = none ↔ vals = [] ∨
        3 ≤ vals.length ∧ scaleFloor ≤ 0 ∧ ∀ first ∈ vals, ∀ second ∈ vals, first = second) ∧
      (∀ reordered : List K, reordered.Perm vals →
        checkedRobustMean reordered scaleFloor = checkedRobustMean vals scaleFloor) ∧
      (∀ shift : K, checkedRobustMean (vals.map (· + shift)) scaleFloor =
        (checkedRobustMean vals scaleFloor).map (· + shift)) ∧
      (∀ estimate, checkedRobustMean vals scaleFloor = some estimate →
        ∃ least greatest, IsLeast {val | val ∈ vals} least ∧
          IsGreatest {val | val ∈ vals} greatest ∧ least ≤ estimate ∧ estimate ≤ greatest) ∧
      (vals.length < 3 →
        checkedRobustMean vals scaleFloor = checkedDiv vals.sum vals.length) :=
  ⟨checkedRobustMean_eq_none_iff vals scaleFloor,
    fun _ same => checkedRobustMean_perm same scaleFloor,
    checkedRobustMean_shift vals scaleFloor, checkedRobustMean_mem vals scaleFloor,
    checkedRobustMean_few vals scaleFloor⟩

theorem checkedRobustMean_setwise_outlier :
    checkedRobustMean ([3, 5, 400] : List Rat) 50 ≠ none ∧
      checkedRobustMean ([400, 3, 5] : List Rat) 50 =
        checkedRobustMean ([3, 5, 400] : List Rat) 50 ∧
      checkedRobustMean ([3, 5, 400].map (· + 7) : List Rat) 50 =
        (checkedRobustMean ([3, 5, 400] : List Rat) 50).map (· + 7) ∧
      (∀ estimate, checkedRobustMean ([3, 5, 400] : List Rat) 50 = some estimate →
        ∃ least greatest, IsLeast {val : Rat | val ∈ [3, 5, 400]} least ∧
          IsGreatest {val : Rat | val ∈ [3, 5, 400]} greatest ∧
            least ≤ estimate ∧ estimate ≤ greatest) ∧
      checkedRobustMean ([3, 5] : List Rat) 50 = checkedDiv ([3, 5] : List Rat).sum (2 : Nat) := by
  obtain ⟨none_, reorders, shifts, within, _⟩ :=
    checkedRobustMean_setwise ([3, 5, 400] : List Rat) 50
  refine ⟨?_, reorders _ (by decide), shifts 7, within,
    (checkedRobustMean_setwise ([3, 5] : List Rat) 50).2.2.2.2 (by decide)⟩
  rw [Ne, none_]
  decide +kernel

/-- No value divides zero by zero. -/
theorem checkedRobustMean_nil :
    ¬ ∀ vals : List Rat, checkedRobustMean vals consensusScaleFloorUs ≠ none :=
  fun divided => divided [] rfl

theorem reweight_le_one (center scale value : K) : reweight center scale value ≤ 1 := by
  unfold reweight
  have square := mul_self_nonneg ((value - center) / scale)
  rw [div_le_one (by positivity)]
  linarith

/-- The spread contains every value's own deviation, so no value is far out in units of it. -/
theorem abs_sub_mean_le (vals : List K) (scaleFloor val : K) (member : val ∈ vals) :
    |val - mean vals| * 2 ≤ vals.length * reweightScale vals scaleFloor := by
  have count : (0 : K) < vals.length := by
    exact_mod_cast List.length_pos_of_mem member
  have own := abs_le_sum_abs (fun val => val - mean vals) vals val member
  have spread := le_max_left
    ((vals.map fun val => |val - mean vals|).sum / vals.length) scaleFloor
  rw [div_le_iff₀ count] at spread
  unfold reweightScale consensusReweightK
  push_cast
  linarith

/-- Every value keeps a weight that only the number of values bounds from below. -/
theorem le_reweight (vals : List K) (scaleFloor val : K) (member : val ∈ vals) :
    4 / (4 + (vals.length : K) ^ 2) ≤
      reweight (mean vals) (reweightScale vals scaleFloor) val := by
  have near := abs_sub_mean_le vals scaleFloor val member
  have count : (0 : K) < vals.length := by
    exact_mod_cast List.length_pos_of_mem member
  have nonneg := reweightScale_nonneg vals scaleFloor
  unfold reweight
  generalize val - mean vals = deviation at near
  generalize reweightScale vals scaleFloor = scale at near nonneg
  have units : (deviation / scale) * (deviation / scale) * 4 ≤ (vals.length : K) ^ 2 := by
    rcases nonneg.eq_or_lt with flat | spread
    · rw [← flat, div_zero, mul_zero, zero_mul]
      positivity
    · have ratio : |deviation / scale| * 2 ≤ vals.length := by
        rw [abs_div, abs_of_pos spread, div_mul_eq_mul_div, div_le_iff₀ spread]
        exact near
      have squared := mul_self_le_mul_self (by positivity) ratio
      rw [mul_mul_mul_comm, abs_mul_abs_self] at squared
      linarith
  have square := mul_self_nonneg (deviation / scale)
  rw [div_le_div_iff₀ (by positivity) (by positivity)]
  linarith

/-- The estimate has no bound in one of its values: whatever the others are, that value alone
takes it beyond any bound. -/
theorem robustMean_unbounded [Archimedean K] (before after : List K) (scaleFloor bound : K) :
    ∃ value : Int, bound < robustMean (before ++ (value : K) :: after) scaleFloor := by
  let others := before ++ after
  let share : K := 4 / (4 + ((others.length + 1 : Nat) : K) ^ 2)
  have share_pos : 0 < share := by positivity
  let reach : K := (others.map fun other => |other|).sum
  have within : ∀ other ∈ others, |other| ≤ reach := abs_le_sum_abs (fun other => other) others
  have reach_nonneg : 0 ≤ reach := sum_abs_nonneg (fun other => other) others
  obtain ⟨value, large⟩ := exists_int_gt
    (max 0 (((others.length + 1) * max bound 0 + others.length * reach) / share))
  rw [max_lt_iff, div_lt_iff₀ share_pos, mul_comm (value : K)] at large
  refine ⟨value, lt_of_le_of_lt (le_max_left bound 0) ?_⟩
  have drag := fun weight positive light heavy =>
    lt_weighted_of_share weight positive light (max bound 0) reach share value before after
      (le_max_right bound 0) reach_nonneg large.1.le
      (fun other member => neg_le_of_abs_le (within other member)) heavy large.2
  have length : (before ++ (value : K) :: after).length = others.length + 1 := by
    simp only [others, List.length_append, List.length_cons, Nat.add_assoc]
  rw [robustMean_eq]
  split
  · rw [mean_eq_weighted]
    apply drag (fun _ => 1) (fun _ => one_pos) (fun _ => le_rfl)
    rw [div_le_one (by positivity)]
    exact le_add_of_nonneg_right (by positivity)
  · have kept := le_reweight (before ++ (value : K) :: after) scaleFloor value
      (List.mem_append_right before List.mem_cons_self)
    rw [length] at kept
    exact drag _ (reweight_pos _ _) (reweight_le_one _ _) kept

theorem robustMean_unbounded_zeros :
    ∃ value : Int,
      (1000 : Rat) < robustMean ([0, 0] ++ (value : Rat) :: []) consensusScaleFloorUs :=
  robustMean_unbounded [0, 0] [] consensusScaleFloorUs 1000

/-- Two contributors at 0 and a third that is far out. -/
theorem two_at_zero_dragged :
    ¬ ∀ (before after : List Rat) (scaleFloor : Rat), 2 ≤ (before ++ after).length →
      ∃ bound, ∀ value, |robustMean (before ++ value :: after) scaleFloor| ≤ bound := by
  intro bounded
  obtain ⟨bound, within⟩ := bounded [0, 0] [] consensusScaleFloorUs (by decide)
  have value := within (10 * max bound 0 + 1)
  have positive : 0 ≤ 10 * max bound 0 + 1 := by positivity
  have kept := le_reweight [0, 0, 10 * max bound 0 + 1] consensusScaleFloorUs
    (10 * max bound 0 + 1) (by simp)
  have dragged : max bound 0 < robustMean [0, 0, 10 * max bound 0 + 1] consensusScaleFloorUs := by
    rw [robustMean_eq, if_neg (by simp)]
    apply lt_weighted_of_share _ (reweight_pos _ _) (reweight_le_one _ _) (max bound 0) 0 (4 / 13)
      _ [0, 0] [] (le_max_right bound 0) le_rfl positive (by simp)
    · exact le_of_eq_of_le (by norm_num) kept
    · norm_num
      linarith [le_max_right bound 0]
  exact absurd ((le_abs_self _).trans value)
    (not_le_of_gt (lt_of_le_of_lt (le_max_left bound 0) dragged))

end ClockSync
