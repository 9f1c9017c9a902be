import Mathlib.Algebra.Order.Field.Basic
import Mathlib.Algebra.BigOperators.Group.List.Basic
import Mathlib.Algebra.Order.BigOperators.Group.List
import Mathlib.Tactic.FieldSimp
import Mathlib.Tactic.Linarith
import Mathlib.Tactic.Positivity
import Mathlib.Tactic.Ring

/-! Averages whose weights depend on the averaged values. An estimate of this kind is
not linear, but it is still independent of the order of its values and it follows a
common shift of them, provided that its weights do not change under that shift. -/

namespace ReweightedMean

variable {K : Type} [Field K]

def mean (values : List K) : K := values.sum / values.length

def weighted (weight : K → K) (values : List K) : K :=
  (values.map fun value => weight value * value).sum / (values.map weight).sum

theorem foldl_add_eq_sum (term : K → K) (values : List K) (start : K) :
    values.foldl (fun total value => total + term value) start =
      start + (values.map term).sum := by
  induction values generalizing start with
  | nil => simp
  | cons head tail ih =>
      rw [List.foldl_cons, ih, List.map_cons, List.sum_cons, add_assoc]

theorem foldl_div_eq_mean (values : List K) :
    values.foldl (fun total value => total + value) 0 / (values.length : K) = mean values := by
  rw [foldl_add_eq_sum (fun value => value) values 0, zero_add, List.map_id']
  rfl

theorem foldl_add_pair_eq_sum (left right : K → K) (values : List K) (start : K × K) :
    values.foldl (fun total value => (total.1 + left value, total.2 + right value)) start =
      (start.1 + (values.map left).sum, start.2 + (values.map right).sum) := by
  induction values generalizing start with
  | nil => simp
  | cons head tail ih =>
      rw [List.foldl_cons, ih]
      simp only [List.map_cons, List.sum_cons, add_assoc]

theorem foldlM_add_pair_eq_sum (left right : K → K) (values : List K) (start : K × K) :
    values.foldlM (fun totals value => some (totals.1 + left value, totals.2 + right value))
        start =
      some (start.1 + (values.map left).sum, start.2 + (values.map right).sum) := by
  rw [← foldl_add_pair_eq_sum]
  exact List.foldlM_pure

theorem mean_perm {first second : List K} (same : first.Perm second) :
    mean first = mean second := by
  unfold mean
  rw [same.sum_eq, same.length_eq]

theorem weighted_perm (weight : K → K) {first second : List K} (same : first.Perm second) :
    weighted weight first = weighted weight second := by
  unfold weighted
  rw [(same.map _).sum_eq, (same.map weight).sum_eq]

theorem sum_map_mul_add (weight : K → K) (values : List K) (shift : K) :
    (values.map fun value => weight value * (value + shift)).sum =
      (values.map fun value => weight value * value).sum +
        (values.map weight).sum * shift := by
  induction values with
  | nil => simp
  | cons head tail ih =>
      simp only [List.map_cons, List.sum_cons, ih]
      ring

section Ordered

variable [LinearOrder K] [IsStrictOrderedRing K]

theorem sum_abs_nonneg (term : K → K) (values : List K) :
    0 ≤ (values.map fun value => |term value|).sum := by
  apply List.sum_nonneg
  intro size member
  obtain ⟨value, _, rfl⟩ := List.mem_map.mp member
  exact abs_nonneg _

theorem abs_le_sum_abs (term : K → K) (values : List K) (value : K) (member : value ∈ values) :
    |term value| ≤ (values.map fun value => |term value|).sum := by
  apply List.single_le_sum _ _ (List.mem_map_of_mem member)
  intro size size_mem
  obtain ⟨other, _, rfl⟩ := List.mem_map.mp size_mem
  exact abs_nonneg _

theorem mean_shift (values : List K) (shift : K) (nonempty : values ≠ []) :
    mean (values.map (· + shift)) = mean values + shift := by
  have count : (0 : K) < values.length := by
    exact_mod_cast List.length_pos_of_ne_nil nonempty
  have total := sum_map_mul_add (fun _ => 1) values shift
  simp only [one_mul, List.map_id', List.map_const', List.sum_replicate, nsmul_eq_mul,
    mul_one] at total
  unfold mean
  rw [total, List.length_map]
  field_simp

theorem sum_weight_pos (weight : K → K) (positive : ∀ value, 0 < weight value)
    (values : List K) (nonempty : values ≠ []) : 0 < (values.map weight).sum := by
  apply List.sum_pos
  · intro term member
    obtain ⟨value, _, rfl⟩ := List.mem_map.mp member
    exact positive value
  · simpa using nonempty

/-- Positive weights keep the average among its values. -/
theorem le_weighted (weight : K → K) (positive : ∀ value, 0 < weight value) (least : K)
    (values : List K) (nonempty : values ≠ []) (lower : ∀ value ∈ values, least ≤ value) :
    least ≤ weighted weight values := by
  have total := sum_weight_pos weight positive values nonempty
  have terms : (values.map weight).sum * least ≤
      (values.map fun value => weight value * value).sum := by
    clear nonempty total
    induction values with
    | nil => simp
    | cons head tail ih =>
        have here := mul_le_mul_of_nonneg_left (lower head List.mem_cons_self)
          (le_of_lt (positive head))
        have rest := ih fun value member => lower value (List.mem_cons_of_mem head member)
        simp only [List.map_cons, List.sum_cons, add_mul]
        exact add_le_add here rest
  unfold weighted
  rw [le_div_iff₀ total, mul_comm]
  exact terms

omit [LinearOrder K] [IsStrictOrderedRing K] in
theorem weighted_neg (weight reflected : K → K) (same : ∀ value, reflected (-value) = weight value)
    (values : List K) :
    weighted reflected (values.map fun value => -value) = -weighted weight values := by
  have weights : (values.map fun value => -value).map reflected = values.map weight := by
    rw [List.map_map]
    exact List.map_congr_left fun value _ => same value
  have terms : ((values.map fun value => -value).map fun value => reflected value * value).sum =
      -(values.map fun value => weight value * value).sum := by
    induction values with
    | nil => simp
    | cons head tail ih =>
        have rest : (tail.map fun value => -value).map reflected = tail.map weight := by
          rw [List.map_map]
          exact List.map_congr_left fun value _ => same value
        simp only [List.map_cons, List.sum_cons, ih rest, same]
        ring
  unfold weighted
  rw [weights, terms, neg_div]

theorem weighted_le (weight : K → K) (positive : ∀ value, 0 < weight value) (greatest : K)
    (values : List K) (nonempty : values ≠ []) (upper : ∀ value ∈ values, value ≤ greatest) :
    weighted weight values ≤ greatest := by
  have reflected := le_weighted (fun value => weight (-value)) (fun value => positive (-value))
    (-greatest) (values.map fun value => -value) (by simpa using nonempty) (by
      intro value member
      obtain ⟨original, present, rfl⟩ := List.mem_map.mp member
      exact neg_le_neg (upper original present))
  rw [weighted_neg weight (fun value => weight (-value)) (fun value => by rw [neg_neg])]
    at reflected
  exact neg_le_neg_iff.mp reflected

omit [LinearOrder K] [IsStrictOrderedRing K] in
theorem mean_eq_weighted (values : List K) : mean values = weighted (fun _ => 1) values := by
  unfold mean weighted
  simp

theorem weighted_shift (weight shifted : K → K) (positive : ∀ value, 0 < weight value)
    (shift : K) (same : ∀ value, shifted (value + shift) = weight value)
    (values : List K) (nonempty : values ≠ []) :
    weighted shifted (values.map (· + shift)) = weighted weight values + shift := by
  have total := sum_weight_pos weight positive values nonempty
  have weights : (values.map (· + shift)).map shifted = values.map weight := by
    rw [List.map_map]
    exact List.map_congr_left fun value _ => same value
  have terms : ((values.map (· + shift)).map fun value => shifted value * value) =
      values.map fun value => weight value * (value + shift) := by
    rw [List.map_map]
    apply List.map_congr_left
    intro value _
    change shifted (value + shift) * (value + shift) = _
    rw [same]
  unfold weighted
  rw [weights, terms, sum_map_mul_add]
  field_simp

theorem sum_weight_le (weight : K → K) (light : ∀ value, weight value ≤ 1) (values : List K) :
    (values.map weight).sum ≤ values.length := by
  have each := List.sum_le_card_nsmul (values.map weight) 1 (by
    intro term member
    obtain ⟨value, _, rfl⟩ := List.mem_map.mp member
    exact light value)
  rwa [List.length_map, nsmul_one] at each

theorem neg_le_sum_weight_mul (weight : K → K) (positive : ∀ value, 0 < weight value)
    (light : ∀ value, weight value ≤ 1) (reach : K) (nonneg : 0 ≤ reach) (values : List K)
    (within : ∀ value ∈ values, -reach ≤ value) :
    -(values.length * reach) ≤ (values.map fun value => weight value * value).sum := by
  induction values with
  | nil => simp
  | cons head tail ih =>
      have rest := ih fun value member => within value (List.mem_cons_of_mem head member)
      have least := mul_le_mul_of_nonneg_left (within head List.mem_cons_self) (positive head).le
      have reduced := mul_le_mul_of_nonneg_right (light head) nonneg
      rw [List.map_cons, List.sum_cons, List.length_cons]
      push_cast
      linarith

/-- An outlier that keeps a share of its weight takes the average beyond any bound that is small
beside that share of it. -/
theorem lt_weighted_of_share (weight : K → K) (positive : ∀ value, 0 < weight value)
    (light : ∀ value, weight value ≤ 1) (bound reach share outlier : K) (before after : List K)
    (bound_nonneg : 0 ≤ bound) (reach_nonneg : 0 ≤ reach) (outlier_nonneg : 0 ≤ outlier)
    (within : ∀ value ∈ before ++ after, -reach ≤ value) (heavy : share ≤ weight outlier)
    (far : ((before ++ after).length + 1) * bound + (before ++ after).length * reach <
      share * outlier) :
    bound < weighted weight (before ++ outlier :: after) := by
  have total := sum_weight_pos weight positive (outlier :: (before ++ after))
    (List.cons_ne_nil _ _)
  rw [weighted_perm weight List.perm_middle, weighted, lt_div_iff₀ total]
  have light_total := mul_le_mul_of_nonneg_left
    (sum_weight_le weight light (outlier :: (before ++ after))) bound_nonneg
  have others := neg_le_sum_weight_mul weight positive light reach reach_nonneg _ within
  have drawn := mul_le_mul_of_nonneg_right heavy outlier_nonneg
  simp only [List.map_cons, List.sum_cons, List.length_cons] at light_total ⊢
  push_cast at light_total
  linarith

end Ordered

end ReweightedMean
