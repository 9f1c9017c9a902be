import Mathlib.Data.List.Sort

/-! The value that stands at a given place of a list once it is sorted, and what says so without
sorting: as many values are below it as the place allows. -/

namespace OrderStatistic

variable {A : Type} [LinearOrder A]

def nth (values : List A) (place : Nat) (otherwise : A) : A :=
  (values.insertionSort (· ≤ ·)).getD place otherwise

/-- At most `place` values are smaller, and more than `place` are not greater. -/
def IsNth (values : List A) (place : Nat) (value : A) : Prop :=
  value ∈ values ∧ values.countP (decide <| · < value) ≤ place ∧
    place < values.countP (decide <| · ≤ value)

instance (values : List A) (place : Nat) (value : A) : Decidable (IsNth values place value) := by
  unfold IsNth
  infer_instance

theorem IsNth.perm {values others : List A} {place : Nat} {value : A}
    (same : values.Perm others) (nth : IsNth values place value) : IsNth others place value := by
  obtain ⟨member, below, upTo⟩ := nth
  rw [same.countP_eq] at below upTo
  exact ⟨same.mem_iff.mp member, below, upTo⟩

theorem isNth_of_sorted (values : List A) (place : Nat) (within : place < values.length)
    (sorted : values.Pairwise (· ≤ ·)) : IsNth values place values[place] := by
  rw [List.pairwise_iff_getElem] at sorted
  refine ⟨List.getElem_mem within, ?_, ?_⟩
  · -- from the place on nothing is smaller
    have none : (values.drop place).countP (decide <| · < values[place]) = 0 := by
      rw [List.countP_eq_zero]
      intro value member
      obtain ⟨offset, inside, rfl⟩ := List.getElem_of_mem member
      rw [List.getElem_drop]
      rw [List.length_drop] at inside
      rw [decide_eq_true_iff, not_lt]
      rcases Nat.eq_zero_or_pos offset with first | later
      · simp only [first, Nat.add_zero, le_refl]
      · exact sorted place (place + offset) within (by omega) (by omega)
    calc values.countP (decide <| · < values[place])
        = (values.take place).countP (decide <| · < values[place])
            + (values.drop place).countP (decide <| · < values[place]) := by
          rw [← List.countP_append, List.take_append_drop]
      _ = (values.take place).countP (decide <| · < values[place]) := by rw [none, Nat.add_zero]
      _ ≤ (values.take place).length := List.countP_le_length
      _ ≤ place := List.length_take_le place values
  · -- up to the place everything counts
    have all : (values.take (place + 1)).countP (decide <| · ≤ values[place]) = place + 1 := by
      rw [List.countP_eq_length.mpr, List.length_take, Nat.min_eq_left within]
      intro value member
      obtain ⟨offset, inside, rfl⟩ := List.getElem_of_mem member
      rw [List.getElem_take, decide_eq_true_iff]
      rw [List.length_take] at inside
      rcases Nat.lt_or_ge offset place with before | last
      · exact sorted offset place (by omega) within before
      · have same : offset = place := by omega
        simp only [same, le_refl]
    calc place < place + 1 := Nat.lt_succ_self place
      _ = (values.take (place + 1)).countP (decide <| · ≤ values[place]) := all.symm
      _ ≤ values.countP (decide <| · ≤ values[place]) :=
          (List.take_sublist _ _).countP_le

theorem nth_isNth (values : List A) (place : Nat) (otherwise : A)
    (within : place < values.length) : IsNth values place (nth values place otherwise) := by
  have inside : place < (values.insertionSort (· ≤ ·)).length := by
    rw [List.length_insertionSort]
    exact within
  rw [nth, List.getD_eq_getElem?_getD, List.getElem?_eq_getElem inside, Option.getD_some]
  exact (isNth_of_sorted _ place inside (List.pairwise_insertionSort _ _)).perm
    (List.perm_insertionSort _ _)

end OrderStatistic
