import Mathlib.Algebra.Order.Group.Defs
import Mathlib.Order.Bounds.Basic
import Mathlib.Tactic.Abel

/-! A minimum that leaks upward: before each new value it rises by a fixed amount. What it comes
to is the least of the values, each risen since it came. -/

namespace LeakyMin

variable {α : Type} [AddCommGroup α] [LinearOrder α]

def track (leak floor value : α) : α := min value (floor + leak)

/-- The values, each as far up as the floor would have leaked from it. -/
def risen (leak : α) (values : List α) : Set α :=
  {level | ∃ k, ∃ inside : k < values.length,
    level = values[k] + (values.length - (k + 1)) • leak}

variable [IsOrderedAddMonoid α]

theorem foldl_track_le_start (leak start : α) (values : List α) :
    values.foldl (track leak) start ≤ start + values.length • leak := by
  induction values generalizing start with
  | nil => simp
  | cons value rest ih =>
      rw [List.foldl_cons, List.length_cons, add_nsmul, one_nsmul]
      calc rest.foldl (track leak) (track leak start value)
          ≤ track leak start value + rest.length • leak := ih _
        _ ≤ start + leak + rest.length • leak := by gcongr; exact min_le_right _ _
        _ = start + (rest.length • leak + leak) := by abel

theorem foldl_track_le (leak start : α) (values : List α) (k : Nat) (inside : k < values.length) :
    values.foldl (track leak) start ≤ values[k] + (values.length - (k + 1)) • leak := by
  induction values generalizing start k with
  | nil => exact absurd inside (Nat.not_lt_zero k)
  | cons value rest ih =>
      rw [List.foldl_cons]
      cases k with
      | zero =>
          calc rest.foldl (track leak) (track leak start value)
              ≤ track leak start value + rest.length • leak := foldl_track_le_start leak _ rest
            _ ≤ value + rest.length • leak := by gcongr; exact min_le_left _ _
      | succ k =>
          have within : k < rest.length := Nat.lt_of_succ_lt_succ inside
          have later := ih (track leak start value) k within
          rw [List.length_cons, Nat.succ_sub_succ, List.getElem_cons_succ]
          exact later

omit [IsOrderedAddMonoid α] in
theorem foldl_track_eq (leak start : α) (values : List α) :
    values.foldl (track leak) start = start + values.length • leak ∨
      values.foldl (track leak) start ∈ risen leak values := by
  induction values generalizing start with
  | nil => simp
  | cons value rest ih =>
      rw [List.foldl_cons]
      rcases ih (track leak start value) with leaked | ⟨k, inside, level⟩
      · rcases min_choice value (start + leak) with fresh | held
        · refine Or.inr ⟨0, Nat.succ_pos _, ?_⟩
          rw [leaked, track, fresh]
          rfl
        · left
          rw [leaked, track, held, List.length_cons, add_nsmul, one_nsmul]
          abel
      · refine Or.inr ⟨k + 1, Nat.succ_lt_succ inside, ?_⟩
        rw [level, List.length_cons, Nat.succ_sub_succ, List.getElem_cons_succ]

/-- Where the start is not below the first value, it plays no part. -/
theorem foldl_track_isLeast (leak start first : α) (rest : List α)
    (reached : first ≤ start + leak) :
    IsLeast (risen leak (first :: rest)) ((first :: rest).foldl (track leak) start) := by
  constructor
  · rcases foldl_track_eq leak start (first :: rest) with leaked | risen
    · refine ⟨0, Nat.succ_pos _, le_antisymm (foldl_track_le leak start _ 0 _) ?_⟩
      rw [leaked, List.length_cons, add_nsmul, one_nsmul]
      calc first + rest.length • leak ≤ start + leak + rest.length • leak := by gcongr
        _ = start + (rest.length • leak + leak) := by abel
    · exact risen
  · rintro level ⟨k, inside, rfl⟩
    exact foldl_track_le leak start _ k inside

/-- A value that comes again and again: the floor closes in on it, and then stays. -/
theorem foldl_track_replicate (leak floor value : α) (nonneg : 0 ≤ leak) (count : Nat) :
    (List.replicate (count + 1) value).foldl (track leak) floor =
      min value (floor + (count + 1) • leak) := by
  induction count with
  | zero =>
      rw [zero_add, one_nsmul]
      rfl
  | succ count ih =>
      rw [List.replicate_succ', List.foldl_append, ih, List.foldl_cons, List.foldl_nil, track,
        min_add, ← min_assoc, min_eq_left (le_add_of_nonneg_right nonneg), succ_nsmul _ (count + 1),
        add_assoc]

end LeakyMin
