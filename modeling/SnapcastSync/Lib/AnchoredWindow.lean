import Mathlib.Algebra.Order.Group.Defs
import Mathlib.Data.List.Basic
import Mathlib.Order.Basic

/-! A count of marks that starts over at the first mark past its window. The window stands where
its first mark was, so the count is of marks within one span of the last; and of twice as many
marks within one span as make a count, less one, some mark completes it. -/

structure AnchoredWindow (T : Type*) where
  start : T
  count : Nat
deriving DecidableEq, Repr

namespace AnchoredWindow

variable {T : Type*} [AddCommGroup T] [LinearOrder T]

def mark (span : T) (window : AnchoredWindow T) (time : T) : AnchoredWindow T :=
  if span < time - window.start then { start := time, count := 1 }
  else { window with count := window.count + 1 }

/-- The marks made so far, newest first, as the window counts them. -/
structure Counts (window : AnchoredWindow T) (marks : List T) : Prop where
  enough : window.count ≤ marks.length
  inside : ∀ time ∈ marks.take window.count, window.start ≤ time

theorem mark_counts (span : T) (window : AnchoredWindow T) (marks : List T) (time : T)
    (counts : window.Counts marks) (later : window.start ≤ time) :
    (window.mark span time).Counts (time :: marks) := by
  rw [mark]
  split
  · refine ⟨Nat.succ_le_succ (Nat.zero_le _), fun other member => ?_⟩
    simp only [List.take_succ_cons, List.take_zero, List.mem_singleton] at member
    exact le_of_eq member.symm
  · refine ⟨Nat.succ_le_succ counts.enough, fun other member => ?_⟩
    rw [List.take_succ_cons, List.mem_cons] at member
    rcases member with here | earlier
    · rw [here]
      exact later
    · exact counts.inside other earlier

theorem mark_start_le (span : T) (window : AnchoredWindow T) (time : T)
    (later : window.start ≤ time) : (window.mark span time).start ≤ time := by
  rw [mark]
  split
  · exact le_refl time
  · exact later

variable [IsOrderedAddMonoid T]

/-- The marks that the count is of lie within one span of the last. -/
theorem counted_within (span : T) (window : AnchoredWindow T) (marks : List T) (time : T)
    (nonneg : 0 ≤ span) (counts : window.Counts marks) (later : window.start ≤ time) :
    ∀ other ∈ (time :: marks).take (window.mark span time).count, time - span ≤ other := by
  intro other member
  have inside := (mark_counts span window marks time counts later).inside other member
  refine le_trans ?_ inside
  rw [mark]
  split
  · exact sub_le_self time nonneg
  · next open_ => exact sub_le_comm.mp (not_lt.mp open_)

/-- A window that stands within the span of the marks to come counts every one of them. -/
theorem foldl_counts (span first : T) (window : AnchoredWindow T) (times : List T)
    (stands : first ≤ window.start) (near : ∀ time ∈ times, time - span ≤ first) :
    (times.foldl (mark span) window).count = window.count + times.length := by
  induction times generalizing window with
  | nil => rfl
  | cons time rest ih =>
      have open_ : ¬span < time - window.start := by
        rw [not_lt, sub_le_comm]
        exact (near time List.mem_cons_self).trans stands
      rw [List.foldl_cons, mark, if_neg open_]
      rw [ih { window with count := window.count + 1 } stands
        fun other member => near other (List.mem_cons_of_mem time member)]
      simp only [List.length_cons]
      omega

/-- Enough marks within one span complete the count at one of them. -/
theorem exists_complete (span first : T) (limit : Nat) (window : AnchoredWindow T)
    (times : List T) (positive : 0 < limit) (many : limit ≤ times.length)
    (enough : 2 * limit ≤ times.length + window.count + 1)
    (after : ∀ time ∈ times, first ≤ time) (near : ∀ time ∈ times, time - span ≤ first) :
    ∃ early time late, times = early ++ time :: late ∧
      limit ≤ ((early.foldl (mark span) window).mark span time).count := by
  induction times generalizing window with
  | nil => exact absurd many (Nat.not_le.mpr positive)
  | cons time rest ih =>
      have nearRest : ∀ other ∈ rest, other - span ≤ first :=
        fun other member => near other (List.mem_cons_of_mem time member)
      by_cases complete : limit ≤ (window.mark span time).count
      · exact ⟨[], time, rest, rfl, complete⟩
      · rw [Nat.not_le] at complete
        by_cases resets : span < time - window.start
        · -- the window starts over here, and the marks that are left are enough for a whole count
          have fresh : window.mark span time = { start := time, count := 1 } := if_pos resets
          have length : rest.take (limit - 1) ≠ [] ∧ limit - 1 ≤ rest.length := by
            rw [fresh] at complete
            dsimp only at complete
            simp only [List.length_cons] at many
            refine ⟨fun none_ => ?_, by omega⟩
            rw [List.take_eq_nil_iff] at none_
            rcases none_ with zero | empty
            · omega
            · rw [empty, List.length_nil] at many
              omega
          obtain ⟨some_, long⟩ := length
          have split := List.dropLast_append_getLast some_
          have whole := foldl_counts span first (window.mark span time) (rest.take (limit - 1))
            (by rw [fresh]; exact after time List.mem_cons_self)
            fun other member => nearRest other (List.mem_of_mem_take member)
          refine ⟨time :: (rest.take (limit - 1)).dropLast, (rest.take (limit - 1)).getLast some_,
            rest.drop (limit - 1), ?_, ?_⟩
          · rw [List.cons_append, ← List.singleton_append (l := rest.drop (limit - 1)),
              ← List.append_assoc, split, List.take_append_drop]
          · have last := (List.foldl_concat (mark span) (window.mark span time)
              ((rest.take (limit - 1)).getLast some_) (rest.take (limit - 1)).dropLast).symm
            rw [List.foldl_cons, last, split, whole, fresh, List.length_take_of_le long]
            dsimp only
            omega
        · have counted : window.mark span time = { window with count := window.count + 1 } :=
            if_neg resets
          rw [counted] at complete
          dsimp only at complete
          simp only [List.length_cons] at enough many
          obtain ⟨early, other, late, shape, reached⟩ := ih (window.mark span time) (by omega)
            (by rw [counted]; dsimp only; omega)
            (fun other member => after other (List.mem_cons_of_mem time member)) nearRest
          exact ⟨time :: early, other, late, by rw [shape, List.cons_append], reached⟩

end AnchoredWindow
