import Mathlib.Data.List.Basic
import Mathlib.Data.List.Infix

/-! A counter of equal marks in a row. A mark that is idle ends the streak; any other continues it
or begins its own. The log has the newest mark first. -/

namespace Streak

variable {M : Type} [DecidableEq M]

/-- One more mark on a streak, given as its length and its mark. -/
def next (idle : M) (streak : Nat × M) (mark : M) : Nat × M :=
  if mark = idle then (0, idle)
  else if mark = streak.2 then (streak.1 + 1, mark)
  else (1, mark)

/-- The counter says no more than the log shows: as far as both go back, the marks are its own. -/
structure Follows (idle : M) (streak : Nat × M) (log : List M) : Prop where
  alike : ∀ mark ∈ log.take streak.1, mark = streak.2
  live : streak.1 ≠ 0 → streak.2 ≠ idle

/-- The newest marks of the log are one mark, `length` times. -/
def Logged (idle : M) (length : Nat) (log : List M) : Prop :=
  ∃ mark, mark ≠ idle ∧ List.replicate length mark <+: log

omit [DecidableEq M] in
theorem Follows.none (idle mark : M) (log : List M) : Follows idle (0, mark) log where
  alike := by
    intro mark member
    cases member
  live := fun impossible => absurd rfl impossible

omit [DecidableEq M] in
theorem Follows.anew {idle : M} {streak : Nat × M} {log : List M}
    (follows : Follows idle streak log) : Follows idle streak [] where
  alike := by
    intro mark member
    rw [List.take_nil] at member
    cases member
  live := follows.live

theorem Follows.next {idle : M} {streak : Nat × M} {log : List M}
    (follows : Follows idle streak log) (mark : M) :
    Follows idle (next idle streak mark) (mark :: log) := by
  rw [Streak.next]
  by_cases ends : mark = idle
  · rw [if_pos ends]
    exact Follows.none idle idle (mark :: log)
  · rw [if_neg ends]
    by_cases continues : mark = streak.2
    · rw [if_pos continues]
      refine ⟨?_, fun _ => ends⟩
      intro earlier member
      rw [List.take_succ_cons, List.mem_cons] at member
      rcases member with same | older
      · exact same
      · exact (follows.alike earlier older).trans continues.symm
    · rw [if_neg continues]
      refine ⟨?_, fun _ => ends⟩
      intro earlier member
      rw [List.take_succ_cons, List.take_zero, List.mem_singleton] at member
      exact member

omit [DecidableEq M] in
/-- What the counter has counted within the log, the log shows. -/
theorem Follows.logged {idle : M} {streak : Nat × M} {log : List M}
    (follows : Follows idle streak log) (length : Nat) (positive : 0 < length)
    (counted : length ≤ streak.1) (recorded : length ≤ log.length) : Logged idle length log := by
  refine ⟨streak.2, follows.live (by omega), ?_⟩
  have size : (log.take length).length = length := List.length_take_of_le recorded
  have alike : ∀ mark ∈ log.take length, mark = streak.2 := by
    intro mark member
    exact follows.alike mark (List.take_subset_take_left log counted member)
  rw [← List.eq_replicate_iff.mpr ⟨size, alike⟩]
  exact List.take_prefix length log

omit [DecidableEq M] in
theorem Logged.length_le {idle : M} {length : Nat} {log : List M}
    (logged : Logged idle length log) : length ≤ log.length := by
  obtain ⟨mark, _, leads⟩ := logged
  have within := leads.length_le
  rw [List.length_replicate] at within
  exact within

theorem next_le (idle : M) (streak : Nat × M) (mark : M) :
    (next idle streak mark).1 ≤ streak.1 + 1 := by
  rw [next]
  split
  · exact Nat.zero_le _
  · split
    · exact le_refl _
    · exact Nat.succ_le_succ (Nat.zero_le _)

theorem next_idle (idle : M) (streak : Nat × M) (mark : M) :
    (next idle streak mark).1 = 0 → (next idle streak mark).2 = idle := by
  rw [next]
  split
  · exact fun _ => rfl
  · split
    · exact fun none => absurd none (Nat.succ_ne_zero _)
    · exact fun none => absurd none Nat.one_ne_zero

theorem two_le_next {idle : M} {streak : Nat × M} {mark : M} (length : Nat)
    (reached : length + 2 ≤ (next idle streak mark).1) :
    mark ≠ idle ∧ mark = streak.2 ∧ length + 1 ≤ streak.1 := by
  rw [next] at reached
  by_cases ends : mark = idle
  · rw [if_pos ends] at reached
    exact absurd reached (Nat.not_succ_le_zero _)
  · rw [if_neg ends] at reached
    by_cases continues : mark = streak.2
    · rw [if_pos continues] at reached
      exact ⟨ends, continues, Nat.le_of_succ_le_succ reached⟩
    · rw [if_neg continues] at reached
      exact absurd (Nat.le_of_succ_le_succ reached) (Nat.not_succ_le_zero _)

end Streak
