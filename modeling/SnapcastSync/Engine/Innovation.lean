import SnapcastSync.Engine.Slew
import SnapcastSync.Lib.Streak

/-! The innovations of a seeded filter. It takes a bounded share of each unless it is the third
beyond the jump threshold in a row and of one sign, which it counts as a streak of marks. -/

namespace Timing

open Rounding

variable {K : Type}

/-- How far an input is from the mean of a seeded filter, with the weight, the limit on what is
taken of it and the threshold of a jump at that moment. -/
structure Innovation (K : Type) where
  us : K
  alpha : K
  maxMoveUs : K
  jumpUs : K

variable [Field K] [LinearOrder K]

namespace Innovation

def mark (heard : Innovation K) : Int :=
  if heard.jumpUs < |heard.us| then (if 0 < heard.us then 1 else -1) else 0

def shareUs (heard : Innovation K) : K :=
  heard.alpha * clamp heard.us (-heard.maxMoveUs) heard.maxMoveUs

structure Weighed (heard : Innovation K) : Prop where
  nonneg : 0 ≤ heard.alpha
  atMost : heard.alpha ≤ 1
  limit : 0 ≤ heard.maxMoveUs
  threshold : heard.maxMoveUs ≤ heard.jumpUs

variable [IsStrictOrderedRing K]

theorem shareUs_abs_le (heard : Innovation K) (weighed : heard.Weighed) :
    |heard.shareUs| ≤ heard.alpha * heard.maxMoveUs := by
  have within := clamp_abs_le heard.us heard.maxMoveUs weighed.limit
  rw [shareUs, abs_mul, abs_of_nonneg weighed.nonneg]
  exact mul_le_mul_of_nonneg_left within weighed.nonneg

theorem lt_abs_of_marked (heard : Innovation K) (weighed : heard.Weighed)
    (marked : heard.mark ≠ 0) : heard.alpha * heard.maxMoveUs < |heard.us| := by
  have beyond : heard.jumpUs < |heard.us| := by
    by_contra within
    exact marked (if_neg within)
  calc heard.alpha * heard.maxMoveUs
      ≤ 1 * heard.maxMoveUs := mul_le_mul_of_nonneg_right weighed.atMost weighed.limit
    _ = heard.maxMoveUs := one_mul _
    _ ≤ heard.jumpUs := weighed.threshold
    _ < |heard.us| := beyond

end Innovation

namespace JumpFilter

def streak (filter : JumpFilter K) : Nat × Int := (filter.jumpRun, filter.jumpDir)

/-- The innovation confirms a jump. -/
def Adopts (filter : JumpFilter K) (heard : Innovation K) : Prop :=
  jumpConfirmSamples ≤ (Streak.next 0 filter.streak heard.mark).1

instance (filter : JumpFilter K) (heard : Innovation K) : Decidable (filter.Adopts heard) :=
  inferInstanceAs (Decidable (_ ≤ _))

theorem countJump_eq (filter : JumpFilter K) (heard : Innovation K) :
    filter.countJump heard.us heard.jumpUs =
      { filter with
        jumpRun := (Streak.next 0 filter.streak heard.mark).1
        jumpDir := (Streak.next 0 filter.streak heard.mark).2 } := by
  rw [countJump, Innovation.mark, Streak.next]
  by_cases beyond : heard.jumpUs < |heard.us|
  · rw [if_pos beyond, if_pos beyond]
    have marked : ¬ (if 0 < heard.us then (1 : Int) else -1) = 0 := by
      split
      · decide
      · decide
    rw [if_neg marked]
    dsimp only
    rw [streak]
    generalize (if 0 < heard.us then (1 : Int) else -1) = dir
    by_cases continues : dir = filter.jumpDir
    · rw [if_pos continues, if_pos continues, continues]
    · rw [if_neg continues, if_neg continues]
  · rw [if_neg beyond, if_neg beyond, if_pos rfl]

variable [FloorRing K]

/-- One input in terms of its innovation. -/
theorem track_eq (filter : JumpFilter K) (heard : Innovation K) :
    let tracked := (filter.track (filter.meanUs + heard.us) heard.alpha heard.maxMoveUs
      heard.jumpUs).1
    (tracked.meanUs = filter.meanUs + if filter.Adopts heard then heard.us else heard.shareUs) ∧
      tracked.streak =
        if filter.Adopts heard then (0, 0) else Streak.next 0 filter.streak heard.mark := by
  have innov : filter.meanUs + heard.us - filter.meanUs = heard.us := add_sub_cancel_left _ _
  rw [track, innov, filter.countJump_eq heard]
  dsimp only
  by_cases adopts : filter.Adopts heard
  · have confirmed : jumpConfirmSamples ≤ (Streak.next 0 filter.streak heard.mark).1 := adopts
    rw [if_pos adopts, if_pos adopts, if_pos confirmed]
    exact ⟨rfl, rfl⟩
  · have unconfirmed : ¬ jumpConfirmSamples ≤ (Streak.next 0 filter.streak heard.mark).1 := adopts
    rw [if_neg adopts, if_neg adopts, if_neg unconfirmed]
    exact ⟨rfl, rfl⟩

theorem track_seeded (filter : JumpFilter K) (x alpha maxMoveUs jumpUs : K) :
    (filter.track x alpha maxMoveUs jumpUs).1.seeded = filter.seeded := by
  have counted := filter.countJump_eq
    { us := x - filter.meanUs
      alpha := alpha
      maxMoveUs := maxMoveUs
      jumpUs := jumpUs }
  dsimp only at counted
  rw [track, counted]
  split
  · rfl
  · rfl

theorem track_idle (filter : JumpFilter K) (x alpha maxMoveUs jumpUs : K) :
    (filter.track x alpha maxMoveUs jumpUs).1.jumpRun = 0 →
      (filter.track x alpha maxMoveUs jumpUs).1.jumpDir = 0 := by
  have counted := filter.countJump_eq
    { us := x - filter.meanUs
      alpha := alpha
      maxMoveUs := maxMoveUs
      jumpUs := jumpUs }
  dsimp only at counted
  rw [track, counted]
  split
  · exact fun _ => rfl
  · exact Streak.next_idle 0 filter.streak _

/-- The run that the filter counts is one of the newest marks, too short to be a jump. -/
structure Minds (filter : JumpFilter K) (marks : List Int) : Prop where
  follows : Streak.Follows 0 filter.streak marks
  short : filter.streak.1 < jumpConfirmSamples

omit [Field K] [LinearOrder K] [FloorRing K] in
theorem Minds.anew {filter : JumpFilter K} {marks : List Int} (minds : filter.Minds marks) :
    filter.Minds [] :=
  ⟨minds.follows.anew, minds.short⟩

omit [Field K] [LinearOrder K] [FloorRing K] in
theorem Minds.of_streak {filter other : JumpFilter K} {marks : List Int}
    (minds : filter.Minds marks) (same : other.streak = filter.streak) : other.Minds marks := by
  refine ⟨?_, ?_⟩
  · rw [same]
    exact minds.follows
  · rw [same]
    exact minds.short

theorem Minds.track {filter : JumpFilter K} {marks : List Int} (minds : filter.Minds marks)
    (heard : Innovation K) :
    (filter.track (filter.meanUs + heard.us) heard.alpha heard.maxMoveUs heard.jumpUs).1.Minds
      (heard.mark :: marks) := by
  have tracked := (filter.track_eq heard).2
  by_cases adopts : filter.Adopts heard
  · rw [if_pos adopts] at tracked
    refine ⟨?_, ?_⟩
    · rw [tracked]
      exact Streak.Follows.none 0 0 _
    · rw [tracked]
      decide
  · rw [if_neg adopts] at tracked
    refine ⟨?_, ?_⟩
    · rw [tracked]
      exact minds.follows.next heard.mark
    · rw [tracked]
      exact not_le.mp adopts

omit [FloorRing K] in
/-- An adopted innovation is the third marked one in a row, or the run is longer than the log. -/
theorem Minds.logged_iff {filter : JumpFilter K} {marks : List Int} (minds : filter.Minds marks)
    (heard : Innovation K) (adopts : filter.Adopts heard) :
    Streak.Logged 0 jumpConfirmSamples (heard.mark :: marks) ↔
      jumpConfirmSamples ≤ marks.length + 1 := by
  constructor
  · intro logged
    exact logged.length_le
  · intro recorded
    exact (minds.follows.next heard.mark).logged jumpConfirmSamples (by decide) adopts recorded

omit [FloorRing K] in
theorem adopts_iff (filter : JumpFilter K) (heard : Innovation K) :
    filter.Adopts heard ↔
      heard.mark ≠ 0 ∧ heard.mark = filter.jumpDir ∧ jumpConfirmSamples ≤ filter.jumpRun + 1 := by
  constructor
  · intro adopts
    obtain ⟨marked, continues, counted⟩ := Streak.two_le_next 1 adopts
    exact ⟨marked, continues, Nat.succ_le_succ counted⟩
  · rintro ⟨marked, continues, counted⟩
    have continued : heard.mark = filter.streak.2 := continues
    rw [Adopts, Streak.next, if_neg marked, if_pos continued]
    exact counted

/-- The filter counts nothing that is not in the log, and nothing before it is seeded. -/
structure Counts (filter : JumpFilter K) (marks : List Int) : Prop where
  minds : filter.Minds marks
  recorded : filter.streak.1 ≤ marks.length
  idle : filter.seeded = false → filter.streak.1 = 0

omit [Field K] [LinearOrder K] [FloorRing K] in
theorem Counts.of_streak {filter other : JumpFilter K} {marks : List Int}
    (counts : filter.Counts marks) (same : other.streak = filter.streak)
    (seeded : other.seeded = filter.seeded) : other.Counts marks := by
  refine ⟨counts.minds.of_streak same, ?_, ?_⟩
  · rw [same]
    exact counts.recorded
  · rw [same, seeded]
    exact counts.idle

omit [Field K] [LinearOrder K] [FloorRing K] in
theorem Counts.anew {filter : JumpFilter K} {marks : List Int} (counts : filter.Counts marks)
    (unseeded : filter.seeded = false) (x frameUs : K) : (filter.seed x frameUs).Counts [] where
  minds := counts.minds.anew.of_streak rfl
  recorded := le_of_eq (counts.idle unseeded)
  idle := fun impossible => Bool.noConfusion impossible

theorem Counts.track {filter : JumpFilter K} {marks : List Int} (counts : filter.Counts marks)
    (seeded : filter.seeded = true) (heard : Innovation K) :
    (filter.track (filter.meanUs + heard.us) heard.alpha heard.maxMoveUs heard.jumpUs).1.Counts
      (heard.mark :: marks) where
  minds := counts.minds.track heard
  recorded := by
    rw [(filter.track_eq heard).2]
    split
    · exact Nat.zero_le _
    · exact le_trans (Streak.next_le 0 filter.streak heard.mark)
        (Nat.succ_le_succ counts.recorded)
  idle := by
    intro unseeded
    rw [filter.track_seeded, seeded] at unseeded
    cases unseeded

/-- What holds of a filter and its log goes on holding as the filter is seeded, takes an innovation
or has its mean moved. -/
structure Lasting (holds : JumpFilter K → List Int → Prop) : Prop where
  moved : ∀ (filter other : JumpFilter K) (marks : List Int), other.streak = filter.streak →
    other.seeded = filter.seeded → holds filter marks → holds other marks
  seeds : ∀ (filter : JumpFilter K) (marks : List Int) (x frameUs : K), filter.seeded = false →
    holds filter marks → holds (filter.seed x frameUs) []
  tracks : ∀ (filter : JumpFilter K) (marks : List Int) (heard : Innovation K),
    filter.seeded = true → holds filter marks →
    holds (filter.track (filter.meanUs + heard.us) heard.alpha heard.maxMoveUs heard.jumpUs).1
      (heard.mark :: marks)

theorem minds_lasting : Lasting (Minds : JumpFilter K → List Int → Prop) where
  moved := fun _ _ _ same _ minds => minds.of_streak same
  seeds := fun _ _ _ _ _ minds => minds.anew.of_streak rfl
  tracks := fun _ _ heard _ minds => minds.track heard

theorem counts_lasting : Lasting (Counts : JumpFilter K → List Int → Prop) where
  moved := fun _ _ _ same seeded counts => counts.of_streak same seeded
  seeds := fun _ _ x frameUs unseeded counts => counts.anew unseeded x frameUs
  tracks := fun _ _ heard seeded counts => counts.track seeded heard

end JumpFilter

end Timing
