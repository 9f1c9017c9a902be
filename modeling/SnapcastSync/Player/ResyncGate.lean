import SnapcastSync.Lib.Run
import Mathlib.Algebra.Order.Group.Abs
import Mathlib.Algebra.Order.Group.Int
import Mathlib.Data.List.Nodup
import Mathlib.Data.List.Perm.Subperm

/-! The confirmation in front of the hard resync: an excursion beyond the threshold is
counted once for each measurement instant, and the resync acts once three are counted.
The soundness of the count is stated against the evaluations themselves. -/

namespace Player

def resyncConfirmSamples : Nat := 3

/-- The three fields of `ServoState` that the confirmation keeps. -/
structure ResyncGate where
  resyncConfirmRun : Nat
  resyncConfirmDir : Int
  resyncConfirmAtUs : Int
deriving DecidableEq, Repr

/-- One evaluation, made for every chunk: the error, the instant of the measurement it
comes from, the threshold in force and the two verdicts. -/
structure Evaluation where
  coarseErrUs : Int
  coarseAtUs : Int
  hardUs : Nat
  coarsePlausible : Bool
  coarseOk : Bool
deriving DecidableEq, Repr

inductive Resync where
  | late
  | early
deriving DecidableEq, Repr

namespace Evaluation

def resyncDir (evaluation : Evaluation) : Int := if 0 < evaluation.coarseErrUs then 1 else -1

def beyond (evaluation : Evaluation) : Bool :=
  decide ((evaluation.hardUs : Int) < |evaluation.coarseErrUs|) && evaluation.coarsePlausible

def Exceeds (evaluation : Evaluation) (direction : Resync) : Prop :=
  evaluation.coarsePlausible = true ∧
    match direction with
    | .late => (evaluation.hardUs : Int) < evaluation.coarseErrUs
    | .early => evaluation.coarseErrUs < -(evaluation.hardUs : Int)

theorem exceeds_beyond (evaluation : Evaluation) (direction : Resync)
    (exceeds : evaluation.Exceeds direction) : evaluation.beyond = true := by
  obtain ⟨credible, exceeded⟩ := exceeds
  unfold beyond
  rw [credible, Bool.and_true, decide_eq_true_eq, lt_abs]
  cases direction with
  | late => exact Or.inl exceeded
  | early =>
      right
      change evaluation.coarseErrUs < -(evaluation.hardUs : Int) at exceeded
      omega

theorem exceeds_of_dir (evaluation other : Evaluation) (direction : Resync)
    (exceeds : evaluation.Exceeds direction) (beyond : other.beyond = true)
    (same : other.resyncDir = evaluation.resyncDir) : other.Exceeds direction := by
  unfold Evaluation.beyond at beyond
  rw [Bool.and_eq_true, decide_eq_true_eq, lt_abs] at beyond
  refine ⟨beyond.2, ?_⟩
  have exceeded := exceeds.2
  unfold resyncDir at same
  cases direction with
  | late =>
      change (evaluation.hardUs : Int) < evaluation.coarseErrUs at exceeded
      change (other.hardUs : Int) < other.coarseErrUs
      rw [if_pos (by omega : 0 < evaluation.coarseErrUs)] at same
      by_cases positive : 0 < other.coarseErrUs
      · omega
      · rw [if_neg positive] at same
        omega
  | early =>
      change evaluation.coarseErrUs < -(evaluation.hardUs : Int) at exceeded
      change other.coarseErrUs < -(other.hardUs : Int)
      rw [if_neg (by omega : ¬ 0 < evaluation.coarseErrUs)] at same
      by_cases positive : 0 < other.coarseErrUs
      · rw [if_pos positive] at same
        omega
      · omega

end Evaluation

namespace ResyncGate

def initial : ResyncGate :=
  { resyncConfirmRun := 0
    resyncConfirmDir := 0
    resyncConfirmAtUs := 0 }

def observe (gate : ResyncGate) (evaluation : Evaluation) : ResyncGate :=
  if evaluation.beyond then
    if evaluation.coarseAtUs ≠ gate.resyncConfirmAtUs then
      if evaluation.resyncDir = gate.resyncConfirmDir then
        { gate with
          resyncConfirmRun := gate.resyncConfirmRun + 1
          resyncConfirmAtUs := evaluation.coarseAtUs }
      else
        { resyncConfirmRun := 1
          resyncConfirmDir := evaluation.resyncDir
          resyncConfirmAtUs := evaluation.coarseAtUs }
    else gate
  else initial

def confirmed (gate : ResyncGate) (evaluation : Evaluation) : Bool :=
  decide (resyncConfirmSamples ≤ gate.resyncConfirmRun) && evaluation.coarseOk &&
    evaluation.coarsePlausible

def decision (gate : ResyncGate) (evaluation : Evaluation) : Option Resync :=
  let resyncConfirmed := (gate.observe evaluation).confirmed evaluation
  if decide ((evaluation.hardUs : Int) < evaluation.coarseErrUs) && resyncConfirmed then
    some .late
  else if decide (evaluation.coarseErrUs < -(evaluation.hardUs : Int)) && resyncConfirmed then
    some .early
  else none

theorem decision_eq_some (gate : ResyncGate) (evaluation : Evaluation) (direction : Resync)
    (acts : gate.decision evaluation = some direction) :
    evaluation.Exceeds direction ∧
      resyncConfirmSamples ≤ (gate.observe evaluation).resyncConfirmRun ∧
      evaluation.coarseOk = true := by
  unfold decision confirmed at acts
  dsimp only at acts
  split at acts
  · rename_i late
    cases acts
    simp only [Bool.and_eq_true, decide_eq_true_eq] at late
    exact ⟨⟨late.2.2, late.1⟩, late.2.1.1, late.2.1.2⟩
  · split at acts
    · rename_i early
      cases acts
      simp only [Bool.and_eq_true, decide_eq_true_eq] at early
      exact ⟨⟨early.2.2, early.1⟩, early.2.1.1, early.2.1.2⟩
    · cases acts

theorem decision_isSome_iff (gate : ResyncGate) (evaluation : Evaluation) :
    (gate.decision evaluation).isSome = true ↔
      evaluation.beyond = true ∧ evaluation.coarseOk = true ∧
        resyncConfirmSamples ≤ (gate.observe evaluation).resyncConfirmRun := by
  constructor
  · intro some_
    obtain ⟨direction, acts⟩ := Option.isSome_iff_exists.mp some_
    obtain ⟨exceeds, run, ok⟩ := decision_eq_some gate evaluation direction acts
    exact ⟨evaluation.exceeds_beyond direction exceeds, ok, run⟩
  · rintro ⟨beyond, ok, run⟩
    unfold Evaluation.beyond at beyond
    rw [Bool.and_eq_true, decide_eq_true_eq, lt_abs] at beyond
    have confirmed : (gate.observe evaluation).confirmed evaluation = true := by
      simp only [ResyncGate.confirmed, decide_eq_true run, ok, beyond.2, Bool.and_self]
    unfold decision
    simp only [confirmed, Bool.and_true, decide_eq_true_eq]
    rcases beyond.1 with late | early
    · rw [if_pos late]
      rfl
    · by_cases late : (evaluation.hardUs : Int) < evaluation.coarseErrUs
      · rw [if_pos late]
        rfl
      · rw [if_neg late, if_pos (by omega)]
        rfl

end ResyncGate

/-- The gate with the evaluations since the last one that was inside the threshold or
implausible, and the instants that its present count is made of. -/
structure Excursion where
  gate : ResyncGate
  streak : List Evaluation
  counted : List Int
deriving DecidableEq, Repr

namespace Excursion

def initial : Excursion :=
  { gate := ResyncGate.initial
    streak := []
    counted := [] }

def step (excursion : Excursion) (evaluation : Evaluation) : Excursion :=
  { gate := excursion.gate.observe evaluation
    streak := if evaluation.beyond then evaluation :: excursion.streak else []
    counted :=
      if evaluation.beyond then
        if evaluation.coarseAtUs ≠ excursion.gate.resyncConfirmAtUs then
          if evaluation.resyncDir = excursion.gate.resyncConfirmDir then
            evaluation.coarseAtUs :: excursion.counted
          else [evaluation.coarseAtUs]
        else excursion.counted
      else [] }

/-- Three measurements with pairwise distinct instants exceeded the threshold this way. -/
def Justified (direction : Resync) (streak : List Evaluation) : Prop :=
  ∃ instants : List Int, resyncConfirmSamples ≤ instants.length ∧ instants.Nodup ∧
    ∀ instant ∈ instants, ∃ evaluation ∈ streak,
      evaluation.coarseAtUs = instant ∧ evaluation.Exceeds direction

def Sound (excursion : Excursion) (evaluation : Evaluation) : Prop :=
  ∀ direction, excursion.gate.decision evaluation = some direction →
    Justified direction (excursion.step evaluation).streak

/-- A re-read after the count is complete keeps the counted sign, and an instant that is
counted as new is not yet among the counted ones. -/
def Orderly (excursion : Excursion) (evaluation : Evaluation) : Prop :=
  evaluation.beyond = true →
    if evaluation.coarseAtUs = excursion.gate.resyncConfirmAtUs then
      resyncConfirmSamples ≤ excursion.gate.resyncConfirmRun →
        evaluation.resyncDir = excursion.gate.resyncConfirmDir
    else
      evaluation.resyncDir = excursion.gate.resyncConfirmDir →
        evaluation.coarseAtUs ∉ excursion.counted

/-- The count is the number of distinct instants, each of which exceeded the threshold with
the counted sign within the excursion. -/
structure Honest (excursion : Excursion) : Prop where
  distinct : excursion.counted.Nodup
  length : excursion.counted.length = excursion.gate.resyncConfirmRun
  measured : ∀ instant ∈ excursion.counted, ∃ evaluation ∈ excursion.streak,
    evaluation.coarseAtUs = instant ∧ evaluation.beyond = true ∧
      evaluation.resyncDir = excursion.gate.resyncConfirmDir

theorem initial_honest : Honest initial :=
  { distinct := List.nodup_nil
    length := rfl
    measured := by intro instant member; cases member }

theorem honest_singleton (evaluation : Evaluation) (streak : List Evaluation)
    (beyond : evaluation.beyond = true) :
    Honest ⟨⟨1, evaluation.resyncDir, evaluation.coarseAtUs⟩, evaluation :: streak,
      [evaluation.coarseAtUs]⟩ :=
  { distinct := List.nodup_singleton _
    length := rfl
    measured := by
      intro instant member
      rw [List.mem_singleton.mp member]
      exact ⟨evaluation, List.mem_cons_self, rfl, beyond, rfl⟩ }

theorem step_honest (excursion : Excursion) (evaluation : Evaluation)
    (honest : Honest excursion) (orderly : excursion.Orderly evaluation) :
    Honest (excursion.step evaluation) := by
  have kept : ∀ instant ∈ excursion.counted, ∃ earlier ∈ evaluation :: excursion.streak,
      earlier.coarseAtUs = instant ∧ earlier.beyond = true ∧
        earlier.resyncDir = excursion.gate.resyncConfirmDir := by
    intro instant member
    obtain ⟨earlier, inStreak, facts⟩ := honest.measured instant member
    exact ⟨earlier, List.mem_cons_of_mem evaluation inStreak, facts⟩
  unfold step ResyncGate.observe
  by_cases beyond : evaluation.beyond = true
  · have order := orderly beyond
    simp only [beyond, if_true]
    by_cases reread : evaluation.coarseAtUs = excursion.gate.resyncConfirmAtUs
    · simp only [reread, ne_eq, not_true, if_false]
      exact ⟨honest.distinct, honest.length, kept⟩
    · rw [if_neg reread] at order
      simp only [ne_eq, reread, not_false_iff, if_true]
      by_cases same : evaluation.resyncDir = excursion.gate.resyncConfirmDir
      · simp only [same, if_true]
        refine ⟨List.nodup_cons.mpr ⟨order same, honest.distinct⟩, ?_, ?_⟩
        · rw [List.length_cons, honest.length]
        · intro instant member
          rcases List.mem_cons.mp member with here | earlier
          · exact ⟨evaluation, List.mem_cons_self, here.symm, beyond, same⟩
          · exact kept instant earlier
      · simp only [same, if_false]
        exact honest_singleton evaluation excursion.streak beyond
  · simp only [beyond, Bool.false_eq_true, if_false]
    exact initial_honest

theorem sound_of_orderly (excursion : Excursion) (evaluation : Evaluation)
    (honest : Honest excursion) (orderly : excursion.Orderly evaluation) :
    excursion.Sound evaluation := by
  intro direction acts
  obtain ⟨exceeds, run, _⟩ :=
    ResyncGate.decision_eq_some excursion.gate evaluation direction acts
  have beyond := evaluation.exceeds_beyond direction exceeds
  have next := step_honest excursion evaluation honest orderly
  have sign : (excursion.step evaluation).gate.resyncConfirmDir = evaluation.resyncDir := by
    have order := orderly beyond
    unfold ResyncGate.observe at run
    unfold step ResyncGate.observe
    simp only [beyond, if_true] at run ⊢
    by_cases reread : evaluation.coarseAtUs = excursion.gate.resyncConfirmAtUs
    · rw [if_pos reread] at order
      simp only [reread, ne_eq, not_true, if_false] at run ⊢
      exact (order run).symm
    · simp only [ne_eq, reread, not_false_iff, if_true]
      split
      · rename_i same
        exact same.symm
      · rfl
  refine ⟨(excursion.step evaluation).counted, ?_, next.distinct, ?_⟩
  · rw [next.length]
    exact run
  · intro instant member
    obtain ⟨measured, inStreak, at_, exceeded, dir⟩ := next.measured instant member
    exact ⟨measured, inStreak, at_,
      evaluation.exceeds_of_dir measured direction exceeds exceeded (dir.trans sign)⟩

/-- In a run whose re-reads keep the counted sign and whose counted instants are new, every
resync that acts was confirmed in its own direction. -/
theorem resync_sound (evaluations : List Evaluation)
    (orderly : Run.Along step Orderly initial evaluations) :
    Run.Along step Sound initial evaluations :=
  Run.along_of_along step Honest Orderly Sound step_honest sound_of_orderly initial
    evaluations initial_honest orderly

private def sampled (coarseErrUs coarseAtUs : Int) : Evaluation :=
  { coarseErrUs := coarseErrUs
    coarseAtUs := coarseAtUs
    hardUs := 50000
    coarsePlausible := true
    coarseOk := true }

instance (direction : Resync) (evaluation : Evaluation) :
    Decidable (evaluation.Exceeds direction) := by
  unfold Evaluation.Exceeds
  cases direction <;> infer_instance

instance (excursion : Excursion) (evaluation : Evaluation) :
    Decidable (excursion.Orderly evaluation) := by
  unfold Orderly
  infer_instance

theorem resync_sound_three :
    Run.Along step Sound initial [sampled 60000 1, sampled 60000 2, sampled 60000 3] :=
  resync_sound _ (by decide)

/-- Three late measurements, then the third one read again with the opposite sign. -/
theorem resync_unsound_on_reread :
    ¬ ∀ evaluations : List Evaluation, Run.Along step Sound initial evaluations := by
  intro always
  have sound := (always [sampled 60000 1, sampled 60000 2, sampled 60000 3,
    sampled (-60000) 3]).2.2.2.1
  obtain ⟨instants, enough, distinct, measured⟩ := sound .early (by decide)
  have single : instants ⊆ [3] := by
    intro instant member
    obtain ⟨evaluation, inStreak, at_, exceeded⟩ := measured instant member
    have early := exceeded.2
    have listed : evaluation ∈ [sampled (-60000) 3, sampled 60000 3, sampled 60000 2,
        sampled 60000 1] := inStreak
    simp only [List.mem_cons, List.not_mem_nil, or_false] at listed
    rcases listed with rfl | rfl | rfl | rfl
    · rw [← at_]
      exact List.mem_singleton_self _
    all_goals exact absurd early (by decide)
  have few := (distinct.subperm single).length_le
  exact absurd (le_trans enough few) (by decide)

end Excursion

end Player
