import SnapcastSync.ClockSync.Mapping
import Mathlib.Data.Rat.Floor

/-! `update_consensus_`: the device's own line and every fresh peer line are carried to
one reference instant and averaged, and the average is adopted as it is. The reference
is the freshest base of the set, so it does not depend on the device. -/

namespace ClockSync

open Rounding

variable {K : Type} [Field K] [LinearOrder K]

def maxPlausibleDriftPpm : K := ((200 : Nat) : K)

def Peer.mapMissing (peer : Peer K) (localNowUs : Int) : Bool :=
  !peer.mapValid || decide (peerMapStaleUs < localNowUs - peer.mapSeenUs)

def Peer.driftImplausible (peer : Peer K) : Bool :=
  decide (maxPlausibleDriftPpm < |peer.driftPpm|)

def laterBase (reference : Option Int) (tsfBaseUs : Int) : Option Int :=
  match reference with
  | none => some tsfBaseUs
  | some refTsf => if refTsf < tsfBaseUs then some tsfBaseUs else some refTsf

/-- The first loop of `update_consensus_`: the freshest base, the own line first. -/
def consensusReference (sync : TsfSync K) (localNowUs : Int) : Option Int :=
  sync.peer.slots.foldl
    (fun reference peer =>
      if peer.mapMissing localNowUs then reference
      else if peer.driftImplausible then reference
      else laterBase reference peer.tsfBaseUs)
    (if sync.pubValid then some sync.pubTsfBase else none)

def Peer.pooled (peer : Peer K) (localNowUs : Int) : Bool :=
  !peer.mapMissing localNowUs && !peer.driftImplausible

def pooledLines (slots : List (Peer K)) (localNowUs : Int) : List (Line K) :=
  (slots.filter fun peer => peer.pooled localNowUs).map Peer.line

def TsfSync.contributing (sync : TsfSync K) (localNowUs : Int) : List (Line K) :=
  (if sync.pubValid then [sync.pubLine] else []) ++ pooledLines sync.peer.slots localNowUs

theorem Peer.pooled_iff (peer : Peer K) (localNowUs : Int) :
    peer.pooled localNowUs = true ↔
      peer.mapValid = true ∧ localNowUs - peer.mapSeenUs ≤ peerMapStaleUs ∧
        |peer.driftPpm| ≤ maxPlausibleDriftPpm := by
  simp [Peer.pooled, Peer.mapMissing, Peer.driftImplausible, and_assoc]

private theorem pooled_true (peer : Peer K) (localNowUs : Int)
    (counted : peer.pooled localNowUs = true) :
    peer.mapMissing localNowUs = false ∧ peer.driftImplausible = false := by
  simpa [Peer.pooled] using counted

private theorem pooled_false (peer : Peer K) (localNowUs : Int)
    (skipped : peer.pooled localNowUs = false) :
    peer.mapMissing localNowUs = true ∨ peer.driftImplausible = true := by
  unfold Peer.pooled at skipped
  cases missing : peer.mapMissing localNowUs with
  | true => exact Or.inl rfl
  | false =>
      rw [missing] at skipped
      exact Or.inr (by simpa using skipped)

private theorem pooledLines_cons (head : Peer K) (tail : List (Peer K)) (localNowUs : Int) :
    pooledLines (head :: tail) localNowUs =
      (if head.pooled localNowUs then [head.line] else []) ++ pooledLines tail localNowUs := by
  unfold pooledLines
  cases counted : head.pooled localNowUs <;> simp [counted]

private theorem foldl_pooled {β : Type} (localNowUs : Int) (step : β → Line K → β)
    (slots : List (Peer K)) (start : β) :
    slots.foldl
        (fun state peer =>
          if peer.mapMissing localNowUs then state
          else if peer.driftImplausible then state
          else step state peer.line)
        start =
      (pooledLines slots localNowUs).foldl step start := by
  induction slots generalizing start with
  | nil => rfl
  | cons head tail ih =>
      rw [List.foldl_cons, ih, pooledLines_cons]
      cases counted : head.pooled localNowUs with
      | true =>
          obtain ⟨present, credible⟩ := pooled_true head localNowUs counted
          simp only [present, credible, Bool.false_eq_true, if_false, if_true,
            List.singleton_append, List.foldl_cons]
      | false =>
          rcases pooled_false head localNowUs counted with missing | implausible
          · rw [if_pos missing]
            rfl
          · rw [if_pos implausible, ite_self]
            rfl

private theorem foldl_laterBase (bases : List Int) (start : Option Int) :
    bases.foldl laterBase start = (start.toList ++ bases).max? := by
  induction bases generalizing start with
  | nil => cases start <;> rfl
  | cons head tail ih =>
      rw [List.foldl_cons, ih]
      cases start with
      | none => rfl
      | some refTsf =>
          have later : laterBase (some refTsf) head = some (max refTsf head) := by
            unfold laterBase
            by_cases fresher : refTsf < head
            · simp only [if_pos fresher, max_eq_right (le_of_lt fresher)]
            · simp only [if_neg fresher, max_eq_left (not_lt.mp fresher)]
          rw [later]
          simp only [Option.toList_some, List.singleton_append, List.max?_cons',
            List.foldl_cons]

theorem consensusReference_eq (sync : TsfSync K) (localNowUs : Int) :
    consensusReference sync localNowUs =
      ((sync.contributing localNowUs).map Line.tsfBaseUs).max? := by
  unfold consensusReference
  have scanned := foldl_pooled localNowUs
    (fun reference (line : Line K) => laterBase reference line.tsfBaseUs) sync.peer.slots
    (if sync.pubValid then some sync.pubTsfBase else none)
  rw [← List.foldl_map, foldl_laterBase] at scanned
  refine scanned.trans ?_
  unfold TsfSync.contributing
  cases sync.pubValid <;> rfl

theorem consensusReference_perm (first second : TsfSync K) (firstNow secondNow : Int)
    (same : (first.contributing firstNow).Perm (second.contributing secondNow)) :
    consensusReference first firstNow = consensusReference second secondNow := by
  rw [consensusReference_eq, consensusReference_eq]
  have bases := same.map Line.tsfBaseUs
  cases found : ((first.contributing firstNow).map Line.tsfBaseUs).max? with
  | none =>
      rw [List.max?_eq_none_iff] at found
      rw [found] at bases
      symm
      rw [List.max?_eq_none_iff]
      exact bases.nil_eq.symm
  | some refTsf =>
      rw [List.max?_eq_some_iff] at found
      symm
      rw [List.max?_eq_some_iff]
      constructor
      · exact bases.mem_iff.mp found.1
      · intro base member
        exact found.2 base (bases.mem_iff.mpr member)

variable [FloorRing K]

/-- The arrays that `add` fills, with the first entry's offset as their base. -/
structure Pool (K : Type) where
  baseTms : Int
  dv : List K
  dr : List K

def Pool.empty : Pool K :=
  { baseTms := 0
    dv := []
    dr := [] }

def Pool.add (refTsf : Int) (pool : Pool K) (line : Line K) : Pool K :=
  let tms := line.tmsAt refTsf
  let baseTms := if pool.dv.length = 0 then tms else pool.baseTms
  { baseTms := baseTms
    dv := pool.dv ++ [((tms - baseTms : Int) : K)]
    dr := pool.dr ++ [line.driftPpm] }

def consensusPool (sync : TsfSync K) (localNowUs refTsf : Int) : Pool K :=
  sync.peer.slots.foldl
    (fun pool peer =>
      if decide (maxPeers + 1 ≤ pool.dv.length) || peer.mapMissing localNowUs then pool
      else if peer.driftImplausible then pool
      else pool.add refTsf peer.line)
    (if sync.pubValid then Pool.empty.add refTsf sync.pubLine else Pool.empty)

def TsfSync.updateConsensus (sync : TsfSync K) (localNowUs : Int) : TsfSync K :=
  match consensusReference sync localNowUs with
  | none => { sync with consensusN := 0 }
  | some refTsf =>
      let pool := consensusPool sync localNowUs refTsf
      if pool.dv.length = 0 then sync
      else
        let tmsTarget := pool.baseTms + llround (robustMean pool.dv consensusScaleFloorUs)
        let driftC := robustMean pool.dr 1
        let delta := tmsTarget - sync.mapLine.tmsAt refTsf
        let stepped := sync.mappingValid && decide (mapStepReportUs < |delta|)
        let reported := { sync with
          consensusN := pool.dv.length
          timebaseEpoch :=
            if stepped then (sync.timebaseEpoch + 1) % 2 ^ 32 else sync.timebaseEpoch }
        reported.adopt refTsf tmsTarget driftC localNowUs

def Pool.ofLines (refTsf : Int) (lines : List (Line K)) : Pool K :=
  match lines with
  | [] => Pool.empty
  | head :: _ =>
      { baseTms := head.tmsAt refTsf
        dv := lines.map fun line => ((line.tmsAt refTsf - head.tmsAt refTsf : Int) : K)
        dr := lines.map Line.driftPpm }

theorem Pool.ofLines_length (refTsf : Int) (lines : List (Line K)) :
    (Pool.ofLines refTsf lines).dv.length = lines.length := by
  cases lines with
  | nil => rfl
  | cons head tail => simp [Pool.ofLines]

theorem Pool.ofLines_add (refTsf : Int) (lines : List (Line K)) (line : Line K) :
    (Pool.ofLines refTsf lines).add refTsf line = Pool.ofLines refTsf (lines ++ [line]) := by
  cases lines with
  | nil => rfl
  | cons head tail => simp [Pool.add, Pool.ofLines]

/-- The room check of the second loop never refuses a line: the own line and one for
each slot fit. -/
private theorem foldl_add_eq (localNowUs refTsf : Int) (slots : List (Peer K))
    (lines : List (Line K)) (room : lines.length + slots.length ≤ maxPeers + 1) :
    slots.foldl
        (fun pool peer =>
          if decide (maxPeers + 1 ≤ pool.dv.length) || peer.mapMissing localNowUs then pool
          else if peer.driftImplausible then pool
          else pool.add refTsf peer.line)
        (Pool.ofLines refTsf lines) =
      Pool.ofLines refTsf (lines ++ pooledLines slots localNowUs) := by
  induction slots generalizing lines with
  | nil => simp [pooledLines]
  | cons head tail ih =>
      rw [List.length_cons] at room
      have vacant : ¬ maxPeers + 1 ≤ (Pool.ofLines refTsf lines).dv.length := by
        rw [Pool.ofLines_length]
        omega
      rw [List.foldl_cons, decide_eq_false vacant, Bool.false_or, pooledLines_cons]
      cases counted : head.pooled localNowUs with
      | true =>
          obtain ⟨present, credible⟩ := pooled_true head localNowUs counted
          have grown : (lines ++ [head.line]).length + tail.length ≤ maxPeers + 1 := by
            rw [List.length_append, List.length_singleton]
            omega
          simp only [present, credible, Bool.false_eq_true, if_false, if_true]
          rw [Pool.ofLines_add, ih (lines ++ [head.line]) grown, List.append_assoc]
      | false =>
          have unchanged := ih lines (by omega)
          rcases pooled_false head localNowUs counted with missing | implausible
          · rw [if_pos missing]
            exact unchanged
          · rw [if_pos implausible, ite_self]
            exact unchanged

theorem consensusPool_eq (sync : TsfSync K) (localNowUs refTsf : Int) :
    consensusPool sync localNowUs refTsf =
      Pool.ofLines refTsf (sync.contributing localNowUs) := by
  have bounded := sync.peer.bounded
  unfold consensusPool TsfSync.contributing
  cases sync.pubValid with
  | false => exact foldl_add_eq localNowUs refTsf sync.peer.slots [] (by simp; omega)
  | true =>
      exact foldl_add_eq localNowUs refTsf sync.peer.slots [sync.pubLine] (by simp; omega)

def consensusTarget (refTsf : Int) (lines : List (Line K)) : Int :=
  let pool := Pool.ofLines refTsf lines
  pool.baseTms + llround (robustMean pool.dv consensusScaleFloorUs)

theorem updateConsensus_mapLine (sync : TsfSync K) (localNowUs refTsf : Int)
    (reference : consensusReference sync localNowUs = some refTsf) :
    (sync.updateConsensus localNowUs).mappingValid = true ∧
      (sync.updateConsensus localNowUs).mapUpdatedLocalUs = localNowUs ∧
      (sync.updateConsensus localNowUs).mapLine =
        ⟨refTsf, consensusTarget refTsf (sync.contributing localNowUs),
          robustMean ((sync.contributing localNowUs).map Line.driftPpm) 1⟩ := by
  have nonempty : (Pool.ofLines refTsf (sync.contributing localNowUs)).dv.length ≠ 0 := by
    rw [Pool.ofLines_length]
    intro absent
    rw [consensusReference_eq, List.length_eq_zero_iff.mp absent] at reference
    cases reference
  have drifts : (Pool.ofLines refTsf (sync.contributing localNowUs)).dr =
      (sync.contributing localNowUs).map Line.driftPpm := by
    cases sync.contributing localNowUs <;> rfl
  unfold TsfSync.updateConsensus
  simp only [reference, consensusPool_eq, if_neg nonempty, drifts]
  exact ⟨rfl, rfl, rfl⟩

variable [IsStrictOrderedRing K]

theorem consensusTarget_eq (refTsf : Int) (head : Line K) (tail : List (Line K)) :
    consensusTarget refTsf (head :: tail) =
      head.tmsAt refTsf +
        llround (robustMean ((head :: tail).map fun line => (line.tmsAt refTsf : K))
          consensusScaleFloorUs - head.tmsAt refTsf) := by
  have relative : (Pool.ofLines refTsf (head :: tail)).dv =
      ((head :: tail).map fun line => (line.tmsAt refTsf : K)).map
        (· + -(head.tmsAt refTsf : K)) := by
    rw [List.map_map]
    apply List.map_congr_left
    intro line _
    rw [Int.cast_sub, sub_eq_add_neg]
    rfl
  change head.tmsAt refTsf +
    llround (robustMean (Pool.ofLines refTsf (head :: tail)).dv consensusScaleFloorUs) = _
  rw [relative, robustMean_shift _ _ _ (by simp), ← sub_eq_add_neg]

/-- Two orders of the same lines adopt offsets one rounding apart. -/
theorem consensusTarget_close (refTsf : Int) {first second : List (Line K)}
    (same : first.Perm second) :
    |consensusTarget refTsf first - consensusTarget refTsf second| ≤ 1 := by
  cases first with
  | nil => rw [same.nil_eq.symm]; simp
  | cons firstHead firstTail =>
      cases second with
      | nil => cases same.eq_nil
      | cons secondHead secondTail =>
          rw [consensusTarget_eq, consensusTarget_eq,
            robustMean_perm (same.map fun line => (line.tmsAt refTsf : K))]
          exact rebased_llround_close _ _ _

/-- Devices that average one set of lines adopt one reference and drift and offsets within
a microsecond, whatever order their slots have and whatever mappings they held. -/
theorem updateConsensus_alike (left right : TsfSync K) (leftNow rightNow : Int)
    (same : (left.contributing leftNow).Perm (right.contributing rightNow))
    (nonempty : left.contributing leftNow ≠ []) :
    (left.updateConsensus leftNow).mappingValid = true ∧
      (right.updateConsensus rightNow).mappingValid = true ∧
      (left.updateConsensus leftNow).mapTsfBaseUs =
        (right.updateConsensus rightNow).mapTsfBaseUs ∧
      (left.updateConsensus leftNow).mapDriftPpm =
        (right.updateConsensus rightNow).mapDriftPpm ∧
      |(left.updateConsensus leftNow).mapTsfMinusServerUs -
        (right.updateConsensus rightNow).mapTsfMinusServerUs| ≤ 1 := by
  have reference := consensusReference_perm left right leftNow rightNow same
  cases found : consensusReference left leftNow with
  | none =>
      rw [consensusReference_eq, List.max?_eq_none_iff, List.map_eq_nil_iff] at found
      exact absurd found nonempty
  | some refTsf =>
      rw [found] at reference
      obtain ⟨leftValid, _, leftLine⟩ := updateConsensus_mapLine left leftNow refTsf found
      obtain ⟨rightValid, _, rightLine⟩ :=
        updateConsensus_mapLine right rightNow refTsf reference.symm
      have leftFields := Line.mk.inj leftLine
      have rightFields := Line.mk.inj rightLine
      refine ⟨leftValid, rightValid, ?_, ?_, ?_⟩
      · rw [leftFields.1, rightFields.1]
      · rw [leftFields.2.2, rightFields.2.2, robustMean_perm (same.map Line.driftPpm)]
      · rw [leftFields.2.1, rightFields.2.1]
        exact consensusTarget_close refTsf same

end ClockSync
