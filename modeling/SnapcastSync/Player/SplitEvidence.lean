import SnapcastSync.Player.DriftMedian
import SnapcastSync.Player.TagTrust

/-! The evidence behind a repair of the accounting split: which medians the repair window has
seen, and who opened it. -/

namespace Player

open Ledger

namespace Ledger

def restarts (ledger : Ledger) (report : SplitReport) : Bool :=
  let widened := (ledger.armRepair report).widenWindow report
  decide (driftSteadyBandUs < widened.driftExcessMaxUs - widened.driftExcessMinUs)

theorem armRepair_of_open (ledger : Ledger) (report : SplitReport)
    (isOpen : ledger.driftExcessSinceUs ≠ 0) (unexplained : report.residualExplains = false) :
    ledger.armRepair report = ledger := by
  rw [armRepair, if_neg (Bool.eq_false_iff.mp unexplained), decide_eq_false isOpen,
    Bool.and_false, if_neg Bool.false_ne_true]

theorem armRepair_of_unknown (ledger : Ledger) (report : SplitReport)
    (unknown : report.driftMedUs = driftUnknown) : ledger.armRepair report = ledger := by
  have unexplained : ¬ report.residualExplains = true := by
    rw [SplitReport.residualExplains, decide_eq_false (not_not.mpr unknown), Bool.false_and,
      Bool.false_and]
    exact Bool.false_ne_true
  rw [armRepair, if_neg unexplained]
  refine if_neg fun arms => ?_
  have known := of_decide_eq_true (Bool.and_eq_true_iff.mp (Bool.and_eq_true_iff.mp arms).1).1
  exact known unknown

theorem armRepair_of_closed (ledger : Ledger) (report : SplitReport)
    (closed : ledger.driftExcessSinceUs = 0)
    (armed : (ledger.armRepair report).driftExcessSinceUs ≠ 0) :
    driftRepairUs ≤ |report.driftMedUs| ∧
      (ledger.armRepair report).driftExcessSinceUs = report.nowUs ∧
      (ledger.armRepair report).driftExcessMinUs = report.driftMedUs ∧
      (ledger.armRepair report).driftExcessMaxUs = report.driftMedUs := by
  rw [armRepair] at armed ⊢
  split at armed
  · exact absurd rfl armed
  · rename_i unexplained
    split at armed
    · rename_i arms
      have large := of_decide_eq_true
        (Bool.and_eq_true_iff.mp (Bool.and_eq_true_iff.mp arms).1).2
      rw [if_neg unexplained, if_pos arms]
      exact ⟨large, rfl, rfl, rfl⟩
    · exact absurd closed armed

theorem splitRepair_window (ledger : Ledger) (report : SplitReport)
    (isOpen : (ledger.splitRepair report).driftExcessSinceUs ≠ 0) :
    (report.driftMedUs = driftUnknown ∧ ledger.splitRepair report = ledger) ∨
      (report.driftMedUs ≠ driftUnknown ∧ report.residualExplains = false ∧
        (ledger.armRepair report).driftExcessSinceUs ≠ 0 ∧
        ((ledger.restarts report = true ∧ driftRepairUs ≤ |report.driftMedUs| ∧
            (ledger.splitRepair report).driftExcessSinceUs = report.nowUs ∧
            (ledger.splitRepair report).driftExcessMinUs = report.driftMedUs ∧
            (ledger.splitRepair report).driftExcessMaxUs = report.driftMedUs) ∨
          (ledger.restarts report = false ∧
            report.nowUs - (ledger.armRepair report).driftExcessSinceUs < driftRepairHoldUs ∧
            ledger.splitRepair report = (ledger.armRepair report).widenWindow report))) := by
  rw [splitRepair] at isOpen ⊢
  split at isOpen
  · rename_i eligible
    rw [if_pos eligible]
    dsimp only at isOpen ⊢
    split at isOpen
    · rename_i window
      rw [if_pos window]
      simp only [Bool.and_eq_true, decide_eq_true_eq, Bool.not_eq_true'] at window
      refine Or.inr ⟨window.1.2, window.2, window.1.1, ?_⟩
      split at isOpen
      · rename_i blown
        rw [if_pos blown]
        refine Or.inl ⟨decide_eq_true blown, ?_, ?_, rfl, rfl⟩
        · by_contra small
          exact isOpen (if_neg small)
        · by_cases large : driftRepairUs ≤ |report.driftMedUs|
          · exact if_pos large
          · exact absurd (if_neg large) isOpen
      · rename_i steady
        rw [if_neg steady]
        split at isOpen
        · exact absurd rfl isOpen
        · rename_i untrusted
          rw [if_neg untrusted]
          split at isOpen
          · exact absurd rfl isOpen
          · rename_i early
            rw [if_neg early]
            exact Or.inr ⟨decide_eq_false steady, Int.not_le.mp early, rfl⟩
    · rename_i window
      rw [if_neg window]
      by_cases unknown : report.driftMedUs = driftUnknown
      · exact Or.inl ⟨unknown, ledger.armRepair_of_unknown report unknown⟩
      · rw [decide_eq_true isOpen, decide_eq_true unknown, Bool.true_and, Bool.true_and,
          Bool.not_eq_true, Bool.not_eq_false'] at window
        rw [armRepair, if_pos window] at isOpen
        exact absurd rfl isOpen
  · exact absurd rfl isOpen

def repairWindow (ledger : Ledger) : Int × Int × Int :=
  (ledger.driftExcessSinceUs, ledger.driftExcessMinUs, ledger.driftExcessMaxUs)

theorem setOutputActive_window (ledger : Ledger) (active : Bool) :
    (ledger.setOutputActive active).repairWindow = ledger.repairWindow := by
  unfold setOutputActive
  split <;> rfl

theorem notifyAudioPlayed_window (ledger : Ledger) (frames : Nat) (timestampUs : Int) :
    (ledger.notifyAudioPlayed frames timestampUs).repairWindow = ledger.repairWindow := by
  change (ledger.flushOnGap frames timestampUs).repairWindow = _
  unfold flushOnGap
  split <;> rfl

theorem rebaselineAfterStarvation_window (ledger : Ledger) (queries : DepthQueries)
    (sampleRate : Nat) (nowUs : Int) :
    (ledger.rebaselineAfterStarvation queries sampleRate nowUs).repairWindow =
      ledger.repairWindow := by
  unfold rebaselineAfterStarvation
  split <;> rfl

theorem repayPadding_window (ledger : Ledger) (queried : Bool) (nowUs : Int) :
    (ledger.repayPadding queried nowUs).repairWindow = ledger.repairWindow := by
  unfold repayPadding
  split <;> rfl

theorem splitRamp_window (ledger : Ledger) (chunk : RampChunk) :
    (ledger.splitRamp chunk).repairWindow = ledger.repairWindow := by
  unfold splitRamp
  dsimp only
  split
  · split <;> rfl
  · rfl

end Ledger

/-- What an error sample brings to `log_sync_report_`, read by the sample that makes the report:
the split as the repair sees it, but for the trust in the tags, and the tag error against the
ledger's that the split escape looks at. -/
structure SyncReport where
  fillComparable : Bool
  converged : Bool
  driftMedUs : Int
  mixResidualUs : Int
  dlErrFresh : Bool
  sampleRate : Nat
  shadow : ShadowReport
deriving DecidableEq, Repr

/-- The ledger and the trust in the tags beside the reports whose median the open window has seen,
the opening one first, and whether a tag fault has waived its wait. -/
structure SplitTrack where
  ledger : Ledger
  trust : TagTrust
  errCount : Nat
  clockUs : Int
  window : List SplitReport
  waived : Bool
deriving DecidableEq, Repr

namespace SplitTrack

def initial : SplitTrack :=
  { ledger := Ledger.initial
    trust := TagTrust.boot
    errCount := 0
    clockUs := 0
    window := []
    waived := false }

def splitReport (track : SplitTrack) (report : SyncReport) : SplitReport :=
  { fillComparable := report.fillComparable
    converged := report.converged
    driftMedUs := report.driftMedUs
    mixResidualUs := report.mixResidualUs
    tagsTrusted :=
      report.dlErrFresh && decide (track.trust.tagFaultUntilUs ≤ report.shadow.nowUs)
    sampleRate := report.sampleRate
    nowUs := report.shadow.nowUs }

def seen (track : SplitTrack) (report : SplitReport) : List SplitReport :=
  if track.ledger.driftExcessSinceUs = 0 then [report] else track.window ++ [report]

def report (track : SplitTrack) (report : SplitReport) : SplitTrack :=
  let after := track.ledger.splitRepair report
  let known := decide (report.driftMedUs ≠ driftUnknown)
  let dropped := decide (after.driftExcessSinceUs = 0)
  let restarted := known && track.ledger.restarts report
  { track with
    ledger := after
    clockUs := report.nowUs
    window :=
      if dropped then []
      else if restarted then [report]
      else if known then track.seen report
      else track.window
    waived := track.waived && !dropped && !restarted }

def prearm (track : SplitTrack) (nowUs : Int) : SplitTrack :=
  let after := track.ledger.prearmRepair nowUs
  let dropped := decide (after.driftExcessSinceUs = 0)
  { track with
    ledger := after
    clockUs := nowUs
    window := if dropped || decide (track.ledger.driftExcessSinceUs = 0) then [] else track.window
    waived := !dropped }

/-- The split escape, at the end of a report: it pre-arms the repair as a tag fault does. -/
def splitEscape (track : SplitTrack) (report : ShadowReport) : SplitTrack :=
  let escaped := track.trust.escape report
  let after := { track with trust := escaped.1 }
  if escaped.2 then after.prearm report.nowUs else after

def reports (track : SplitTrack) : Bool := decide (reportEveryErrSamples ≤ track.errCount + 1)

def logSyncReport (track : SplitTrack) (report : SyncReport) : SplitTrack :=
  if track.reports then
    { (track.report (track.splitReport report)).splitEscape report.shadow with errCount := 0 }
  else { track with errCount := track.errCount + 1, clockUs := report.shadow.nowUs }

/-- The tags are judged at a chunk; a tag fault pre-arms the repair. -/
def judgeTags (track : SplitTrack) (judgement : TagJudgement) : SplitTrack :=
  let judged := track.trust.judge judgement
  let after :=
    { track with
      trust := (judged.1.vote judgement).1
      clockUs := judgement.nowUs }
  if judged.2 then after.prearm judgement.nowUs else after

def elsewhere : Operation → Bool
  | .splitRepair _ => false
  | .prearmRepair _ => false
  | _ => true

inductive Event
  | judgeTags (judgement : TagJudgement)
  | act (nowUs coarseErrUs : Int)
  | logSyncReport (report : SyncReport)
  | other (operation : Operation) (isElsewhere : elsewhere operation = true)
deriving DecidableEq

def step (track : SplitTrack) : Event → SplitTrack
  | .judgeTags judgement => track.judgeTags judgement
  | .act nowUs coarseErrUs => { track with trust := track.trust.act nowUs coarseErrUs }
  | .logSyncReport report => track.logSyncReport report
  | .other operation _ => { track with ledger := track.ledger.step operation }

def Ticks (track : SplitTrack) : Event → Prop
  | .judgeTags judgement => track.clockUs ≤ judgement.nowUs
  | .logSyncReport report => track.clockUs ≤ report.shadow.nowUs
  | _ => True

instance (track : SplitTrack) (event : Event) : Decidable (track.Ticks event) := by
  cases event <;> unfold Ticks <;> infer_instance

/-- The window was opened by a large median and open for the hold unless a tag fault waived it,
its medians lie in one band and the mixer's residual explains none of them. -/
def Evidence (track : SplitTrack) (report : SplitReport) : Prop :=
  (∃ opening ∈ (track.seen report).head?, driftRepairUs ≤ |opening.driftMedUs| ∧
    (track.waived = true ∨ driftRepairHoldUs ≤ report.nowUs - opening.nowUs)) ∧
  (∀ one ∈ track.seen report, ∀ other ∈ track.seen report,
    one.driftMedUs - other.driftMedUs ≤ driftSteadyBandUs) ∧
  ∀ shown ∈ track.seen report,
    shown.driftMedUs ≠ driftUnknown ∧ shown.residualExplains = false

instance (track : SplitTrack) (report : SplitReport) : Decidable (track.Evidence report) := by
  unfold Evidence
  infer_instance

def Evidenced (track : SplitTrack) : Event → Prop
  | .logSyncReport report => track.reports = true →
      track.ledger.repairs (track.splitReport report) = true →
        track.Evidence (track.splitReport report)
  | _ => True

instance (track : SplitTrack) (event : Event) : Decidable (track.Evidenced event) := by
  cases event <;> unfold Evidenced <;> infer_instance

/-- A pre-arm opened the window and no median has been seen in it. -/
def Bare (track : SplitTrack) : Prop :=
  track.ledger.driftExcessSinceUs ≠ 0 ∧ track.window = []

/-- A median that is met by a bare window, is not explained, is near what an earlier window has
left as its range and is not overruled by the tags is a large one. -/
def Large (track : SplitTrack) (report : SplitReport) : Prop :=
  track.Bare → report.fillComparable = true → report.converged = true →
    report.driftMedUs ≠ driftUnknown → report.residualExplains = false →
    track.ledger.restarts report = false → report.tagsTrusted = false →
    driftRepairUs ≤ |report.driftMedUs|

instance (track : SplitTrack) (report : SplitReport) : Decidable (track.Large report) := by
  unfold Large Bare
  infer_instance

def Founded (track : SplitTrack) : Event → Prop
  | .logSyncReport report => track.reports = true → track.Large (track.splitReport report)
  | _ => True

instance (track : SplitTrack) (event : Event) : Decidable (track.Founded event) := by
  cases event <;> unfold Founded <;> infer_instance

/-- What the window's range, opening and waiver say of the reports it has seen. -/
def Tracked (track : SplitTrack) : Prop :=
  (track.ledger.driftExcessSinceUs = 0 → track.window = [] ∧ track.waived = false) ∧
    (∀ shown ∈ track.window, track.ledger.driftExcessMinUs ≤ shown.driftMedUs ∧
      shown.driftMedUs ≤ track.ledger.driftExcessMaxUs ∧
      shown.driftMedUs ≠ driftUnknown ∧ shown.residualExplains = false) ∧
    (∀ opening ∈ track.window.head?, driftRepairUs ≤ |opening.driftMedUs|) ∧
    (track.waived = true → track.ledger.driftExcessSinceUs + driftRepairHoldUs ≤ track.clockUs) ∧
    (track.ledger.driftExcessSinceUs ≠ 0 → track.waived = false →
      ∃ opening ∈ track.window.head?, opening.nowUs = track.ledger.driftExcessSinceUs)

theorem initial_tracked : initial.Tracked := by
  refine ⟨fun _ => ⟨rfl, rfl⟩, ?_, ?_, ?_, fun isOpen => absurd rfl isOpen⟩
  · intro shown impossible
    cases impossible
  · intro opening impossible
    cases impossible
  · intro impossible
    cases impossible

theorem seen_within (track : SplitTrack) (report : SplitReport) (tracked : track.Tracked)
    (known : report.driftMedUs ≠ driftUnknown) (unexplained : report.residualExplains = false) :
    ∀ shown ∈ track.seen report,
      ((track.ledger.armRepair report).widenWindow report).driftExcessMinUs ≤ shown.driftMedUs ∧
        shown.driftMedUs ≤
          ((track.ledger.armRepair report).widenWindow report).driftExcessMaxUs ∧
        shown.driftMedUs ≠ driftUnknown ∧ shown.residualExplains = false := by
  intro shown member
  rw [seen] at member
  rw [widenWindow]
  by_cases closed : track.ledger.driftExcessSinceUs = 0
  · rw [if_pos closed, List.mem_singleton] at member
    rw [member]
    exact ⟨min_le_right _ _, le_max_right _ _, known, unexplained⟩
  · rw [if_neg closed, List.mem_append, List.mem_singleton] at member
    rw [track.ledger.armRepair_of_open report closed unexplained]
    rcases member with before | last
    · obtain ⟨above, below, rest⟩ := tracked.2.1 shown before
      exact ⟨(min_le_left _ _).trans above, below.trans (le_max_left _ _), rest⟩
    · rw [last]
      exact ⟨min_le_right _ _, le_max_right _ _, known, unexplained⟩

theorem seen_opening (track : SplitTrack) (report : SplitReport) (tracked : track.Tracked)
    (armed : (track.ledger.armRepair report).driftExcessSinceUs ≠ 0) :
    (∃ opening ∈ (track.seen report).head?, driftRepairUs ≤ |opening.driftMedUs| ∧
        (track.waived = false →
          opening.nowUs = (track.ledger.armRepair report).driftExcessSinceUs)) ∨
      (track.Bare ∧ track.seen report = [report] ∧ track.waived = true) := by
  rw [seen]
  by_cases closed : track.ledger.driftExcessSinceUs = 0
  · obtain ⟨large, opened, _⟩ := track.ledger.armRepair_of_closed report closed armed
    rw [if_pos closed]
    exact Or.inl ⟨report, rfl, large, fun _ => opened.symm⟩
  · rw [if_neg closed]
    have unexplained : report.residualExplains = false := by
      by_contra explained
      rw [Bool.not_eq_false] at explained
      rw [armRepair, if_pos explained] at armed
      exact armed rfl
    rw [track.ledger.armRepair_of_open report closed unexplained]
    cases seen : track.window with
    | nil =>
        refine Or.inr ⟨⟨closed, seen⟩, rfl, ?_⟩
        by_contra unwaived
        rw [Bool.not_eq_true] at unwaived
        obtain ⟨opening, first, _⟩ := tracked.2.2.2.2 closed unwaived
        rw [seen] at first
        cases first
    | cons opening rest =>
        have first : opening ∈ track.window.head? := by rw [seen]; rfl
        refine Or.inl ⟨opening, rfl, tracked.2.2.1 opening first, fun unwaived => ?_⟩
        obtain ⟨other, otherFirst, opened⟩ := tracked.2.2.2.2 closed unwaived
        rw [Option.mem_unique first otherFirst]
        exact opened

theorem repairs_iff (ledger : Ledger) (report : SplitReport) :
    ledger.repairs report = true ↔
      report.fillComparable = true ∧ report.converged = true ∧
        (ledger.armRepair report).driftExcessSinceUs ≠ 0 ∧ report.driftMedUs ≠ driftUnknown ∧
        report.residualExplains = false ∧ ledger.restarts report = false ∧
        report.tagsTrusted = false ∧
        driftRepairHoldUs ≤ report.nowUs - (ledger.armRepair report).driftExcessSinceUs := by
  rw [repairs, restarts]
  simp only [Bool.and_eq_true, decide_eq_true_eq, Bool.not_eq_true', decide_eq_false_iff_not,
    and_assoc]

/-- In a bare window the wait is over before the first median comes. -/
theorem bare_held (track : SplitTrack) (report : SplitReport) (tracked : track.Tracked)
    (ticks : track.clockUs ≤ report.nowUs) (bare : track.Bare) :
    driftRepairHoldUs ≤ report.nowUs - track.ledger.driftExcessSinceUs := by
  have waived : track.waived = true := by
    by_contra unwaived
    rw [Bool.not_eq_true] at unwaived
    obtain ⟨opening, first, _⟩ := tracked.2.2.2.2 bare.1 unwaived
    rw [bare.2] at first
    cases first
  have elapsed := tracked.2.2.2.1 waived
  omega

theorem report_evidenced_iff (track : SplitTrack) (report : SplitReport)
    (tracked : track.Tracked) (ticks : track.clockUs ≤ report.nowUs) :
    (track.ledger.repairs report = true → track.Evidence report) ↔
      track.Large report := by
  rw [repairs_iff]
  constructor
  · intro evidenced bare comparable converged known unexplained steady untrusted
    have same := track.ledger.armRepair_of_open report bare.1 unexplained
    have held := track.bare_held report tracked ticks bare
    have isOpen := bare.1
    rw [← same] at isOpen held
    obtain ⟨⟨opening, first, large, _⟩, _⟩ := evidenced
      ⟨comparable, converged, isOpen, known, unexplained, steady, untrusted, held⟩
    rw [seen, if_neg bare.1, bare.2] at first
    cases first
    exact large
  · rintro founded
      ⟨comparable, converged, armed, known, unexplained, steady, untrusted, held⟩
    have within := track.seen_within report tracked known unexplained
    have band := of_decide_eq_false steady
    refine ⟨?_, ?_, fun shown member => (within shown member).2.2⟩
    · rcases track.seen_opening report tracked armed with
        ⟨opening, first, large, opened⟩ | ⟨bare, only, waived⟩
      · refine ⟨opening, first, large, ?_⟩
        cases waived : track.waived with
        | true => exact Or.inl rfl
        | false => exact Or.inr (opened waived ▸ held)
      · have large := founded bare comparable converged known unexplained steady untrusted
        rw [only]
        exact ⟨report, rfl, large, Or.inl waived⟩
    · intro one oneMember other otherMember
      have upper := (within one oneMember).2.1
      have lower := (within other otherMember).1
      omega

theorem tracked_of_closed (track : SplitTrack) (closed : track.ledger.driftExcessSinceUs = 0)
    (unseen : track.window = []) (unwaived : track.waived = false) : track.Tracked := by
  refine ⟨fun _ => ⟨unseen, unwaived⟩, ?_, ?_, ?_, fun isOpen => absurd closed isOpen⟩
  · intro shown member
    rw [unseen] at member
    cases member
  · intro opening first
    rw [unseen] at first
    cases first
  · intro waived
    rw [unwaived] at waived
    cases waived

/-- A waived wait is over, so a window that a median leaves waiting was opened by a large one. -/
theorem waiting_opening (track : SplitTrack) (report : SplitReport) (tracked : track.Tracked)
    (ticks : track.clockUs ≤ report.nowUs) (unexplained : report.residualExplains = false)
    (armed : (track.ledger.armRepair report).driftExcessSinceUs ≠ 0)
    (early : report.nowUs - (track.ledger.armRepair report).driftExcessSinceUs <
      driftRepairHoldUs) :
    track.waived = false ∧
      ∃ opening ∈ (track.seen report).head?, driftRepairUs ≤ |opening.driftMedUs| ∧
        opening.nowUs = (track.ledger.armRepair report).driftExcessSinceUs := by
  have unwaived : track.waived = false := by
    by_contra waived
    rw [Bool.not_eq_false] at waived
    by_cases closed : track.ledger.driftExcessSinceUs = 0
    · rw [(tracked.1 closed).2] at waived
      cases waived
    · have elapsed := tracked.2.2.2.1 waived
      rw [track.ledger.armRepair_of_open report closed unexplained] at early
      omega
  refine ⟨unwaived, ?_⟩
  rcases track.seen_opening report tracked armed with
    ⟨opening, isOpening, large, opened⟩ | ⟨_, _, waived⟩
  · exact ⟨opening, isOpening, large, opened unwaived⟩
  · rw [unwaived] at waived
    cases waived

theorem report_tracked (track : SplitTrack) (report : SplitReport) (tracked : track.Tracked)
    (ticks : track.clockUs ≤ report.nowUs) : (track.report report).Tracked := by
  by_cases dropped : (track.ledger.splitRepair report).driftExcessSinceUs = 0
  · apply tracked_of_closed
    · exact dropped
    · exact if_pos (decide_eq_true dropped)
    · rw [SplitTrack.report]
      dsimp only
      rw [decide_eq_true dropped, Bool.not_true, Bool.and_false, Bool.false_and]
  · rw [SplitTrack.report, decide_eq_false dropped, Bool.not_false, Bool.and_true,
      if_neg Bool.false_ne_true]
    rcases track.ledger.splitRepair_window report dropped with
      ⟨unknown, same⟩ | ⟨known, unexplained, armed, ⟨restarts, large, since, lower, upper⟩ |
        ⟨steady, early, same⟩⟩
    · rw [decide_eq_false (not_not.mpr unknown), Bool.false_and, Bool.not_false, Bool.and_true,
        if_neg Bool.false_ne_true, if_neg Bool.false_ne_true, same]
      refine ⟨tracked.1, tracked.2.1, tracked.2.2.1, fun waived => ?_, tracked.2.2.2.2⟩
      exact (tracked.2.2.2.1 waived).trans ticks
    · rw [decide_eq_true known, restarts, Bool.true_and, Bool.not_true, Bool.and_false,
        if_pos rfl]
      refine ⟨fun closed => absurd closed dropped, ?_, ?_, ?_, ?_⟩
      · intro shown member
        rw [List.mem_singleton.mp member]
        exact ⟨lower.le, upper.ge, known, unexplained⟩
      · rintro opening ⟨⟩
        exact large
      · intro impossible
        cases impossible
      · exact fun _ _ => ⟨report, rfl, since.symm⟩
    · rw [decide_eq_true known, steady, Bool.and_false, Bool.not_false, Bool.and_true,
        if_neg Bool.false_ne_true, if_pos rfl]
      have within := track.seen_within report tracked known unexplained
      rw [← same] at within
      have since : (track.ledger.splitRepair report).driftExcessSinceUs =
          (track.ledger.armRepair report).driftExcessSinceUs := by
        rw [same]
        rfl
      obtain ⟨unwaived, opening, isOpening, large, opened⟩ :=
        track.waiting_opening report tracked ticks unexplained armed early
      refine ⟨fun closed => absurd closed dropped, within, ?_, ?_, ?_⟩
      · intro first isFirst
        rw [Option.mem_unique isFirst isOpening]
        exact large
      · intro waived
        rw [unwaived] at waived
        cases waived
      · exact fun _ _ => ⟨opening, isOpening, opened.trans since.symm⟩

theorem prearm_tracked (track : SplitTrack) (nowUs : Int) (tracked : track.Tracked) :
    (track.prearm nowUs).Tracked := by
  have since : (track.ledger.prearmRepair nowUs).driftExcessSinceUs =
      nowUs - driftRepairHoldUs := rfl
  by_cases dropped : (track.ledger.prearmRepair nowUs).driftExcessSinceUs = 0
  · apply tracked_of_closed
    · exact dropped
    · rw [prearm]
      dsimp only
      rw [decide_eq_true dropped, Bool.true_or, if_pos rfl]
    · rw [prearm]
      dsimp only
      rw [decide_eq_true dropped, Bool.not_true]
  · rw [prearm, decide_eq_false dropped, Bool.not_false, Bool.false_or]
    have elapsed : (track.ledger.prearmRepair nowUs).driftExcessSinceUs + driftRepairHoldUs ≤
        nowUs := by
      omega
    by_cases closed : track.ledger.driftExcessSinceUs = 0
    · rw [decide_eq_true closed, if_pos rfl]
      refine ⟨fun none => absurd none dropped, ?_, ?_, fun _ => elapsed,
        fun _ unwaived => nomatch unwaived⟩
      · intro shown impossible
        cases impossible
      · intro opening impossible
        cases impossible
    · rw [decide_eq_false closed, if_neg Bool.false_ne_true]
      exact ⟨fun none => absurd none dropped, tracked.2.1, tracked.2.2.1, fun _ => elapsed,
        fun _ unwaived => nomatch unwaived⟩

theorem other_tracked (track : SplitTrack) (ledger : Ledger) (tracked : track.Tracked)
    (same : ledger.repairWindow = track.ledger.repairWindow) :
    SplitTrack.Tracked { track with ledger := ledger } := by
  simp only [repairWindow, Prod.mk.injEq] at same
  obtain ⟨since, lower, upper⟩ := same
  rw [Tracked]
  dsimp only
  rw [since, lower, upper]
  exact tracked

theorem splitEscape_tracked (track : SplitTrack) (report : ShadowReport)
    (tracked : track.Tracked) : (track.splitEscape report).Tracked := by
  rw [splitEscape]
  split
  · exact prearm_tracked { track with trust := (track.trust.escape report).1 } report.nowUs
      tracked
  · exact tracked

theorem tracked_later (track : SplitTrack) (nowUs : Int) (tracked : track.Tracked)
    (later : track.clockUs ≤ nowUs) : SplitTrack.Tracked { track with clockUs := nowUs } :=
  ⟨tracked.1, tracked.2.1, tracked.2.2.1,
    fun waived => (tracked.2.2.2.1 waived).trans later, tracked.2.2.2.2⟩

theorem judgeTags_tracked (track : SplitTrack) (judgement : TagJudgement)
    (tracked : track.Tracked) (ticks : track.clockUs ≤ judgement.nowUs) :
    (track.judgeTags judgement).Tracked := by
  have later := track.tracked_later judgement.nowUs tracked ticks
  rw [judgeTags]
  split
  · exact prearm_tracked { track with
      trust := ((track.trust.judge judgement).1.vote judgement).1
      clockUs := judgement.nowUs } judgement.nowUs later
  · exact later

theorem logSyncReport_tracked (track : SplitTrack) (report : SyncReport)
    (tracked : track.Tracked) (ticks : track.clockUs ≤ report.shadow.nowUs) :
    (track.logSyncReport report).Tracked := by
  rw [logSyncReport]
  split
  · exact splitEscape_tracked _ report.shadow (track.report_tracked _ tracked ticks)
  · exact track.tracked_later report.shadow.nowUs tracked ticks

theorem step_tracked (track : SplitTrack) (event : Event) (tracked : track.Tracked)
    (ticks : track.Ticks event) : (track.step event).Tracked := by
  cases event with
  | judgeTags judgement => exact track.judgeTags_tracked judgement tracked ticks
  | act nowUs coarseErrUs => exact tracked
  | logSyncReport report => exact track.logSyncReport_tracked report tracked ticks
  | other operation isElsewhere =>
      refine track.other_tracked _ tracked ?_
      cases operation with
      | splitRepair report => cases isElsewhere
      | prearmRepair nowUs => cases isElsewhere
      | setOutputActive active => exact track.ledger.setOutputActive_window active
      | notifyAudioPlayed frames timestampUs =>
          exact track.ledger.notifyAudioPlayed_window frames timestampUs
      | push written frameBytes => rfl
      | rebaselineAfterStarvation queries sampleRate nowUs =>
          exact track.ledger.rebaselineAfterStarvation_window queries sampleRate nowUs
      | repayPadding queried nowUs => exact track.ledger.repayPadding_window queried nowUs
      | splitRamp chunk => exact track.ledger.splitRamp_window chunk

theorem step_evidenced_iff (track : SplitTrack) (event : Event)
    (tracked : track.Tracked) (ticks : track.Ticks event) :
    track.Evidenced event ↔ track.Founded event := by
  cases event with
  | logSyncReport report =>
      exact imp_congr_right fun _ => track.report_evidenced_iff _ tracked ticks
  | _ => exact Iff.rfl

/-- Every repair of a run has its evidence just when no small median is met by a window that a
pre-arm has opened. -/
theorem evidenced_iff (events : List Event) (ticks : Run.Along step Ticks initial events) :
    Run.Along step Evidenced initial events ↔ Run.Along step Founded initial events :=
  Run.along_iff_of_along step Tracked Ticks Evidenced Founded step_tracked step_evidenced_iff
    initial events initial_tracked ticks

def plainReport (driftMedUs apartUs nowUs : Int) : List Event :=
  List.replicate reportEveryErrSamples
    (.logSyncReport
      { fillComparable := true
        converged := true
        driftMedUs := driftMedUs
        mixResidualUs := 0
        dlErrFresh := false
        sampleRate := 44100
        shadow :=
          { nowUs := nowUs
            comparable := true
            shadowErrUs := apartUs
            medianErrUs := 0 } })

def steadySplit : List Event := plainReport 8526 0 10000000 ++ plainReport 8526 0 13300000

def escapedSplit : List Event :=
  plainReport 0 10000 3300000 ++ plainReport 0 10000 6600000 ++ plainReport 0 10000 9900000 ++
    plainReport 500 10000 13200000

theorem steady_split_evidenced :
    Run.Along step Evidenced initial steadySplit ∧
      (steadySplit.foldl step initial).ledger.pushedFramesTotal = -375 :=
  ⟨(evidenced_iff steadySplit (by decide +kernel)).mpr (by decide +kernel), by decide +kernel⟩

theorem escape_repairs_small_split :
    ¬ ∀ events : List Event, Run.Along step Ticks initial events →
      Run.Along step Evidenced initial events := by
  intro always
  have evidenced := always escapedSplit (by decide +kernel)
  revert evidenced
  decide +kernel

end SplitTrack

end Player
