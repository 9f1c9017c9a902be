import Mathlib.Algebra.Order.Group.Unbundled.Int

/-! Whether the player trusts the render tags: the judgement of the corrections that were made on
them, the distrust that a lasting split from the ledger brings, and the agreement that ends it. -/

namespace Player

def tagFaultMisses : Nat := 3
def tagSplitUs : Int := 3000
def splitEscapeUs : Int := 5000
def splitEscapeReports : Nat := 3
def tagAgreeUs : Int := 1000
def tagAgreeBlocks : Nat := 3
def tagJudgeUs : Int := 2000000
def tagSettleUs : Int := 20000000
def tagFaultUs : Int := 180 * 1000000

structure TagTrust where
  dlEngagedSinceUs : Int
  coarseActUs : Int
  coarseActErrUs : Int
  tagMiss : Nat
  splitEscapeStreak : Nat
  tagFaultUntilUs : Int
  tagAgreeStreak : Nat
  tagAgreeBlockUs : Int
deriving DecidableEq, Repr

/-- What a chunk is judged with: the last tag error and when it was measured, the error by the
ledger and the interval that a correction is given to show. -/
structure TagJudgement where
  nowUs : Int
  tagsFresh : Bool
  dlErrUs : Int
  dlErrAtUs : Int
  errorUs : Int
  blankUs : Int
deriving DecidableEq, Repr

/-- The tag error against the median of the ledger's at a sync report, where both are there. -/
structure ShadowReport where
  nowUs : Int
  comparable : Bool
  shadowErrUs : Int
  medianErrUs : Int
deriving DecidableEq, Repr

namespace TagTrust

def boot : TagTrust :=
  { dlEngagedSinceUs := 0
    coarseActUs := 0
    coarseActErrUs := 0
    tagMiss := 0
    splitEscapeStreak := 0
    tagFaultUntilUs := 0
    tagAgreeStreak := 0
    tagAgreeBlockUs := 0 }

def settled (trust : TagTrust) (nowUs : Int) : Bool :=
  decide (trust.dlEngagedSinceUs ≠ 0) && decide (tagSettleUs < nowUs - trust.dlEngagedSinceUs)

def due (trust : TagTrust) (judgement : TagJudgement) : Bool :=
  judgement.tagsFresh && decide (trust.coarseActErrUs ≠ 0) &&
    decide (trust.coarseActUs + max judgement.blankUs tagJudgeUs < judgement.dlErrAtUs)

def unsettle (trust : TagTrust) (judgement : TagJudgement) : TagTrust :=
  if trust.due judgement && !trust.settled judgement.nowUs then
    { trust with
      coarseActErrUs := 0
      tagMiss := 0 }
  else trust

/-- The correction left the tag error where it was, and the ledger says otherwise. -/
def misses (trust : TagTrust) (judgement : TagJudgement) : Bool :=
  let before := |trust.coarseActErrUs|
  decide (before - Int.tdiv before 4 ≤ |judgement.dlErrUs|) &&
    decide (tagSplitUs < |judgement.dlErrUs - judgement.errorUs|)

/-- Judges the last correction; the second component is a tag fault. -/
def judge (trust : TagTrust) (judgement : TagJudgement) : TagTrust × Bool :=
  let trust := trust.unsettle judgement
  if trust.due judgement && trust.settled judgement.nowUs then
    let judged := { trust with coarseActErrUs := 0 }
    if trust.misses judgement then
      if tagFaultMisses ≤ trust.tagMiss + 1 then
        ({ judged with
            tagMiss := 0
            tagFaultUntilUs := judgement.nowUs + tagFaultUs }, true)
      else ({ judged with tagMiss := trust.tagMiss + 1 }, false)
    else ({ judged with tagMiss := 0 }, false)
  else (trust, false)

/-- A chunk that votes on the trust: one vote for each block, while the tags are distrusted. -/
def votes (trust : TagTrust) (judgement : TagJudgement) : Bool :=
  judgement.tagsFresh && decide (judgement.nowUs < trust.tagFaultUntilUs) &&
    decide (judgement.dlErrAtUs ≠ trust.tagAgreeBlockUs)

def agrees (judgement : TagJudgement) : Bool :=
  decide (|judgement.dlErrUs - judgement.errorUs| < tagAgreeUs)

/-- Counts a vote; the second component says that the tags are trusted again. -/
def vote (trust : TagTrust) (judgement : TagJudgement) : TagTrust × Bool :=
  if trust.votes judgement then
    let voted := { trust with tagAgreeBlockUs := judgement.dlErrAtUs }
    if agrees judgement then
      if tagAgreeBlocks ≤ trust.tagAgreeStreak + 1 then
        ({ voted with
            tagFaultUntilUs := judgement.nowUs
            tagAgreeStreak := 0 }, true)
      else ({ voted with tagAgreeStreak := trust.tagAgreeStreak + 1 }, false)
    else ({ voted with tagAgreeStreak := 0 }, false)
  else (trust, false)

def act (trust : TagTrust) (nowUs coarseErrUs : Int) : TagTrust :=
  { trust with
    coarseActUs := nowUs
    coarseActErrUs := coarseErrUs }

def splits (report : ShadowReport) : Bool :=
  decide (splitEscapeUs < |report.shadowErrUs - report.medianErrUs|)

/-- The split escape of a sync report; the second component says that it fires. -/
def escape (trust : TagTrust) (report : ShadowReport) : TagTrust × Bool :=
  if report.comparable then
    if splits report then
      if trust.tagFaultUntilUs ≤ report.nowUs then
        if splitEscapeReports ≤ trust.splitEscapeStreak + 1 then
          ({ trust with
              splitEscapeStreak := 0
              tagFaultUntilUs := report.nowUs + tagFaultUs }, true)
        else ({ trust with splitEscapeStreak := trust.splitEscapeStreak + 1 }, false)
      else (trust, false)
    else ({ trust with splitEscapeStreak := 0 }, false)
  else (trust, false)

end TagTrust

inductive TrustEvent
  | chunk (judgement : TagJudgement)
  | act (nowUs coarseErrUs : Int)
  | report (report : ShadowReport)
deriving DecidableEq, Repr

/-- A change of the trust, with the votes that led to it, the newest first. -/
inductive TrustChange
  | faulted (nowUs : Int)
  | escaped (nowUs : Int) (splits : List Bool)
  | restored (nowUs : Int) (agreements : List Bool)
deriving DecidableEq, Repr

namespace TrustChange

def untilUs : TrustChange → Int
  | .faulted nowUs => nowUs + tagFaultUs
  | .escaped nowUs _ => nowUs + tagFaultUs
  | .restored nowUs _ => nowUs

def Earned : TrustChange → Prop
  | .faulted _ => False
  | .escaped _ splits => splits.take splitEscapeReports = [true, true, true]
  | .restored _ agreements => agreements.take tagAgreeBlocks = [true, true, true]

end TrustChange

/-- The trust beside what was voted, of the agreement since the tags were last trusted again, of the
split since the last escape, and how the trust has changed. The newest stands first. -/
structure TrustHistory where
  trust : TagTrust
  agreements : List Bool
  splits : List Bool
  changes : List TrustChange
deriving DecidableEq, Repr

namespace TrustHistory

def boot : TrustHistory :=
  { trust := TagTrust.boot
    agreements := []
    splits := []
    changes := [] }

def judged (history : TrustHistory) (judgement : TagJudgement) : TrustHistory :=
  let judged := history.trust.judge judgement
  { history with
    trust := judged.1
    changes :=
      if judged.2 then .faulted judgement.nowUs :: history.changes else history.changes }

def voted (history : TrustHistory) (judgement : TagJudgement) : TrustHistory :=
  let voted := history.trust.vote judgement
  let agreements :=
    if history.trust.votes judgement then TagTrust.agrees judgement :: history.agreements
    else history.agreements
  { history with
    trust := voted.1
    agreements := if voted.2 then [] else agreements
    changes :=
      if voted.2 then .restored judgement.nowUs agreements :: history.changes
      else history.changes }

/-- A split that is seen while the tags are distrusted anyway is no vote. -/
def reported (history : TrustHistory) (report : ShadowReport) : TrustHistory :=
  let escaped := history.trust.escape report
  let splits :=
    if report.comparable &&
        (!TagTrust.splits report || decide (history.trust.tagFaultUntilUs ≤ report.nowUs)) then
      TagTrust.splits report :: history.splits
    else history.splits
  { history with
    trust := escaped.1
    splits := if escaped.2 then [] else splits
    changes :=
      if escaped.2 then .escaped report.nowUs splits :: history.changes else history.changes }

def step (history : TrustHistory) : TrustEvent → TrustHistory
  | .chunk judgement => (history.judged judgement).voted judgement
  | .act nowUs coarseErrUs => { history with trust := history.trust.act nowUs coarseErrUs }
  | .report report => history.reported report

def run (events : List TrustEvent) : TrustHistory := events.foldl step boot

def inFavour (votes : List Bool) : Nat := (votes.takeWhile id).length

@[simp] theorem inFavour_against (votes : List Bool) : inFavour (false :: votes) = 0 := rfl

@[simp] theorem inFavour_for (votes : List Bool) :
    inFavour (true :: votes) = inFavour votes + 1 := rfl

theorem take_of_inFavour (votes : List Bool) (length : Nat) (full : length ≤ inFavour votes) :
    votes.take length = List.replicate length true := by
  induction votes generalizing length with
  | nil =>
      rw [Nat.le_zero.mp full]
      rfl
  | cons vote rest ih =>
      cases vote with
      | false =>
          rw [Nat.le_zero.mp full]
          rfl
      | true =>
          cases length with
          | zero => rfl
          | succ length =>
              rw [List.take_succ_cons, List.replicate_succ, ih length (Nat.succ_le_succ_iff.mp full)]

/-- No correction was ever judged, the counters are the votes in a row, and a change came with
the vote that it waited for, no later, and set the window that is in force until the next. -/
structure Founded (history : TrustHistory) : Prop where
  unengaged : history.trust.dlEngagedSinceUs = 0
  unmissed : history.trust.tagMiss = 0
  agreed : history.trust.tagAgreeStreak = inFavour history.agreements
  agreedShort : inFavour history.agreements < tagAgreeBlocks
  split : history.trust.splitEscapeStreak = inFavour history.splits
  splitShort : inFavour history.splits < splitEscapeReports
  earned : ∀ change ∈ history.changes, change.Earned
  window : history.trust.tagFaultUntilUs =
    (history.changes.head?.map TrustChange.untilUs).getD 0

theorem boot_founded : boot.Founded where
  unengaged := rfl
  unmissed := rfl
  agreed := rfl
  agreedShort := by decide
  split := rfl
  splitShort := by decide
  earned := fun _ absent => absurd absent List.not_mem_nil
  window := rfl

/-- The engagement is never recorded, so nothing is ever judged. -/
theorem judge_unengaged (trust : TagTrust) (judgement : TagJudgement)
    (unengaged : trust.dlEngagedSinceUs = 0) :
    trust.judge judgement = (trust.unsettle judgement, false) := by
  have kept : (trust.unsettle judgement).dlEngagedSinceUs = 0 := by
    unfold TagTrust.unsettle
    split
    · exact unengaged
    · exact unengaged
  have unsettled : (trust.unsettle judgement).settled judgement.nowUs = false := by
    rw [TagTrust.settled, kept]
    rfl
  simp only [TagTrust.judge, unsettled, Bool.and_false, Bool.false_eq_true, if_false]

theorem judged_founded (history : TrustHistory) (judgement : TagJudgement)
    (founded : history.Founded) : (history.judged judgement).Founded := by
  have idle : history.judged judgement =
      { history with trust := history.trust.unsettle judgement } := by
    rw [judged, judge_unengaged _ _ founded.unengaged]
    rfl
  rw [idle]
  unfold TagTrust.unsettle
  split
  · exact { founded with unmissed := rfl }
  · exact founded

theorem voted_founded (history : TrustHistory) (judgement : TagJudgement)
    (founded : history.Founded) : (history.voted judgement).Founded := by
  unfold voted TagTrust.vote
  cases counts : history.trust.votes judgement with
  | false => exact founded
  | true =>
      simp only [if_true]
      cases agreed : TagTrust.agrees judgement with
      | false =>
          simp only [Bool.false_eq_true, if_false]
          exact { founded with
            agreed := rfl
            agreedShort := (by decide : 0 < tagAgreeBlocks) }
      | true =>
          simp only [if_true, founded.agreed]
          by_cases full : tagAgreeBlocks ≤ inFavour history.agreements + 1
          · simp only [if_pos full]
            exact { founded with
              agreed := rfl
              agreedShort := (by decide : 0 < tagAgreeBlocks)
              earned := List.forall_mem_cons.mpr
                ⟨take_of_inFavour (true :: history.agreements) _ full, founded.earned⟩
              window := rfl }
          · simp only [if_neg full, Bool.false_eq_true, if_false]
            exact { founded with
              agreed := rfl
              agreedShort := Nat.not_le.mp full }

theorem reported_founded (history : TrustHistory) (report : ShadowReport)
    (founded : history.Founded) : (history.reported report).Founded := by
  unfold reported TagTrust.escape
  cases report.comparable with
  | false => exact founded
  | true =>
      simp only [if_true, Bool.true_and]
      cases apart : TagTrust.splits report with
      | false =>
          simp only [Bool.false_eq_true, if_false, Bool.not_false, Bool.true_or, if_true]
          exact { founded with
            split := rfl
            splitShort := (by decide : 0 < splitEscapeReports) }
      | true =>
          simp only [if_true, Bool.not_true, Bool.false_or]
          by_cases trusted : history.trust.tagFaultUntilUs ≤ report.nowUs
          · simp only [if_pos trusted, decide_eq_true trusted, if_true, founded.split]
            by_cases full : splitEscapeReports ≤ inFavour history.splits + 1
            · simp only [if_pos full, if_true]
              exact { founded with
                split := rfl
                splitShort := (by decide : 0 < splitEscapeReports)
                earned := List.forall_mem_cons.mpr
                  ⟨take_of_inFavour (true :: history.splits) _ full, founded.earned⟩
                window := rfl }
            · simp only [if_neg full, Bool.false_eq_true, if_false]
              exact { founded with
                split := rfl
                splitShort := Nat.not_le.mp full }
          · simp only [if_neg trusted, decide_eq_false trusted, Bool.false_eq_true, if_false]
            exact founded

theorem step_founded (history : TrustHistory) (event : TrustEvent)
    (founded : history.Founded) : (history.step event).Founded := by
  cases event with
  | chunk judgement => exact voted_founded _ judgement (judged_founded history judgement founded)
  | act nowUs coarseErrUs => exact { founded with unmissed := founded.unmissed }
  | report report => exact reported_founded history report founded

/-- In no run is a correction judged against the tags: they are distrusted only on three reports of
a split with none of agreement between, and trusted again only at the end of that distrust or on
three agreeing blocks in a row. Neither waits for more votes than these, and the last of these
changes is the one whose window is in force. -/
theorem tag_trust_founded (events : List TrustEvent) :
    let history := run events
    history.trust.tagMiss = 0 ∧ (∀ change ∈ history.changes, change.Earned) ∧
      inFavour history.agreements < tagAgreeBlocks ∧
      inFavour history.splits < splitEscapeReports ∧
      history.trust.tagFaultUntilUs =
        (history.changes.head?.map TrustChange.untilUs).getD 0 := by
  have founded : ∀ history : TrustHistory, history.Founded →
      (events.foldl step history).Founded := by
    induction events with
    | nil => exact fun history founded => founded
    | cons event rest ih =>
        exact fun history founded => ih _ (history.step_founded event founded)
  have final := founded boot boot_founded
  exact ⟨final.unmissed, final.earned, final.agreedShort, final.splitShort, final.window⟩

end TrustHistory

end Player
