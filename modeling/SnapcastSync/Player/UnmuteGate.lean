import SnapcastSync.Player.DriftMedian
import SnapcastSync.Player.ResyncGate

/-! The gate that unmutes: the error window, the in-band count, the wait for the anchor and the
`converged` latch, with what resets each of them. -/

namespace Player

def medianWindow : Nat := 31
def unmuteBandDeadbands : Int := 2
def unmuteCommonUs : Int := 4000
def unmuteAnchorUs : Int := 100
def unmuteAnchorMaxWaitUs : Int := 15000000

structure ErrSample where
  errorUs : Int
  taken : Nat
deriving DecidableEq, Repr

structure GroupView where
  consensusN : Nat
  renderGroupDeltaUs : Int
  deadlineOnSharedTsf : Bool
deriving DecidableEq, Repr

structure GateChunk where
  errorUs : Int
  coarseOnTags : Bool
  tagErrUs : Int
  resync : Option Resync
  muteNow : Bool
  syncDeadbandUs : Int
  group : Option GroupView
  driftMedLastUs : Int
  nowUs : Int
deriving DecidableEq, Repr

namespace GateChunk

def unmuteErrUs (chunk : GateChunk) (medianErrUs : Int) : Int :=
  |if chunk.coarseOnTags then chunk.tagErrUs else medianErrUs|

def unmuteBandUs (chunk : GateChunk) : Int := unmuteBandDeadbands * chunk.syncDeadbandUs

def groupAgrees (chunk : GateChunk) (medianErrUs : Int) : Bool :=
  match chunk.group with
  | none => false
  | some group =>
      decide (2 ≤ group.consensusN) && decide (group.renderGroupDeltaUs ≠ driftUnknown) &&
        decide (|group.renderGroupDeltaUs| ≤ chunk.unmuteBandUs) &&
        decide (chunk.unmuteErrUs medianErrUs ≤ unmuteCommonUs)

def inBand (chunk : GateChunk) (medianErrUs : Int) : Bool :=
  decide (chunk.unmuteErrUs medianErrUs ≤ chunk.unmuteBandUs) || chunk.groupAgrees medianErrUs

def timebaseSettled (chunk : GateChunk) : Bool :=
  match chunk.group with
  | none => true
  | some group => decide (group.consensusN < 2) || group.deadlineOnSharedTsf

def anchorKnown (chunk : GateChunk) : Bool := decide (chunk.driftMedLastUs ≠ driftUnknown)

def anchorOk (chunk : GateChunk) : Bool :=
  chunk.anchorKnown && decide (|chunk.driftMedLastUs| ≤ unmuteAnchorUs)

end GateChunk

/-- What the gate has seen, newest first: its evaluations, with the median each was made on, and
the hard resyncs and re-baselines. -/
inductive GateMark where
  | reset
  | evaluated (chunk : GateChunk) (medianErrUs : Int)
deriving DecidableEq, Repr

namespace GateMark

def isInBand : GateMark → Bool
  | .reset => false
  | .evaluated chunk medianErrUs => chunk.inBand medianErrUs

def isOutOfBand : GateMark → Bool
  | .reset => false
  | .evaluated chunk medianErrUs => !chunk.inBand medianErrUs

def sinceReset : List GateMark → Nat
  | [] => 0
  | .reset :: _ => 0
  | .evaluated _ _ :: older => sinceReset older + 1

def sinceOutOfBand : List GateMark → Nat
  | [] => 0
  | .reset :: older => sinceOutOfBand older
  | .evaluated chunk medianErrUs :: older =>
      if chunk.inBand medianErrUs then sinceOutOfBand older + 1 else 0

/-- As far as both counts go back, the marks are evaluations in band. -/
theorem take_inBand (marks : List GateMark) (count : Nat) (recent : count ≤ sinceReset marks)
    (inside : count ≤ sinceOutOfBand marks) :
    (marks.take count).length = count ∧ ∀ mark ∈ marks.take count, mark.isInBand = true := by
  induction marks generalizing count with
  | nil =>
      have none : count = 0 := Nat.le_zero.mp recent
      rw [none]
      exact ⟨rfl, fun mark impossible => nomatch impossible⟩
  | cons mark older ih =>
      cases count with
      | zero => exact ⟨rfl, fun mark impossible => nomatch impossible⟩
      | succ count =>
          cases mark with
          | reset => exact absurd recent (Nat.not_succ_le_zero count)
          | evaluated chunk medianErrUs =>
              rw [sinceReset] at recent
              rw [sinceOutOfBand] at inside
              by_cases holds : chunk.inBand medianErrUs = true
              · rw [if_pos holds] at inside
                obtain ⟨length, rest⟩ :=
                  ih count (Nat.le_of_succ_le_succ recent) (Nat.le_of_succ_le_succ inside)
                rw [List.take_succ_cons, List.length_cons, length]
                refine ⟨rfl, fun other member => ?_⟩
                rcases List.mem_cons.mp member with here | later
                · rw [here]
                  exact holds
                · exact rest other later
              · rw [if_neg holds] at inside
                exact absurd inside (Nat.not_succ_le_zero count)

/-- An evaluation at this time, and none out of band since. -/
def InBandSince (marks : List GateMark) (sinceUs : Int) : Prop :=
  ∃ recent chunk medianErrUs older, marks = recent ++ .evaluated chunk medianErrUs :: older ∧
    chunk.nowUs = sinceUs ∧ chunk.inBand medianErrUs = true ∧
    ∀ mark ∈ recent, mark.isOutOfBand = false

theorem InBandSince.cons {marks : List GateMark} {sinceUs : Int}
    (since : InBandSince marks sinceUs) (mark : GateMark) (inside : mark.isOutOfBand = false) :
    InBandSince (mark :: marks) sinceUs := by
  obtain ⟨recent, chunk, medianErrUs, older, shape, time, holds, rest⟩ := since
  refine ⟨mark :: recent, chunk, medianErrUs, older, ?_, time, holds, ?_⟩
  · rw [shape, List.cons_append]
  · intro other member
    rcases List.mem_cons.mp member with here | later
    · rw [here]
      exact inside
    · exact rest other later

end GateMark

structure UnmuteGate where
  errWindow : SlotRing ErrSample medianWindow
  errWindowFilled : Nat
  inBandChunks : Nat
  unmuteAnchorWaitUs : Int
  converged : Bool
  taken : Nat
  resetAt : Nat
  marks : List GateMark

namespace UnmuteGate

def initial : UnmuteGate :=
  { errWindow := SlotRing.blank { errorUs := 0, taken := 0 } (by decide)
    errWindowFilled := 0
    inBandChunks := 0
    unmuteAnchorWaitUs := 0
    converged := false
    taken := 0
    resetAt := 0
    marks := [] }

def sample (gate : UnmuteGate) (errorUs : Int) : UnmuteGate :=
  { gate with
    errWindow := gate.errWindow.append { errorUs := errorUs, taken := gate.taken }
    errWindowFilled :=
      if gate.errWindowFilled < medianWindow then gate.errWindowFilled + 1
      else gate.errWindowFilled
    taken := gate.taken + 1 }

def medianErrUs (gate : UnmuteGate) (errorUs : Int) : Int :=
  if gate.errWindowFilled = medianWindow then
    DriftReport.middle (gate.errWindow.slots.map ErrSample.errorUs)
  else errorUs

/-- What both hard resyncs and the re-baseline do to the gate. -/
def reset (gate : UnmuteGate) (converged : Bool) : UnmuteGate :=
  { gate with
    errWindowFilled := 0
    converged := converged
    resetAt := gate.taken
    marks := .reset :: gate.marks }

def counts (gate : UnmuteGate) (chunk : GateChunk) : Bool :=
  !gate.converged && decide (gate.errWindowFilled = medianWindow) && chunk.timebaseSettled

def anchorWaitUs (gate : UnmuteGate) (chunk : GateChunk) : Int :=
  if !chunk.anchorOk && decide (gate.unmuteAnchorWaitUs = 0) then chunk.nowUs
  else gate.unmuteAnchorWaitUs

def waitedOut (gate : UnmuteGate) (chunk : GateChunk) : Bool :=
  !chunk.anchorOk && decide (gate.anchorWaitUs chunk ≠ 0) &&
    decide (unmuteAnchorMaxWaitUs ≤ chunk.nowUs - gate.anchorWaitUs chunk)

def mark (gate : UnmuteGate) (chunk : GateChunk) (medianErrUs : Int) : UnmuteGate :=
  { gate with marks := .evaluated chunk medianErrUs :: gate.marks }

def evaluate (gate : UnmuteGate) (chunk : GateChunk) (medianErrUs : Int) : UnmuteGate :=
  if chunk.inBand medianErrUs then
    if gate.counts chunk then
      if medianWindow ≤ gate.inBandChunks + 1 then
        if chunk.anchorOk || gate.waitedOut chunk then
          { gate.mark chunk medianErrUs with
            inBandChunks := gate.inBandChunks + 1
            converged := true
            unmuteAnchorWaitUs := 0 }
        else
          { gate.mark chunk medianErrUs with
            inBandChunks := gate.inBandChunks + 1
            unmuteAnchorWaitUs := gate.anchorWaitUs chunk }
      else { gate.mark chunk medianErrUs with inBandChunks := gate.inBandChunks + 1 }
    else gate.mark chunk medianErrUs
  else
    { gate.mark chunk medianErrUs with
      inBandChunks := 0
      unmuteAnchorWaitUs := 0 }

/-- The gate as the chunk's evaluation finds it; a late hard resync gives the chunk up first. -/
def reached (gate : UnmuteGate) (chunk : GateChunk) : UnmuteGate :=
  match chunk.resync with
  | none => gate.sample chunk.errorUs
  | some _ =>
      (gate.sample chunk.errorUs).reset ((gate.sample chunk.errorUs).converged && !chunk.muteNow)

def chunkMedianErrUs (gate : UnmuteGate) (chunk : GateChunk) : Int :=
  (gate.sample chunk.errorUs).medianErrUs chunk.errorUs

def chunk (gate : UnmuteGate) (chunk : GateChunk) : UnmuteGate :=
  if chunk.resync = some .late then gate.reached chunk
  else (gate.reached chunk).evaluate chunk (gate.chunkMedianErrUs chunk)

inductive Event where
  | chunk (chunk : GateChunk)
  | rebaselineAfterStarvation
deriving DecidableEq, Repr

def step (gate : UnmuteGate) : Event → UnmuteGate
  | .chunk chunk => gate.chunk chunk
  | .rebaselineAfterStarvation => gate.reset false

/-- The slots of the error window hold different samples, all taken since the last reset. -/
def FullSince (gate : UnmuteGate) : Prop :=
  (gate.errWindow.slots.map ErrSample.taken).Nodup ∧
    ∀ sample ∈ gate.errWindow.slots, gate.resetAt ≤ sample.taken ∧ sample.taken < gate.taken

def InBandThrough (marks : List GateMark) : Prop :=
  (marks.take medianWindow).length = medianWindow ∧
    ∀ mark ∈ marks.take medianWindow, mark.isInBand = true

/-- Where the evaluation of a chunk turns `converged`, what the gate stands for holds. -/
def Earned (gate : UnmuteGate) : Event → Prop
  | .rebaselineAfterStarvation => True
  | .chunk chunk =>
      (gate.reached chunk).converged = false → (gate.chunk chunk).converged = true →
        (gate.reached chunk).FullSince ∧ InBandThrough (gate.chunk chunk).marks ∧
          chunk.timebaseSettled = true ∧
          ((chunk.driftMedLastUs ≠ driftUnknown ∧ |chunk.driftMedLastUs| ≤ unmuteAnchorUs) ∨
            (gate.unmuteAnchorWaitUs ≠ 0 ∧
              unmuteAnchorMaxWaitUs ≤ chunk.nowUs - gate.unmuteAnchorWaitUs ∧
              GateMark.InBandSince (gate.chunk chunk).marks gate.unmuteAnchorWaitUs))

/-- Each sample since the last reset has its evaluation among the marks, but for `ahead` ones. -/
structure Kept (ahead : Nat) (gate : UnmuteGate) : Prop where
  latest : gate.errWindow.Latest ErrSample.taken gate.taken
  filled : gate.resetAt + gate.errWindowFilled ≤ gate.taken
  evaluated : gate.taken ≤ gate.resetAt + GateMark.sinceReset gate.marks + ahead
  inBand : gate.inBandChunks ≤ GateMark.sinceOutOfBand gate.marks
  waiting : gate.unmuteAnchorWaitUs ≠ 0 →
    GateMark.InBandSince gate.marks gate.unmuteAnchorWaitUs

theorem initial_kept : initial.Kept 0 where
  latest := SlotRing.latest_blank _ _ _
  filled := le_refl 0
  evaluated := le_refl 0
  inBand := le_refl 0
  waiting := fun impossible => absurd rfl impossible

theorem sample_kept (gate : UnmuteGate) (errorUs : Int) (kept : gate.Kept 0) :
    (gate.sample errorUs).Kept 1 where
  latest := SlotRing.latest_append _ _ _ _ rfl kept.latest
  filled := by
    have filled := kept.filled
    rw [sample]
    dsimp only
    split <;> omega
  evaluated := Nat.succ_le_succ kept.evaluated
  inBand := kept.inBand
  waiting := kept.waiting

theorem reset_kept (gate : UnmuteGate) (converged : Bool) (ahead : Nat)
    (kept : gate.Kept ahead) : (gate.reset converged).Kept 0 where
  latest := kept.latest
  filled := le_refl _
  evaluated := le_refl _
  inBand := kept.inBand
  waiting := fun waits => (kept.waiting waits).cons .reset rfl

theorem reached_kept (gate : UnmuteGate) (chunk : GateChunk) (kept : gate.Kept 0) :
    (gate.reached chunk).Kept 1 ∧ (chunk.resync = some .late → (gate.reached chunk).Kept 0) := by
  have sampled := gate.sample_kept chunk.errorUs kept
  rw [reached]
  split
  · rename_i none
    rw [none]
    exact ⟨sampled, fun late => nomatch late⟩
  · have resets := reset_kept (gate.sample chunk.errorUs)
      ((gate.sample chunk.errorUs).converged && !chunk.muteNow) 1 sampled
    exact ⟨{ resets with evaluated := Nat.le_succ_of_le resets.evaluated }, fun _ => resets⟩

theorem evaluate_frame (gate : UnmuteGate) (chunk : GateChunk) (medianErrUs : Int) :
    (gate.evaluate chunk medianErrUs).errWindow = gate.errWindow ∧
      (gate.evaluate chunk medianErrUs).errWindowFilled = gate.errWindowFilled ∧
      (gate.evaluate chunk medianErrUs).taken = gate.taken ∧
      (gate.evaluate chunk medianErrUs).resetAt = gate.resetAt ∧
      (gate.evaluate chunk medianErrUs).marks = .evaluated chunk medianErrUs :: gate.marks := by
  rw [evaluate]
  split
  · split
    · split
      · split <;> exact ⟨rfl, rfl, rfl, rfl, rfl⟩
      · exact ⟨rfl, rfl, rfl, rfl, rfl⟩
    · exact ⟨rfl, rfl, rfl, rfl, rfl⟩
  · exact ⟨rfl, rfl, rfl, rfl, rfl⟩

theorem evaluate_counters (gate : UnmuteGate) (chunk : GateChunk) (medianErrUs : Int) :
    (chunk.inBand medianErrUs = false ∧
        (gate.evaluate chunk medianErrUs).inBandChunks = 0 ∧
        (gate.evaluate chunk medianErrUs).unmuteAnchorWaitUs = 0) ∨
      (chunk.inBand medianErrUs = true ∧
        (gate.evaluate chunk medianErrUs).inBandChunks ≤ gate.inBandChunks + 1 ∧
        ((gate.evaluate chunk medianErrUs).unmuteAnchorWaitUs = 0 ∨
          (gate.evaluate chunk medianErrUs).unmuteAnchorWaitUs = gate.unmuteAnchorWaitUs ∨
          (gate.evaluate chunk medianErrUs).unmuteAnchorWaitUs = chunk.nowUs)) := by
  rw [evaluate]
  by_cases holds : chunk.inBand medianErrUs = true
  · rw [if_pos holds]
    refine Or.inr ⟨holds, ?_⟩
    split
    · split
      · split
        · exact ⟨le_refl _, Or.inl rfl⟩
        · refine ⟨le_refl _, Or.inr ?_⟩
          dsimp only
          rw [anchorWaitUs]
          split
          · exact Or.inr rfl
          · exact Or.inl rfl
      · exact ⟨le_refl _, Or.inr (Or.inl rfl)⟩
    · exact ⟨Nat.le_succ _, Or.inr (Or.inl rfl)⟩
  · rw [if_neg holds]
    exact Or.inl ⟨Bool.eq_false_iff.mpr holds, rfl, rfl⟩

theorem evaluate_kept (gate : UnmuteGate) (chunk : GateChunk) (medianErrUs : Int)
    (kept : gate.Kept 1) : (gate.evaluate chunk medianErrUs).Kept 0 := by
  obtain ⟨window, filled, taken, resetAt, marks⟩ := gate.evaluate_frame chunk medianErrUs
  have counters := gate.evaluate_counters chunk medianErrUs
  refine ⟨?_, ?_, ?_, ?_, ?_⟩
  · rw [window, taken]
    exact kept.latest
  · rw [resetAt, filled, taken]
    exact kept.filled
  · have evaluated := kept.evaluated
    rw [taken, resetAt, marks, GateMark.sinceReset]
    omega
  · rw [marks, GateMark.sinceOutOfBand]
    rcases counters with ⟨outside, none, _⟩ | ⟨inside, counted, _⟩
    · rw [none]
      exact Nat.zero_le _
    · rw [if_pos inside]
      exact counted.trans (Nat.succ_le_succ kept.inBand)
  · intro waits
    rw [marks]
    rcases counters with ⟨_, _, none⟩ | ⟨inside, _, none | same | begins⟩
    · exact absurd none waits
    · exact absurd none waits
    · rw [same] at waits ⊢
      apply (kept.waiting waits).cons
      rw [GateMark.isOutOfBand, inside, Bool.not_true]
    · rw [begins]
      exact ⟨[], chunk, medianErrUs, gate.marks, rfl, rfl, inside,
        fun mark impossible => nomatch impossible⟩

theorem step_kept (gate : UnmuteGate) (event : Event) (kept : gate.Kept 0) :
    (gate.step event).Kept 0 := by
  cases event with
  | rebaselineAfterStarvation => exact reset_kept gate false 0 kept
  | chunk chunk =>
      obtain ⟨reached, late⟩ := gate.reached_kept chunk kept
      rw [step, UnmuteGate.chunk]
      split
      · rename_i givesUp
        exact late givesUp
      · exact evaluate_kept _ _ _ reached

theorem fullSince_of_filled (gate : UnmuteGate) (ahead : Nat) (kept : gate.Kept ahead)
    (full : gate.errWindowFilled = medianWindow) : gate.FullSince := by
  have filled := kept.filled
  rw [full] at filled
  constructor
  · have distinct := SlotRing.latest_take_nodup _ _ _ kept.latest medianWindow (by omega)
    rw [List.take_of_length_le (le_of_eq gate.errWindow.full)] at distinct
    exact distinct
  · intro sample member
    obtain ⟨slot, present⟩ := List.mem_iff_getElem?.mp member
    have bound := (List.getElem?_eq_some_iff.mp present).1
    rw [gate.errWindow.full] at bound
    have held := kept.latest.2 slot sample present (by omega)
    omega

theorem evaluate_opens (gate : UnmuteGate) (chunk : GateChunk) (medianErrUs : Int)
    (closed : gate.converged = false)
    (opens : (gate.evaluate chunk medianErrUs).converged = true) :
    chunk.inBand medianErrUs = true ∧ gate.counts chunk = true ∧
      medianWindow ≤ gate.inBandChunks + 1 ∧
      (chunk.anchorOk = true ∨ gate.waitedOut chunk = true) := by
  rw [evaluate] at opens
  split at opens
  · rename_i inside
    split at opens
    · rename_i counted
      split at opens
      · rename_i enough
        split at opens
        · rename_i anchored
          exact ⟨inside, counted, enough, Bool.or_eq_true_iff.mp anchored⟩
        · exact absurd (closed.symm.trans opens) Bool.false_ne_true
      · exact absurd (closed.symm.trans opens) Bool.false_ne_true
    · exact absurd (closed.symm.trans opens) Bool.false_ne_true
  · exact absurd (closed.symm.trans opens) Bool.false_ne_true

/-- A wait that has run out began at an evaluation, and no evaluation was out of band since. -/
theorem waitedOut_since (gate : UnmuteGate) (chunk : GateChunk) (medianErrUs : Int)
    (kept : gate.Kept 1) (inside : chunk.inBand medianErrUs = true)
    (waited : gate.waitedOut chunk = true) :
    gate.unmuteAnchorWaitUs ≠ 0 ∧
      unmuteAnchorMaxWaitUs ≤ chunk.nowUs - gate.unmuteAnchorWaitUs ∧
      GateMark.InBandSince (.evaluated chunk medianErrUs :: gate.marks)
        gate.unmuteAnchorWaitUs := by
  rw [waitedOut, Bool.and_eq_true, Bool.and_eq_true, decide_eq_true_eq, decide_eq_true_eq]
    at waited
  obtain ⟨⟨_, running⟩, elapsed⟩ := waited
  rw [anchorWaitUs] at running elapsed
  split at elapsed
  · -- a wait that begins at this chunk has not run out
    rw [unmuteAnchorMaxWaitUs] at elapsed
    omega
  · rename_i begun
    rw [if_neg begun] at running
    refine ⟨running, elapsed, (kept.waiting running).cons _ ?_⟩
    rw [GateMark.isOutOfBand, inside, Bool.not_true]

theorem reached_unmuteAnchorWaitUs (gate : UnmuteGate) (chunk : GateChunk) :
    (gate.reached chunk).unmuteAnchorWaitUs = gate.unmuteAnchorWaitUs := by
  rw [reached]
  split
  · rfl
  · rfl

theorem earned (gate : UnmuteGate) (event : Event) (kept : gate.Kept 0) : gate.Earned event := by
  cases event with
  | rebaselineAfterStarvation => exact trivial
  | chunk chunk =>
      intro closed opens
      have reached := (gate.reached_kept chunk kept).1
      by_cases late : chunk.resync = some .late
      · rw [UnmuteGate.chunk, if_pos late] at opens
        exact absurd (closed.symm.trans opens) Bool.false_ne_true
      · rw [UnmuteGate.chunk, if_neg late] at opens ⊢
        obtain ⟨inside, counted, enough, anchored⟩ := evaluate_opens _ chunk _ closed opens
        rw [counts, Bool.and_eq_true, Bool.and_eq_true, decide_eq_true_eq] at counted
        rw [(evaluate_frame _ chunk _).2.2.2.2]
        refine ⟨fullSince_of_filled _ 1 reached counted.1.2, ?_, counted.2, ?_⟩
        · have filled := reached.filled
          have evaluated := reached.evaluated
          have inBand := reached.inBand
          rw [counted.1.2] at filled
          apply GateMark.take_inBand
          · rw [GateMark.sinceReset]
            omega
          · rw [GateMark.sinceOutOfBand, if_pos inside]
            omega
        · rcases anchored with known | waited
          · rw [GateChunk.anchorOk, GateChunk.anchorKnown, Bool.and_eq_true, decide_eq_true_eq,
              decide_eq_true_eq] at known
            exact Or.inl known
          · have since := waitedOut_since _ chunk _ reached inside waited
            rw [reached_unmuteAnchorWaitUs] at since
            exact Or.inr since

/-- In every run the gate opens only on what it stands for. -/
theorem earned_run (events : List Event) : Run.Along step Earned initial events :=
  Run.along_of_invariant step (Kept 0) Earned step_kept earned initial events initial_kept

def quietChunk : GateChunk :=
  { errorUs := 40
    coarseOnTags := false
    tagErrUs := 0
    resync := none
    muteNow := false
    syncDeadbandUs := 100
    group := none
    driftMedLastUs := 7
    nowUs := 1000000 }

/-- The gate does open: 31 samples fill the window, and 31 evaluations from then on count. -/
example : ((List.replicate 61 (.chunk quietChunk)).foldl step initial).converged = true ∧
    ((List.replicate 60 (.chunk quietChunk)).foldl step initial).converged = false := by
  decide +kernel

end UnmuteGate

end Player
