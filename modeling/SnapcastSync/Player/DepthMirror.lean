import SnapcastSync.Player.ResyncGate

/-! The measurement instant of the ledger path. The confirmation reads a mirror of the
speaker's depth snapshot, and the mirror is written by a start-up diagnostic: while a
seed trace runs, or on every other of the first 240 chunks. -/

namespace Player

def earlyReconChunks : Nat := 240
def seedTraceChunks : Nat := 80

/-- What the speaker answers to `on_query_audio`, as far as it is kept. -/
structure DepthReading where
  asOfUs : Int
  renderNondrainingUs : Nat
deriving DecidableEq, Repr

/-- The fields that `dbg_early_recon_` reads and writes. -/
structure DepthRecon where
  seedTraceArm : Bool
  seedTraceLeft : Nat
  earlyChunks : Nat
  dmaSpanUs : Nat
  depthAsOfUs : Int
deriving DecidableEq, Repr

namespace DepthRecon

def initial : DepthRecon :=
  { seedTraceArm := false
    seedTraceLeft := 0
    earlyChunks := 0
    dmaSpanUs := 0
    depthAsOfUs := 0 }

def store (recon : DepthRecon) (answer : Option DepthReading) : DepthRecon :=
  match answer with
  | none => recon
  | some reading =>
      { recon with
        dmaSpanUs :=
          if 0 < reading.renderNondrainingUs then reading.renderNondrainingUs
          else recon.dmaSpanUs
        depthAsOfUs := reading.asOfUs }

def takeArm (recon : DepthRecon) : DepthRecon :=
  if recon.seedTraceArm then
    { recon with
      seedTraceArm := false
      seedTraceLeft := seedTraceChunks }
  else recon

/-- `dbg_early_recon_`, called at the end of a chunk. -/
def dbgEarlyRecon (recon : DepthRecon) (answer : Option DepthReading) : DepthRecon :=
  let taken := recon.takeArm
  if 0 < taken.seedTraceLeft then
    { taken with seedTraceLeft := taken.seedTraceLeft - 1 }.store answer
  else if earlyReconChunks ≤ taken.earlyChunks then taken
  else
    let counted := { taken with earlyChunks := taken.earlyChunks + 1 }
    if taken.earlyChunks % 2 ≠ 0 then counted else counted.store answer

def samples (recon : DepthRecon) : Bool :=
  recon.seedTraceArm || decide (0 < recon.seedTraceLeft) ||
    (decide (recon.earlyChunks < earlyReconChunks) && decide (recon.earlyChunks % 2 = 0))

def hardUs (recon : DepthRecon) (hardCfgUs : Nat) : Nat :=
  if 0 < recon.dmaSpanUs then max hardCfgUs (3 * recon.dmaSpanUs / 2) else hardCfgUs

theorem store_depthAsOfUs (recon : DepthRecon) (answer : Option DepthReading) :
    (recon.store answer).depthAsOfUs =
      (answer.map DepthReading.asOfUs).getD recon.depthAsOfUs := by
  cases answer <;> rfl

theorem dbgEarlyRecon_depthAsOfUs (recon : DepthRecon) (answer : Option DepthReading) :
    (recon.dbgEarlyRecon answer).depthAsOfUs =
      if recon.samples then (answer.map DepthReading.asOfUs).getD recon.depthAsOfUs
      else recon.depthAsOfUs := by
  unfold dbgEarlyRecon samples takeArm
  cases recon.seedTraceArm with
  | true =>
      simp only [if_true, seedTraceChunks, Nat.zero_lt_succ, Bool.true_or, store_depthAsOfUs]
  | false =>
      simp only [Bool.false_eq_true, if_false, Bool.false_or]
      by_cases tracing : 0 < recon.seedTraceLeft
      · simp only [tracing, if_true, decide_true, Bool.true_or, store_depthAsOfUs]
      · simp only [tracing, if_false, decide_false, Bool.false_or]
        by_cases spent : earlyReconChunks ≤ recon.earlyChunks
        · have late : ¬ recon.earlyChunks < earlyReconChunks := not_lt.mpr spent
          simp only [spent, if_true, late, decide_false, Bool.false_and,
            Bool.false_eq_true, if_false]
        · have early : recon.earlyChunks < earlyReconChunks := not_le.mp spent
          simp only [spent, if_false, early, decide_true, Bool.true_and]
          by_cases even : recon.earlyChunks % 2 = 0
          · simp only [even, ne_eq, not_true, if_false, decide_true, if_true,
              store_depthAsOfUs]
          · simp only [even, ne_eq, not_false_iff, if_true, decide_false,
              Bool.false_eq_true, if_false]

end DepthRecon

/-- A chunk while the tags are not live: the prediction error, its plausibility and the
snapshot that the speaker holds at the end of the chunk. -/
structure LedgerChunk where
  errorUs : Int
  coarsePlausible : Bool
  hardCfgUs : Nat
  answer : Option DepthReading
deriving DecidableEq, Repr

inductive LedgerEvent where
  | evaluate (chunk : LedgerChunk)
  | boot (answer : Option DepthReading)
  | arm
deriving DecidableEq, Repr

namespace LedgerEvent

def evaluates : LedgerEvent → Bool
  | .evaluate _ => true
  | _ => false

def published (newest : Int) : LedgerEvent → Int
  | .evaluate chunk => (chunk.answer.map DepthReading.asOfUs).getD newest
  | .boot answer => (answer.map DepthReading.asOfUs).getD newest
  | .arm => newest

end LedgerEvent

def DepthRecon.after (recon : DepthRecon) : LedgerEvent → DepthRecon
  | .evaluate chunk => recon.dbgEarlyRecon chunk.answer
  | .boot answer => recon.dbgEarlyRecon answer
  | .arm => { recon with seedTraceArm := true }

structure LedgerPath where
  recon : DepthRecon
  gate : ResyncGate
deriving DecidableEq, Repr

namespace LedgerPath

def evaluation (path : LedgerPath) (chunk : LedgerChunk) : Evaluation :=
  { coarseErrUs := chunk.errorUs
    coarseAtUs := path.recon.depthAsOfUs
    hardUs := path.recon.hardUs chunk.hardCfgUs
    coarsePlausible := chunk.coarsePlausible
    coarseOk := true }

def decision (path : LedgerPath) (chunk : LedgerChunk) : Option Resync :=
  path.gate.decision (path.evaluation chunk)

/-- A chunk that a late resync discards leaves the loop before the diagnostic. -/
def evaluate (path : LedgerPath) (chunk : LedgerChunk) : LedgerPath :=
  { recon :=
      if path.decision chunk = some .late then path.recon
      else path.recon.after (.evaluate chunk)
    gate := path.gate.observe (path.evaluation chunk) }

def step (path : LedgerPath) : LedgerEvent → LedgerPath
  | .evaluate chunk => path.evaluate chunk
  | .boot answer => { path with recon := path.recon.after (.boot answer) }
  | .arm => { path with recon := path.recon.after .arm }

def Beyond (dir : Int) (path : LedgerPath) : LedgerEvent → Prop
  | .evaluate chunk =>
      (path.evaluation chunk).beyond = true ∧ (path.evaluation chunk).resyncDir = dir
  | _ => True

def Quiet (path : LedgerPath) : LedgerEvent → Prop
  | .evaluate chunk => path.decision chunk = none
  | _ => True

instance (dir : Int) (path : LedgerPath) (event : LedgerEvent) :
    Decidable (path.Beyond dir event) := by
  unfold Beyond
  cases event <;> infer_instance

instance (path : LedgerPath) (event : LedgerEvent) : Decidable (path.Quiet event) := by
  unfold Quiet
  cases event <;> infer_instance

def Acts (path : LedgerPath) (events : List LedgerEvent) : Prop :=
  ¬ Run.Along step Quiet path events

end LedgerPath

def newInstants (last : Int) : List Int → Nat
  | [] => 0
  | instant :: rest => (if instant = last then 0 else 1) + newInstants instant rest

def mirroredInstants (recon : DepthRecon) : List LedgerEvent → List Int
  | [] => []
  | event :: rest =>
      (if event.evaluates then [recon.depthAsOfUs] else []) ++
        mirroredInstants (recon.after event) rest

def publishedInstants (newest : Int) : List LedgerEvent → List Int
  | [] => []
  | event :: rest =>
      (if event.evaluates then [newest] else []) ++
        publishedInstants (event.published newest) rest

namespace LedgerPath

def carried (path : LedgerPath) (dir : Int) : Nat :=
  if path.gate.resyncConfirmDir = dir then path.gate.resyncConfirmRun else 0

/-- Enough new instants are shown to the gate, or a count that is complete is read again. -/
def Shown (path : LedgerPath) (dir : Int) (seen : List Int) : Prop :=
  seen ≠ [] ∧
    (resyncConfirmSamples ≤
        path.carried dir + newInstants path.gate.resyncConfirmAtUs seen ∨
      (resyncConfirmSamples ≤ path.gate.resyncConfirmRun ∧
        seen.head? = some path.gate.resyncConfirmAtUs))

theorem decision_none_iff (path : LedgerPath) (chunk : LedgerChunk) (dir : Int)
    (beyond : path.Beyond dir (.evaluate chunk)) :
    path.decision chunk = none ↔
      (path.evaluate chunk).gate.resyncConfirmRun < resyncConfirmSamples := by
  have acts := path.gate.decision_isSome_iff (path.evaluation chunk)
  change (path.decision chunk).isSome = true ↔ _ at acts
  rw [← Option.not_isSome_iff_eq_none, acts, ← not_le]
  constructor
  · intro quiet run
    exact quiet ⟨beyond.1, rfl, run⟩
  · rintro few ⟨_, _, run⟩
    exact few run

theorem evaluate_gate (path : LedgerPath) (chunk : LedgerChunk) (dir : Int)
    (beyond : path.Beyond dir (.evaluate chunk)) :
    (path.evaluate chunk).gate =
      if path.recon.depthAsOfUs = path.gate.resyncConfirmAtUs then path.gate
      else ⟨path.carried dir + 1, dir, path.recon.depthAsOfUs⟩ := by
  change path.gate.observe (path.evaluation chunk) = _
  unfold ResyncGate.observe carried
  rw [if_pos beyond.1, beyond.2]
  change (if path.recon.depthAsOfUs ≠ path.gate.resyncConfirmAtUs then _ else _) = _
  by_cases reread : path.recon.depthAsOfUs = path.gate.resyncConfirmAtUs
  · simp only [reread, ne_eq, not_true, if_false, if_true]
  · simp only [ne_eq, reread, not_false_iff, if_true, if_false]
    by_cases same : dir = path.gate.resyncConfirmDir
    · simp only [same, if_true]
      rfl
    · simp only [same, if_false, if_neg (Ne.symm same), Nat.zero_add]
      rfl

theorem carried_le (path : LedgerPath) (dir : Int) :
    path.carried dir ≤ path.gate.resyncConfirmRun := by
  unfold carried
  split
  · exact le_refl _
  · exact Nat.zero_le _

private theorem shown_cons (path : LedgerPath) (dir : Int) (chunk : LedgerChunk)
    (later : List Int) (beyond : path.Beyond dir (.evaluate chunk)) :
    path.Shown dir (path.recon.depthAsOfUs :: later) ↔
      path.decision chunk ≠ none ∨ (path.evaluate chunk).Shown dir later := by
  have bound := path.carried_le dir
  have gate := evaluate_gate path chunk dir beyond
  have quietRun := decision_none_iff path chunk dir beyond
  unfold Shown
  rw [newInstants, List.head?_cons, Option.some_inj, ne_eq, ne_eq, ne_eq, quietRun, not_lt,
    gate]
  by_cases reread : path.recon.depthAsOfUs = path.gate.resyncConfirmAtUs
  · rw [if_pos reread] at gate
    have same : (path.evaluate chunk).carried dir = path.carried dir := by
      unfold carried
      rw [gate]
    rw [same, if_pos reread, if_pos reread, reread]
    by_cases complete : resyncConfirmSamples ≤ path.gate.resyncConfirmRun
    · simp only [reduceCtorEq, not_false_iff, complete, and_true, or_true, true_or]
    · simp only [reduceCtorEq, not_false_iff, complete, false_and, or_false, true_and,
        false_or, Nat.zero_add]
      cases later with
      | nil =>
          simp only [newInstants, not_true, false_and, iff_false]
          omega
      | cons next more => simp only [reduceCtorEq, not_false_iff, true_and]
  · rw [if_neg reread] at gate
    have counted : (path.evaluate chunk).carried dir = path.carried dir + 1 := by
      unfold carried
      rw [gate]
      simp only [if_true]
      rfl
    rw [counted, if_neg reread, if_neg reread]
    simp only [reduceCtorEq, not_false_iff, true_and, reread, and_false, or_false]
    cases later with
    | nil => simp only [newInstants, not_true, false_and, or_false]
    | cons next more =>
        simp only [reduceCtorEq, not_false_iff, true_and]
        omega

/-- Over an excursion of one sign, a resync acts exactly when enough instants are shown. -/
theorem acts_iff_shown (path : LedgerPath) (dir : Int) (events : List LedgerEvent)
    (beyond : Run.Along step (Beyond dir) path events) :
    path.Acts events ↔ path.Shown dir (mirroredInstants path.recon events) := by
  induction events generalizing path with
  | nil =>
      unfold Acts Shown
      simp [mirroredInstants]
  | cons event rest ih =>
      have onward := ih (path.step event) beyond.2
      unfold Acts at onward ⊢
      rw [Run.along_cons, not_and_or, onward]
      cases event with
      | evaluate chunk =>
          change _ ↔ path.Shown dir (path.recon.depthAsOfUs ::
            mirroredInstants (path.recon.after (.evaluate chunk)) rest)
          rw [shown_cons path dir chunk _ beyond.1]
          by_cases quiet : path.decision chunk = none
          · have sampled : (path.step (.evaluate chunk)).recon =
                path.recon.after (.evaluate chunk) := by
              change (if path.decision chunk = some .late then _ else _) = _
              rw [quiet]
              rfl
            rw [sampled]
            rfl
          · have acts : ¬ path.Quiet (.evaluate chunk) := quiet
            simp only [acts, ne_eq, quiet, not_false_iff, true_or]
      | boot answer =>
          change (¬ True ∨ _) ↔ _
          rw [not_true, false_or]
          rfl
      | arm =>
          change (¬ True ∨ _) ↔ _
          rw [not_true, false_or]
          rfl

/-- An excursion over three snapshots that were not counted yet is acted on. -/
def Complete (path : LedgerPath) (events : List LedgerEvent) : Prop :=
  resyncConfirmSamples ≤
      newInstants path.gate.resyncConfirmAtUs
        (publishedInstants path.recon.depthAsOfUs events) →
    path.Acts events

theorem complete_iff (path : LedgerPath) (dir : Int) (events : List LedgerEvent)
    (beyond : Run.Along step (Beyond dir) path events) :
    path.Complete events ↔
      (resyncConfirmSamples ≤
          newInstants path.gate.resyncConfirmAtUs
            (publishedInstants path.recon.depthAsOfUs events) →
        path.Shown dir (mirroredInstants path.recon events)) := by
  unfold Complete
  rw [acts_iff_shown path dir events beyond]

def AlwaysSampled (recon : DepthRecon) (events : List LedgerEvent) : Prop :=
  Run.Along DepthRecon.after (fun state event => event = .arm ∨ state.samples = true)
    recon events

theorem after_depthAsOfUs (recon : DepthRecon) (event : LedgerEvent)
    (sampled : event = .arm ∨ recon.samples = true) :
    (recon.after event).depthAsOfUs = event.published recon.depthAsOfUs := by
  cases event with
  | evaluate chunk =>
      rcases sampled with impossible | active
      · cases impossible
      · exact (recon.dbgEarlyRecon_depthAsOfUs chunk.answer).trans (if_pos active)
  | boot answer =>
      rcases sampled with impossible | active
      · cases impossible
      · exact (recon.dbgEarlyRecon_depthAsOfUs answer).trans (if_pos active)
  | arm => rfl

theorem mirrored_eq_published (recon : DepthRecon) (events : List LedgerEvent)
    (sampled : AlwaysSampled recon events) :
    mirroredInstants recon events = publishedInstants recon.depthAsOfUs events := by
  induction events generalizing recon with
  | nil => rfl
  | cons event rest ih =>
      rw [mirroredInstants, publishedInstants, ih (recon.after event) sampled.2,
        after_depthAsOfUs recon event sampled.1]

theorem complete_of_sampled (path : LedgerPath) (dir : Int) (events : List LedgerEvent)
    (beyond : Run.Along step (Beyond dir) path events)
    (sampled : AlwaysSampled path.recon events) : path.Complete events := by
  rw [complete_iff path dir events beyond, mirrored_eq_published path.recon events sampled]
  intro published
  refine ⟨?_, Or.inl (by omega)⟩
  intro empty
  rw [empty] at published
  exact absurd published (by simp [newInstants, resyncConfirmSamples])

def Spent (recon : DepthRecon) : Prop :=
  recon.seedTraceArm = false ∧ recon.seedTraceLeft = 0 ∧ earlyReconChunks ≤ recon.earlyChunks

theorem dbgEarlyRecon_spent (recon : DepthRecon) (spent : Spent recon)
    (answer : Option DepthReading) : recon.dbgEarlyRecon answer = recon := by
  obtain ⟨unarmed, idle, budget⟩ := spent
  unfold DepthRecon.dbgEarlyRecon DepthRecon.takeArm
  simp only [unarmed, Bool.false_eq_true, if_false, idle, lt_irrefl, budget, if_true]

theorem newInstants_mirrored_of_spent (recon : DepthRecon) (spent : Spent recon)
    (events : List LedgerEvent) (unarmed : LedgerEvent.arm ∉ events) (last : Int) :
    newInstants last (mirroredInstants recon events) ≤
      if recon.depthAsOfUs = last then 0 else 1 := by
  induction events generalizing last with
  | nil => exact Nat.zero_le _
  | cons event rest ih =>
      have frozen : recon.after event = recon := by
        cases event with
        | evaluate chunk => exact dbgEarlyRecon_spent recon spent chunk.answer
        | boot answer => exact dbgEarlyRecon_spent recon spent answer
        | arm => exact absurd List.mem_cons_self unarmed
      have later := ih (fun member => unarmed (List.mem_cons_of_mem event member))
      rw [mirroredInstants, frozen]
      cases event.evaluates with
      | true =>
          have rest_ := later recon.depthAsOfUs
          rw [if_pos rfl] at rest_
          rw [if_pos rfl, List.singleton_append, newInstants]
          omega
      | false => exact later last

/-- After start-up no excursion that begins inside the threshold is acted on, however many
snapshots the speaker publishes. -/
theorem not_acts_of_spent (path : LedgerPath) (dir : Int) (events : List LedgerEvent)
    (beyond : Run.Along step (Beyond dir) path events) (spent : Spent path.recon)
    (unarmed : LedgerEvent.arm ∉ events) (inside : path.gate = ResyncGate.initial) :
    ¬ path.Acts events := by
  rw [acts_iff_shown path dir events beyond]
  have few := newInstants_mirrored_of_spent path.recon spent events unarmed
    path.gate.resyncConfirmAtUs
  have one : (if path.recon.depthAsOfUs = path.gate.resyncConfirmAtUs then 0 else 1) ≤ 1 := by
    split <;> omega
  have bound := path.carried_le dir
  rw [inside] at bound
  have held : path.carried dir = 0 := Nat.le_zero.mp bound
  rintro ⟨_, shown | ⟨complete, _⟩⟩
  · rw [held, Nat.zero_add] at shown
    exact absurd (le_trans shown (le_trans few one)) (by decide)
  · rw [inside] at complete
    exact absurd complete (by decide)

/-- The path is complete exactly when the diagnostic carries enough of the published instants over
to the mirror. It does where the diagnostic samples at every chunk; once its budget is spent it
carries none, and an excursion that begins inside the threshold is never acted on. -/
theorem complete_iff_shown (path : LedgerPath) (dir : Int) (events : List LedgerEvent)
    (beyond : Run.Along step (Beyond dir) path events) :
    (path.Complete events ↔
      (resyncConfirmSamples ≤
          newInstants path.gate.resyncConfirmAtUs
            (publishedInstants path.recon.depthAsOfUs events) →
        path.Shown dir (mirroredInstants path.recon events))) ∧
      (AlwaysSampled path.recon events → path.Complete events) ∧
      (Spent path.recon → LedgerEvent.arm ∉ events → path.gate = ResyncGate.initial →
        ¬ path.Acts events) :=
  ⟨complete_iff path dir events beyond, complete_of_sampled path dir events beyond,
    not_acts_of_spent path dir events beyond⟩

private def settled : LedgerPath :=
  { recon := (List.replicate 240 (some ⟨1000, 0⟩)).foldl DepthRecon.dbgEarlyRecon
      DepthRecon.initial
    gate := ResyncGate.initial }

private def lateChunks : List LedgerEvent :=
  [2000, 3000, 4000, 5000].map fun asOfUs =>
    .evaluate
      { errorUs := 60000
        coarsePlausible := true
        hardCfgUs := 50000
        answer := some ⟨asOfUs, 0⟩ }

private def started : LedgerPath :=
  { recon := DepthRecon.initial
    gate := ResyncGate.initial }

theorem complete_iff_shown_started :
    started.Complete lateChunks ↔
      (resyncConfirmSamples ≤
          newInstants started.gate.resyncConfirmAtUs
            (publishedInstants started.recon.depthAsOfUs lateChunks) →
        started.Shown 1 (mirroredInstants started.recon lateChunks)) :=
  (complete_iff_shown started 1 lateChunks (by decide)).1

theorem incomplete_when_settled :
    ¬ ∀ (path : LedgerPath) (dir : Int) (events : List LedgerEvent),
      Run.Along step (Beyond dir) path events → path.Complete events := by
  intro always
  have acts := always settled 1 lateChunks (by decide +kernel) (by decide +kernel)
  exact acts (by decide +kernel)

end LedgerPath

end Player
