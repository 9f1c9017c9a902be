import SnapcastSync.Lib.Conformance
import SnapcastSync.Player.Muting
import SnapcastSync.Player.SplitRamp

/-! The repair that is forced after a re-lock: what arms it, how long the lock has to hold first,
and how often it may come. The gate that locks and unlocks is the one that unmutes. -/

namespace Player

def reanchorBiasUs : Int := 2500
def reanchorSettleUs : Int := 10000000
def reanchorMinIntervalUs : Int := 60000000

structure RelockChunk where
  gateChunk : GateChunk
  sessionEpoch : UInt32
deriving DecidableEq, Repr

inductive RelockEvent
  | chunk (chunk : RelockChunk)
  | rebaselineAfterStarvation
deriving DecidableEq, Repr

inductive RelockNotice
  | armed
  | closed
  | settling (nowUs : Int)
  | forced (nowUs : Int)
  | skipped (nowUs : Int)
deriving DecidableEq, Repr

structure Reanchor where
  gate : UnmuteGate
  reanchorEpoch : UInt32
  reanchorArmed : Bool
  reanchorDueUs : Int
  reanchorLastUs : Int

namespace Reanchor

def boot : Reanchor :=
  { gate := UnmuteGate.initial
    reanchorEpoch := 0
    reanchorArmed := false
    reanchorDueUs := 0
    reanchorLastUs := 0 }

def checkEpoch (state : Reanchor) (epoch : UInt32) : Reanchor × List RelockNotice :=
  if state.reanchorEpoch ≠ epoch then
    ({ state with
        reanchorEpoch := epoch
        reanchorArmed := true
        reanchorDueUs := 0 }, [.armed])
  else (state, [])

/-- The rest of `reanchor_after_relock_`. -/
def settle (state : Reanchor) (nowUs : Int) : Reanchor × List RelockNotice :=
  if !state.reanchorArmed then (state, [])
  else if !state.gate.converged then ({ state with reanchorDueUs := 0 }, [])
  else if state.reanchorDueUs = 0 then
    ({ state with reanchorDueUs := nowUs + reanchorSettleUs }, [.settling nowUs])
  else if nowUs < state.reanchorDueUs then (state, [])
  else
    let fired :=
      { state with
        reanchorArmed := false
        reanchorDueUs := 0 }
    if fired.reanchorLastUs ≠ 0 ∧ nowUs - fired.reanchorLastUs < reanchorMinIntervalUs then
      (fired, [.skipped nowUs])
    else ({ fired with reanchorLastUs := nowUs }, [.forced nowUs])

def reanchorAfterRelock (state : Reanchor) (epoch : UInt32) (nowUs : Int) :
    Reanchor × List RelockNotice :=
  let checked := state.checkEpoch epoch
  let settled := checked.1.settle nowUs
  (settled.1, checked.2 ++ settled.2)

/-- The hard resync mutes, which the chunk arms a repair for. -/
def mutes (state : Reanchor) (chunk : GateChunk) : Bool :=
  state.gate.converged && chunk.resync.isSome && chunk.muteNow

/-- The chunk up to the unmute gate; a late one is given up before it. -/
def passGate (state : Reanchor) (chunk : GateChunk) : Reanchor × List RelockNotice :=
  ({ state with
      gate := state.gate.chunk chunk
      reanchorArmed := state.reanchorArmed || state.mutes chunk },
    if state.mutes chunk then [.armed, .closed] else [])

def playChunk (state : Reanchor) (enabled : Bool) (chunk : RelockChunk) :
    Reanchor × List RelockNotice :=
  let passed := state.passGate chunk.gateChunk
  if chunk.gateChunk.resync = some .late ∨ enabled = false then passed
  else
    let relocked := passed.1.reanchorAfterRelock chunk.sessionEpoch chunk.gateChunk.nowUs
    (relocked.1, passed.2 ++ relocked.2)

def rebaselineAfterStarvation (state : Reanchor) : Reanchor × List RelockNotice :=
  ({ state with
      gate := state.gate.reset false
      reanchorArmed := true },
    if state.gate.converged then [.armed, .closed] else [.armed])

def step (enabled : Bool) (state : Reanchor) : RelockEvent → Reanchor × List RelockNotice
  | .chunk chunk => state.playChunk enabled chunk
  | .rebaselineAfterStarvation => state.rebaselineAfterStarvation

def run (enabled : Bool) (events : List RelockEvent) : Reanchor :=
  Conformance.run (step enabled) boot events

def notices (enabled : Bool) (events : List RelockEvent) : List RelockNotice :=
  Conformance.trace (step enabled) boot events

end Reanchor

namespace RelockNotice

def isCycle : RelockNotice → Bool
  | .forced _ => true
  | .skipped _ => true
  | _ => false

def Unspent (seen : List RelockNotice) : Prop :=
  ∃ earlier later, seen = earlier ++ .armed :: later ∧ ∀ notice ∈ later, notice.isCycle = false

/-- The gate has not closed since the lock began to settle, for a repair that is due then. -/
def Settling (seen : List RelockNotice) (dueUs : Int) : Prop :=
  ∃ earlier startUs later, seen = earlier ++ .settling startUs :: later ∧
    dueUs = startUs + reanchorSettleUs ∧
      ∀ notice ∈ later, notice.isCycle = false ∧ notice ≠ .closed

/-- A repair is forced for an arming of its own, after a lock that has held and settled, and long
enough after every other one. -/
structure Founded (enabled : Bool) (seen : List RelockNotice) (nowUs : Int) : Prop where
  optedIn : enabled = true
  unspent : Unspent seen
  settled : ∃ dueUs ≤ nowUs, Settling seen dueUs
  spaced : ∀ otherUs, .forced otherUs ∈ seen → otherUs + reanchorMinIntervalUs ≤ nowUs

def AllFounded (enabled : Bool) : List RelockNotice → Prop :=
  Conformance.EachFounded fun earlier notice =>
    ∀ nowUs, notice = .forced nowUs → Founded enabled earlier nowUs

theorem Unspent.append {seen : List RelockNotice} (unspent : Unspent seen)
    (notices : List RelockNotice) (quiet : ∀ notice ∈ notices, notice.isCycle = false) :
    Unspent (seen ++ notices) := by
  obtain ⟨earlier, later, split, rest⟩ := unspent
  refine ⟨earlier, later ++ notices, ?_, ?_⟩
  · rw [split, List.append_assoc, List.cons_append]
  · intro notice member
    rcases List.mem_append.mp member with before | after
    · exact rest notice before
    · exact quiet notice after

theorem Settling.append {seen : List RelockNotice} {dueUs : Int} (settling : Settling seen dueUs)
    (notices : List RelockNotice)
    (quiet : ∀ notice ∈ notices, notice.isCycle = false ∧ notice ≠ .closed) :
    Settling (seen ++ notices) dueUs := by
  obtain ⟨earlier, startUs, later, split, due, rest⟩ := settling
  refine ⟨earlier, startUs, later ++ notices, ?_, due, ?_⟩
  · rw [split, List.append_assoc, List.cons_append]
  · intro notice member
    rcases List.mem_append.mp member with before | after
    · exact rest notice before
    · exact quiet notice after

theorem unspent_last (seen : List RelockNotice) : Unspent (seen ++ [.armed]) :=
  ⟨seen, [], rfl, fun _ member => by cases member⟩

theorem quiet_closing : ∀ notice ∈ [RelockNotice.armed, .closed], notice.isCycle = false := by
  intro notice member
  rcases List.mem_cons.mp member with first | second
  · rw [first]
    rfl
  · rw [List.mem_singleton.mp second]
    rfl

theorem unspent_closing (seen : List RelockNotice) : Unspent (seen ++ [.armed, .closed]) := by
  refine ⟨seen, [.closed], rfl, ?_⟩
  intro notice member
  rw [List.mem_singleton.mp member]
  rfl

theorem AllFounded.quiet {enabled : Bool} {seen : List RelockNotice}
    (founded : AllFounded enabled seen) (notices : List RelockNotice)
    (quiet : ∀ notice ∈ notices, notice.isCycle = false) :
    AllFounded enabled (seen ++ notices) := by
  apply Conformance.EachFounded.append founded
  rintro notice member earlier nowUs rfl
  exact Bool.noConfusion (quiet _ member)

end RelockNotice

namespace Reanchor

open RelockNotice

structure Sound (enabled : Bool) (state : Reanchor) (seen : List RelockNotice) : Prop where
  founded : AllFounded enabled seen
  spaced : ∀ nowUs, .forced nowUs ∈ seen →
    nowUs ≤ state.reanchorLastUs ∧ state.reanchorLastUs ≠ 0
  unspent : state.reanchorArmed = true → Unspent seen
  settling : state.reanchorDueUs ≠ 0 → state.gate.converged = true →
    Settling seen state.reanchorDueUs
  due : state.reanchorDueUs ≠ 0 → state.reanchorArmed = true ∧ enabled = true

/-- A repair that is due although the gate has closed goes before the gate can open again: the
error window is empty, and the gate wants it full. -/
def Withdrawn (state : Reanchor) : Prop :=
  state.gate.converged = false → state.reanchorDueUs ≠ 0 → state.gate.errWindowFilled = 0

theorem not_forced_of_quiet {notices : List RelockNotice}
    (quiet : ∀ notice ∈ notices, notice.isCycle = false) (nowUs : Int) :
    .forced nowUs ∉ notices :=
  fun member => Bool.noConfusion (quiet _ member)

theorem Sound.quiet {enabled : Bool} {state after : Reanchor} {seen : List RelockNotice}
    (sound : Sound enabled state seen) (notices : List RelockNotice)
    (quiet : ∀ notice ∈ notices, notice.isCycle = false)
    (last : after.reanchorLastUs = state.reanchorLastUs)
    (unspent : after.reanchorArmed = true → Unspent (seen ++ notices))
    (settling : after.reanchorDueUs ≠ 0 → after.gate.converged = true →
      Settling (seen ++ notices) after.reanchorDueUs)
    (due : after.reanchorDueUs ≠ 0 → after.reanchorArmed = true ∧ enabled = true) :
    Sound enabled after (seen ++ notices) := by
  refine ⟨sound.founded.quiet notices quiet, ?_, unspent, settling, due⟩
  intro nowUs member
  rw [last]
  rcases List.mem_append.mp member with before | after_
  · exact sound.spaced nowUs before
  · exact absurd after_ (not_forced_of_quiet quiet nowUs)

theorem sound_checkEpoch {state : Reanchor} {seen : List RelockNotice}
    (sound : Sound true state seen) (epoch : UInt32) :
    Sound true (state.checkEpoch epoch).1 (seen ++ (state.checkEpoch epoch).2) := by
  rw [checkEpoch]
  split
  · apply sound.quiet [.armed]
    · intro notice member
      rw [List.mem_singleton.mp member]
      rfl
    · rfl
    · exact fun _ => unspent_last seen
    · exact fun due => absurd rfl due
    · exact fun due => absurd rfl due
  · rw [List.append_nil]
    exact sound

theorem sound_start {state : Reanchor} {seen : List RelockNotice} (sound : Sound true state seen)
    (armed : state.reanchorArmed = true) (nowUs : Int) :
    Sound true { state with reanchorDueUs := nowUs + reanchorSettleUs }
      (seen ++ [.settling nowUs]) := by
  have quiet : ∀ notice ∈ [RelockNotice.settling nowUs], notice.isCycle = false := by
    intro notice member
    rw [List.mem_singleton.mp member]
    rfl
  apply sound.quiet [.settling nowUs] quiet
  · rfl
  · exact fun _ => (sound.unspent armed).append [.settling nowUs] quiet
  · exact fun _ _ => ⟨seen, nowUs, [], rfl, rfl, fun _ member => by cases member⟩
  · exact fun _ => ⟨armed, rfl⟩

theorem sound_fire {state : Reanchor} {seen : List RelockNotice} (sound : Sound true state seen)
    (locked : state.gate.converged = true) (due : state.reanchorDueUs ≠ 0) (nowUs : Int)
    (positive : 0 < nowUs) (reached : state.reanchorDueUs ≤ nowUs) :
    let fired :=
      { state with
        reanchorArmed := false
        reanchorDueUs := 0 }
    let outcome :=
      if fired.reanchorLastUs ≠ 0 ∧ nowUs - fired.reanchorLastUs < reanchorMinIntervalUs then
        (fired, [RelockNotice.skipped nowUs])
      else ({ fired with reanchorLastUs := nowUs }, [RelockNotice.forced nowUs])
    Sound true outcome.1 (seen ++ outcome.2) := by
  intro fired outcome
  by_cases recent : fired.reanchorLastUs ≠ 0 ∧ nowUs - fired.reanchorLastUs < reanchorMinIntervalUs
  · have skipped : outcome = (fired, [RelockNotice.skipped nowUs]) := if_pos recent
    rw [skipped]
    refine ⟨sound.founded.snoc _ (fun _ same => (by cases same)), ?_, (fun armed => by cases armed),
      fun due => absurd rfl due, fun due => absurd rfl due⟩
    intro otherUs member
    rcases List.mem_append.mp member with before | last
    · exact sound.spaced otherUs before
    · cases List.mem_singleton.mp last
  · have forced : outcome =
        ({ fired with reanchorLastUs := nowUs }, [RelockNotice.forced nowUs]) := if_neg recent
    have elapsed : ∀ otherUs, .forced otherUs ∈ seen →
        otherUs + reanchorMinIntervalUs ≤ nowUs := by
      intro otherUs member
      obtain ⟨bound, some_⟩ := sound.spaced otherUs member
      have late : ¬ nowUs - state.reanchorLastUs < reanchorMinIntervalUs :=
        fun early => recent ⟨some_, early⟩
      omega
    rw [forced]
    refine ⟨sound.founded.snoc _ ?_, ?_, (fun armed => by cases armed),
      fun due => absurd rfl due, fun due => absurd rfl due⟩
    · intro otherUs same
      rw [← RelockNotice.forced.inj same]
      exact ⟨rfl, sound.unspent (sound.due due).1,
        ⟨state.reanchorDueUs, reached, sound.settling due locked⟩, elapsed⟩
    · intro otherUs member
      refine ⟨?_, positive.ne'⟩
      change otherUs ≤ nowUs
      rcases List.mem_append.mp member with before | last
      · have apart := elapsed otherUs before
        rw [reanchorMinIntervalUs] at apart
        omega
      · rw [RelockNotice.forced.inj (List.mem_singleton.mp last)]

theorem sound_settle {state : Reanchor} {seen : List RelockNotice}
    (sound : Sound true state seen) (nowUs : Int) (positive : 0 < nowUs) :
    Sound true (state.settle nowUs).1 (seen ++ (state.settle nowUs).2) ∧
      Withdrawn (state.settle nowUs).1 := by
  rw [settle]
  cases armed : state.reanchorArmed with
  | false =>
      have idle : state.reanchorDueUs = 0 := by
        by_contra due
        exact Bool.noConfusion (armed.symm.trans (sound.due due).1)
      refine ⟨?_, fun _ due => absurd idle due⟩
      rw [Bool.not_false, if_pos rfl, List.append_nil]
      exact sound
  | true =>
      rw [Bool.not_true, if_neg Bool.false_ne_true]
      have unspent := sound.unspent armed
      cases locked : state.gate.converged with
      | false =>
          refine ⟨?_, fun _ due => absurd rfl due⟩
          apply sound.quiet []
          · intro notice member
            cases member
          · rfl
          · exact fun _ => unspent.append [] fun notice member => by cases member
          · exact fun due => absurd rfl due
          · exact fun due => absurd rfl due
      | true =>
          rw [Bool.not_true, if_neg Bool.false_ne_true]
          have held : ∀ after : Reanchor, after.gate = state.gate → Withdrawn after := by
            intro after same closed
            rw [same, locked] at closed
            cases closed
          by_cases idle : state.reanchorDueUs = 0
          · have started := sound_start sound armed nowUs
            rw [armed] at started
            rw [if_pos idle]
            exact ⟨started, held _ rfl⟩
          · rw [if_neg idle]
            by_cases early : nowUs < state.reanchorDueUs
            · rw [if_pos early, List.append_nil]
              exact ⟨sound, held _ rfl⟩
            · rw [if_neg early]
              refine ⟨sound_fire sound locked idle nowUs positive (Int.not_lt.mp early), ?_⟩
              dsimp only
              split
              · exact held _ rfl
              · exact held _ rfl

theorem filled_of_resync (gate : UnmuteGate) (chunk : GateChunk)
    (resyncs : chunk.resync.isSome = true) : (gate.chunk chunk).errWindowFilled = 0 := by
  obtain ⟨direction, acts⟩ := Option.isSome_iff_exists.mp resyncs
  have reached : (gate.reached chunk).errWindowFilled = 0 := by
    rw [UnmuteGate.reached, acts]
    rfl
  rw [UnmuteGate.chunk]
  split
  · exact reached
  · exact (UnmuteGate.evaluate_frame _ _ _).2.1.trans reached

/-- A gate that opens had samples in its window before the chunk. -/
theorem filled_of_opens (gate : UnmuteGate) (chunk : GateChunk) (calm : chunk.resync = none)
    (closed : gate.converged = false) (opens : (gate.chunk chunk).converged = true) :
    gate.errWindowFilled ≠ 0 := by
  intro empty
  have late : chunk.resync ≠ some .late := by
    rw [calm]
    exact (Option.some_ne_none _).symm
  have reached : gate.reached chunk = gate.sample chunk.errorUs := by
    rw [UnmuteGate.reached, calm]
  rw [UnmuteGate.chunk, if_neg late, reached] at opens
  obtain ⟨-, counted, -, -⟩ := UnmuteGate.evaluate_opens (gate.sample chunk.errorUs) chunk
    (gate.chunkMedianErrUs chunk) closed opens
  have filled : (gate.sample chunk.errorUs).errWindowFilled = 1 := by
    rw [UnmuteGate.sample, empty]
    rfl
  rw [UnmuteGate.counts, filled] at counted
  rw [Bool.and_eq_true, Bool.and_eq_true, decide_eq_true_iff] at counted
  exact absurd counted.1.2 (by decide)

/-- Where a chunk does not mute and a repair is due, the gate was open if it is open now. -/
theorem open_of_due {state : Reanchor} (withdrawn : Withdrawn state) (chunk : GateChunk)
    (due : state.reanchorDueUs ≠ 0) (opens : (state.gate.chunk chunk).converged = true) :
    state.gate.converged = true := by
  by_contra closed_
  have closed : state.gate.converged = false := Bool.eq_false_of_not_eq_true closed_
  cases acts : chunk.resync with
  | none => exact filled_of_opens state.gate chunk acts closed opens (withdrawn closed due)
  | some direction =>
      rw [Muting.chunk_converged_of_resync _ _ (by rw [acts]; rfl), closed] at opens
      cases opens

theorem closed_of_mutes {state : Reanchor} {chunk : GateChunk}
    (mutes : state.mutes chunk = true) :
    chunk.resync.isSome = true ∧ (state.gate.chunk chunk).converged = false := by
  rw [Reanchor.mutes, Bool.and_eq_true, Bool.and_eq_true] at mutes
  obtain ⟨⟨-, resyncs⟩, muted⟩ := mutes
  refine ⟨resyncs, ?_⟩
  rw [Muting.chunk_converged_of_resync _ _ resyncs, muted, Bool.not_true, Bool.and_false]

theorem sound_passGate {enabled : Bool} {state : Reanchor} {seen : List RelockNotice}
    (sound : Sound enabled state seen) (withdrawn : Withdrawn state) (chunk : GateChunk) :
    Sound enabled (state.passGate chunk).1 (seen ++ (state.passGate chunk).2) := by
  rw [passGate]
  cases mutes : state.mutes chunk with
  | true =>
      have closed := (closed_of_mutes mutes).2
      rw [Bool.or_true, if_pos rfl]
      apply sound.quiet [.armed, .closed]
      · exact quiet_closing
      · rfl
      · exact fun _ => unspent_closing seen
      · intro due opens
        exact Bool.noConfusion (closed.symm.trans opens)
      · exact fun due => ⟨rfl, (sound.due due).2⟩
  | false =>
      rw [Bool.or_false, if_neg Bool.false_ne_true]
      apply sound.quiet []
      · intro notice member
        cases member
      · rfl
      · exact fun armed => (sound.unspent armed).append [] fun notice member => by cases member
      · intro due opens
        exact (sound.settling due (open_of_due withdrawn chunk due opens)).append []
          fun notice member => by cases member
      · exact sound.due

theorem withdrawn_late (state : Reanchor) (chunk : GateChunk)
    (late : chunk.resync = some .late) : Withdrawn (state.passGate chunk).1 :=
  fun _ _ => filled_of_resync state.gate chunk (by rw [late]; rfl)

theorem sound_playChunk {enabled : Bool} {state : Reanchor} {seen : List RelockNotice}
    (sound : Sound enabled state seen) (withdrawn : Withdrawn state) (chunk : RelockChunk)
    (positive : 0 < chunk.gateChunk.nowUs) :
    Sound enabled (state.playChunk enabled chunk).1 (seen ++ (state.playChunk enabled chunk).2) ∧
      Withdrawn (state.playChunk enabled chunk).1 := by
  have passed := sound_passGate sound withdrawn chunk.gateChunk
  rw [playChunk]
  dsimp only
  split
  · rename_i given
    refine ⟨passed, ?_⟩
    rcases given with late | disabled
    · exact withdrawn_late state chunk.gateChunk late
    · intro _ due
      exact Bool.noConfusion (disabled.symm.trans (passed.due due).2)
  · rename_i kept
    have on : enabled = true := by
      by_contra off
      exact kept (Or.inr (Bool.eq_false_of_not_eq_true off))
    subst on
    rw [reanchorAfterRelock]
    dsimp only
    rw [← List.append_assoc, ← List.append_assoc]
    exact sound_settle (sound_checkEpoch passed chunk.sessionEpoch) chunk.gateChunk.nowUs positive

theorem sound_rebaseline {enabled : Bool} {state : Reanchor} {seen : List RelockNotice}
    (sound : Sound enabled state seen) :
    Sound enabled state.rebaselineAfterStarvation.1
        (seen ++ state.rebaselineAfterStarvation.2) ∧
      Withdrawn state.rebaselineAfterStarvation.1 := by
  rw [rebaselineAfterStarvation]
  refine ⟨?_, fun _ _ => rfl⟩
  split
  · apply sound.quiet [.armed, .closed]
    · exact quiet_closing
    · rfl
    · exact fun _ => unspent_closing seen
    · exact fun _ closed => absurd closed Bool.false_ne_true
    · exact fun due => ⟨rfl, (sound.due due).2⟩
  · apply sound.quiet [.armed]
    · intro notice member
      rw [List.mem_singleton.mp member]
      rfl
    · rfl
    · exact fun _ => unspent_last seen
    · exact fun _ closed => absurd closed Bool.false_ne_true
    · exact fun due => ⟨rfl, (sound.due due).2⟩

theorem settle_gate (state : Reanchor) (nowUs : Int) : (state.settle nowUs).1.gate = state.gate := by
  rw [settle]
  dsimp only
  split_ifs <;> rfl

theorem checkEpoch_gate (state : Reanchor) (epoch : UInt32) :
    (state.checkEpoch epoch).1.gate = state.gate := by
  rw [checkEpoch]
  split <;> rfl

theorem playChunk_gate (enabled : Bool) (state : Reanchor) (chunk : RelockChunk) :
    (state.playChunk enabled chunk).1.gate = state.gate.chunk chunk.gateChunk := by
  rw [playChunk]
  dsimp only
  split
  · rfl
  · rw [reanchorAfterRelock]
    dsimp only
    rw [settle_gate, checkEpoch_gate]
    rfl

theorem playChunk_tells (enabled : Bool) (state : Reanchor) (chunk : RelockChunk)
    (notice : RelockNotice) (told : notice ∈ (state.passGate chunk.gateChunk).2) :
    notice ∈ (state.playChunk enabled chunk).2 := by
  rw [playChunk]
  dsimp only
  split
  · exact told
  · exact List.mem_append_left _ told

/-- The gate closes in no other way than one that is told. -/
theorem closed_told (enabled : Bool) (state : Reanchor) (event : RelockEvent)
    (open_ : state.gate.converged = true)
    (closes : (step enabled state event).1.gate.converged = false) :
    .closed ∈ (step enabled state event).2 := by
  cases event with
  | chunk chunk =>
      rw [step, playChunk_gate] at closes
      apply playChunk_tells
      cases acts : chunk.gateChunk.resync with
      | none =>
          have stays := Muting.chunk_converged_of_calm state.gate chunk.gateChunk acts open_
          rw [stays] at closes
          cases closes
      | some direction =>
          have resyncs : chunk.gateChunk.resync.isSome = true := by rw [acts]; rfl
          rw [Muting.chunk_converged_of_resync _ _ resyncs, open_, Bool.true_and,
            Bool.not_eq_false'] at closes
          have mutes : state.mutes chunk.gateChunk = true := by
            rw [Reanchor.mutes, open_, resyncs, closes]
            rfl
          rw [passGate, mutes, if_pos rfl]
          exact List.mem_cons_of_mem _ List.mem_cons_self
  | rebaselineAfterStarvation =>
      rw [step, rebaselineAfterStarvation, open_, if_pos rfl]
      exact List.mem_cons_of_mem _ List.mem_cons_self

/-- The clock of a chunk; zero stands for never. -/
def Clocked : RelockEvent → Prop
  | .chunk chunk => 0 < chunk.gateChunk.nowUs
  | .rebaselineAfterStarvation => True

instance (event : RelockEvent) : Decidable (Clocked event) :=
  match event with
  | .chunk chunk => inferInstanceAs (Decidable (0 < chunk.gateChunk.nowUs))
  | .rebaselineAfterStarvation => inferInstanceAs (Decidable True)

theorem run_sound (enabled : Bool) (events : List RelockEvent)
    (clocked : ∀ event ∈ events, Clocked event) :
    Sound enabled (run enabled events) (notices enabled events) ∧
      Withdrawn (run enabled events) := by
  apply Conformance.run_history (step enabled)
    (fun state seen => Sound enabled state seen ∧ Withdrawn state) Clocked
  · intro state seen event held positive
    cases event with
    | chunk chunk => exact sound_playChunk held.1 held.2 chunk positive
    | rebaselineAfterStarvation => exact sound_rebaseline held.1
  · exact clocked
  · exact ⟨⟨Conformance.eachFounded_nil _, fun _ member => (by cases member),
      fun armed => (by cases armed), fun due => absurd rfl due, fun due => absurd rfl due⟩,
      fun _ _ => rfl⟩

/-- In every run, each repair that is forced has an arming of its own: a re-baseline, a hard resync
that muted, or a new session. The gate had been open since the lock began to settle, at least
`REANCHOR_SETTLE_US` before, and every earlier repair lies `REANCHOR_MIN_INTERVAL_US` back. -/
theorem forced_founded (enabled : Bool) (events : List RelockEvent)
    (clocked : ∀ event ∈ events, Clocked event) (earlier later : List RelockNotice) (nowUs : Int)
    (split : notices enabled events = earlier ++ .forced nowUs :: later) :
    Founded enabled earlier nowUs :=
  (run_sound enabled events clocked).1.founded earlier (.forced nowUs) later split nowUs rfl

def calmChunk (nowUs : Int) : RelockEvent :=
  .chunk
    { gateChunk :=
        { errorUs := 0
          coarseOnTags := false
          tagErrUs := 0
          resync := none
          muteNow := false
          syncDeadbandUs := 1000
          group := none
          driftMedLastUs := 0
          nowUs := nowUs }
      sessionEpoch := 1 }

def settledRun : List RelockEvent := List.replicate 61 (calmChunk 1000000) ++ [calmChunk 12000000]

theorem settledRun_notices :
    notices true settledRun = [.armed, .settling 1000000] ++ .forced 12000000 :: [] := by
  decide +kernel

theorem forced_founded_settled : Founded true [.armed, .settling 1000000] 12000000 :=
  forced_founded true settledRun (by decide) [.armed, .settling 1000000] [] 12000000
    settledRun_notices

/-- A forced repair is a request of 2500 us, and comes to 113 moves by a frame of 44100 Hz, which
are 2562 us. -/
example : (Ramp.initial.run (Ramp.rampChunk reanchorBiasUs ::
    List.replicate 834 (Ramp.rampChunk 0))).moves = 113 := by
  decide +kernel

end Reanchor

end Player
