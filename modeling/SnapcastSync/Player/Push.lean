import Mathlib.Algebra.Order.Ring.Canonical
import Mathlib.Algebra.Order.Ring.Nat

/-! `push_silence_` and `push_chunk_`. The speaker answers each write with the bytes it takes,
possibly none; a script of such answers stands for everything behind the write, and a script
that ends stands for a player that is shut down. -/

namespace Player

def sliceBufferSize : Nat := 4096
def refusedWrites : Nat := 20

/-- One turn of a write loop: whether the output is active with a listener and no shutdown,
and how many bytes the speaker would take. -/
structure WriteTurn where
  active : Bool
  accepted : Nat
deriving DecidableEq, Repr

structure SilencePush where
  pushed : Nat
  bytes : Nat
deriving DecidableEq, Repr

def SilencePush.none : SilencePush := ⟨0, 0⟩

def silenceWritten (frameBytes frames : Nat) (turn : WriteTurn) : Nat :=
  min turn.accepted (min frames (sliceBufferSize / frameBytes) * frameBytes)

/-- The loop of `push_silence_` with `frames` frames still to push. -/
def pushSilence (frameBytes frames : Nat) : List WriteTurn → SilencePush
  | [] => SilencePush.none
  | turn :: rest =>
      let written := silenceWritten frameBytes frames turn
      if frames = 0 ∨ turn.active = false ∨ written = 0 then SilencePush.none
      else
        let later := pushSilence frameBytes (frames - written / frameBytes) rest
        ⟨written / frameBytes + later.pushed, written + later.bytes⟩

def TakesSome (frameBytes : Nat) : List WriteTurn → Prop
  | [] => False
  | turn :: _ => turn.active = true ∧ 0 < silenceWritten frameBytes 1 turn

/-- The speaker takes this many frames of silence, whole frames at every turn. -/
def TakesSilence (frameBytes frames : Nat) : List WriteTurn → Prop
  | [] => frames = 0
  | turn :: rest =>
      let written := silenceWritten frameBytes frames turn
      frames = 0 ∨
        (turn.active = true ∧ 0 < written ∧ frameBytes ∣ written ∧
          TakesSilence frameBytes (frames - written / frameBytes) rest)

/-- The speaker takes silence until this many frames of it are counted. -/
def CountsSilence (frameBytes frames : Nat) : List WriteTurn → Prop
  | [] => frames = 0
  | turn :: rest =>
      let written := silenceWritten frameBytes frames turn
      frames = 0 ∨
        (turn.active = true ∧ 0 < written ∧
          CountsSilence frameBytes (frames - written / frameBytes) rest)

/-- What a write loop of `push_chunk_` did with the rest of a slice. -/
structure SlicePush where
  written : Nat
  complete : Bool
  turns : List WriteTurn
deriving DecidableEq, Repr

/-- The inner loop of `push_chunk_` with `left` bytes of the slice still to write, after
`zeroWrites` turns in a row that took nothing. -/
def writeSlice (left zeroWrites : Nat) (turns : List WriteTurn) : SlicePush :=
  match turns with
  | [] => ⟨0, decide (left = 0), []⟩
  | turn :: rest =>
      if left = 0 then ⟨0, true, turn :: rest⟩
      else if !turn.active then ⟨0, false, rest⟩
      else
        let written := min turn.accepted left
        if 0 < written then
          let later := writeSlice (left - written) 0 rest
          { later with written := written + later.written }
        else if refusedWrites ≤ zeroWrites + 1 then ⟨0, false, rest⟩
        else writeSlice left (zeroWrites + 1) rest

def slices (bytes : Nat) : List Nat :=
  List.replicate (bytes / sliceBufferSize) sliceBufferSize ++ [bytes % sliceBufferSize]

/-- The outer loop of `push_chunk_`, with `skip` bytes still to drop; the rest of the chunk is
discarded where a slice is not written to its end. -/
def pushSlices (skip : Nat) (turns : List WriteTurn) : List Nat → SlicePush
  | [] => ⟨0, true, turns⟩
  | got :: rest =>
      let offset := min skip got
      let slice := writeSlice (got - offset) 0 turns
      if slice.complete then
        let later := pushSlices (skip - offset) slice.turns rest
        { later with written := slice.written + later.written }
      else slice

/-- `push_chunk_`, as far as bytes are concerned. -/
def pushChunk (frameBytes bytes dropFrames : Nat) (turns : List WriteTurn) : SlicePush :=
  pushSlices (min (dropFrames * frameBytes) bytes) turns (slices bytes)

theorem pushSilence_counted (frameBytes frames : Nat) (turns : List WriteTurn) :
    (pushSilence frameBytes frames turns).pushed * frameBytes ≤
      (pushSilence frameBytes frames turns).bytes := by
  induction turns generalizing frames with
  | nil => simp [pushSilence, SilencePush.none]
  | cons turn rest ih =>
      unfold pushSilence
      dsimp only
      split
      · simp [SilencePush.none]
      · rw [Nat.add_mul]
        exact Nat.add_le_add (Nat.div_mul_le_self _ _) (ih _)

theorem silenceWritten_le (frameBytes frames : Nat) (turn : WriteTurn) :
    silenceWritten frameBytes frames turn / frameBytes ≤ frames := by
  have offered : silenceWritten frameBytes frames turn ≤ frameBytes * frames := by
    unfold silenceWritten
    rw [Nat.mul_comm frameBytes frames]
    exact le_trans (min_le_right _ _) (Nat.mul_le_mul_right frameBytes (min_le_left _ _))
  exact Nat.div_le_of_le_mul offered

theorem silenceWritten_pos_iff (frameBytes frames : Nat) (turn : WriteTurn) :
    0 < silenceWritten frameBytes frames turn ↔
      0 < frames ∧ 0 < silenceWritten frameBytes 1 turn := by
  unfold silenceWritten
  rw [lt_min_iff, lt_min_iff, CanonicallyOrderedAdd.mul_pos, CanonicallyOrderedAdd.mul_pos,
    lt_min_iff, lt_min_iff]
  constructor
  · rintro ⟨accepted, ⟨asked, room⟩, framed⟩
    exact ⟨asked, accepted, ⟨Nat.one_pos, room⟩, framed⟩
  · rintro ⟨asked, accepted, ⟨_, room⟩, framed⟩
    exact ⟨accepted, ⟨asked, room⟩, framed⟩

theorem pushSilence_pushed_le (frameBytes frames : Nat) (turns : List WriteTurn) :
    (pushSilence frameBytes frames turns).pushed ≤ frames := by
  induction turns generalizing frames with
  | nil => exact Nat.zero_le _
  | cons turn rest ih =>
      have first := silenceWritten_le frameBytes frames turn
      have later := ih (frames - silenceWritten frameBytes frames turn / frameBytes)
      unfold pushSilence
      dsimp only
      split
      · exact Nat.zero_le _
      · dsimp only
        omega

theorem pushSilence_bytes_pos_iff (frameBytes frames : Nat) (turns : List WriteTurn) :
    0 < (pushSilence frameBytes frames turns).bytes ↔
      0 < frames ∧ TakesSome frameBytes turns := by
  cases turns with
  | nil => exact iff_of_false (lt_irrefl 0) fun both => both.2
  | cons turn rest =>
      have written := silenceWritten_pos_iff frameBytes frames turn
      unfold pushSilence TakesSome
      dsimp only
      by_cases stops : frames = 0 ∨ turn.active = false ∨
          silenceWritten frameBytes frames turn = 0
      · rw [if_pos stops]
        refine iff_of_false (lt_irrefl 0) ?_
        rintro ⟨asked, active, room⟩
        rcases stops with none_ | silent | refused
        · omega
        · rw [silent] at active
          cases active
        · have took := written.mpr ⟨asked, room⟩
          omega
      · rw [if_neg stops]
        simp only [not_or, Bool.not_eq_false] at stops
        have took : 0 < silenceWritten frameBytes frames turn := Nat.pos_of_ne_zero stops.2.2
        refine iff_of_true (Nat.add_pos_left took _) ?_
        exact ⟨(written.mp took).1, stops.2.1, (written.mp took).2⟩

theorem pushSilence_pushed_of_refused (frameBytes frames : Nat) (turns : List WriteTurn)
    (framed : 0 < frameBytes) (refused : ¬ (0 < frames ∧ TakesSome frameBytes turns)) :
    (pushSilence frameBytes frames turns).pushed = 0 := by
  have counted := pushSilence_counted frameBytes frames turns
  have dry := mt (pushSilence_bytes_pos_iff frameBytes frames turns).mp refused
  rw [Nat.eq_zero_of_not_pos dry, Nat.le_zero, Nat.mul_eq_zero] at counted
  exact counted.resolve_right (Nat.ne_of_gt framed)

/-- A first write and what follows it are the frames asked for, to the byte, exactly when the
write is of whole frames and what follows is the frames that are left. -/
private theorem write_full_iff (frameBytes frames written pushed bytes : Nat)
    (bounded : written / frameBytes ≤ frames) (counted : pushed * frameBytes ≤ bytes) :
    (written / frameBytes + pushed = frames ∧ written + bytes = frames * frameBytes) ↔
      frameBytes ∣ written ∧ pushed = frames - written / frameBytes ∧
        bytes = (frames - written / frameBytes) * frameBytes := by
  have whole := Nat.div_mul_le_self written frameBytes
  obtain ⟨left, total⟩ := Nat.exists_eq_add_of_le bounded
  rw [total, Nat.add_sub_cancel_left, Nat.add_mul]
  constructor
  · rintro ⟨sum, size⟩
    have same : pushed = left := Nat.add_left_cancel sum
    subst same
    have divides : written / frameBytes * frameBytes = written := by omega
    exact ⟨⟨written / frameBytes, by rw [Nat.mul_comm, divides]⟩, rfl, by omega⟩
  · rintro ⟨divides, rfl, rfl⟩
    exact ⟨rfl, by rw [Nat.div_mul_cancel divides]⟩

/-- Silence is pushed in full exactly when the speaker takes it in whole frames. -/
theorem pushSilence_full_iff (frameBytes frames : Nat) (turns : List WriteTurn) :
    ((pushSilence frameBytes frames turns).pushed = frames ∧
        (pushSilence frameBytes frames turns).bytes = frames * frameBytes) ↔
      TakesSilence frameBytes frames turns := by
  induction turns generalizing frames with
  | nil =>
      change (0 = frames ∧ 0 = frames * frameBytes) ↔ frames = 0
      constructor
      · rintro ⟨none_, _⟩
        exact none_.symm
      · rintro rfl
        exact ⟨rfl, (Nat.zero_mul frameBytes).symm⟩
  | cons turn rest ih =>
      unfold pushSilence TakesSilence
      dsimp only
      generalize sized : silenceWritten frameBytes frames turn = written
      have bounded : written / frameBytes ≤ frames := by
        rw [← sized]
        exact silenceWritten_le frameBytes frames turn
      by_cases stops : frames = 0 ∨ turn.active = false ∨ written = 0
      · rw [if_pos stops]
        by_cases none_ : frames = 0
        · refine iff_of_true ?_ (Or.inl none_)
          rw [none_]
          exact ⟨rfl, (Nat.zero_mul frameBytes).symm⟩
        · refine iff_of_false (fun full => none_ full.1.symm) ?_
          rintro (asked | ⟨active, took, _⟩)
          · exact none_ asked
          · rcases stops with asked | silent | refused
            · exact none_ asked
            · rw [silent] at active
              cases active
            · omega
      · rw [if_neg stops]
        simp only [not_or, Bool.not_eq_false] at stops
        obtain ⟨asks, active, took⟩ := stops
        have counted := pushSilence_counted frameBytes (frames - written / frameBytes) rest
        have split := write_full_iff frameBytes frames written _ _ bounded counted
        refine split.trans ?_
        rw [ih (frames - written / frameBytes), or_iff_right asks, and_iff_right active,
          and_iff_right (Nat.pos_of_ne_zero took)]

theorem pushSilence_pushed_eq_iff (frameBytes frames : Nat) (turns : List WriteTurn) :
    (pushSilence frameBytes frames turns).pushed = frames ↔
      CountsSilence frameBytes frames turns := by
  induction turns generalizing frames with
  | nil => exact eq_comm
  | cons turn rest ih =>
      have bounded := silenceWritten_le frameBytes frames turn
      have onward := ih (frames - silenceWritten frameBytes frames turn / frameBytes)
      unfold pushSilence CountsSilence
      dsimp only
      by_cases stops : frames = 0 ∨ turn.active = false ∨
          silenceWritten frameBytes frames turn = 0
      · rw [if_pos stops]
        by_cases none_ : frames = 0
        · exact iff_of_true none_.symm (Or.inl none_)
        · refine iff_of_false (fun same => none_ same.symm) ?_
          rintro (asked | ⟨active, took, _⟩)
          · exact none_ asked
          · rcases stops with asked | silent | refused
            · exact none_ asked
            · rw [silent] at active
              cases active
            · omega
      · rw [if_neg stops]
        simp only [not_or, Bool.not_eq_false] at stops
        rw [or_iff_right stops.1, and_iff_right stops.2.1,
          and_iff_right (Nat.pos_of_ne_zero stops.2.2), ← onward]
        dsimp only
        omega

theorem writeSlice_written (left zeroWrites : Nat) (turns : List WriteTurn) :
    (writeSlice left zeroWrites turns).written ≤ left ∧
      ((writeSlice left zeroWrites turns).complete = true ↔
        (writeSlice left zeroWrites turns).written = left) := by
  induction turns generalizing left zeroWrites with
  | nil =>
      refine ⟨Nat.zero_le left, ?_⟩
      change decide (left = 0) = true ↔ 0 = left
      rw [decide_eq_true_eq]
      exact eq_comm
  | cons turn rest ih =>
      unfold writeSlice
      dsimp only
      by_cases done : left = 0
      · rw [if_pos done, done]
        exact ⟨le_refl 0, iff_of_true rfl rfl⟩
      · rw [if_neg done]
        have unfinished : ((⟨0, false, rest⟩ : SlicePush).complete = true ↔
            (⟨0, false, rest⟩ : SlicePush).written = left) :=
          iff_of_false (fun absent => by cases absent) fun same => done same.symm
        cases turn.active with
        | false => exact ⟨Nat.zero_le left, unfinished⟩
        | true =>
            rw [if_neg (by decide)]
            by_cases took : 0 < min turn.accepted left
            · rw [if_pos took]
              obtain ⟨bound, whole⟩ := ih (left - min turn.accepted left) 0
              have offered : min turn.accepted left ≤ left := min_le_right _ _
              refine ⟨by dsimp only; omega, ?_⟩
              dsimp only
              rw [whole]
              omega
            · rw [if_neg took]
              split
              · exact ⟨Nat.zero_le left, unfinished⟩
              · exact ih left (zeroWrites + 1)

theorem pushSlices_written (skip : Nat) (turns : List WriteTurn) (sizes : List Nat)
    (within : skip ≤ sizes.sum) :
    (pushSlices skip turns sizes).written ≤ sizes.sum - skip ∧
      ((pushSlices skip turns sizes).complete = true ↔
        (pushSlices skip turns sizes).written = sizes.sum - skip) := by
  induction sizes generalizing skip turns with
  | nil =>
      rw [List.sum_nil] at within
      refine ⟨Nat.zero_le _, iff_of_true rfl ?_⟩
      rw [List.sum_nil]
      exact (Nat.zero_sub skip).symm
  | cons got rest ih =>
      rw [List.sum_cons] at within ⊢
      obtain ⟨bound, whole⟩ := writeSlice_written (got - min skip got) 0 turns
      unfold pushSlices
      dsimp only
      generalize writeSlice (got - min skip got) 0 turns = slice at bound whole ⊢
      cases complete : slice.complete with
      | true =>
          have filled := whole.mp complete
          obtain ⟨laterBound, laterWhole⟩ := ih (skip - min skip got) slice.turns (by omega)
          refine ⟨by simp only [if_true]; omega, ?_⟩
          simp only [if_true]
          rw [laterWhole]
          omega
      | false =>
          have short : slice.written ≠ got - min skip got := by
            intro filled
            rw [whole.mpr filled] at complete
            cases complete
          refine ⟨by simp only [Bool.false_eq_true, if_false]; omega, ?_⟩
          simp only [Bool.false_eq_true, if_false, complete, false_iff]
          omega

theorem slices_sum (bytes : Nat) : (slices bytes).sum = bytes := by
  unfold slices
  rw [List.sum_append, List.sum_replicate_nat, List.sum_singleton, Nat.mul_comm]
  exact Nat.div_add_mod bytes sliceBufferSize

theorem pushChunk_written (frameBytes bytes dropFrames : Nat) (turns : List WriteTurn) :
    (pushChunk frameBytes bytes dropFrames turns).written ≤
        bytes - min (dropFrames * frameBytes) bytes ∧
      ((pushChunk frameBytes bytes dropFrames turns).complete = true ↔
        (pushChunk frameBytes bytes dropFrames turns).written =
          bytes - min (dropFrames * frameBytes) bytes) := by
  have within : min (dropFrames * frameBytes) bytes ≤ (slices bytes).sum := by
    rw [slices_sum]
    exact min_le_right _ _
  have pushed := pushSlices_written _ turns (slices bytes) within
  rw [slices_sum] at pushed
  exact pushed

end Player
