import SnapcastSync.Player.Push
import SnapcastSync.Protocol.CodecHeader

/-! What `push_chunk_` adds to `pushed_frames_total_`: at each write the whole frames of what the
speaker took. -/

namespace Player

open Protocol

/-- What `on_audio_write` answers for the rest of a slice, without the answers that take nothing. -/
def sliceAnswers (left zeroWrites : Nat) (turns : List WriteTurn) : List Nat :=
  match turns with
  | [] => []
  | turn :: rest =>
      if left = 0 then []
      else if !turn.active then []
      else
        let written := min turn.accepted left
        if 0 < written then written :: sliceAnswers (left - written) 0 rest
        else if refusedWrites ≤ zeroWrites + 1 then []
        else sliceAnswers left (zeroWrites + 1) rest

def slicesAnswers (skip : Nat) (turns : List WriteTurn) : List Nat → List Nat
  | [] => []
  | got :: rest =>
      let offset := min skip got
      let slice := writeSlice (got - offset) 0 turns
      sliceAnswers (got - offset) 0 turns ++
        if slice.complete then slicesAnswers (skip - offset) slice.turns rest else []

def chunkAnswers (frameBytes bytes dropFrames : Nat) (turns : List WriteTurn) : List Nat :=
  slicesAnswers (min (dropFrames * frameBytes) bytes) turns (slices bytes)

/-- `pushed_frames_total_ += written / frame_bytes`, over the writes of a chunk. -/
def pushedFrames (params : StreamParams) (bytes dropFrames : Nat) (turns : List WriteTurn) : Nat :=
  ((chunkAnswers params.frameBytes.toNat bytes dropFrames turns).map
    (· / params.frameBytes.toNat)).sum

def missedBytes (params : StreamParams) (bytes dropFrames : Nat) (turns : List WriteTurn) : Nat :=
  ((chunkAnswers params.frameBytes.toNat bytes dropFrames turns).map
    (· % params.frameBytes.toNat)).sum

theorem sum_div_mod (unit : Nat) (sizes : List Nat) :
    unit * (sizes.map (· / unit)).sum + (sizes.map (· % unit)).sum = sizes.sum := by
  induction sizes with
  | nil => rfl
  | cons size rest ih =>
      have first := Nat.div_add_mod size unit
      simp only [List.map_cons, List.sum_cons, Nat.mul_add]
      omega

theorem sum_div_eq_iff (unit : Nat) (sizes : List Nat) (some_ : 0 < unit) :
    (sizes.map (· / unit)).sum = sizes.sum / unit ↔ (sizes.map (· % unit)).sum < unit := by
  rw [← sum_div_mod unit sizes, Nat.mul_add_div some_]
  constructor
  · intro same
    exact (Nat.div_eq_zero_iff_lt some_).mp (by omega)
  · intro small
    rw [Nat.div_eq_of_lt small, Nat.add_zero]

theorem sliceAnswers_sum (left zeroWrites : Nat) (turns : List WriteTurn) :
    (sliceAnswers left zeroWrites turns).sum = (writeSlice left zeroWrites turns).written := by
  induction turns generalizing left zeroWrites with
  | nil => rfl
  | cons turn rest ih =>
      rw [sliceAnswers, writeSlice]
      by_cases done : left = 0
      · rw [if_pos done, if_pos done]
        rfl
      · rw [if_neg done, if_neg done]
        split
        · rfl
        · dsimp only
          split
          · rw [List.sum_cons, ih]
          · split
            · rfl
            · exact ih _ _

theorem slicesAnswers_sum (skip : Nat) (turns : List WriteTurn) (sizes : List Nat) :
    (slicesAnswers skip turns sizes).sum = (pushSlices skip turns sizes).written := by
  induction sizes generalizing skip turns with
  | nil => rfl
  | cons got rest ih =>
      rw [slicesAnswers, pushSlices]
      dsimp only
      rw [List.sum_append, sliceAnswers_sum]
      split
      · rw [ih]
      · rfl

theorem chunkAnswers_sum (frameBytes bytes : Nat) (turns : List WriteTurn)
    (complete : (pushChunk frameBytes bytes 0 turns).complete = true) :
    (chunkAnswers frameBytes bytes 0 turns).sum = bytes := by
  have written := (pushChunk_written frameBytes bytes 0 turns).2.mp complete
  rw [Nat.zero_mul, Nat.zero_min, Nat.sub_zero] at written
  rw [chunkAnswers, slicesAnswers_sum]
  exact written

def TakesAll (turns : List WriteTurn) : Prop := ∀ turn ∈ turns, sliceBufferSize ≤ turn.accepted

theorem sliceAnswers_of_takesAll (left : Nat) (turns : List WriteTurn) (all : TakesAll turns)
    (within : left ≤ sliceBufferSize) (complete : (writeSlice left 0 turns).complete = true) :
    sliceAnswers left 0 turns = (if left = 0 then [] else [left]) ∧
      TakesAll (writeSlice left 0 turns).turns := by
  cases turns with
  | nil =>
      have done : left = 0 := of_decide_eq_true complete
      rw [if_pos done]
      exact ⟨rfl, nofun⟩
  | cons turn rest =>
      have taken := all turn List.mem_cons_self
      have others : TakesAll rest := fun other member => all other (List.mem_cons_of_mem _ member)
      rw [writeSlice] at complete
      rw [sliceAnswers, writeSlice]
      by_cases done : left = 0
      · rw [if_pos done, if_pos done, if_pos done]
        exact ⟨rfl, all⟩
      · rw [if_neg done] at complete
        rw [if_neg done, if_neg done, if_neg done]
        cases active : turn.active with
        | false =>
            rw [active] at complete
            cases complete
        | true =>
            have whole : min turn.accepted left = left := min_eq_right (le_trans within taken)
            have some_ : 0 < left := Nat.pos_of_ne_zero done
            have going : ¬ (!true) = true := by decide
            rw [if_neg going, if_neg going]
            dsimp only
            rw [whole, if_pos some_, if_pos some_, Nat.sub_self]
            cases rest with
            | nil => exact ⟨rfl, nofun⟩
            | cons next later => exact ⟨rfl, others⟩

theorem slicesAnswers_of_takesAll (turns : List WriteTurn) (sizes : List Nat)
    (all : TakesAll turns) (within : ∀ size ∈ sizes, size ≤ sliceBufferSize)
    (complete : (pushSlices 0 turns sizes).complete = true) :
    slicesAnswers 0 turns sizes = sizes.filter (0 < ·) := by
  induction sizes generalizing turns with
  | nil => rfl
  | cons got rest ih =>
      rw [pushSlices] at complete
      rw [slicesAnswers]
      dsimp only at complete ⊢
      rw [Nat.zero_min, Nat.sub_zero] at complete ⊢
      cases sliced : (writeSlice got 0 turns).complete with
      | false =>
          rw [sliced, if_neg Bool.false_ne_true, sliced] at complete
          cases complete
      | true =>
          rw [sliced, if_pos rfl] at complete
          obtain ⟨answers, others⟩ :=
            sliceAnswers_of_takesAll got turns all (within got List.mem_cons_self) sliced
          rw [if_pos rfl, answers, ih _ others
            (fun size member => within size (List.mem_cons_of_mem _ member)) complete,
            List.filter_cons]
          rcases Nat.eq_zero_or_pos got with rfl | some_
          · rfl
          · rw [if_neg (Nat.ne_of_gt some_), if_pos (decide_eq_true some_)]
            rfl

theorem missedBytes_of_takesAll (params : StreamParams) (bytes : Nat) (turns : List WriteTurn)
    (all : TakesAll turns)
    (complete : (pushChunk params.frameBytes.toNat bytes 0 turns).complete = true) :
    missedBytes params bytes 0 turns =
      bytes / sliceBufferSize * (sliceBufferSize % params.frameBytes.toNat) +
        bytes % sliceBufferSize % params.frameBytes.toNat := by
  have within : ∀ size ∈ slices bytes, size ≤ sliceBufferSize := by
    intro size member
    rw [slices, List.mem_append, List.mem_singleton] at member
    rcases member with full | rfl
    · exact (List.eq_of_mem_replicate full).le
    · exact (Nat.mod_lt bytes (by decide)).le
  have dropped (unit : Nat) (sizes : List Nat) :
      ((sizes.filter (0 < ·)).map (· % unit)).sum = (sizes.map (· % unit)).sum := by
    induction sizes with
    | nil => rfl
    | cons size rest ih =>
        rw [List.filter_cons, List.map_cons, List.sum_cons, ← ih]
        rcases Nat.eq_zero_or_pos size with rfl | some_
        · simp
        · rw [if_pos (decide_eq_true some_), List.map_cons, List.sum_cons]
  rw [pushChunk, Nat.zero_mul, Nat.zero_min] at complete
  rw [missedBytes, chunkAnswers, Nat.zero_mul, Nat.zero_min,
    slicesAnswers_of_takesAll turns (slices bytes) all within complete, dropped, slices,
    List.map_append, List.map_replicate, List.sum_append, List.sum_replicate_nat]
  rfl

/-- All frames of a chunk are counted when the answers miss less than a frame together. -/
theorem pushedFrames_exact_iff (params : StreamParams) (bytes : Nat) (turns : List WriteTurn)
    (framed : params.frameBytes ≠ 0)
    (complete : (pushChunk params.frameBytes.toNat bytes 0 turns).complete = true) :
    pushedFrames params bytes 0 turns = bytes / params.frameBytes.toNat ↔
      missedBytes params bytes 0 turns < params.frameBytes.toNat := by
  have some_ : 0 < params.frameBytes.toNat := by
    rw [Nat.pos_iff_ne_zero]
    exact fun zero => framed (UInt32.toNat_inj.mp zero)
  have sum := chunkAnswers_sum params.frameBytes.toNat bytes turns complete
  have counted := sum_div_eq_iff params.frameBytes.toNat
    (chunkAnswers params.frameBytes.toNat bytes 0 turns) some_
  rw [sum] at counted
  exact counted

theorem stereo_counted :
    pushedFrames ⟨48000, 16, 2⟩ 4608 0 [⟨true, 4096⟩, ⟨true, 4096⟩] =
      4608 / (StreamParams.frameBytes ⟨48000, 16, 2⟩).toNat :=
  (pushedFrames_exact_iff ⟨48000, 16, 2⟩ 4608 [⟨true, 4096⟩, ⟨true, 4096⟩] (by decide)
    (by decide)).mpr (by decide)

/-- A format of three channels is taken, and of 1024 frames in two slices 1023 are counted. -/
theorem three_channels_undercounted :
    ((StreamDecoder.start : StreamDecoder noDecoders).handleCodecHeader 0
        (memoryAt 4096 (pcmHeaderBytes 3 0)) 4096 55).codec = .pcm ∧
      ((StreamDecoder.start : StreamDecoder noDecoders).handleCodecHeader 0
        (memoryAt 4096 (pcmHeaderBytes 3 0)) 4096 55).streamParams = ⟨48000, 16, 3⟩ ∧
      (pushChunk (StreamParams.frameBytes ⟨48000, 16, 3⟩).toNat 6144 0
        [⟨true, 4096⟩, ⟨true, 4096⟩]).complete = true ∧
      pushedFrames ⟨48000, 16, 3⟩ 6144 0 [⟨true, 4096⟩, ⟨true, 4096⟩] ≠
        6144 / (StreamParams.frameBytes ⟨48000, 16, 3⟩).toNat := by
  decide +kernel

end Player
