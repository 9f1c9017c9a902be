import Mathlib.Data.List.Basic
import SnapcastSync.Lib.Words
import SnapcastSync.Player.Push
import SnapcastSync.Protocol.CodecHeader

/-! The audio of a chunk on its way to the speaker: the channel mode slice by slice, the frames
that are dropped in front, and the writes with their render tags. -/

namespace Player

open Protocol

inductive ChannelMode
  | stereo
  | leftOnly
  | rightOnly
  | mono
deriving DecidableEq, Repr

inductive PhaseMode
  | none
  | left
  | right
  | both
deriving DecidableEq, Repr

structure OutputModes where
  channel : ChannelMode
  phase : PhaseMode
deriving DecidableEq, Repr

/-- The negation of the least sample overflows. -/
def invertSample (s : Int16) : Int16 := if s = Int16.minValue then Int16.maxValue else -s

def sampleAt (low high : UInt8) : Int16 := (Words.halfWord low high).toInt16

def sampleBytes (s : Int16) : List UInt8 := Words.halfWordBytes s.toUInt16

/-- A pass over the frames of two samples; what is left behind the last is not touched. -/
def mapFrames (pass : Int16 × Int16 → Int16 × Int16) : List UInt8 → List UInt8
  | first :: second :: third :: fourth :: rest =>
      let frame := pass (sampleAt first second, sampleAt third fourth)
      sampleBytes frame.1 ++ (sampleBytes frame.2 ++ mapFrames pass rest)
  | rest => rest

def mapSamples (pass : Int16 → Int16) : List UInt8 → List UInt8
  | first :: second :: rest => sampleBytes (pass (sampleAt first second)) ++ mapSamples pass rest
  | rest => rest

def route (mode : ChannelMode) (frame : Int16 × Int16) : Int16 × Int16 :=
  match mode with
  | .stereo => frame
  | .leftOnly => (frame.1, frame.1)
  | .rightOnly => (frame.2, frame.2)
  | .mono =>
      let mixed := Int16.ofInt (Int.tdiv (frame.1.toInt + frame.2.toInt) 2)
      (mixed, mixed)

def invertFrame (phase : PhaseMode) (frame : Int16 × Int16) : Int16 × Int16 :=
  (if phase ≠ .right then invertSample frame.1 else frame.1,
    if phase ≠ .left then invertSample frame.2 else frame.2)

def applyChannelMode (modes : OutputModes) (params : StreamParams) (data : List UInt8) :
    List UInt8 :=
  if params.bitsPerSample ≠ 16 then data
  else
    let routed :=
      if modes.channel ≠ .stereo ∧ params.channels = 2 then mapFrames (route modes.channel) data
      else data
    if modes.phase = .none then routed
    else if params.channels = 2 then mapFrames (invertFrame modes.phase) routed
    else if params.channels = 1 then mapSamples invertSample routed
    else routed

structure RenderTag where
  serverTs : Nat
  offsetFrames : Nat
deriving DecidableEq, Repr

structure TaggedWrite where
  tag : Option RenderTag
  bytes : List UInt8
deriving DecidableEq

structure AudioRecord where
  serverTsUs : Int
  params : StreamParams
  data : List UInt8
deriving DecidableEq

namespace AudioRecord

/-- A server time that is not positive cannot be a tag. -/
def renderTag (record : AudioRecord) (position : Nat) : Option RenderTag :=
  if 0 < record.serverTsUs then
    some
      { serverTs := record.serverTsUs.toNat
        offsetFrames := position / record.params.frameBytes.toNat }
  else none

end AudioRecord

structure AudioPush where
  writes : List TaggedWrite
  complete : Bool
  turns : List WriteTurn
deriving DecidableEq

def AudioPush.audio (push : AudioPush) : List UInt8 := push.writes.flatMap TaggedWrite.bytes

def AudioPush.after (push : AudioPush) (write : TaggedWrite) : AudioPush :=
  { push with writes := write :: push.writes }

/-- The inner loop of `push_chunk_`, with `left` of the slice still to write from this position of
the chunk on. -/
def writeSliceAudio (record : AudioRecord) (left : List UInt8) (position zeroWrites : Nat)
    (turns : List WriteTurn) : AudioPush :=
  match turns with
  | [] => ⟨[], left.isEmpty, []⟩
  | turn :: rest =>
      if left = [] then ⟨[], true, turn :: rest⟩
      else if !turn.active then ⟨[], false, rest⟩
      else
        let written := min turn.accepted left.length
        let write : TaggedWrite := ⟨record.renderTag position, left.take written⟩
        if 0 < written then
          (writeSliceAudio record (left.drop written) (position + written) 0 rest).after write
        else if refusedWrites ≤ zeroWrites + 1 then ⟨[write], false, rest⟩
        else (writeSliceAudio record left position (zeroWrites + 1) rest).after write

def sliceAudio (modes : OutputModes) (params : StreamParams) (silent : Bool)
    (slice : List UInt8) : List UInt8 :=
  applyChannelMode modes params (if silent then List.replicate slice.length 0 else slice)

/-- The outer loop of `push_chunk_`, with `data` still in the ring, of which `skip` bytes are to
drop, and `done` bytes of the chunk taken before; `modes` are the settings slice by slice. -/
def pushSlicesAudio (record : AudioRecord) (silent : Bool) (modes : Nat → OutputModes)
    (data : List UInt8) (skip done : Nat) (turns : List WriteTurn) : AudioPush :=
  if data = [] then ⟨[], true, turns⟩
  else
    let got := data.take sliceBufferSize
    let offset := min skip got.length
    let slice := writeSliceAudio record
      ((sliceAudio (modes 0) record.params silent got).drop offset) (done + offset) 0 turns
    if slice.complete then
      let later := pushSlicesAudio record silent (fun index => modes (index + 1))
        (data.drop sliceBufferSize) (skip - offset) (done + got.length) slice.turns
      { later with writes := slice.writes ++ later.writes }
    else slice
termination_by data.length
decreasing_by
  have some_ : 0 < data.length := List.length_pos_iff.mpr (by assumption)
  rw [List.length_drop]
  exact Nat.sub_lt some_ (by decide)

def pushChunkAudio (record : AudioRecord) (dropFrames : Nat) (silent : Bool)
    (modes : Nat → OutputModes) (turns : List WriteTurn) : AudioPush :=
  pushSlicesAudio record silent modes record.data
    (min (dropFrames * record.params.frameBytes.toNat) record.data.length) 0 turns

def chunkAudio (params : StreamParams) (silent : Bool) (modes : Nat → OutputModes)
    (data : List UInt8) : List UInt8 :=
  if data = [] then []
  else
    sliceAudio (modes 0) params silent (data.take sliceBufferSize) ++
      chunkAudio params silent (fun index => modes (index + 1)) (data.drop sliceBufferSize)
termination_by data.length
decreasing_by
  have some_ : 0 < data.length := List.length_pos_iff.mpr (by assumption)
  rw [List.length_drop]
  exact Nat.sub_lt some_ (by decide)

theorem sampleBytes_length (s : Int16) : (sampleBytes s).length = 2 := rfl

theorem mapFrames_length (pass : Int16 × Int16 → Int16 × Int16) (data : List UInt8) :
    (mapFrames pass data).length = data.length := by
  fun_induction mapFrames pass data with
  | case1 first second third fourth rest frame ih =>
      simp only [List.length_append, List.length_cons, sampleBytes_length, ih]
      omega
  | case2 => rfl

theorem mapSamples_length (pass : Int16 → Int16) (data : List UInt8) :
    (mapSamples pass data).length = data.length := by
  fun_induction mapSamples pass data with
  | case1 first second rest ih =>
      simp only [List.length_append, List.length_cons, sampleBytes_length, ih]
      omega
  | case2 => rfl

theorem mapFrames_append (pass : Int16 × Int16 → Int16 × Int16) (early late : List UInt8)
    (framed : 4 ∣ early.length) :
    mapFrames pass (early ++ late) = mapFrames pass early ++ mapFrames pass late := by
  fun_induction mapFrames pass early with
  | case1 first second third fourth rest frame ih =>
      have shorter : 4 ∣ rest.length :=
        (Nat.dvd_add_left (Nat.dvd_refl 4)).mp framed
      rw [List.append_assoc, List.append_assoc, ← ih shorter]
      rfl
  | case2 rest short =>
      match rest with
      | [] => rfl
      | [_] => exact absurd framed (by decide : ¬ 4 ∣ 1)
      | [_, _] => exact absurd framed (by decide : ¬ 4 ∣ 2)
      | [_, _, _] => exact absurd framed (by decide : ¬ 4 ∣ 3)
      | first :: second :: third :: fourth :: later =>
          exact absurd rfl (short first second third fourth later)

theorem mapSamples_append (pass : Int16 → Int16) (early late : List UInt8)
    (framed : 2 ∣ early.length) :
    mapSamples pass (early ++ late) = mapSamples pass early ++ mapSamples pass late := by
  fun_induction mapSamples pass early with
  | case1 first second rest ih =>
      have shorter : 2 ∣ rest.length :=
        (Nat.dvd_add_left (Nat.dvd_refl 2)).mp framed
      rw [List.append_assoc, ← ih shorter]
      rfl
  | case2 rest short =>
      match rest with
      | [] => rfl
      | [_] => exact absurd framed (by decide : ¬ 2 ∣ 1)
      | first :: second :: later => exact absurd rfl (short first second later)

theorem applyChannelMode_length (modes : OutputModes) (params : StreamParams)
    (data : List UInt8) : (applyChannelMode modes params data).length = data.length := by
  unfold applyChannelMode
  dsimp only
  repeat' split
  all_goals simp only [mapFrames_length, mapSamples_length]

/-- The channel mode looks at one frame at a time: whole frames can be cut off in front. -/
theorem applyChannelMode_append (modes : OutputModes) (params : StreamParams)
    (early late : List UInt8) (framed : 4 ∣ early.length) :
    applyChannelMode modes params (early ++ late) =
      applyChannelMode modes params early ++ applyChannelMode modes params late := by
  have even : 2 ∣ early.length := Nat.dvd_trans (by decide) framed
  have routed : ∀ pass, 4 ∣ (mapFrames pass early).length := fun pass => by
    rw [mapFrames_length]
    exact framed
  have routedEven : ∀ pass, 2 ∣ (mapFrames pass early).length := fun pass =>
    Nat.dvd_trans (by decide) (routed pass)
  unfold applyChannelMode
  dsimp only
  repeat' split
  all_goals first
    | rfl
    | rw [mapFrames_append _ _ _ framed, mapFrames_append _ _ _ (routed _)]
    | rw [mapFrames_append _ _ _ framed, mapSamples_append _ _ _ (routedEven _)]
    | rw [mapFrames_append _ _ _ framed]
    | rw [mapSamples_append _ _ _ even]

theorem sliceAudio_length (modes : OutputModes) (params : StreamParams) (silent : Bool)
    (slice : List UInt8) : (sliceAudio modes params silent slice).length = slice.length := by
  rw [sliceAudio, applyChannelMode_length]
  cases silent with
  | false => rfl
  | true => exact List.length_replicate

theorem sliceAudio_append (modes : OutputModes) (params : StreamParams) (silent : Bool)
    (early late : List UInt8) (framed : 4 ∣ early.length) :
    sliceAudio modes params silent (early ++ late) =
      sliceAudio modes params silent early ++ sliceAudio modes params silent late := by
  unfold sliceAudio
  cases silent with
  | false =>
      simp only [Bool.false_eq_true, if_false]
      exact applyChannelMode_append modes params early late framed
  | true =>
      simp only [if_true]
      rw [List.length_append, List.replicate_add]
      exact applyChannelMode_append modes params _ _ (by rw [List.length_replicate]; exact framed)

theorem sliceAudio_nil (modes : OutputModes) (params : StreamParams) (silent : Bool) :
    sliceAudio modes params silent [] = [] :=
  List.length_eq_zero_iff.mp (sliceAudio_length modes params silent [])

theorem chunkAudio_cons (params : StreamParams) (silent : Bool) (modes : Nat → OutputModes)
    (data : List UInt8) (some_ : data ≠ []) :
    chunkAudio params silent modes data =
      sliceAudio (modes 0) params silent (data.take sliceBufferSize) ++
        chunkAudio params silent (fun index => modes (index + 1)) (data.drop sliceBufferSize) := by
  rw [chunkAudio, if_neg some_]

theorem chunkAudio_length (params : StreamParams) (silent : Bool) (modes : Nat → OutputModes)
    (data : List UInt8) : (chunkAudio params silent modes data).length = data.length := by
  induction length : data.length using Nat.strong_induction_on generalizing data modes with
  | _ count ih =>
      by_cases none_ : data = []
      · rw [chunkAudio, if_pos none_, ← length, none_]
      · have some_ : 0 < data.length := List.length_pos_iff.mpr none_
        have shorter : (data.drop sliceBufferSize).length < count := by
          rw [List.length_drop, ← length]
          exact Nat.sub_lt some_ (by decide)
        rw [chunkAudio_cons _ _ _ _ none_, List.length_append, sliceAudio_length,
          ih _ shorter _ _ rfl, ← List.length_append, List.take_append_drop, length]

/-- With settings that stay, the slices make no difference. -/
theorem chunkAudio_const (params : StreamParams) (silent : Bool) (modes : OutputModes)
    (data : List UInt8) :
    chunkAudio params silent (fun _ => modes) data = sliceAudio modes params silent data := by
  induction length : data.length using Nat.strong_induction_on generalizing data with
  | _ count ih =>
      by_cases none_ : data = []
      · subst none_
        rw [chunkAudio, if_pos rfl, sliceAudio_nil]
      · have some_ : 0 < data.length := List.length_pos_iff.mpr none_
        have shorter : (data.drop sliceBufferSize).length < count := by
          rw [List.length_drop, ← length]
          exact Nat.sub_lt some_ (by decide)
        rw [chunkAudio_cons _ _ _ _ none_, ih _ shorter _ rfl]
        by_cases last : data.length ≤ sliceBufferSize
        · rw [List.take_of_length_le last, List.drop_of_length_le last, sliceAudio_nil,
            List.append_nil]
        · have full : (data.take sliceBufferSize).length = sliceBufferSize :=
            List.length_take_of_le (le_of_not_ge last)
          rw [← sliceAudio_append _ _ _ _ _ (by rw [full]; decide), List.take_append_drop]

/-- Every write is of the audio at its place, and says which place it is. -/
def Lays (record : AudioRecord) (audio : List UInt8) (position : Nat) : List TaggedWrite → Prop
  | [] => True
  | write :: rest =>
      write.tag = record.renderTag position ∧ write.bytes <+: audio ∧
        Lays record (audio.drop write.bytes.length) (position + write.bytes.length) rest

/-- The writes lie one behind the other, and are all of the audio exactly where the push says so. -/
def AudioPush.Places (push : AudioPush) (record : AudioRecord) (audio : List UInt8)
    (position : Nat) : Prop :=
  Lays record audio position push.writes ∧ (push.complete = true ↔ push.audio = audio)

theorem Lays.isInitial {record : AudioRecord} {audio : List UInt8} {position : Nat}
    {writes : List TaggedWrite} (lays : Lays record audio position writes) :
    writes.flatMap TaggedWrite.bytes <+: audio := by
  induction writes generalizing audio position with
  | nil => exact List.nil_prefix
  | cons write rest ih =>
      obtain ⟨_, ⟨left, rfl⟩, later⟩ := lays
      rw [List.drop_left] at later
      rw [List.flatMap_cons]
      exact (List.prefix_append_right_inj write.bytes).mpr (ih later)

theorem Lays.append {record : AudioRecord} {first second : List UInt8} {position : Nat}
    {early late : List TaggedWrite} (lays : Lays record first position early)
    (whole : early.flatMap TaggedWrite.bytes = first)
    (onward : Lays record second (position + first.length) late) :
    Lays record (first ++ second) position (early ++ late) := by
  induction early generalizing first position with
  | nil =>
      rw [List.flatMap_nil] at whole
      subst whole
      exact onward
  | cons write rest ih =>
      obtain ⟨tagged, ⟨left, rfl⟩, later⟩ := lays
      rw [List.flatMap_cons, List.append_cancel_left_eq] at whole
      rw [List.drop_left] at later
      refine ⟨tagged, ⟨left ++ second, (List.append_assoc _ _ _).symm⟩, ?_⟩
      rw [List.append_assoc, List.drop_left]
      refine ih later whole ?_
      rw [List.length_append, ← Nat.add_assoc] at onward
      exact onward

theorem Lays.extend {record : AudioRecord} {audio : List UInt8} {position : Nat}
    {writes : List TaggedWrite} (lays : Lays record audio position writes) (more : List UInt8) :
    Lays record (audio ++ more) position writes := by
  induction writes generalizing audio position with
  | nil => exact trivial
  | cons write rest ih =>
      obtain ⟨tagged, ⟨left, rfl⟩, later⟩ := lays
      rw [List.drop_left] at later
      refine ⟨tagged, ⟨left ++ more, (List.append_assoc _ _ _).symm⟩, ?_⟩
      rw [List.append_assoc, List.drop_left]
      exact ih later

theorem Lays.write {record : AudioRecord} {audio : List UInt8} {position : Nat}
    {writes : List TaggedWrite} (lays : Lays record audio position writes)
    (early late : List TaggedWrite) (write : TaggedWrite)
    (split : writes = early ++ write :: late) :
    write.tag = record.renderTag (position + (early.flatMap TaggedWrite.bytes).length) ∧
      write.bytes =
        (audio.drop (early.flatMap TaggedWrite.bytes).length).take write.bytes.length := by
  induction early generalizing audio position writes with
  | nil =>
      subst split
      obtain ⟨tagged, ⟨left, rfl⟩, _⟩ := lays
      exact ⟨tagged, by rw [List.flatMap_nil, List.length_nil, List.drop_zero, List.take_left]⟩
  | cons first rest ih =>
      subst split
      obtain ⟨_, ⟨left, rfl⟩, later⟩ := lays
      rw [List.drop_left] at later
      obtain ⟨tagged, bytes⟩ := ih later rfl
      rw [List.flatMap_cons, List.length_append, ← Nat.add_assoc]
      refine ⟨tagged, ?_⟩
      rw [List.drop_append, List.drop_of_length_le (Nat.le_add_right _ _), List.nil_append,
        Nat.add_sub_cancel_left]
      exact bytes

theorem AudioPush.Places.after {push : AudioPush} {record : AudioRecord} {left : List UInt8}
    {position : Nat} (count : Nat) (within : count ≤ left.length)
    (places : push.Places record (left.drop count) (position + count)) :
    (push.after ⟨record.renderTag position, left.take count⟩).Places record left position := by
  obtain ⟨lays, whole⟩ := places
  have length : (left.take count).length = count := List.length_take_of_le within
  constructor
  · refine ⟨rfl, List.take_prefix count left, ?_⟩
    dsimp only
    rw [length]
    exact lays
  · refine whole.trans ?_
    have audio : (push.after ⟨record.renderTag position, left.take count⟩).audio =
        left.take count ++ push.audio := List.flatMap_cons
    rw [audio]
    constructor
    · intro same
      rw [same, List.take_append_drop]
    · intro same
      conv_rhs at same => rw [← List.take_append_drop count left]
      exact List.append_cancel_left same

theorem writeSliceAudio_places (record : AudioRecord) (left : List UInt8)
    (position zeroWrites : Nat) (turns : List WriteTurn) :
    (writeSliceAudio record left position zeroWrites turns).Places record left position := by
  induction turns generalizing left position zeroWrites with
  | nil => exact ⟨trivial, by rw [writeSliceAudio, List.isEmpty_iff]; exact eq_comm⟩
  | cons turn rest ih =>
      unfold writeSliceAudio
      by_cases done : left = []
      · rw [if_pos done, done]
        exact ⟨trivial, iff_of_true rfl rfl⟩
      rw [if_neg done]
      cases turn.active with
      | false => exact ⟨trivial, iff_of_false Bool.false_ne_true fun same => done same.symm⟩
      | true =>
          rw [if_neg (by decide)]
          dsimp only
          by_cases took : 0 < min turn.accepted left.length
          · rw [if_pos took]
            exact (ih _ _ 0).after _ (min_le_right _ _)
          · rw [if_neg took, Nat.eq_zero_of_not_pos took]
            split
            · refine ⟨⟨rfl, List.nil_prefix, trivial⟩, ?_⟩
              exact iff_of_false Bool.false_ne_true fun same => done same.symm
            · exact (ih left position (zeroWrites + 1)).after 0 (Nat.zero_le _)

theorem writeSliceAudio_nil (record : AudioRecord) (position zeroWrites : Nat)
    (turns : List WriteTurn) :
    writeSliceAudio record [] position zeroWrites turns = ⟨[], true, turns⟩ := by
  cases turns with
  | nil => rfl
  | cons turn rest => rfl

theorem AudioPush.Places.append {slice later : AudioPush} {record : AudioRecord}
    {first second : List UInt8} {position : Nat} (places : slice.Places record first position)
    (whole : slice.complete = true)
    (onward : later.Places record second (position + first.length)) :
    ({ later with writes := slice.writes ++ later.writes } : AudioPush).Places record
      (first ++ second) position := by
  have filled := places.2.mp whole
  refine ⟨places.1.append filled onward.1, onward.2.trans ?_⟩
  have audio : ({ later with writes := slice.writes ++ later.writes } : AudioPush).audio =
      first ++ later.audio := by
    rw [← filled]
    exact List.flatMap_append
  rw [audio, List.append_cancel_left_eq]

theorem AudioPush.Places.short {slice : AudioPush} {record : AudioRecord}
    {first : List UInt8} {position : Nat} (places : slice.Places record first position)
    (cut : slice.complete = false) (second : List UInt8) :
    slice.Places record (first ++ second) position := by
  refine ⟨places.1.extend second, ?_⟩
  have unfilled : slice.audio ≠ first := by
    intro same
    rw [places.2.mpr same] at cut
    cases cut
  rw [cut]
  refine iff_of_false Bool.false_ne_true fun same => unfilled ?_
  obtain ⟨left, split⟩ : slice.audio <+: first := places.1.isInitial
  rw [← split, List.append_assoc, List.self_eq_append_right] at same
  rw [← split, (List.append_eq_nil_iff.mp same).1, List.append_nil]

theorem pushSlicesAudio_places (record : AudioRecord) (silent : Bool) (modes : Nat → OutputModes)
    (data : List UInt8) (skip done : Nat) (turns : List WriteTurn) (within : skip ≤ data.length) :
    (pushSlicesAudio record silent modes data skip done turns).Places record
      ((chunkAudio record.params silent modes data).drop skip) (done + skip) := by
  induction length : data.length using Nat.strong_induction_on
    generalizing data modes skip done turns with
  | _ count ih =>
      unfold pushSlicesAudio
      by_cases none_ : data = []
      · rw [if_pos none_, chunkAudio, if_pos none_, List.drop_nil]
        exact ⟨trivial, iff_of_true rfl rfl⟩
      have some_ : 0 < data.length := List.length_pos_iff.mpr none_
      have shorter : (data.drop sliceBufferSize).length < count := by
        rw [List.length_drop, ← length]
        exact Nat.sub_lt some_ (by decide)
      rw [if_neg none_, chunkAudio_cons _ _ _ _ none_]
      dsimp only
      generalize sized : sliceAudio (modes 0) record.params silent (data.take sliceBufferSize) =
        first
      have full : first.length = (data.take sliceBufferSize).length := by
        rw [← sized, sliceAudio_length]
      rw [← full]
      have onward := fun skip turns => ih _ shorter (fun index => modes (index + 1))
        (data.drop sliceBufferSize) skip (done + first.length) turns
      by_cases inside : skip ≤ first.length
      · rw [min_eq_left inside, List.drop_append_of_le_length inside]
        have placed := writeSliceAudio_places record (first.drop skip) (done + skip) 0 turns
        generalize writeSliceAudio record (first.drop skip) (done + skip) 0 turns = slice
          at placed ⊢
        cases whole : slice.complete with
        | false => exact placed.short whole _
        | true =>
            rw [if_pos rfl]
            refine placed.append whole ?_
            have later := onward 0 slice.turns (Nat.zero_le _) rfl
            have position : done + skip + (first.drop skip).length = done + first.length := by
              rw [List.length_drop]
              omega
            rw [Nat.sub_self, position]
            exact later
      · have beyond : first.length ≤ skip := le_of_not_ge inside
        rw [min_eq_right beyond, List.drop_of_length_le (le_refl _), writeSliceAudio_nil,
          List.drop_append, List.drop_of_length_le beyond, List.nil_append]
        have later := onward (skip - first.length) turns (by
          rw [List.length_drop]
          rw [List.length_take] at full
          omega) rfl
        have position : done + first.length + (skip - first.length) = done + skip := by omega
        rw [position] at later
        exact later

def AudioPush.sizes (push : AudioPush) : SlicePush :=
  ⟨push.audio.length, push.complete, push.turns⟩

theorem AudioPush.sizes_after (push : AudioPush) (write : TaggedWrite) :
    (push.after write).sizes =
      { push.sizes with written := write.bytes.length + push.sizes.written } := by
  have audio : (push.after write).audio = write.bytes ++ push.audio := List.flatMap_cons
  rw [sizes, sizes, audio, List.length_append]
  rfl

theorem writeSliceAudio_sizes (record : AudioRecord) (left : List UInt8)
    (position zeroWrites : Nat) (turns : List WriteTurn) :
    (writeSliceAudio record left position zeroWrites turns).sizes =
      writeSlice left.length zeroWrites turns := by
  induction turns generalizing left position zeroWrites with
  | nil =>
      cases left with
      | nil => rfl
      | cons first rest => rfl
  | cons turn rest ih =>
      unfold writeSliceAudio writeSlice
      by_cases done : left = []
      · rw [if_pos done, if_pos (by rw [done]; rfl)]
        rfl
      rw [if_neg done, if_neg fun empty => done (List.length_eq_zero_iff.mp empty)]
      cases turn.active with
      | false => rfl
      | true =>
          simp only [Bool.not_true, Bool.false_eq_true, if_false]
          have offered : (left.take (min turn.accepted left.length)).length =
              min turn.accepted left.length := List.length_take_of_le (min_le_right _ _)
          by_cases took : 0 < min turn.accepted left.length
          · rw [if_pos took, if_pos took, AudioPush.sizes_after, ih, List.length_drop, offered]
          · rw [if_neg took, if_neg took]
            rw [Nat.eq_zero_of_not_pos took] at offered ⊢
            split
            · rfl
            · rw [AudioPush.sizes_after, ih, offered, Nat.zero_add]

theorem slices_short (bytes : Nat) (short : bytes < sliceBufferSize) : slices bytes = [bytes] := by
  rw [slices, Nat.div_eq_of_lt short, Nat.mod_eq_of_lt short]
  rfl

theorem slices_long (bytes : Nat) (long : sliceBufferSize ≤ bytes) :
    slices bytes = sliceBufferSize :: slices (bytes - sliceBufferSize) := by
  obtain ⟨rest, rfl⟩ := Nat.exists_eq_add_of_le long
  rw [Nat.add_sub_cancel_left, slices, slices, Nat.add_div_left rest (by decide : 0 < sliceBufferSize),
    Nat.add_mod_left, List.replicate_succ, List.cons_append]

theorem pushSlices_none (skip : Nat) (turns : List WriteTurn) :
    pushSlices skip turns [0] = ⟨0, true, turns⟩ := by
  have idle : writeSlice 0 0 turns = ⟨0, true, turns⟩ := by
    cases turns with
    | nil => rfl
    | cons turn rest => rfl
  rw [pushSlices, Nat.min_zero]
  dsimp only
  rw [idle]
  rfl

theorem pushSlices_slices (skip bytes : Nat) (turns : List WriteTurn) :
    pushSlices skip turns (slices bytes) =
      pushSlices skip turns
        (min sliceBufferSize bytes :: slices (bytes - sliceBufferSize)) := by
  by_cases short : bytes < sliceBufferSize
  · rw [slices_short bytes short, Nat.sub_eq_zero_of_le (le_of_lt short),
      slices_short 0 (by decide), min_eq_right (le_of_lt short)]
    conv_lhs => rw [pushSlices]
    conv_rhs => rw [pushSlices]
    dsimp only
    rw [pushSlices_none]
    rfl
  · have long := le_of_not_gt short
    rw [slices_long bytes long, min_eq_left long]

theorem pushSlicesAudio_sizes (record : AudioRecord) (silent : Bool) (modes : Nat → OutputModes)
    (data : List UInt8) (skip done : Nat) (turns : List WriteTurn) :
    (pushSlicesAudio record silent modes data skip done turns).sizes =
      pushSlices skip turns (slices data.length) := by
  induction length : data.length using Nat.strong_induction_on
    generalizing data modes skip done turns with
  | _ count ih =>
      unfold pushSlicesAudio
      by_cases none_ : data = []
      · subst none_
        rw [if_pos rfl, ← length, List.length_nil, slices_short 0 (by decide), pushSlices_none]
        rfl
      have some_ : 0 < data.length := List.length_pos_iff.mpr none_
      have shorter : (data.drop sliceBufferSize).length < count := by
        rw [List.length_drop, ← length]
        exact Nat.sub_lt some_ (by decide)
      rw [if_neg none_, ← length, pushSlices_slices, ← List.length_take, ← List.length_drop,
        pushSlices]
      dsimp only
      generalize taken : (data.take sliceBufferSize).length = got
      have first := writeSliceAudio_sizes record
        ((sliceAudio (modes 0) record.params silent (data.take sliceBufferSize)).drop
          (min skip got)) (done + min skip got) 0 turns
      rw [List.length_drop, sliceAudio_length, taken] at first
      rw [← first]
      generalize writeSliceAudio record
        ((sliceAudio (modes 0) record.params silent (data.take sliceBufferSize)).drop
          (min skip got)) (done + min skip got) 0 turns = slice
      have later := ih _ shorter (fun index => modes (index + 1)) (data.drop sliceBufferSize)
        (skip - min skip got) (done + got) slice.turns rfl
      cases whole : slice.complete with
      | false =>
          have cut : slice.sizes.complete = false := whole
          rw [cut]
          rfl
      | true =>
          have filled : slice.sizes.complete = true := whole
          have onward : slice.sizes.turns = slice.turns := rfl
          rw [filled, if_pos rfl, if_pos rfl, onward, ← later]
          rw [AudioPush.sizes, AudioPush.audio, List.flatMap_append, List.length_append]
          rfl

def frameSamples : List UInt8 → List (Int16 × Int16)
  | first :: second :: third :: fourth :: rest =>
      (sampleAt first second, sampleAt third fourth) :: frameSamples rest
  | _ => []

theorem sampleAt_bytes (s : Int16) :
    ∃ low high, sampleBytes s = [low, high] ∧ sampleAt low high = s := by
  refine ⟨_, _, rfl, ?_⟩
  have word : Words.halfWord (s.toUInt16 &&& 0xFF).toUInt8 ((s.toUInt16 >>> 8) &&& 0xFF).toUInt8 =
      s.toUInt16 := by
    apply Words.halfWordBytes_injective
    exact Words.halfWordBytes_halfWord _ _
  rw [sampleAt, word, Int16.toInt16_toUInt16]

theorem frameSamples_mapFrames (pass : Int16 × Int16 → Int16 × Int16) (data : List UInt8) :
    frameSamples (mapFrames pass data) = (frameSamples data).map pass := by
  fun_induction mapFrames pass data with
  | case1 first second third fourth rest frame ih =>
      obtain ⟨low, high, left, leftSample⟩ := sampleAt_bytes frame.1
      obtain ⟨low', high', right, rightSample⟩ := sampleAt_bytes frame.2
      rw [left, right]
      simp only [List.cons_append, List.nil_append, frameSamples, List.map_cons, leftSample,
        rightSample, ih]
      rfl
  | case2 rest short =>
      match rest with
      | [] => rfl
      | [_] => rfl
      | [_, _] => rfl
      | [_, _, _] => rfl
      | first :: second :: third :: fourth :: later =>
          exact absurd rfl (short first second third fourth later)

theorem mapFrames_zeros (pass : Int16 × Int16 → Int16 × Int16) (still : pass (0, 0) = (0, 0))
    (count : Nat) : mapFrames pass (List.replicate count 0) = List.replicate count 0 := by
  match count with
  | 0 => rfl
  | 1 => rfl
  | 2 => rfl
  | 3 => rfl
  | count + 4 =>
      have zero : sampleAt 0 0 = 0 := rfl
      simp only [List.replicate_succ, mapFrames, zero, still, mapFrames_zeros pass still count]
      rfl

theorem mapSamples_zeros (pass : Int16 → Int16) (still : pass 0 = 0) (count : Nat) :
    mapSamples pass (List.replicate count 0) = List.replicate count 0 := by
  match count with
  | 0 => rfl
  | 1 => rfl
  | count + 2 =>
      have zero : sampleAt 0 0 = 0 := rfl
      simp only [List.replicate_succ, mapSamples, zero, still, mapSamples_zeros pass still count]
      rfl

theorem applyChannelMode_zeros (modes : OutputModes) (params : StreamParams) (count : Nat) :
    applyChannelMode modes params (List.replicate count 0) = List.replicate count 0 := by
  have routed : route modes.channel (0, 0) = (0, 0) := by
    cases modes.channel with
    | stereo => rfl
    | leftOnly => rfl
    | rightOnly => rfl
    | mono => decide
  have inverted : invertFrame modes.phase (0, 0) = (0, 0) := by
    cases modes.phase with
    | none => decide
    | left => decide
    | right => decide
    | both => decide
  unfold applyChannelMode
  simp only [mapFrames_zeros _ routed, mapFrames_zeros _ inverted,
    mapSamples_zeros invertSample (by decide), ite_self]

theorem chunkAudio_silent (params : StreamParams) (modes : Nat → OutputModes)
    (data : List UInt8) :
    chunkAudio params true modes data = List.replicate data.length 0 := by
  induction length : data.length using Nat.strong_induction_on generalizing data modes with
  | _ count ih =>
      by_cases none_ : data = []
      · rw [chunkAudio, if_pos none_, ← length, none_]
        rfl
      · have some_ : 0 < data.length := List.length_pos_iff.mpr none_
        have shorter : (data.drop sliceBufferSize).length < count := by
          rw [List.length_drop, ← length]
          exact Nat.sub_lt some_ (by decide)
        rw [chunkAudio_cons _ _ _ _ none_, ih _ shorter _ _ rfl, sliceAudio, if_pos rfl,
          applyChannelMode_zeros, ← List.replicate_add, ← List.length_append,
          List.take_append_drop, length]

/-- A frame under the settings: the routing first, so that the inversion is of the outputs. -/
def outputFrame (modes : OutputModes) (frame : Int16 × Int16) : Int16 × Int16 :=
  let routed := route modes.channel frame
  if modes.phase = .none then routed else invertFrame modes.phase routed

theorem applyChannelMode_samples (modes : OutputModes) (params : StreamParams)
    (data : List UInt8) (wide : params.bitsPerSample = 16) (stereo : params.channels = 2) :
    frameSamples (applyChannelMode modes params data) =
      (frameSamples data).map (outputFrame modes) := by
  have routed : frameSamples (if modes.channel ≠ .stereo ∧ params.channels = 2 then
      mapFrames (route modes.channel) data else data) =
        (frameSamples data).map (route modes.channel) := by
    split
    · exact frameSamples_mapFrames _ _
    · next plain =>
        have none_ : modes.channel = .stereo := by
          by_contra other
          exact plain ⟨other, stereo⟩
        have same : route .stereo = id := rfl
        rw [none_, same, List.map_id]
  unfold applyChannelMode
  rw [if_neg (not_not.mpr wide)]
  dsimp only
  by_cases plain : modes.phase = .none
  · have frames : outputFrame modes = route modes.channel := funext fun frame => if_pos plain
    rw [if_pos plain, frames]
    exact routed
  · have frames : outputFrame modes = invertFrame modes.phase ∘ route modes.channel :=
      funext fun frame => if_neg plain
    rw [if_neg plain, if_pos stereo, frameSamples_mapFrames, routed, List.map_map, frames]

/-- What the settings make of a chunk does not depend on the slices it is cut into: it is the
channel mode of the chunk as a whole, frame by frame for two channels of sixteen bits; a chunk
that is muted is silence whatever the settings do in it, and no setting changes its length. -/
theorem chunkAudio_meaning (params : StreamParams) (data : List UInt8) :
    (∀ settings silent, chunkAudio params silent (fun _ => settings) data =
        sliceAudio settings params silent data) ∧
      (∀ modes, chunkAudio params true modes data = List.replicate data.length 0) ∧
      (∀ modes silent, (chunkAudio params silent modes data).length = data.length) ∧
      (params.bitsPerSample = 16 → params.channels = 2 → ∀ settings,
        frameSamples (chunkAudio params false (fun _ => settings) data) =
          (frameSamples data).map (outputFrame settings)) := by
  refine ⟨fun settings silent => chunkAudio_const params silent settings data,
    fun modes => chunkAudio_silent params modes data,
    fun modes silent => chunkAudio_length params silent modes data,
    fun wide stereo settings => ?_⟩
  rw [chunkAudio_const, sliceAudio, if_neg Bool.false_ne_true]
  exact applyChannelMode_samples settings params data wide stereo

theorem chunkAudio_meaning_inverted :
    frameSamples (chunkAudio ⟨44100, 16, 2⟩ false (fun _ => ⟨.leftOnly, .right⟩)
      [1, 0, 0, 128]) = [(1, -1)] :=
  (chunkAudio_meaning ⟨44100, 16, 2⟩ [1, 0, 0, 128]).2.2.2 rfl rfl ⟨.leftOnly, .right⟩

/-- What reaches the speaker of a chunk is its audio behind the dropped frames, each write under
the tag of its first byte, all of it where the push is complete; and it is counted as it is. -/
theorem pushChunkAudio_places (record : AudioRecord) (dropFrames : Nat) (silent : Bool)
    (modes : Nat → OutputModes) (turns : List WriteTurn) :
    let push := pushChunkAudio record dropFrames silent modes turns
    let skip := min (dropFrames * record.params.frameBytes.toNat) record.data.length
    let audio := chunkAudio record.params silent modes record.data
    (∀ early write late, push.writes = early ++ write :: late →
      let position := skip + (early.flatMap TaggedWrite.bytes).length
      write.tag = record.renderTag position ∧
        write.bytes = (audio.drop position).take write.bytes.length) ∧
      push.audio <+: audio.drop skip ∧
      (push.complete = true ↔ push.audio = audio.drop skip) ∧
      push.sizes =
        pushChunk record.params.frameBytes.toNat record.data.length dropFrames turns := by
  intro push skip audio
  have places := pushSlicesAudio_places record silent modes record.data skip 0 turns
    (min_le_right _ _)
  rw [Nat.zero_add] at places
  refine ⟨?_, places.1.isInitial, places.2, ?_⟩
  · intro early write late split
    obtain ⟨tagged, bytes⟩ := places.1.write early late write split
    rw [List.drop_drop] at bytes
    exact ⟨tagged, bytes⟩
  · exact pushSlicesAudio_sizes record silent modes record.data skip 0 turns

end Player
