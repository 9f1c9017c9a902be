import Mathlib.Data.List.TakeWhile
import SnapcastSync.Lib.Framing

/-! The lines of the control session: `read_` from the answers of `recv` to what it gives to
`handle_line_`. -/

namespace Control

def rxLineCap : Nat := 32768
def recvBufferSize : Nat := 512
def newline : UInt8 := 10

/-- The bytes of one `recv`. -/
structure Segment where
  bytes : List UInt8
  some : bytes ≠ []
  within : bytes.length ≤ recvBufferSize

inductive Recv where
  | bytes (segment : Segment)
  | drained
  | closed
  | failed

structure LineReader where
  ready : Bool
  rxBuf : List UInt8
  discarding : Bool
  handled : List (List UInt8)
deriving DecidableEq, Repr

namespace LineReader

def connected : LineReader :=
  { ready := true
    rxBuf := []
    discarding := false
    handled := [] }

def fail (reader : LineReader) : LineReader :=
  { reader with
    ready := false
    rxBuf := []
    discarding := false }

def takeLines (reader : LineReader) : LineReader :=
  match _found : reader.rxBuf.dropWhile (· != newline) with
  | [] => reader
  | _ :: rest =>
      let line := reader.rxBuf.takeWhile (· != newline)
      if reader.discarding then
        takeLines
          { reader with
            rxBuf := rest
            discarding := false }
      else
        takeLines
          { reader with
            rxBuf := rest
            handled := reader.handled ++ [line] }
termination_by reader.rxBuf.length
decreasing_by
  all_goals
    have shorter := (List.dropWhile_suffix (l := reader.rxBuf) (· != newline)).length_le
    rw [_found, List.length_cons] at shorter
    exact shorter

/-- A turn of the loop of `read_`. One that finds nothing returns, and the next call goes on. -/
def recvTurn (reader : LineReader) (answer : Recv) : LineReader :=
  if reader.ready then
    match answer with
    | .bytes segment =>
        let reader := { reader with rxBuf := reader.rxBuf ++ segment.bytes }.takeLines
        if rxLineCap < reader.rxBuf.length then
          { reader with
            rxBuf := []
            discarding := true }
        else reader
    | .drained => reader
    | .closed => reader.fail
    | .failed => reader.fail
  else reader

def read (reader : LineReader) (answers : List Recv) : LineReader := answers.foldl recvTurn reader

end LineReader

def handledLines (segments : List Segment) : List (List UInt8) :=
  (LineReader.connected.read (segments.map .bytes)).handled

def streamOf (segments : List Segment) : List UInt8 := (segments.map Segment.bytes).flatten

def endsLine (byte : UInt8) : Bool := byte == newline

def fittingLines (stream : List UInt8) : List (List UInt8) :=
  (Framer.pieces endsLine [] stream).filter fun line => decide (line.length ≤ rxLineCap)

def markedBytes (segments : List Segment) : List (UInt8 × Bool) :=
  Framer.markedStream (segments.map Segment.bytes)

/-- In each line that is too long a segment ends, after more bytes than fit and before the
newline. -/
def CutsOversized (segments : List Segment) : Prop :=
  ∀ line ∈ Framer.pieces (Framer.endsMarked endsLine) [] (markedBytes segments),
    rxLineCap < line.length → ∃ byte ∈ line.drop rxLineCap, byte.2 = true

namespace LineReader

def framer (reader : LineReader) : Framer UInt8 :=
  { pending := reader.rxBuf
    skipping := reader.discarding
    out := reader.handled }

theorem scan_found (buffer : List UInt8) (last : UInt8) (rest : List UInt8)
    (found : buffer.dropWhile (· != newline) = last :: rest) :
    buffer = buffer.takeWhile (· != newline) ++ last :: rest ∧ endsLine last = true ∧
      ∀ byte ∈ buffer.takeWhile (· != newline), endsLine byte = false := by
  refine ⟨?_, ?_, ?_⟩
  · rw [← found, List.takeWhile_append_dropWhile]
  · have first := List.head?_dropWhile_not (· != newline) buffer
    rw [found, List.head?_cons] at first
    simpa [endsLine] using first
  · intro byte member
    have other := List.mem_takeWhile_imp member
    simpa [endsLine] using other

theorem takeLines_framer (reader : LineReader) :
    reader.takeLines.framer =
        reader.rxBuf.foldl (Framer.push endsLine) { reader.framer with pending := [] } ∧
      reader.takeLines.ready = reader.ready := by
  fun_induction takeLines reader with
  | case1 reader none_ =>
      refine ⟨?_, rfl⟩
      have open_ : ∀ byte ∈ reader.rxBuf, endsLine byte = false := by
        intro byte member
        have other := List.dropWhile_eq_nil_iff.mp none_ byte member
        simpa [endsLine] using other
      rw [Framer.foldl_push_open endsLine _ _ open_]
      rfl
  | case2 reader last rest found discarding ih =>
      obtain ⟨split, ended, open_⟩ := scan_found reader.rxBuf last rest found
      refine ⟨?_, ih.2⟩
      rw [ih.1, split, Framer.foldl_push_piece endsLine _ _ _ _ open_ ended]
      simp [framer, discarding]
  | case3 reader last rest found line keeping ih =>
      obtain ⟨split, ended, open_⟩ := scan_found reader.rxBuf last rest found
      refine ⟨?_, ih.2⟩
      rw [ih.1, split, Framer.foldl_push_piece endsLine _ _ _ _ open_ ended]
      simp [framer, keeping, line]

def Open (reader : LineReader) : Prop :=
  reader.ready = true ∧ ∀ byte ∈ reader.rxBuf, endsLine byte = false

theorem recvTurn_framer (reader : LineReader) (segment : Segment) (open_ : reader.Open) :
    (reader.recvTurn (.bytes segment)).framer =
        (Framer.marked segment.bytes).foldl (Framer.step endsLine rxLineCap) reader.framer ∧
      (reader.recvTurn (.bytes segment)).Open := by
  obtain ⟨ready, held⟩ := open_
  obtain ⟨taken, still⟩ :=
    takeLines_framer { reader with rxBuf := reader.rxBuf ++ segment.bytes }
  have joined : (reader.rxBuf ++ segment.bytes).foldl (Framer.push endsLine)
      { reader.framer with pending := [] } =
        segment.bytes.foldl (Framer.push endsLine) reader.framer := by
    rw [List.foldl_append, Framer.foldl_push_open endsLine _ _ held]
    rfl
  have pushed := taken.trans joined
  have turned : (reader.recvTurn (.bytes segment)).framer =
      (segment.bytes.foldl (Framer.push endsLine) reader.framer).check rxLineCap := by
    rw [← pushed, recvTurn, if_pos ready, Framer.check]
    dsimp only
    split
    · rename_i long
      exact (if_pos long).symm
    · rename_i short
      exact (if_neg short).symm
  refine ⟨?_, ?_, ?_⟩
  · rw [turned, Framer.foldl_marked endsLine rxLineCap _ _ segment.some]
  · rw [recvTurn, if_pos ready]
    dsimp only
    split
    · exact still.trans ready
    · exact still.trans ready
  · have pending : (reader.recvTurn (.bytes segment)).rxBuf =
        (reader.recvTurn (.bytes segment)).framer.pending := rfl
    rw [pending, turned]
    exact Framer.check_pending endsLine rxLineCap _
      (Framer.foldl_push_pending endsLine _ _ held)

theorem read_framer (reader : LineReader) (segments : List Segment) (open_ : reader.Open) :
    (reader.read (segments.map .bytes)).framer =
      (markedBytes segments).foldl (Framer.step endsLine rxLineCap) reader.framer := by
  induction segments generalizing reader with
  | nil => rfl
  | cons segment later ih =>
      obtain ⟨turned, onward⟩ := reader.recvTurn_framer segment open_
      have rest := ih _ onward
      rw [turned] at rest
      rw [markedBytes, Framer.markedStream, List.map_cons, List.map_cons, List.flatMap_cons,
        List.foldl_append]
      exact rest

end LineReader

theorem handledLines_eq (segments : List Segment) :
    handledLines segments =
      ((Framer.pieces (Framer.endsMarked endsLine) [] (markedBytes segments)).filter
        fun line => !Framer.Cut rxLineCap line).map (List.map Prod.fst) := by
  have read := LineReader.read_framer .connected segments ⟨rfl, nofun⟩
  rw [markedBytes, ← Framer.fresh_out]
  exact congrArg Framer.out read

theorem fittingLines_eq (segments : List Segment) :
    fittingLines (streamOf segments) =
      ((Framer.pieces (Framer.endsMarked endsLine) [] (markedBytes segments)).map
        (List.map Prod.fst)).filter fun line => decide (line.length ≤ rxLineCap) := by
  rw [fittingLines, streamOf, ← Framer.markedStream_map_fst, Framer.pieces_map_fst]
  rfl

/-- Just the lines that are not too long are handled, and each of them whole, when a segment ends
in every other one after it is too long. -/
theorem handledLines_eq_fitting_iff (segments : List Segment) :
    handledLines segments = fittingLines (streamOf segments) ↔ CutsOversized segments := by
  rw [handledLines_eq, fittingLines_eq, Framer.uncut_eq_fitting_iff, CutsOversized]
  simp only [Framer.Cut, List.any_eq_true]

/-- Two ways in which a stream arrives. -/
theorem framing_independent_iff (first second : List Segment)
    (same : streamOf first = streamOf second) :
    (handledLines first = handledLines second ∧
        handledLines first = fittingLines (streamOf first)) ↔
      CutsOversized first ∧ CutsOversized second := by
  rw [← handledLines_eq_fitting_iff, ← handledLines_eq_fitting_iff, ← same]
  constructor
  · rintro ⟨alike, fitting⟩
    exact ⟨fitting, alike.symm.trans fitting⟩
  · rintro ⟨fitting, others⟩
    exact ⟨fitting.trans others.symm, fitting⟩

def oneByte (byte : UInt8) : Segment := ⟨[byte], List.cons_ne_nil _ _, by simp [recvBufferSize]⟩

def twoBytes (first second : UInt8) : Segment :=
  ⟨[first, second], List.cons_ne_nil _ _, by simp [recvBufferSize]⟩

def filler : List Segment :=
  List.replicate 64 ⟨List.replicate 512 97, by decide, by rw [List.length_replicate]; rfl⟩

theorem filler_stream : streamOf filler = List.replicate rxLineCap 97 := by
  rw [streamOf, filler, List.map_replicate, List.flatten_replicate_replicate]
  rfl

theorem filler_firsts : (markedBytes filler).map Prod.fst = List.replicate rxLineCap 97 := by
  rw [markedBytes, Framer.markedStream_map_fst]
  exact filler_stream

theorem filler_length : (markedBytes filler).length = rxLineCap := by
  rw [← List.length_map Prod.fst, filler_firsts, List.length_replicate]

theorem filler_pieces (later : List Segment) (tail rest : List (UInt8 × Bool)) (last : Bool)
    (arrives : markedBytes later = tail ++ (newline, last) :: rest)
    (inside : ∀ item ∈ tail, endsLine item.1 = false) :
    Framer.pieces (Framer.endsMarked endsLine) [] (markedBytes (filler ++ later)) =
      (markedBytes filler ++ tail) :: Framer.pieces (Framer.endsMarked endsLine) [] rest := by
  have split : markedBytes (filler ++ later) =
      (markedBytes filler ++ tail) ++ (newline, last) :: rest := by
    rw [List.append_assoc, ← arrives, markedBytes, List.map_append]
    exact List.flatMap_append
  have open_ : ∀ item ∈ markedBytes filler ++ tail,
      Framer.endsMarked endsLine item = false := by
    intro item member
    rcases List.mem_append.mp member with filled | after
    · have value := List.mem_map_of_mem (f := Prod.fst) filled
      rw [filler_firsts] at value
      rw [Framer.endsMarked, List.eq_of_mem_replicate value]
      rfl
    · exact inside item after
  rw [split, Framer.pieces_append _ _ _ _ open_]
  rfl

theorem filler_cuts (later : List Segment) (first : Bool) (rest : List (UInt8 × Bool))
    (arrives : markedBytes later = [(97, first), (97, true)] ++ (newline, true) :: rest)
    (short : ∀ line ∈ Framer.pieces (Framer.endsMarked endsLine) [] rest,
      line.length ≤ rxLineCap) : CutsOversized (filler ++ later) := by
  have pieces := filler_pieces later _ rest true arrives (by simp [endsLine, newline])
  intro line member long
  rw [pieces] at member
  rcases List.mem_cons.mp member with cut | after
  · refine ⟨(97, true), ?_, rfl⟩
    rw [cut, List.drop_left' filler_length]
    simp
  · exact absurd (short line after) (Nat.not_le.mpr long)

theorem one_line_framed :
    handledLines (filler ++ [twoBytes 97 97, oneByte 10, twoBytes 98 10]) =
        handledLines (filler ++ [oneByte 97, oneByte 97, oneByte 10, oneByte 98, oneByte 10]) ∧
      handledLines (filler ++ [twoBytes 97 97, oneByte 10, twoBytes 98 10]) =
        fittingLines (streamOf (filler ++ [twoBytes 97 97, oneByte 10, twoBytes 98 10])) := by
  apply (framing_independent_iff (filler ++ [twoBytes 97 97, oneByte 10, twoBytes 98 10])
    (filler ++ [oneByte 97, oneByte 97, oneByte 10, oneByte 98, oneByte 10]) ?_).mpr
  · exact ⟨filler_cuts _ false [(98, false), (10, true)] rfl (by decide),
      filler_cuts _ true [(98, true), (10, true)] rfl (by decide)⟩
  · rw [streamOf, streamOf, List.map_append, List.map_append, List.flatten_append,
      List.flatten_append]
    rfl

theorem filler_handled (later : List Segment) (byte : UInt8 × Bool)
    (arrives : markedBytes later = [byte, (newline, true)]) (inside : endsLine byte.1 = false) :
    handledLines (filler ++ later) =
      if byte.2 then [] else [List.replicate rxLineCap 97 ++ [byte.1]] := by
  have ended := filler_pieces later [byte] [] true arrives (by simpa using inside)
  have cut : Framer.Cut rxLineCap (markedBytes filler ++ [byte]) = byte.2 := by
    rw [Framer.Cut, List.drop_left' filler_length]
    exact Bool.or_false _
  rw [handledLines_eq, ended]
  cases boundary : byte.2 with
  | true => simp [cut, boundary, Framer.pieces]
  | false => simp [cut, boundary, filler_firsts, Framer.pieces]

/-- A line of one byte more than the cap, with its newline in the same segment and in the
next. -/
theorem oversized_line_handled :
    streamOf (filler ++ [twoBytes 97 10]) = streamOf (filler ++ [oneByte 97, oneByte 10]) ∧
      handledLines (filler ++ [twoBytes 97 10]) ≠
        handledLines (filler ++ [oneByte 97, oneByte 10]) := by
  constructor
  · rw [streamOf, streamOf, List.map_append, List.map_append, List.flatten_append,
      List.flatten_append]
    rfl
  · rw [filler_handled [twoBytes 97 10] (97, false) rfl rfl,
      filler_handled [oneByte 97, oneByte 10] (97, true) rfl rfl]
    exact List.cons_ne_nil _ _

end Control
