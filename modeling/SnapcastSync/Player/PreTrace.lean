import Mathlib.Algebra.Order.Ring.Nat
import Mathlib.Algebra.Ring.Int.Defs
import Mathlib.Data.List.Chain
import SnapcastSync.Lib.SlotRing

/-! The pre-trigger history of the resync trace: every chunk goes into a ring as a packed sample
with the gap since its predecessor; an arm freezes the ring, and from then on every call prints
one line of it until it has been replayed. -/

namespace Player

def resyncPreChunks : Nat := 80
def resyncPrePerLine : Nat := 6

def clampI32 (v : Int) : Int := min (max v (-2147483648)) 2147483647
def clampU32 (v : Int) : Int := min (max v 0) 4294967295

/-- A packed sample; its fields are as wide as the source's. -/
structure PreSample where
  dtUs : Int
  errUs : Int
  medUs : Int
  ringMs : Nat
  drops : Nat
  dt_fits : 0 ≤ dtUs ∧ dtUs ≤ 4294967295
  err_fits : -2147483648 ≤ errUs ∧ errUs ≤ 2147483647
  med_fits : -2147483648 ≤ medUs ∧ medUs ≤ 2147483647
  ring_fits : ringMs ≤ 65535
  drops_fit : drops ≤ 65535
deriving DecidableEq

def PreSample.zero : PreSample :=
  { dtUs := 0
    errUs := 0
    medUs := 0
    ringMs := 0
    drops := 0
    dt_fits := by decide
    err_fits := by decide
    med_fits := by decide
    ring_fits := by decide
    drops_fit := by decide }

structure PreTrace where
  preTrace : SlotRing PreSample resyncPreChunks
  preFilled : Nat
  preLastTUs : Int
  preDumpLeft : Nat
  preDumpPos : Nat
  preDumpLabel : Nat
  preDumpTUs : Int

/-- What one call of `record_pre_trace_` is given and reads. -/
structure PreRecord where
  atUs : Int
  errorUs : Int
  medianErrUs : Int
  ringMs : Nat
  resyncDrops : Nat
deriving DecidableEq

structure PreLine where
  labelFirst : Nat
  labelLast : Nat
  tUs : Int
  dt : List Char
  err : List Char
  med : List Char
  ring : List Char
  drops : List Char
deriving DecidableEq

def PreRecord.sample (record : PreRecord) (sincePreviousUs : Int) : PreSample :=
  { dtUs := clampU32 sincePreviousUs
    errUs := clampI32 record.errorUs
    medUs := clampI32 record.medianErrUs
    ringMs := min record.ringMs 65535
    drops := min record.resyncDrops 65535
    dt_fits := by unfold clampU32; omega
    err_fits := by unfold clampI32; omega
    med_fits := by unfold clampI32; omega
    ring_fits := Nat.min_le_right _ _
    drops_fit := Nat.min_le_right _ _ }

/-- How `%lld` prints. -/
def decimal (v : Int) : List Char :=
  if v < 0 then '-' :: Nat.toDigits 10 v.natAbs else Nat.toDigits 10 v.natAbs

/-- `append_num_`: what does not fit the buffer beside its terminator is cut off. -/
def appendNum (cap : Nat) (buf : List Char) (first : Bool) (v : Int) : List Char :=
  if cap ≤ buf.length + 1 then buf
  else
    let text := if first then decimal v else ',' :: decimal v
    buf ++ text.take (cap - buf.length - 1)

structure PreTexts where
  dt : List Char
  err : List Char
  med : List Char
  ring : List Char
  drops : List Char

namespace PreTexts

def empty : PreTexts :=
  { dt := []
    err := []
    med := []
    ring := []
    drops := [] }

def append (texts : PreTexts) (first : Bool) (sample : PreSample) : PreTexts :=
  { dt := appendNum 96 texts.dt first sample.dtUs
    err := appendNum 96 texts.err first sample.errUs
    med := appendNum 96 texts.med first sample.medUs
    ring := appendNum 64 texts.ring first sample.ringMs
    drops := appendNum 64 texts.drops first sample.drops }

end PreTexts

namespace PreTrace

def boot : PreTrace :=
  { preTrace := SlotRing.blank PreSample.zero (by decide)
    preFilled := 0
    preLastTUs := 0
    preDumpLeft := 0
    preDumpPos := 0
    preDumpLabel := 0
    preDumpTUs := 0 }

def sampleAt (trace : PreTrace) (slot : Nat) : PreSample :=
  (trace.preTrace.slots[slot]?).getD PreSample.zero

def slotBefore (slot : Nat) : Nat := if slot = 0 then resyncPreChunks - 1 else slot - 1

def recordPreTrace (trace : PreTrace) (record : PreRecord) : PreTrace :=
  if 0 < trace.preDumpLeft then trace
  else
    let dt := if trace.preFilled = 0 then 0 else record.atUs - trace.preLastTUs
    { trace with
      preTrace := trace.preTrace.append (record.sample dt)
      preLastTUs := record.atUs
      preFilled :=
        if trace.preFilled < resyncPreChunks then trace.preFilled + 1 else trace.preFilled }

/-- The loop of `arm_pre_trace_dump_` that steps back from the newest sample. -/
def walkBack (trace : PreTrace) : Nat → Int → Nat → Int
  | 0, t, _ => t
  | steps + 1, t, idx =>
      trace.walkBack steps (t - (trace.sampleAt idx).dtUs) (slotBefore idx)

def armPreTraceDump (trace : PreTrace) : PreTrace :=
  if trace.preFilled = 0 ∨ 0 < trace.preDumpLeft then trace
  else
    { trace with
      preDumpLeft := trace.preFilled
      preDumpPos :=
        (trace.preTrace.next + resyncPreChunks - trace.preFilled) % resyncPreChunks
      preDumpLabel := trace.preFilled
      preDumpTUs := trace.walkBack (trace.preFilled - 1) trace.preLastTUs
        (slotBefore trace.preTrace.next) }

def advance (trace : PreTrace) : PreTrace :=
  let pos := (trace.preDumpPos + 1) % resyncPreChunks
  { trace with
    preDumpPos := pos
    preDumpLabel := trace.preDumpLabel - 1
    preDumpLeft := trace.preDumpLeft - 1
    preDumpTUs :=
      if 0 < trace.preDumpLeft - 1 then trace.preDumpTUs + (trace.sampleAt pos).dtUs
      else trace.preDumpTUs }

def emitSamples : Nat → Bool → PreTrace → PreTexts → PreTrace × PreTexts
  | 0, _, trace, texts => (trace, texts)
  | n + 1, first, trace, texts =>
      emitSamples n false trace.advance (texts.append first (trace.sampleAt trace.preDumpPos))

def emitPreTraceLine (trace : PreTrace) : PreTrace × Option PreLine :=
  if trace.preDumpLeft = 0 then (trace, none)
  else
    let n := min resyncPrePerLine trace.preDumpLeft
    let emitted := emitSamples n true trace PreTexts.empty
    (emitted.1,
      some
        { labelFirst := trace.preDumpLabel
          labelLast := trace.preDumpLabel - n + 1
          tUs := trace.preDumpTUs
          dt := emitted.2.dt
          err := emitted.2.err
          med := emitted.2.med
          ring := emitted.2.ring
          drops := emitted.2.drops })

end PreTrace

inductive PreEvent where
  | record (record : PreRecord)
  | arm
  | emit
deriving DecidableEq

def PreEvent.isEmit : PreEvent → Bool
  | .emit => true
  | _ => false

namespace PreTrace

def step (trace : PreTrace) : PreEvent → PreTrace
  | .record given => trace.recordPreTrace given
  | .arm => trace.armPreTraceDump
  | .emit => trace.emitPreTraceLine.1

/-- A chunk is recorded unless a dump is on. -/
def recordedBy (trace : PreTrace) : PreEvent → List PreRecord
  | .record given => if 0 < trace.preDumpLeft then [] else [given]
  | .arm => []
  | .emit => []

def printedBy (trace : PreTrace) : PreEvent → List PreLine
  | .record _ => []
  | .arm => []
  | .emit => trace.emitPreTraceLine.2.toList

def recorded : PreTrace → List PreEvent → List PreRecord
  | _, [] => []
  | trace, event :: rest => trace.recordedBy event ++ recorded (trace.step event) rest

def lines : PreTrace → List PreEvent → List PreLine
  | _, [] => []
  | trace, event :: rest => trace.printedBy event ++ lines (trace.step event) rest

end PreTrace

def csv : List Int → List Char
  | [] => []
  | v :: rest => decimal v ++ rest.flatMap (fun other => ',' :: decimal other)

structure Printed where
  label : Nat
  atUs : Int
  sample : PreSample
deriving DecidableEq

def PreLine.of (group : List Printed) : PreLine :=
  { labelFirst := (group.head?.map Printed.label).getD 0
    labelLast := (group.getLast?.map Printed.label).getD 0
    tUs := (group.head?.map Printed.atUs).getD 0
    dt := csv (group.map fun printed => printed.sample.dtUs)
    err := csv (group.map fun printed => printed.sample.errUs)
    med := csv (group.map fun printed => printed.sample.medUs)
    ring := csv (group.map fun printed => (printed.sample.ringMs : Int))
    drops := csv (group.map fun printed => (printed.sample.drops : Int)) }

theorem length_decimal_le (v : Int) (digits : Nat) (positive : 0 < digits)
    (fits : v.natAbs < 10 ^ digits) : (decimal v).length ≤ digits + 1 := by
  have length := (Nat.length_toDigits_le_iff (b := 10) (by decide) positive).mpr fits
  rw [decimal]
  split
  · rw [List.length_cons]
    omega
  · omega

theorem appendNum_of_fits (cap : Nat) (buf : List Char) (first : Bool) (v : Int)
    (room : buf.length + (decimal v).length + 2 ≤ cap) :
    appendNum cap buf first v =
      buf ++ (if first then decimal v else ',' :: decimal v) := by
  rw [appendNum, if_neg (by omega)]
  dsimp only
  rw [List.take_of_length_le]
  cases first
  · rw [if_neg Bool.false_ne_true, List.length_cons]
    omega
  · rw [if_pos rfl]
    omega

theorem foldl_appendNum (cap width : Nat) (buf : List Char) (values : List Int)
    (fits : ∀ v ∈ values, (decimal v).length ≤ width)
    (room : buf.length + values.length * (width + 1) + 1 ≤ cap) :
    values.foldl (fun buf v => appendNum cap buf false v) buf =
      buf ++ values.flatMap (fun v => ',' :: decimal v) := by
  induction values generalizing buf with
  | nil => simp
  | cons v rest ih =>
      have here := fits v List.mem_cons_self
      rw [List.length_cons, Nat.succ_mul] at room
      have appended := appendNum_of_fits cap buf false v (by omega)
      rw [if_neg Bool.false_ne_true] at appended
      rw [List.foldl_cons, appended, ih, List.flatMap_cons, List.append_assoc]
      · exact fun other member => fits other (List.mem_cons_of_mem v member)
      · rw [List.length_append, List.length_cons]
        omega

theorem foldl_appendNum_csv (cap width : Nat) (first : Int) (rest : List Int)
    (fits : ∀ v ∈ first :: rest, (decimal v).length ≤ width)
    (room : (first :: rest).length * (width + 1) + 1 ≤ cap) :
    rest.foldl (fun buf v => appendNum cap buf false v) (appendNum cap [] true first) =
      csv (first :: rest) := by
  have here := fits first List.mem_cons_self
  rw [List.length_cons, Nat.succ_mul] at room
  have started := appendNum_of_fits cap [] true first (by rw [List.length_nil]; omega)
  rw [if_pos rfl, List.nil_append] at started
  rw [started, foldl_appendNum cap width, csv]
  · exact fun other member => fits other (List.mem_cons_of_mem first member)
  · omega

theorem PreSample.dt_length (sample : PreSample) : (decimal sample.dtUs).length ≤ 11 := by
  have fits := sample.dt_fits
  exact length_decimal_le sample.dtUs 10 (by decide) (by omega)

theorem PreSample.err_length (sample : PreSample) : (decimal sample.errUs).length ≤ 11 := by
  have fits := sample.err_fits
  exact length_decimal_le sample.errUs 10 (by decide) (by omega)

theorem PreSample.med_length (sample : PreSample) : (decimal sample.medUs).length ≤ 11 := by
  have fits := sample.med_fits
  exact length_decimal_le sample.medUs 10 (by decide) (by omega)

theorem PreSample.ring_length (sample : PreSample) : (decimal sample.ringMs).length ≤ 6 := by
  have fits := sample.ring_fits
  exact length_decimal_le sample.ringMs 5 (by decide) (by omega)

theorem PreSample.drops_length (sample : PreSample) : (decimal sample.drops).length ≤ 6 := by
  have fits := sample.drops_fit
  exact length_decimal_le sample.drops 5 (by decide) (by omega)

theorem foldl_appendNum_column (cap width : Nat) (field : PreSample → Int) (first : PreSample)
    (rest : List PreSample) (fits : ∀ sample, (decimal (field sample)).length ≤ width)
    (few : (first :: rest).length ≤ resyncPrePerLine)
    (room : resyncPrePerLine * (width + 1) + 1 ≤ cap) :
    rest.foldl (fun buf sample => appendNum cap buf false (field sample))
      (appendNum cap [] true (field first)) = csv ((first :: rest).map field) := by
  have column := foldl_appendNum_csv cap width (field first) (rest.map field)
  rw [List.foldl_map] at column
  apply column
  · rw [← List.map_cons]
    intro v member
    obtain ⟨sample, _, rfl⟩ := List.mem_map.mp member
    exact fits sample
  · rw [← List.map_cons, List.length_map]
    have scaled := Nat.mul_le_mul_right (width + 1) few
    omega

namespace PreTexts

def appendAll (texts : PreTexts) (first : Bool) : List PreSample → PreTexts
  | [] => texts
  | sample :: rest =>
      rest.foldl (fun texts sample => texts.append false sample) (texts.append first sample)

theorem appendAll_eq (first : PreSample) (rest : List PreSample)
    (few : (first :: rest).length ≤ resyncPrePerLine) :
    empty.appendAll true (first :: rest) =
      { dt := csv ((first :: rest).map PreSample.dtUs)
        err := csv ((first :: rest).map PreSample.errUs)
        med := csv ((first :: rest).map PreSample.medUs)
        ring := csv ((first :: rest).map fun sample => (sample.ringMs : Int))
        drops := csv ((first :: rest).map fun sample => (sample.drops : Int)) } := by
  have split : ∀ texts : PreTexts,
      rest.foldl (fun texts sample => texts.append false sample) texts =
        { dt := rest.foldl (fun buf sample => appendNum 96 buf false sample.dtUs) texts.dt
          err := rest.foldl (fun buf sample => appendNum 96 buf false sample.errUs) texts.err
          med := rest.foldl (fun buf sample => appendNum 96 buf false sample.medUs) texts.med
          ring := rest.foldl (fun buf sample => appendNum 64 buf false sample.ringMs) texts.ring
          drops :=
            rest.foldl (fun buf sample => appendNum 64 buf false sample.drops) texts.drops } := by
    clear few
    induction rest with
    | nil => exact fun texts => rfl
    | cons sample rest ih => exact fun texts => ih (texts.append false sample)
  rw [appendAll, split]
  congr 1
  · exact foldl_appendNum_column 96 11 PreSample.dtUs first rest PreSample.dt_length few
      (by decide)
  · exact foldl_appendNum_column 96 11 PreSample.errUs first rest PreSample.err_length few
      (by decide)
  · exact foldl_appendNum_column 96 11 PreSample.medUs first rest PreSample.med_length few
      (by decide)
  · exact foldl_appendNum_column 64 6 (fun sample => sample.ringMs) first rest
      PreSample.ring_length few (by decide)
  · exact foldl_appendNum_column 64 6 (fun sample => sample.drops) first rest
      PreSample.drops_length few (by decide)

end PreTexts

def sumDt (samples : List PreSample) : Int := (samples.map PreSample.dtUs).sum

/-- Samples as they are printed where the newest is of the given time: numbered to the end, and
each as much earlier as the gaps after it say. -/
def timed (lastUs : Int) : List PreSample → List Printed
  | [] => []
  | sample :: rest => ⟨rest.length + 1, lastUs - sumDt rest, sample⟩ :: timed lastUs rest

theorem timed_length (lastUs : Int) (samples : List PreSample) :
    (timed lastUs samples).length = samples.length := by
  induction samples with
  | nil => rfl
  | cons sample rest ih => rw [timed, List.length_cons, ih, List.length_cons]

theorem timed_drop (lastUs : Int) (samples : List PreSample) (count : Nat) :
    timed lastUs (samples.drop count) = (timed lastUs samples).drop count := by
  induction samples generalizing count with
  | nil => rw [List.drop_nil, timed, List.drop_nil]
  | cons sample rest ih =>
      cases count with
      | zero => rfl
      | succ count => rw [timed, List.drop_succ_cons, List.drop_succ_cons, ih]

theorem timed_map_sample (lastUs : Int) (samples : List PreSample) :
    (timed lastUs samples).map Printed.sample = samples := by
  induction samples with
  | nil => rfl
  | cons sample rest ih => rw [timed, List.map_cons, ih]

theorem timed_label (lastUs : Int) (samples : List PreSample) (place : Nat)
    (within : place < samples.length) :
    (timed lastUs samples)[place]?.map Printed.label = some (samples.length - place) := by
  induction samples generalizing place with
  | nil => exact absurd within (Nat.not_lt_zero place)
  | cons sample rest ih =>
      cases place with
      | zero => rfl
      | succ place =>
          rw [timed, List.getElem?_cons_succ, ih place (Nat.lt_of_succ_lt_succ within),
            List.length_cons, Nat.succ_sub_succ]

theorem preLine_of_timed (lastUs : Int) (first : PreSample) (rest : List PreSample) (n : Nat)
    (positive : 0 < n) (few : n ≤ (first :: rest).length) :
    PreLine.of ((timed lastUs (first :: rest)).take n) =
      { labelFirst := (first :: rest).length
        labelLast := (first :: rest).length - n + 1
        tUs := lastUs - sumDt rest
        dt := csv (((first :: rest).take n).map PreSample.dtUs)
        err := csv (((first :: rest).take n).map PreSample.errUs)
        med := csv (((first :: rest).take n).map PreSample.medUs)
        ring := csv (((first :: rest).take n).map fun sample => (sample.ringMs : Int))
        drops := csv (((first :: rest).take n).map fun sample => (sample.drops : Int)) } := by
  have samples : ((timed lastUs (first :: rest)).take n).map Printed.sample =
      (first :: rest).take n := by
    rw [List.map_take, timed_map_sample]
  have column : ∀ field : PreSample → Int,
      ((timed lastUs (first :: rest)).take n).map (fun printed => field printed.sample) =
        ((first :: rest).take n).map field := by
    intro field
    rw [← samples, List.map_map]
    rfl
  have newest : ((timed lastUs (first :: rest)).take n).getLast?.map Printed.label =
      some ((first :: rest).length - n + 1) := by
    rw [List.getLast?_eq_getElem?, List.length_take, timed_length, Nat.min_eq_left few,
      List.getElem?_take_of_lt (by omega), timed_label _ _ _ (by omega)]
    congr 1
    omega
  obtain ⟨n, rfl⟩ := Nat.exists_eq_succ_of_ne_zero (Nat.ne_of_gt positive)
  rw [PreLine.of, column, column, column, column (fun sample => sample.ringMs),
    column (fun sample => sample.drops), newest]
  rfl

namespace PreTrace

/-- The dump has still to print these samples, the cursor being at the first of them. -/
structure Dumping (trace : PreTrace) (left : List PreSample) : Prop where
  count : trace.preDumpLeft = left.length
  label : trace.preDumpLabel = left.length
  slots : ∀ place < left.length,
    trace.preTrace.slots[(trace.preDumpPos + place) % resyncPreChunks]? = left[place]?
  inside : trace.preDumpPos < resyncPreChunks
  time : trace.preDumpTUs = trace.preLastTUs - sumDt left.tail

theorem Dumping.sampleAt {trace : PreTrace} {sample : PreSample} {rest : List PreSample}
    (dumping : trace.Dumping (sample :: rest)) : trace.sampleAt trace.preDumpPos = sample := by
  have slot := dumping.slots 0 (Nat.succ_pos _)
  rw [Nat.add_zero, Nat.mod_eq_of_lt dumping.inside, List.getElem?_cons_zero] at slot
  rw [PreTrace.sampleAt, slot, Option.getD_some]

theorem Dumping.advance {trace : PreTrace} {sample : PreSample} {rest : List PreSample}
    (dumping : trace.Dumping (sample :: rest)) : trace.advance.Dumping rest := by
  have count := dumping.count
  have label := dumping.label
  have time := dumping.time
  rw [List.length_cons] at count label
  rw [List.tail_cons] at time
  have slots : ∀ place < rest.length,
      trace.preTrace.slots[((trace.preDumpPos + 1) % resyncPreChunks + place) %
        resyncPreChunks]? = rest[place]? := by
    intro place within
    have slot := dumping.slots (place + 1) (Nat.succ_lt_succ within)
    rw [List.getElem?_cons_succ] at slot
    rw [Nat.mod_add_mod, Nat.add_assoc, Nat.add_comm 1, slot]
  constructor
  · change trace.preDumpLeft - 1 = rest.length
    omega
  · change trace.preDumpLabel - 1 = rest.length
    omega
  · exact slots
  · exact Nat.mod_lt _ (by decide)
  · change (if 0 < trace.preDumpLeft - 1 then
        trace.preDumpTUs + (trace.sampleAt ((trace.preDumpPos + 1) % resyncPreChunks)).dtUs
      else trace.preDumpTUs) = trace.preLastTUs - sumDt rest.tail
    cases rest with
    | nil =>
        rw [if_neg (by rw [count]; decide), time]
        rfl
    | cons next later =>
        have slot := slots 0 (Nat.succ_pos _)
        rw [Nat.add_zero, Nat.mod_mod, List.getElem?_cons_zero] at slot
        rw [if_pos (by rw [count, List.length_cons]; omega), PreTrace.sampleAt, slot,
          Option.getD_some, time, sumDt, sumDt, List.map_cons, List.sum_cons, List.tail_cons]
        omega

def SameRing (left right : PreTrace) : Prop :=
  left.preTrace = right.preTrace ∧ left.preFilled = right.preFilled ∧
    left.preLastTUs = right.preLastTUs

theorem emitSamples_dumping (front rest : List PreSample) (first : Bool) (trace : PreTrace)
    (texts : PreTexts) (dumping : trace.Dumping (front ++ rest)) :
    (emitSamples front.length first trace texts).1.Dumping rest ∧
      (emitSamples front.length first trace texts).1.SameRing trace ∧
      (emitSamples front.length first trace texts).2 = texts.appendAll first front := by
  induction front generalizing first trace texts with
  | nil => exact ⟨dumping, ⟨rfl, rfl, rfl⟩, rfl⟩
  | cons sample later ih =>
      rw [List.length_cons, emitSamples, dumping.sampleAt]
      obtain ⟨after, same, printed⟩ :=
        ih false trace.advance (texts.append first sample) dumping.advance
      refine ⟨after, same, ?_⟩
      rw [printed]
      cases later <;> rfl

def lineCount (left : List PreSample) : Nat := min resyncPrePerLine left.length

theorem Dumping.emit {trace : PreTrace} {left : List PreSample} (dumping : trace.Dumping left)
    (pending : left ≠ []) :
    trace.emitPreTraceLine.1.Dumping (left.drop (lineCount left)) ∧
      trace.emitPreTraceLine.1.SameRing trace ∧
      trace.emitPreTraceLine.2 =
        some (PreLine.of ((timed trace.preLastTUs left).take (lineCount left))) := by
  have count := dumping.count
  obtain ⟨first, rest, rfl⟩ := List.exists_cons_of_ne_nil pending
  have few : lineCount (first :: rest) ≤ (first :: rest).length := Nat.min_le_right _ _
  have positive : 0 < lineCount (first :: rest) :=
    Nat.lt_min.mpr ⟨by decide, Nat.succ_pos _⟩
  have front : ((first :: rest).take (lineCount (first :: rest))).length =
      lineCount (first :: rest) := by
    rw [List.length_take, Nat.min_eq_left few]
  have split : trace.Dumping ((first :: rest).take (lineCount (first :: rest)) ++
      (first :: rest).drop (lineCount (first :: rest))) := by
    rw [List.take_append_drop]
    exact dumping
  obtain ⟨after, same, printed⟩ := emitSamples_dumping _ _ true trace PreTexts.empty split
  rw [front] at after same printed
  rw [emitPreTraceLine, if_neg (by rw [count]; exact Nat.succ_ne_zero _), count, dumping.label,
    dumping.time]
  refine ⟨after, same, ?_⟩
  rw [preLine_of_timed _ _ _ _ positive few]
  have within : ((first :: rest).take (lineCount (first :: rest))).length ≤ resyncPrePerLine := by
    rw [front]
    exact Nat.min_le_left _ _
  obtain ⟨n, shape⟩ := Nat.exists_eq_succ_of_ne_zero (Nat.ne_of_gt positive)
  rw [shape, List.take_succ_cons] at within
  change some _ = some _
  rw [← lineCount, printed, shape, List.take_succ_cons, PreTexts.appendAll_eq _ _ within]
  rfl

end PreTrace

def PreRecord.since (record : PreRecord) : Option Int → Int
  | none => 0
  | some previousUs => record.atUs - previousUs

def samplesFrom (previous : Option Int) : List PreRecord → List PreSample
  | [] => []
  | record :: rest =>
      record.sample (record.since previous) :: samplesFrom (some record.atUs) rest

def lastOf (previous : Option Int) (records : List PreRecord) : Option Int :=
  (records.getLast?.map PreRecord.atUs).or previous

theorem samplesFrom_length (previous : Option Int) (records : List PreRecord) :
    (samplesFrom previous records).length = records.length := by
  induction records generalizing previous with
  | nil => rfl
  | cons record rest ih => rw [samplesFrom, List.length_cons, ih, List.length_cons]

theorem lastOf_cons (previous : Option Int) (first : PreRecord) (rest : List PreRecord) :
    lastOf previous (first :: rest) = lastOf (some first.atUs) rest := by
  rw [lastOf, lastOf]
  cases rest with
  | nil => rfl
  | cons second later =>
      rw [List.getLast?_cons_cons, List.getLast?_eq_some_getLast (List.cons_ne_nil _ _)]
      rfl

theorem samplesFrom_concat (previous : Option Int) (records : List PreRecord)
    (record : PreRecord) :
    samplesFrom previous (records ++ [record]) =
      samplesFrom previous records ++ [record.sample (record.since (lastOf previous records))] := by
  induction records generalizing previous with
  | nil => rfl
  | cons first rest ih =>
      rw [List.cons_append, samplesFrom, ih, samplesFrom, List.cons_append, lastOf_cons]

namespace PreTrace

structure Holds (trace : PreTrace) (records : List PreRecord) : Prop where
  filled : trace.preFilled = min records.length resyncPreChunks
  window : trace.preTrace.window.drop (resyncPreChunks - trace.preFilled) =
    (samplesFrom none records).drop (records.length - resyncPreChunks)
  last : ∀ record ∈ records.getLast?, trace.preLastTUs = record.atUs

theorem Holds.congr {trace other : PreTrace} {records : List PreRecord}
    (same : trace.SameRing other) (holds : other.Holds records) : trace.Holds records := by
  obtain ⟨ring, filled, last⟩ := same
  constructor
  · rw [filled, holds.filled]
  · rw [ring, filled, holds.window]
  · rw [last]
    exact holds.last

theorem boot_holds : boot.Holds [] := by
  constructor
  · rfl
  · rfl
  · intro record member
    cases member

theorem Holds.record {trace : PreTrace} {records : List PreRecord} (holds : trace.Holds records)
    (idle : trace.preDumpLeft = 0) (record : PreRecord) :
    (trace.recordPreTrace record).Holds (records ++ [record]) := by
  have filled := holds.filled
  have length := trace.preTrace.length_window
  have gap : (if trace.preFilled = 0 then 0 else record.atUs - trace.preLastTUs) =
      record.since (lastOf none records) := by
    rcases List.eq_nil_or_concat records with none_ | ⟨before, newest, rfl⟩
    · rw [none_] at filled ⊢
      have zero : trace.preFilled = 0 := filled
      rw [if_pos zero]
      rfl
    · rw [List.concat_eq_append] at filled ⊢
      have newestAt := holds.last newest (by rw [List.concat_eq_append]; simp)
      rw [List.length_append, List.length_singleton, resyncPreChunks] at filled
      rw [if_neg (by omega), newestAt, lastOf, List.getLast?_concat]
      rfl
  rw [recordPreTrace, if_neg (by omega), gap]
  constructor
  · dsimp only
    rw [List.length_append, List.length_singleton]
    split <;> omega
  · dsimp only
    rw [SlotRing.window_append, samplesFrom_concat, List.length_append, List.length_singleton]
    have window := holds.window
    by_cases room : trace.preFilled < resyncPreChunks
    · have few : records.length < resyncPreChunks := by omega
      rw [Nat.sub_eq_zero_of_le few.le, List.drop_zero] at window
      rw [if_pos room, Nat.sub_eq_zero_of_le few, List.drop_zero,
        List.drop_append_of_le_length (by rw [List.length_tail, length]; omega),
        ← List.drop_one, List.drop_drop, ← window]
      congr 2
      omega
    · have many : resyncPreChunks ≤ records.length := by omega
      have whole : trace.preFilled = resyncPreChunks := by omega
      rw [whole, Nat.sub_self, List.drop_zero] at window
      have reaches : records.length + 1 - resyncPreChunks ≤ (samplesFrom none records).length := by
        rw [samplesFrom_length]
        unfold resyncPreChunks
        omega
      rw [if_neg room, whole, Nat.sub_self, List.drop_zero, window, List.tail_drop,
        List.drop_append_of_le_length reaches]
      congr 2
      omega
  · intro newest member
    rw [List.getLast?_concat, Option.mem_some_iff] at member
    rw [← member]

/-- Stepping back over the ring sums up the gaps on the way. -/
theorem walkBack_eq (trace : PreTrace) (steps place : Nat) (t : Int)
    (inside : place < resyncPreChunks) (few : steps ≤ place) :
    trace.walkBack steps t ((trace.preTrace.next + place) % resyncPreChunks) =
      t - sumDt ((trace.preTrace.window.take (place + 1)).drop (place + 1 - steps)) := by
  have length := trace.preTrace.length_window
  induction steps generalizing place t with
  | zero =>
      rw [walkBack, Nat.sub_zero, List.drop_of_length_le (by rw [List.length_take]; omega)]
      exact (Int.sub_zero t).symm
  | succ steps ih =>
      have within : place < trace.preTrace.window.length := by omega
      have slot := trace.preTrace.getElem?_window place inside
      rw [List.getElem?_eq_getElem within] at slot
      have before : slotBefore ((trace.preTrace.next + place) % resyncPreChunks) =
          (trace.preTrace.next + (place - 1)) % resyncPreChunks := by
        rw [slotBefore]
        unfold resyncPreChunks
        split <;> omega
      rw [walkBack, before, ih (place - 1) _ (by omega) (by omega), Nat.sub_add_cancel (by omega),
        sampleAt, ← slot, Option.getD_some, Nat.succ_sub_succ,
        List.take_succ_eq_append_getElem within,
        List.drop_append_of_le_length (by rw [List.length_take]; omega), sumDt, sumDt,
        List.map_append, List.sum_append, List.map_singleton, List.sum_singleton]
      omega

theorem Holds.arm {trace : PreTrace} {records : List PreRecord} (holds : trace.Holds records)
    (idle : trace.preDumpLeft = 0) (some_ : records ≠ []) :
    trace.armPreTraceDump.Dumping
        ((samplesFrom none records).drop (records.length - resyncPreChunks)) ∧
      trace.armPreTraceDump.SameRing trace := by
  have filled := holds.filled
  have positive : 0 < records.length := List.length_pos_of_ne_nil some_
  have length := trace.preTrace.length_window
  have inside := trace.preTrace.inside
  have most : trace.preFilled ≤ resyncPreChunks := by omega
  have started : 0 < trace.preFilled := by
    rw [filled]
    exact Nat.lt_min.mpr ⟨positive, by decide⟩
  rw [armPreTraceDump, if_neg (by omega), ← holds.window]
  refine ⟨?_, ⟨rfl, rfl, rfl⟩⟩
  constructor
  · rw [List.length_drop, length]
    exact (Nat.sub_sub_self most).symm
  · rw [List.length_drop, length]
    exact (Nat.sub_sub_self most).symm
  · intro place within
    rw [List.length_drop, length] at within
    rw [List.getElem?_drop, SlotRing.getElem?_window _ _ (by omega)]
    dsimp only
    rw [Nat.mod_add_mod]
    congr 2
    omega
  · exact Nat.mod_lt _ (by decide)
  · have back : slotBefore trace.preTrace.next =
        (trace.preTrace.next + (resyncPreChunks - 1)) % resyncPreChunks := by
      rw [slotBefore]
      unfold resyncPreChunks at inside ⊢
      split <;> omega
    have walked := trace.walkBack_eq (trace.preFilled - 1) (resyncPreChunks - 1) trace.preLastTUs
      (by decide) (by omega)
    rw [List.take_of_length_le (by rw [length]; decide)] at walked
    dsimp only
    rw [back, walked, List.tail_drop]
    congr 3
    unfold resyncPreChunks at most ⊢
    omega

end PreTrace

/-- What the stored gaps leave out of the time from the first of some records to the last. -/
def cutUs : List PreRecord → Int
  | first :: second :: rest =>
      (second.atUs - first.atUs - clampU32 (second.atUs - first.atUs)) + cutUs (second :: rest)
  | _ => 0

def printedFrom (previous : Option Int) : List PreRecord → List Printed
  | [] => []
  | record :: rest =>
      ⟨rest.length + 1, record.atUs + cutUs (record :: rest),
        record.sample (record.since previous)⟩ :: printedFrom (some record.atUs) rest

theorem sub_sumDt (first : PreRecord) (rest : List PreRecord) (lastUs : Int)
    (last : lastOf (some first.atUs) rest = some lastUs) :
    lastUs - sumDt (samplesFrom (some first.atUs) rest) = first.atUs + cutUs (first :: rest) := by
  induction rest generalizing first with
  | nil =>
      cases last
      change first.atUs - 0 = first.atUs + 0
      omega
  | cons second later ih =>
      rw [lastOf_cons] at last
      have here := ih second last
      have stored : (second.sample (second.since (some first.atUs))).dtUs =
          clampU32 (second.atUs - first.atUs) := rfl
      rw [samplesFrom, sumDt, List.map_cons, List.sum_cons, ← sumDt, stored, cutUs]
      omega

/-- Walking back from the newest record meets every earlier one but for what was cut off. -/
theorem timed_samplesFrom (previous : Option Int) (records : List PreRecord) (lastUs : Int)
    (last : lastOf previous records = some lastUs) :
    timed lastUs (samplesFrom previous records) = printedFrom previous records := by
  induction records generalizing previous with
  | nil => rfl
  | cons first rest ih =>
      rw [lastOf_cons] at last
      rw [samplesFrom, timed, printedFrom, ih _ last, samplesFrom_length, sub_sumDt _ _ _ last]

theorem printedFrom_atUs (previous : Option Int) (records : List PreRecord) (place : Nat)
    (record : PreRecord) (printed : Printed) (recorded : records[place]? = some record)
    (shown : (printedFrom previous records)[place]? = some printed) :
    printed.atUs = record.atUs + cutUs (records.drop place) := by
  induction records generalizing previous place with
  | nil => cases recorded
  | cons first rest ih =>
      cases place with
      | zero =>
          cases recorded
          cases shown
          rfl
      | succ place =>
          rw [printedFrom, List.getElem?_cons_succ] at shown
          rw [List.getElem?_cons_succ] at recorded
          rw [List.drop_succ_cons]
          exact ih _ place recorded shown

theorem cutUs_eq_zero_iff (records : List PreRecord)
    (forward : records.IsChain fun before after => before.atUs ≤ after.atUs) :
    0 ≤ cutUs records ∧ (cutUs records = 0 ↔
      records.IsChain fun before after => after.atUs - before.atUs ≤ 4294967295) := by
  induction records with
  | nil => exact ⟨Int.le_refl 0, ⟨fun _ => List.isChain_nil, fun _ => rfl⟩⟩
  | cons first rest ih =>
      cases rest with
      | nil => exact ⟨Int.le_refl 0, ⟨fun _ => List.isChain_singleton _, fun _ => rfl⟩⟩
      | cons second later =>
          rw [List.isChain_cons_cons] at forward
          obtain ⟨nonneg, exactly⟩ := ih forward.2
          rw [cutUs, List.isChain_cons_cons, ← exactly, clampU32]
          omega

namespace PreTrace

theorem Dumping.record {trace : PreTrace} {left : List PreSample} (dumping : trace.Dumping left)
    (pending : left ≠ []) (record : PreRecord) : trace.recordPreTrace record = trace := by
  have count := dumping.count
  have positive := List.length_pos_of_ne_nil pending
  rw [recordPreTrace, if_pos (by omega)]

theorem Dumping.arm {trace : PreTrace} {left : List PreSample} (dumping : trace.Dumping left)
    (pending : left ≠ []) : trace.armPreTraceDump = trace := by
  have count := dumping.count
  have positive := List.length_pos_of_ne_nil pending
  rw [armPreTraceDump, if_pos (Or.inr (by omega))]

theorem lines_idle (trace : PreTrace) (rest : List PreEvent) (idle : trace.preDumpLeft = 0)
    (unarmed : .arm ∉ rest) : trace.lines rest = [] := by
  induction rest generalizing trace with
  | nil => rfl
  | cons event rest ih =>
      rw [List.mem_cons, not_or] at unarmed
      rw [lines]
      cases event with
      | record given =>
          have stays : (trace.recordPreTrace given).preDumpLeft = 0 := by
            rw [recordPreTrace, if_neg (by omega)]
            exact idle
          rw [step, ih _ stays unarmed.2]
          rfl
      | arm => exact absurd rfl unarmed.1
      | emit =>
          have still : trace.emitPreTraceLine = (trace, none) := by
            rw [emitPreTraceLine, if_pos idle]
          rw [printedBy, step, still, ih _ idle unarmed.2]
          rfl

def linesFor (count : Nat) : Nat := (count + (resyncPrePerLine - 1)) / resyncPrePerLine

theorem lines_dumping (trace : PreTrace) (left : List PreSample) (later : List PreEvent)
    (dumping : trace.Dumping left) (enough : linesFor left.length ≤ later.countP PreEvent.isEmit)
    (rearmed : ∀ before after, later = before ++ .arm :: after →
      before.countP PreEvent.isEmit < linesFor left.length) :
    ∃ groups : List (List Printed), trace.lines later = groups.map PreLine.of ∧
      (∀ group ∈ groups, group ≠ [] ∧ group.length ≤ resyncPrePerLine) ∧
      groups.flatten = timed trace.preLastTUs left := by
  induction later generalizing trace left with
  | nil =>
      rw [List.countP_nil, linesFor, resyncPrePerLine] at enough
      have none_ : left = [] := List.eq_nil_of_length_eq_zero (by omega)
      rw [none_]
      exact ⟨[], rfl, by simp, rfl⟩
  | cons event rest ih =>
      by_cases none_ : left = []
      · refine ⟨[], ?_, by simp, by rw [none_]; rfl⟩
        apply lines_idle
        · rw [dumping.count, none_]
          rfl
        · intro member
          obtain ⟨before, after, split⟩ := List.append_of_mem member
          have soon := rearmed before after split
          rw [none_] at soon
          exact absurd soon (Nat.not_lt_zero _)
      · rw [lines]
        cases event with
        | record given =>
            rw [printedBy, step, dumping.record none_, List.nil_append]
            apply ih trace left dumping
            · exact enough
            · intro before after split
              exact rearmed (.record given :: before) after (by rw [split]; rfl)
        | arm =>
            rw [printedBy, step, dumping.arm none_, List.nil_append]
            apply ih trace left dumping
            · exact enough
            · intro before after split
              exact rearmed (.arm :: before) after (by rw [split]; rfl)
        | emit =>
            obtain ⟨after, same, printed⟩ := dumping.emit none_
            have positive : 0 < left.length := List.length_pos_of_ne_nil none_
            have fewer : linesFor (left.drop (lineCount left)).length + 1 =
                linesFor left.length := by
              rw [List.length_drop, linesFor, linesFor, lineCount, resyncPrePerLine]
              omega
            rw [List.countP_cons_of_pos rfl] at enough
            obtain ⟨groups, shown, sized, whole⟩ :=
              ih trace.emitPreTraceLine.1 (left.drop (lineCount left)) after (by omega) (by
                intro before after split
                have soon := rearmed (.emit :: before) after (by rw [split]; rfl)
                rw [List.countP_cons_of_pos rfl] at soon
                omega)
            refine ⟨(timed trace.preLastTUs left).take (lineCount left) :: groups, ?_, ?_, ?_⟩
            · rw [printedBy, printed, step, shown]
              rfl
            · intro group member
              rcases List.mem_cons.mp member with here | later
              · rw [here]
                have length : ((timed trace.preLastTUs left).take (lineCount left)).length =
                    lineCount left := by
                  rw [List.length_take, timed_length, lineCount]
                  omega
                rw [← List.length_pos_iff, length, lineCount]
                unfold resyncPrePerLine
                omega
              · exact sized group later
            · rw [List.flatten_cons, whole, same.2.2, timed_drop, List.take_append_drop]

/-- Where a run stands: the ring as recorded, and either no dump or one that has samples left. -/
structure Sound (trace : PreTrace) (records : List PreRecord) : Prop where
  holds : trace.Holds records
  dump : trace.preDumpLeft = 0 ∨ ∃ left, left ≠ [] ∧ trace.Dumping left

theorem Sound.step {trace : PreTrace} {records : List PreRecord} (sound : trace.Sound records)
    (event : PreEvent) : (trace.step event).Sound (records ++ trace.recordedBy event) := by
  obtain ⟨holds, dump⟩ := sound
  cases event with
  | record given =>
      rw [PreTrace.step, recordedBy]
      rcases dump with idle | ⟨left, pending, dumping⟩
      · rw [if_neg (by omega)]
        refine ⟨holds.record idle given, Or.inl ?_⟩
        rw [recordPreTrace, if_neg (by omega)]
        exact idle
      · have positive := List.length_pos_of_ne_nil pending
        rw [if_pos (by rw [dumping.count]; exact positive), dumping.record pending,
          List.append_nil]
        exact ⟨holds, Or.inr ⟨left, pending, dumping⟩⟩
  | arm =>
      rw [PreTrace.step, recordedBy, List.append_nil]
      rcases dump with idle | ⟨left, pending, dumping⟩
      · by_cases none_ : records = []
        · have filled := holds.filled
          rw [none_] at filled
          have zero : trace.preFilled = 0 := filled
          rw [armPreTraceDump, if_pos (Or.inl zero)]
          exact ⟨holds, Or.inl idle⟩
        · obtain ⟨dumping, same⟩ := holds.arm idle none_
          refine ⟨holds.congr same, Or.inr ⟨_, ?_, dumping⟩⟩
          have positive := List.length_pos_of_ne_nil none_
          rw [← List.length_pos_iff, List.length_drop, samplesFrom_length]
          unfold resyncPreChunks
          omega
      · rw [dumping.arm pending]
        exact ⟨holds, Or.inr ⟨left, pending, dumping⟩⟩
  | emit =>
      rw [PreTrace.step, recordedBy, List.append_nil]
      rcases dump with idle | ⟨left, pending, dumping⟩
      · rw [emitPreTraceLine, if_pos idle]
        exact ⟨holds, Or.inl idle⟩
      · obtain ⟨after, same, _⟩ := dumping.emit pending
        refine ⟨holds.congr same, ?_⟩
        by_cases last : left.drop (lineCount left) = []
        · exact Or.inl (by rw [after.count, last]; rfl)
        · exact Or.inr ⟨_, last, after⟩

theorem sound_run (trace : PreTrace) (records : List PreRecord) (events : List PreEvent)
    (sound : trace.Sound records) :
    (events.foldl PreTrace.step trace).Sound (records ++ trace.recorded events) := by
  induction events generalizing trace records with
  | nil =>
      rw [recorded, List.append_nil]
      exact sound
  | cons event rest ih =>
      rw [List.foldl_cons, recorded, ← List.append_assoc]
      exact ih _ _ (sound.step event)

end PreTrace

open PreTrace in
/-- The replay of whatever any run has recorded: an arm while no dump is on, and calls enough. -/
theorem replay_prints (history later : List PreEvent)
    (idle : (history.foldl step boot).preDumpLeft = 0)
    (enough : linesFor (min (boot.recorded history).length resyncPreChunks) ≤
      later.countP PreEvent.isEmit)
    (rearmed : ∀ before after, later = before ++ .arm :: after →
      before.countP PreEvent.isEmit <
        linesFor (min (boot.recorded history).length resyncPreChunks)) :
    (∃ groups : List (List Printed),
      (history.foldl step boot).lines (.arm :: later) = groups.map PreLine.of ∧
      (∀ group ∈ groups, group ≠ [] ∧ group.length ≤ resyncPrePerLine) ∧
      groups.flatten = (printedFrom none (boot.recorded history)).drop
        ((boot.recorded history).length - resyncPreChunks)) ∧
    ((boot.recorded history).IsChain (fun before after => before.atUs ≤ after.atUs) →
      ∀ place record printed, (boot.recorded history)[place]? = some record →
        (printedFrom none (boot.recorded history))[place]? = some printed →
        (printed.atUs = record.atUs ↔ ((boot.recorded history).drop place).IsChain
          fun before after => after.atUs - before.atUs ≤ 4294967295)) := by
  have sound := sound_run boot [] history ⟨boot_holds, Or.inl rfl⟩
  rw [List.nil_append] at sound
  generalize history.foldl step boot = trace at idle sound
  generalize boot.recorded history = records at enough rearmed sound
  constructor
  · rw [lines, printedBy, List.nil_append]
    by_cases none_ : records = []
    · refine ⟨[], ?_, by simp, by rw [none_]; rfl⟩
      rw [none_] at sound rearmed
      have zero : trace.preFilled = 0 := sound.holds.filled
      rw [PreTrace.step, armPreTraceDump, if_pos (Or.inl zero)]
      apply lines_idle trace later idle
      intro member
      obtain ⟨before, after, split⟩ := List.append_of_mem member
      exact absurd (rearmed before after split) (Nat.not_lt_zero _)
    · obtain ⟨dumping, same⟩ := sound.holds.arm idle none_
      have length : ((samplesFrom none records).drop (records.length - resyncPreChunks)).length =
          min records.length resyncPreChunks := by
        rw [List.length_drop, samplesFrom_length]
        omega
      have last : lastOf none records = some trace.preLastTUs := by
        have newest := List.getLast?_eq_some_getLast none_
        rw [lastOf, newest, sound.holds.last _ newest]
        rfl
      obtain ⟨groups, shown, sized, whole⟩ := lines_dumping trace.armPreTraceDump _ later dumping
        (by rw [length]; exact enough) (by rw [length]; exact rearmed)
      refine ⟨groups, shown, sized, ?_⟩
      rw [whole, same.2.2, timed_drop, timed_samplesFrom none records _ last]
  · intro forward place record printed recorded shown
    have time := printedFrom_atUs none records place record printed recorded shown
    rw [← (cutUs_eq_zero_iff _ (forward.drop place)).2, time]
    omega

def quietChunk (atUs : Int) : PreRecord :=
  { atUs := atUs
    errorUs := 0
    medianErrUs := 0
    ringMs := 0
    resyncDrops := 0 }

def twoHourPause : List PreEvent := [.record (quietChunk 0), .record (quietChunk 7200000000)]

open PreTrace in
/-- The pause prints as the widest gap, and the chunk before it as that much later. -/
theorem two_hour_pause_shortened :
    ¬ ∀ history later : List PreEvent, (history.foldl step boot).preDumpLeft = 0 →
      linesFor (min (boot.recorded history).length resyncPreChunks) ≤
        later.countP PreEvent.isEmit →
      .arm ∉ later →
      ∀ line ∈ ((history.foldl step boot).lines (.arm :: later)).head?,
        ∀ oldest ∈ ((boot.recorded history).drop
          ((boot.recorded history).length - resyncPreChunks)).head?,
          line.tUs = oldest.atUs := by
  intro exact
  have times := exact twoHourPause [.emit] (by decide) (by decide) (by decide) _ rfl _ rfl
  exact absurd times (by decide)

def hundredChunks : List PreEvent := (List.range 100).map fun turn : Nat =>
  .record (quietChunk (26000 * turn))

open PreTrace in
theorem hundred_chunks_replayed :
    (∃ groups : List (List Printed),
      (hundredChunks.foldl step boot).lines (.arm :: List.replicate 20 .emit) =
        groups.map PreLine.of ∧
      (∀ group ∈ groups, group ≠ [] ∧ group.length ≤ resyncPrePerLine) ∧
      groups.flatten = (printedFrom none (boot.recorded hundredChunks)).drop
        ((boot.recorded hundredChunks).length - resyncPreChunks)) ∧
    ∀ printed, (printedFrom none (boot.recorded hundredChunks))[30]? = some printed →
      printed.atUs = 780000 := by
  obtain ⟨lines, times⟩ := replay_prints hundredChunks (List.replicate 20 .emit)
    (by decide +kernel) (by decide +kernel) (by
      intro before after split
      have member : PreEvent.arm ∈ List.replicate 20 PreEvent.emit := by
        rw [split]
        exact List.mem_append_right before List.mem_cons_self
      cases List.eq_of_mem_replicate member)
  refine ⟨lines, fun printed shown => ?_⟩
  exact (times (by decide +kernel) 30 (quietChunk 780000) printed (by decide +kernel) shown).mpr
    (by decide +kernel)

end Player
