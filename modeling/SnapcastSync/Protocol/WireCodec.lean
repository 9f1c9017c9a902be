import SnapcastSync.Lib.ByteMemory
import SnapcastSync.Protocol.Views

/-! The header of a message and the payload of a Time message, as they are written to memory and
read from it. -/

namespace Protocol

open ByteMemory

def writeU16 (memory : Memory) (out : UInt32) (v : UInt16) : Memory :=
  let memory := Function.update memory out (v &&& 0xFF).toUInt8
  Function.update memory (out + 1) ((v >>> 8) &&& 0xFF).toUInt8

def writeU32 (memory : Memory) (out : UInt32) (v : UInt32) : Memory :=
  let memory := Function.update memory out (v &&& 0xFF).toUInt8
  let memory := Function.update memory (out + 1) ((v >>> 8) &&& 0xFF).toUInt8
  let memory := Function.update memory (out + 2) ((v >>> 16) &&& 0xFF).toUInt8
  Function.update memory (out + 3) ((v >>> 24) &&& 0xFF).toUInt8

/-- Both parts truncate toward zero. -/
def TimeVal.fromUs (us : Int64) : TimeVal :=
  { sec := (us / 1000000).toInt32
    usec := (us % 1000000).toInt32 }

structure BaseMessage where
  type : UInt16
  id : UInt16
  refersTo : UInt16
  sent : TimeVal
  received : TimeVal
  size : UInt32
deriving DecidableEq

namespace BaseMessage

def wireSize : Nat := 26

def serialize (msg : BaseMessage) (memory : Memory) (out : UInt32) : Memory :=
  let memory := writeU16 memory (out + 0) msg.type
  let memory := writeU16 memory (out + 2) msg.id
  let memory := writeU16 memory (out + 4) msg.refersTo
  let memory := writeU32 memory (out + 6) msg.sent.sec.toUInt32
  let memory := writeU32 memory (out + 10) msg.sent.usec.toUInt32
  let memory := writeU32 memory (out + 14) msg.received.sec.toUInt32
  let memory := writeU32 memory (out + 18) msg.received.usec.toUInt32
  writeU32 memory (out + 22) msg.size

def deserialize (memory : Memory) (input : UInt32) : BaseMessage :=
  { type := readU16 memory (input + 0)
    id := readU16 memory (input + 2)
    refersTo := readU16 memory (input + 4)
    sent :=
      { sec := readI32 memory (input + 6)
        usec := readI32 memory (input + 10) }
    received :=
      { sec := readI32 memory (input + 14)
        usec := readI32 memory (input + 18) }
    size := readU32 memory (input + 22) }

def bytes (msg : BaseMessage) : List UInt8 :=
  Words.halfWordBytes msg.type ++ (Words.halfWordBytes msg.id ++
    (Words.halfWordBytes msg.refersTo ++ (Words.wordBytes msg.sent.sec.toUInt32 ++
      (Words.wordBytes msg.sent.usec.toUInt32 ++ (Words.wordBytes msg.received.sec.toUInt32 ++
        (Words.wordBytes msg.received.usec.toUInt32 ++ Words.wordBytes msg.size))))))

end BaseMessage

structure TimePayload where
  latency : TimeVal
deriving DecidableEq

namespace TimePayload

def wireSize : UInt32 := 8

def serialize (payload : TimePayload) (memory : Memory) (out : UInt32) : Memory :=
  let memory := writeU32 memory out payload.latency.sec.toUInt32
  writeU32 memory (out + 4) payload.latency.usec.toUInt32

def parse (memory : Memory) (data size : UInt32) (out : TimePayload) : Bool × TimePayload :=
  if size < wireSize then (false, out)
  else
    (true,
      { latency :=
          { sec := readI32 memory data
            usec := readI32 memory (data + 4) } })

def bytes (payload : TimePayload) : List UInt8 :=
  Words.wordBytes payload.latency.sec.toUInt32 ++ Words.wordBytes payload.latency.usec.toUInt32

end TimePayload

theorem writeU16_eq (memory : Memory) (out : UInt32) (v : UInt16) :
    writeU16 memory out v = store memory out (Words.halfWordBytes v) := rfl

theorem writeU32_eq (memory : Memory) (out : UInt32) (v : UInt32) :
    writeU32 memory out v = store memory out (Words.wordBytes v) := by
  have second : out + 2 = out + 1 + 1 := (UInt32.add_assoc out 1 1).symm
  have third : out + 3 = out + 1 + 1 + 1 := by
    rw [UInt32.add_assoc, UInt32.add_assoc]
    rfl
  rw [writeU32, second, third]
  rfl

theorem halfWordBytes_readU16 (memory : Memory) (address : UInt32) :
    Words.halfWordBytes (readU16 memory address) = load memory address 2 :=
  Words.halfWordBytes_halfWord _ _

theorem wordBytes_readU32 (memory : Memory) (address : UInt32) :
    Words.wordBytes (readU32 memory address) = load memory address 4 := by
  have second : address + 2 = address + 1 + 1 := (UInt32.add_assoc address 1 1).symm
  have third : address + 3 = address + 1 + 1 + 1 := by
    rw [UInt32.add_assoc, UInt32.add_assoc]
    rfl
  rw [readU32, Words.wordBytes_word, second, third]
  rfl

theorem signedBytes_injective {left right : Int32}
    (same : Words.wordBytes left.toUInt32 = Words.wordBytes right.toUInt32) : left = right := by
  rw [← Int32.toInt32_toUInt32 left, Words.wordBytes_injective same, Int32.toInt32_toUInt32]

namespace BaseMessage

theorem serialize_eq (msg : BaseMessage) (memory : Memory) (out : UInt32) :
    msg.serialize memory out = store memory (out + 0) msg.bytes := by
  rw [bytes, store_append_at, store_append_at, store_append_at, store_append_at, store_append_at,
    store_append_at, store_append_at, serialize]
  simp only [writeU16_eq, writeU32_eq]
  rfl

theorem bytes_deserialize (memory : Memory) (input : UInt32) :
    (deserialize memory input).bytes = load memory (input + 0) wireSize := by
  have split : wireSize = 2 + (2 + (2 + (4 + (4 + (4 + (4 + 4)))))) := rfl
  rw [split, load_append_at, load_append_at, load_append_at, load_append_at, load_append_at,
    load_append_at, load_append_at, bytes, deserialize]
  simp only [readI32, UInt32.toUInt32_toInt32, halfWordBytes_readU16, wordBytes_readU32]
  rfl

theorem bytes_length (msg : BaseMessage) : msg.bytes.length = wireSize := rfl

theorem bytes_injective : Function.Injective bytes := by
  intro left right same
  obtain ⟨type, same⟩ := List.append_inj same rfl
  obtain ⟨id, same⟩ := List.append_inj same rfl
  obtain ⟨refersTo, same⟩ := List.append_inj same rfl
  obtain ⟨sentSec, same⟩ := List.append_inj same rfl
  obtain ⟨sentUsec, same⟩ := List.append_inj same rfl
  obtain ⟨receivedSec, same⟩ := List.append_inj same rfl
  obtain ⟨receivedUsec, size⟩ := List.append_inj same rfl
  cases left with
  | mk leftType leftId leftRefersTo leftSent leftReceived leftSize =>
  cases right with
  | mk rightType rightId rightRefersTo rightSent rightReceived rightSize =>
  cases leftSent
  cases rightSent
  cases leftReceived
  cases rightReceived
  cases Words.halfWordBytes_injective type
  cases Words.halfWordBytes_injective id
  cases Words.halfWordBytes_injective refersTo
  cases signedBytes_injective sentSec
  cases signedBytes_injective sentUsec
  cases signedBytes_injective receivedSec
  cases signedBytes_injective receivedUsec
  cases Words.wordBytes_injective size
  rfl

theorem load_serialize (msg : BaseMessage) (memory : Memory) (out : UInt32) :
    load (msg.serialize memory out) out wireSize = msg.bytes := by
  rw [serialize_eq, UInt32.add_zero, ← bytes_length msg]
  exact load_store memory out msg.bytes (by rw [bytes_length]; decide)

theorem deserialize_serialize (msg : BaseMessage) (memory : Memory) (out : UInt32) :
    deserialize (msg.serialize memory out) out = msg := by
  apply bytes_injective
  rw [bytes_deserialize, UInt32.add_zero, load_serialize]

end BaseMessage

namespace TimePayload

theorem serialize_eq (payload : TimePayload) (memory : Memory) (out : UInt32) :
    payload.serialize memory out = store memory out payload.bytes := by
  rw [bytes, store_append, serialize, writeU32_eq, writeU32_eq]
  rfl

theorem load_serialize (payload : TimePayload) (memory : Memory) (out : UInt32) :
    load (payload.serialize memory out) out 8 = payload.bytes := by
  rw [serialize_eq]
  exact load_store memory out payload.bytes (by decide : 8 ≤ 2 ^ 32)

theorem bytes_injective : Function.Injective bytes := by
  intro left right same
  obtain ⟨sec, usec⟩ := List.append_inj same rfl
  cases left with
  | mk leftLatency =>
  cases right with
  | mk rightLatency =>
  cases leftLatency
  cases rightLatency
  cases signedBytes_injective sec
  cases signedBytes_injective usec
  rfl

theorem parse_accepts (memory : Memory) (data size : UInt32) (out : TimePayload)
    (enough : wireSize ≤ size) :
    (parse memory data size out).1 = true ∧
      (parse memory data size out).2.bytes = load memory data 8 := by
  have split : (8 : Nat) = 4 + 4 := rfl
  rw [parse, if_neg (UInt32.not_lt.mpr enough)]
  refine ⟨rfl, ?_⟩
  rw [split, load_append, bytes]
  simp only [readI32, UInt32.toUInt32_toInt32, wordBytes_readU32]
  rfl

theorem parse_serialize (payload : TimePayload) (memory : Memory) (data size : UInt32)
    (out : TimePayload) (enough : wireSize ≤ size) :
    parse (payload.serialize memory data) data size out = (true, payload) := by
  obtain ⟨accepted, same⟩ := parse_accepts (payload.serialize memory data) data size out enough
  rw [load_serialize] at same
  exact Prod.ext accepted (bytes_injective same)

end TimePayload

theorem TimeVal.parts_bounds (us : Int) (small : |us| < 2 ^ 31 * 10 ^ 6) :
    |us.tdiv 1000000| < 2 ^ 31 ∧ |us.tmod 1000000| < 2 ^ 31 ∧
      1000000 * us.tdiv 1000000 + us.tmod 1000000 = us := by
  obtain ⟨above, below⟩ := abs_lt.mp small
  have whole := Int.mul_tdiv_add_tmod us 1000000
  have least := Int.lt_tmod_of_pos us (by decide : (0 : Int) < 1000000)
  have greatest := Int.tmod_lt_of_pos us (by decide : (0 : Int) < 1000000)
  refine ⟨?_, abs_lt.mpr ⟨by omega, by omega⟩, whole⟩
  -- The remainder has the sign of the time: at either end the quotient is short of 2^31.
  rcases le_total 0 us with forward | backward
  · have sign := Int.tmod_nonneg 1000000 forward
    exact abs_lt.mpr ⟨by omega, by omega⟩
  · have sign := Int.tmod_nonneg 1000000 (neg_nonneg.mpr backward)
    rw [Int.neg_tmod] at sign
    exact abs_lt.mpr ⟨by omega, by omega⟩

theorem TimeVal.toUs_fromUs (us : Int64) (small : |us.toInt| < 2 ^ 31 * 10 ^ 6) :
    (fromUs us).toUs = us.toInt := by
  have million : (1000000 : Int64).toInt = 1000000 := by decide
  obtain ⟨seconds, rest, whole⟩ := parts_bounds us.toInt small
  obtain ⟨secondsAbove, secondsBelow⟩ := abs_lt.mp seconds
  obtain ⟨restAbove, restBelow⟩ := abs_lt.mp rest
  have quotient : (us.toInt.tdiv 1000000).bmod (2 ^ 64) = us.toInt.tdiv 1000000 :=
    Int.bmod_eq_of_le (by omega) (by omega)
  have secondsFit : (us.toInt.tdiv 1000000).bmod (2 ^ 32) = us.toInt.tdiv 1000000 :=
    Int.bmod_eq_of_le (by omega) (by omega)
  have restFits : (us.toInt.tmod 1000000).bmod (2 ^ 32) = us.toInt.tmod 1000000 :=
    Int.bmod_eq_of_le (by omega) (by omega)
  rw [fromUs, toUs, Int64.toInt_toInt32, Int64.toInt_toInt32, Int64.toInt_div, Int64.toInt_mod,
    million, quotient, secondsFit, restFits, Int.mul_comm]
  exact whole

/-- Header, time payload and time are inverse to their readers: what is written is read back, and
what is read is written as it was. -/
theorem wire_codecs_inverse :
    (∀ (msg : BaseMessage) (memory : Memory) (out : UInt32),
        BaseMessage.deserialize (msg.serialize memory out) out = msg) ∧
      (∀ (string : Vector UInt8 26) (memory written : Memory) (input out : UInt32),
        load ((BaseMessage.deserialize (store memory input string.toList) input).serialize
          written out) out 26 = string.toList) ∧
      (∀ (payload : TimePayload) (memory : Memory) (data size : UInt32) (out : TimePayload),
        TimePayload.wireSize ≤ size →
          TimePayload.parse (payload.serialize memory data) data size out = (true, payload)) ∧
      (∀ (string : Vector UInt8 8) (memory written : Memory) (data size dest : UInt32)
          (out : TimePayload), TimePayload.wireSize ≤ size →
        (TimePayload.parse (store memory data string.toList) data size out).1 = true ∧
          load ((TimePayload.parse (store memory data string.toList) data size out).2.serialize
            written dest) dest 8 = string.toList) ∧
      ∀ us : Int64, |us.toInt| < 2 ^ 31 * 10 ^ 6 → (TimeVal.fromUs us).toUs = us.toInt := by
  refine ⟨BaseMessage.deserialize_serialize, ?_, TimePayload.parse_serialize, ?_,
    TimeVal.toUs_fromUs⟩
  · intro string memory written input out
    have length : string.toList.length = 26 := Vector.length_toList
    have read := load_store memory input string.toList (by rw [length]; decide)
    rw [length] at read
    have rewritten := (BaseMessage.deserialize (store memory input string.toList)
      input).load_serialize written out
    rw [BaseMessage.bytes_deserialize, UInt32.add_zero] at rewritten
    exact rewritten.trans read
  · intro string memory written data size dest out enough
    have length : string.toList.length = 8 := Vector.length_toList
    have read := load_store memory data string.toList (by rw [length]; decide)
    rw [length] at read
    obtain ⟨accepted, same⟩ :=
      TimePayload.parse_accepts (store memory data string.toList) data size out enough
    refine ⟨accepted, ?_⟩
    rw [TimePayload.load_serialize, same]
    exact read

private def farMessage : BaseMessage :=
  { type := 4
    id := 258
    refersTo := 65535
    sent :=
      { sec := -2
        usec := -500000 }
    received :=
      { sec := 2147483647
        usec := 999999 }
    size := 8 }

private def farPayload : TimePayload := { latency := { sec := -1, usec := -1 } }

/-- At an address whose fields go around the end of the memory, with times before the epoch. -/
theorem wire_codecs_inverse_backward :
    BaseMessage.deserialize (farMessage.serialize (fun _ => 255) 4294967280) 4294967280 =
        farMessage ∧
      load ((BaseMessage.deserialize (store (fun _ => 255) 4294967290
          (Vector.replicate 26 7).toList) 4294967290).serialize (fun _ => 0) 12) 12 26 =
        (Vector.replicate 26 7).toList ∧
      TimePayload.parse (farPayload.serialize (fun _ => 255) 4294967292) 4294967292 9
        { latency := { sec := 0, usec := 0 } } = (true, farPayload) ∧
      ((TimePayload.parse (store (fun _ => 255) 4294967292 (Vector.replicate 8 200).toList)
          4294967292 8 farPayload).1 = true ∧
        load ((TimePayload.parse (store (fun _ => 255) 4294967292
          (Vector.replicate 8 200).toList) 4294967292 8 farPayload).2.serialize
            (fun _ => 0) 12) 12 8 = (Vector.replicate 8 200).toList) ∧
      (TimeVal.fromUs (-2500000)).toUs = -2500000 := by
  obtain ⟨message, string, payload, payloadString, time⟩ := wire_codecs_inverse
  exact ⟨message _ _ _, string _ _ _ _ _, payload _ _ _ _ _ (by decide),
    payloadString _ _ _ _ _ _ _ (by decide), time (-2500000) (by decide)⟩

end Protocol
