import SnapcastSync.Lib.Words

/-! The parsers of received payloads, on a machine with 32-bit addresses. Sizes, pointers and the
sums in the bound checks are all 32-bit words; what is well formed is said without a width. -/

namespace Protocol

abbrev Memory := UInt32 → UInt8

def readU16 (memory : Memory) (address : UInt32) : UInt16 :=
  Words.halfWord (memory address) (memory (address + 1))

def readU32 (memory : Memory) (address : UInt32) : UInt32 :=
  Words.word (memory address) (memory (address + 1)) (memory (address + 2)) (memory (address + 3))

def readI32 (memory : Memory) (address : UInt32) : Int32 := (readU32 memory address).toInt32

structure TimeVal where
  sec : Int32
  usec : Int32
deriving DecidableEq

def TimeVal.toUs (time : TimeVal) : Int := time.sec.toInt * 1000000 + time.usec.toInt

theorem TimeVal.toUs_bounds (time : TimeVal) :
    -(2 ^ 31 * 1000001) ≤ time.toUs ∧ time.toUs < 2 ^ 31 * 1000001 := by
  have secLow := time.sec.le_toInt
  have secHigh := time.sec.toInt_lt
  have usecLow := time.usec.le_toInt
  have usecHigh := time.usec.toInt_lt
  rw [TimeVal.toUs]
  omega

structure CodecHeaderView where
  codec : UInt32
  codecLen : UInt32
  payload : UInt32
  payloadLen : UInt32
deriving DecidableEq

structure WireChunkView where
  timestamp : TimeVal
  payload : UInt32
  payloadLen : UInt32
deriving DecidableEq

def CodecHeaderView.start : CodecHeaderView :=
  { codec := 0
    codecLen := 0
    payload := 0
    payloadLen := 0 }

def WireChunkView.start : WireChunkView :=
  { timestamp := { sec := 0, usec := 0 }
    payload := 0
    payloadLen := 0 }

/-- What is assigned before a check that fails stays assigned. -/
def CodecHeaderView.parse (memory : Memory) (data size : UInt32) (out : CodecHeaderView) :
    Bool × CodecHeaderView :=
  if size < 4 then (false, out)
  else
    let codecLen := readU32 memory data
    if size < 4 + codecLen + 4 then (false, out)
    else
      let out := { out with codec := data + 4, codecLen := codecLen }
      let payloadLen := readU32 memory (data + 4 + codecLen)
      if size < 4 + codecLen + 4 + payloadLen then (false, out)
      else (true, { out with payload := data + 4 + codecLen + 4, payloadLen := payloadLen })

def WireChunkView.parse (memory : Memory) (data size : UInt32) (out : WireChunkView) :
    Bool × WireChunkView :=
  if size < 12 then (false, out)
  else
    let out :=
      { out with timestamp := { sec := readI32 memory data, usec := readI32 memory (data + 4) } }
    let payloadLen := readU32 memory (data + 8)
    if size < 12 + payloadLen then (false, out)
    else (true, { out with payload := data + 12, payloadLen := payloadLen })

/-- A receive buffer. Its end is an address. -/
structure Buffer where
  memory : Memory
  data : UInt32
  size : UInt32
  fits : data.toNat + size.toNat < 2 ^ 32

namespace Buffer

def byte (buffer : Buffer) (offset : Nat) : UInt8 :=
  buffer.memory (buffer.data + UInt32.ofNat offset)

def field (buffer : Buffer) (offset : Nat) : Nat :=
  Words.littleEndian [buffer.byte offset, buffer.byte (offset + 1), buffer.byte (offset + 2),
    buffer.byte (offset + 3)]

def Contains (buffer : Buffer) (view length : UInt32) : Prop :=
  buffer.data.toNat ≤ view.toNat ∧
    view.toNat + length.toNat ≤ buffer.data.toNat + buffer.size.toNat

def codecLen (buffer : Buffer) : Nat := buffer.field 0

def codecPayloadLen (buffer : Buffer) : Nat := buffer.field (4 + buffer.codecLen)

def chunkPayloadLen (buffer : Buffer) : Nat := buffer.field 8

def CodecHeaderWellFormed (buffer : Buffer) : Prop :=
  4 + buffer.codecLen + 4 + buffer.codecPayloadLen ≤ buffer.size.toNat

def WireChunkWellFormed (buffer : Buffer) : Prop :=
  12 + buffer.chunkPayloadLen ≤ buffer.size.toNat

def parseCodecHeader (buffer : Buffer) (out : CodecHeaderView) : Bool × CodecHeaderView :=
  CodecHeaderView.parse buffer.memory buffer.data buffer.size out

def parseWireChunk (buffer : Buffer) (out : WireChunkView) : Bool × WireChunkView :=
  WireChunkView.parse buffer.memory buffer.data buffer.size out

def CodecHeaderExact (buffer : Buffer) (out : CodecHeaderView) : Prop :=
  ((buffer.parseCodecHeader out).1 = true ↔ buffer.CodecHeaderWellFormed) ∧
    ((buffer.parseCodecHeader out).1 = true →
      buffer.Contains (buffer.parseCodecHeader out).2.codec
          (buffer.parseCodecHeader out).2.codecLen ∧
        buffer.Contains (buffer.parseCodecHeader out).2.payload
          (buffer.parseCodecHeader out).2.payloadLen)

def WireChunkExact (buffer : Buffer) (out : WireChunkView) : Prop :=
  ((buffer.parseWireChunk out).1 = true ↔ buffer.WireChunkWellFormed) ∧
    ((buffer.parseWireChunk out).1 = true →
      buffer.Contains (buffer.parseWireChunk out).2.payload
        (buffer.parseWireChunk out).2.payloadLen)

/-- The codec fits and the payload's length carries the sum past the width; or the codec's length
does so by itself, and what is left of the two sums is within the size. -/
def CodecHeaderWraps (buffer : Buffer) : Prop :=
  (4 + buffer.codecLen + 4 ≤ buffer.size.toNat ∧
      2 ^ 32 ≤ 4 + buffer.codecLen + 4 + buffer.codecPayloadLen) ∨
    (2 ^ 32 ≤ 4 + buffer.codecLen + 4 ∧ 4 ≤ buffer.size.toNat ∧
      4 + buffer.codecLen + 4 - 2 ^ 32 ≤ buffer.size.toNat ∧
      (4 + buffer.codecLen + 4 + buffer.codecPayloadLen) % 2 ^ 32 ≤ buffer.size.toNat)

def WireChunkWraps (buffer : Buffer) : Prop :=
  12 ≤ buffer.size.toNat ∧ 2 ^ 32 ≤ 12 + buffer.chunkPayloadLen

theorem readU32_toNat (buffer : Buffer) (offset : Nat) :
    (readU32 buffer.memory (buffer.data + UInt32.ofNat offset)).toNat = buffer.field offset := by
  have next (steps : Nat) : buffer.data + UInt32.ofNat offset + UInt32.ofNat steps =
      buffer.data + UInt32.ofNat (offset + steps) := by
    rw [UInt32.ofNat_add, UInt32.add_assoc]
  rw [readU32, Words.word_toNat, field, byte, byte, byte, byte, ← next 1, ← next 2, ← next 3]
  rfl

theorem readU32_data (buffer : Buffer) :
    (readU32 buffer.memory buffer.data).toNat = buffer.codecLen := by
  rw [codecLen, ← readU32_toNat buffer 0]
  exact congrArg (fun address => (readU32 buffer.memory address).toNat)
    (UInt32.add_zero buffer.data).symm

theorem readU32_codec (buffer : Buffer) :
    (readU32 buffer.memory (buffer.data + 4 + readU32 buffer.memory buffer.data)).toNat =
      buffer.codecPayloadLen := by
  have address : buffer.data + 4 + readU32 buffer.memory buffer.data =
      buffer.data + UInt32.ofNat (4 + buffer.codecLen) := by
    rw [UInt32.ofNat_add, ← readU32_data, UInt32.ofNat_toNat, ← UInt32.add_assoc]
    rfl
  rw [address, readU32_toNat, codecPayloadLen]

theorem readU32_chunk (buffer : Buffer) :
    (readU32 buffer.memory (buffer.data + 8)).toNat = buffer.chunkPayloadLen :=
  readU32_toNat buffer 8

theorem codecLen_lt (buffer : Buffer) : buffer.codecLen < 2 ^ 32 := by
  rw [← readU32_data]
  exact UInt32.toNat_lt _

theorem codecPayloadLen_lt (buffer : Buffer) : buffer.codecPayloadLen < 2 ^ 32 := by
  rw [← readU32_codec]
  exact UInt32.toNat_lt _

theorem chunkPayloadLen_lt (buffer : Buffer) : buffer.chunkPayloadLen < 2 ^ 32 := by
  rw [← readU32_chunk]
  exact UInt32.toNat_lt _

theorem codecBound_toNat (buffer : Buffer) :
    (4 + readU32 buffer.memory buffer.data + 4).toNat = (4 + buffer.codecLen + 4) % 2 ^ 32 := by
  have four : (4 : UInt32).toNat = 4 := rfl
  rw [UInt32.toNat_add, UInt32.toNat_add, readU32_data, four]
  omega

theorem codecTotal_toNat (buffer : Buffer) :
    (4 + readU32 buffer.memory buffer.data + 4 +
      readU32 buffer.memory (buffer.data + 4 + readU32 buffer.memory buffer.data)).toNat =
      (4 + buffer.codecLen + 4 + buffer.codecPayloadLen) % 2 ^ 32 := by
  rw [UInt32.toNat_add, codecBound_toNat, readU32_codec]
  omega

def CodecHeaderPasses (buffer : Buffer) : Prop :=
  4 ≤ buffer.size.toNat ∧ (4 + buffer.codecLen + 4) % 2 ^ 32 ≤ buffer.size.toNat ∧
    (4 + buffer.codecLen + 4 + buffer.codecPayloadLen) % 2 ^ 32 ≤ buffer.size.toNat

theorem parseCodecHeader_of_passes (buffer : Buffer) (out : CodecHeaderView)
    (passes : buffer.CodecHeaderPasses) :
    buffer.parseCodecHeader out =
      (true,
        { codec := buffer.data + 4
          codecLen := readU32 buffer.memory buffer.data
          payload := buffer.data + 4 + readU32 buffer.memory buffer.data + 4
          payloadLen :=
            readU32 buffer.memory (buffer.data + 4 + readU32 buffer.memory buffer.data) }) := by
  obtain ⟨first, second, third⟩ := passes
  rw [← codecBound_toNat] at second
  rw [← codecTotal_toNat] at third
  have four : (4 : UInt32).toNat = 4 := rfl
  rw [parseCodecHeader, CodecHeaderView.parse,
    if_neg (by rw [UInt32.lt_iff_toNat_lt, four]; exact Nat.not_lt.mpr first)]
  dsimp only
  rw [if_neg (by rw [UInt32.lt_iff_toNat_lt]; exact Nat.not_lt.mpr second),
    if_neg (by rw [UInt32.lt_iff_toNat_lt]; exact Nat.not_lt.mpr third)]

theorem parseCodecHeader_iff (buffer : Buffer) (out : CodecHeaderView) :
    (buffer.parseCodecHeader out).1 = true ↔ buffer.CodecHeaderPasses := by
  constructor
  · intro accepted
    have four : (4 : UInt32).toNat = 4 := rfl
    rw [parseCodecHeader, CodecHeaderView.parse] at accepted
    by_cases first : buffer.size < 4
    · rw [if_pos first] at accepted
      cases accepted
    · rw [if_neg first] at accepted
      dsimp only at accepted
      by_cases second : buffer.size < 4 + readU32 buffer.memory buffer.data + 4
      · rw [if_pos second] at accepted
        cases accepted
      · rw [if_neg second] at accepted
        by_cases third : buffer.size < 4 + readU32 buffer.memory buffer.data + 4 +
            readU32 buffer.memory (buffer.data + 4 + readU32 buffer.memory buffer.data)
        · rw [if_pos third] at accepted
          cases accepted
        · rw [UInt32.lt_iff_toNat_lt, Nat.not_lt] at first second third
          rw [four] at first
          rw [codecBound_toNat] at second
          rw [codecTotal_toNat] at third
          exact ⟨first, second, third⟩
  · intro passes
    rw [parseCodecHeader_of_passes buffer out passes]

def WireChunkPasses (buffer : Buffer) : Prop :=
  12 ≤ buffer.size.toNat ∧ (12 + buffer.chunkPayloadLen) % 2 ^ 32 ≤ buffer.size.toNat

theorem chunkTotal_toNat (buffer : Buffer) :
    (12 + readU32 buffer.memory (buffer.data + 8)).toNat =
      (12 + buffer.chunkPayloadLen) % 2 ^ 32 := by
  rw [UInt32.toNat_add, readU32_chunk]
  rfl

theorem parseWireChunk_of_passes (buffer : Buffer) (out : WireChunkView)
    (passes : buffer.WireChunkPasses) :
    buffer.parseWireChunk out =
      (true,
        { timestamp :=
            { sec := readI32 buffer.memory buffer.data
              usec := readI32 buffer.memory (buffer.data + 4) }
          payload := buffer.data + 12
          payloadLen := readU32 buffer.memory (buffer.data + 8) }) := by
  obtain ⟨first, second⟩ := passes
  rw [← chunkTotal_toNat] at second
  have twelve : (12 : UInt32).toNat = 12 := rfl
  rw [parseWireChunk, WireChunkView.parse,
    if_neg (by rw [UInt32.lt_iff_toNat_lt, twelve]; exact Nat.not_lt.mpr first)]
  dsimp only
  rw [if_neg (by rw [UInt32.lt_iff_toNat_lt]; exact Nat.not_lt.mpr second)]

theorem parseWireChunk_iff (buffer : Buffer) (out : WireChunkView) :
    (buffer.parseWireChunk out).1 = true ↔ buffer.WireChunkPasses := by
  constructor
  · intro accepted
    have twelve : (12 : UInt32).toNat = 12 := rfl
    rw [parseWireChunk, WireChunkView.parse] at accepted
    by_cases first : buffer.size < 12
    · rw [if_pos first] at accepted
      cases accepted
    · rw [if_neg first] at accepted
      dsimp only at accepted
      by_cases second : buffer.size < 12 + readU32 buffer.memory (buffer.data + 8)
      · rw [if_pos second] at accepted
        cases accepted
      · rw [UInt32.lt_iff_toNat_lt, Nat.not_lt] at first second
        rw [twelve] at first
        rw [chunkTotal_toNat] at second
        exact ⟨first, second⟩
  · intro passes
    rw [parseWireChunk_of_passes buffer out passes]

theorem contains_of_within (buffer : Buffer) (view length : UInt32) (offset : Nat)
    (position : view = buffer.data + UInt32.ofNat offset)
    (within : offset + length.toNat ≤ buffer.size.toNat) : buffer.Contains view length := by
  have fits := buffer.fits
  have start : view.toNat = buffer.data.toNat + offset := by
    rw [position, UInt32.toNat_add, UInt32.toNat_ofNat']
    omega
  rw [Contains, start]
  omega

theorem codecHeaderExact_iff (buffer : Buffer) (out : CodecHeaderView) :
    buffer.CodecHeaderExact out ↔ ¬ buffer.CodecHeaderWraps := by
  have codec := buffer.codecLen_lt
  have payload := buffer.codecPayloadLen_lt
  have size := buffer.size.toNat_lt
  rw [CodecHeaderExact, parseCodecHeader_iff]
  constructor
  · rintro ⟨exact, _⟩
    rw [CodecHeaderPasses, CodecHeaderWellFormed] at exact
    rw [CodecHeaderWraps]
    omega
  · intro straight
    have exactly : buffer.CodecHeaderPasses ↔ buffer.CodecHeaderWellFormed := by
      rw [CodecHeaderWraps] at straight
      rw [CodecHeaderPasses, CodecHeaderWellFormed]
      omega
    refine ⟨exactly, fun passes => ?_⟩
    have wellFormed := exactly.mp passes
    rw [CodecHeaderWellFormed] at wellFormed
    rw [parseCodecHeader_of_passes buffer out passes]
    dsimp only
    constructor
    · apply contains_of_within buffer _ _ 4 rfl
      rw [readU32_data]
      omega
    · apply contains_of_within buffer _ _ (4 + buffer.codecLen + 4)
      · rw [UInt32.ofNat_add, UInt32.ofNat_add, ← readU32_data, UInt32.ofNat_toNat,
          ← UInt32.add_assoc, ← UInt32.add_assoc]
        rfl
      · rw [readU32_codec]
        omega

theorem wireChunkExact_iff (buffer : Buffer) (out : WireChunkView) :
    buffer.WireChunkExact out ↔ ¬ buffer.WireChunkWraps := by
  have payload := buffer.chunkPayloadLen_lt
  have size := buffer.size.toNat_lt
  rw [WireChunkExact, parseWireChunk_iff]
  constructor
  · rintro ⟨exact, _⟩
    rw [WireChunkPasses, WireChunkWellFormed] at exact
    rw [WireChunkWraps]
    omega
  · intro straight
    have exactly : buffer.WireChunkPasses ↔ buffer.WireChunkWellFormed := by
      rw [WireChunkWraps] at straight
      rw [WireChunkPasses, WireChunkWellFormed]
      omega
    refine ⟨exactly, fun passes => ?_⟩
    have wellFormed := exactly.mp passes
    rw [WireChunkWellFormed] at wellFormed
    rw [parseWireChunk_of_passes buffer out passes]
    apply contains_of_within buffer _ _ 12 rfl
    rw [readU32_chunk]
    exact wellFormed

theorem parsers_exact_iff (buffer : Buffer) (header : CodecHeaderView) (chunk : WireChunkView) :
    (buffer.CodecHeaderExact header ↔ ¬ buffer.CodecHeaderWraps) ∧
      (buffer.WireChunkExact chunk ↔ ¬ buffer.WireChunkWraps) :=
  ⟨codecHeaderExact_iff buffer header, wireChunkExact_iff buffer chunk⟩

def ofBytes (bytes : Vector UInt8 12) : Buffer :=
  { memory := fun address => bytes.toList.getD (address.toNat - 4096) 0
    data := 4096
    size := 12
    fits := by decide }

/-- A codec of 2^32 - 4 bytes, and a chunk of 2^32 - 12. -/
theorem wrapped_lengths_accepted :
    ¬ (ofBytes #v[0xFC, 0xFF, 0xFF, 0xFF, 0, 0, 0, 0, 0, 0, 0, 0]).CodecHeaderExact .start ∧
      ¬ (ofBytes #v[0, 0, 0, 0, 0, 0, 0, 0, 0xF4, 0xFF, 0xFF, 0xFF]).WireChunkExact .start := by
  rw [codecHeaderExact_iff, wireChunkExact_iff, not_not, not_not, CodecHeaderWraps, WireChunkWraps]
  decide +kernel

end Buffer

end Protocol
