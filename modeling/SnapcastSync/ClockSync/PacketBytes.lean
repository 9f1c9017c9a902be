import SnapcastSync.ClockSync.Beacon
import SnapcastSync.Lib.Words

/-! The bytes of a beacon. A sender of an older version sends a shorter packet, and one packet
buffer is received into again and again. -/

namespace ClockSync

/-- The fields of `TsfPacket`, in the order of the struct. -/
inductive PacketField where
  | magic
  | version
  | bssid
  | senderMac
  | noMapping
  | serverIdHash
  | tsfBaseUs
  | tsfMinusServerUs
  | driftPpm
  | pipelineUs
  | renderPhaseUs
  | crystalPpm
  | adoptedTmsAtBaseUs
  | streamIdHash
  | renderPhaseAgeMs
  | renderBiasUs
  | commonErrUs
deriving DecidableEq

namespace PacketField

def layout : List PacketField :=
  [.magic, .version, .bssid, .senderMac, .noMapping, .serverIdHash, .tsfBaseUs,
    .tsfMinusServerUs, .driftPpm, .pipelineUs, .renderPhaseUs, .crystalPpm, .adoptedTmsAtBaseUs,
    .streamIdHash, .renderPhaseAgeMs, .renderBiasUs, .commonErrUs]

def width : PacketField → Nat
  | .version | .noMapping => 1
  | .renderPhaseAgeMs => 2
  | .bssid | .senderMac => 6
  | .tsfBaseUs | .tsfMinusServerUs | .renderPhaseUs | .adoptedTmsAtBaseUs => 8
  | _ => 4

def offsetIn (field : PacketField) : List PacketField → Nat
  | [] => 0
  | head :: rest => if head = field then 0 else head.width + offsetIn field rest

/-- `offsetof` in the packed struct. -/
def offset (field : PacketField) : Nat := field.offsetIn layout

def appended : List PacketField :=
  [.crystalPpm, .streamIdHash, .renderPhaseAgeMs, .renderBiasUs, .adoptedTmsAtBaseUs, .commonErrUs]

/-- What stands for an absent field: NaN, no stream, an unknown age and three least integers. -/
def absent : PacketField → List UInt8
  | .crystalPpm => [0x00, 0x00, 0xC0, 0x7F]
  | .streamIdHash => [0x00, 0x00, 0x00, 0x00]
  | .renderPhaseAgeMs => [0xFF, 0xFF]
  | .renderBiasUs => [0x00, 0x00, 0x00, 0x80]
  | .adoptedTmsAtBaseUs => [0x00, 0x00, 0x00, 0x00, 0x00, 0x00, 0x00, 0x80]
  | .commonErrUs => [0x00, 0x00, 0x00, 0x80]
  | _ => []

end PacketField

/-- `sizeof(TsfPacket)`. -/
def tsfPacketBytes : Nat := PacketField.layout.foldr (fun field total => field.width + total) 0

def tsfPacketMinBytes : Nat := PacketField.crystalPpm.offset

abbrev Contents := PacketField → List UInt8

namespace Contents

def number (contents : Contents) (field : PacketField) : Nat :=
  Words.littleEndian (contents field)

def signed (contents : Contents) (field : PacketField) : Int :=
  (contents.number field : Int).bmod (2 ^ (8 * field.width))

def word (contents : Contents) (field : PacketField) : UInt32 := .ofNat (contents.number field)

def mac (contents : Contents) (field : PacketField) : Mac :=
  Vector.ofFn fun index : Fin 6 => (contents field).getD index.val 0

/-- `TSF_LACKS`. -/
def lacks (n : Nat) (field : PacketField) : Bool := decide (n < field.offset + field.width)

def isNan (bits : UInt32) : Bool := decide (0x7F800000 < bits &&& 0x7FFFFFFF)

variable {K : Type}

/- What four bytes are read as, as a number of single precision. -/
variable (single : UInt32 → K)

def packet (contents : Contents) : TsfPacket K :=
  { magic := contents.word .magic
    version := .ofNat (contents.number .version)
    bssid := contents.mac .bssid
    senderMac := contents.mac .senderMac
    noMapping := decide (contents.number .noMapping ≠ 0)
    serverIdHash := contents.word .serverIdHash
    tsfBaseUs := contents.signed .tsfBaseUs
    tsfMinusServerUs := contents.signed .tsfMinusServerUs
    driftPpm := single (contents.word .driftPpm)
    pipelineUs := contents.signed .pipelineUs
    renderPhaseUs := contents.signed .renderPhaseUs
    crystalPpm :=
      if isNan (contents.word .crystalPpm) then none else some (single (contents.word .crystalPpm))
    adoptedTmsAtBaseUs := contents.signed .adoptedTmsAtBaseUs
    streamIdHash := contents.word .streamIdHash
    renderPhaseAgeMs := contents.number .renderPhaseAgeMs
    renderBiasUs := contents.signed .renderBiasUs
    commonErrUs := contents.signed .commonErrUs }

end Contents

/-- A datagram of any length, with the sandwich that the evaluation of its line takes. -/
structure RawDatagram where
  bytes : List UInt8
  fromAddr : Addr
  sample : Option TsfSample

namespace RawDatagram

/-- A field that lies wholly inside what arrived has the bytes received, and any other has the
bytes that say it is absent. -/
def carried (raw : RawDatagram) : Contents := fun field =>
  if field.offset + field.width ≤ min raw.bytes.length tsfPacketBytes then
    (raw.bytes.drop field.offset).take field.width
  else field.absent

def beacon {K : Type} (single : UInt32 → K) (raw : RawDatagram) : Option (Datagram K) :=
  if raw.bytes.length < tsfPacketMinBytes then none
  else
    some
      { packet := raw.carried.packet single
        fromAddr := raw.fromAddr
        sample := raw.sample }

end RawDatagram

namespace PacketField

end PacketField

namespace Contents

end Contents

namespace TsfSync

variable {K : Type} [Field K] [LinearOrder K] [FloorRing K]
variable (single : UInt32 → K) (args : ServiceArgs K)

end TsfSync

end ClockSync
