import Mathlib.Data.Rat.Floor
import SnapcastSync.ClockSync.PacketBytes

/-! A beacon on its way: the bytes of the packed struct as the sender writes them, and what any
receiver makes of as many of them as arrive, whether the sender is older and sends fewer fields or
newer and appends more. -/

namespace ClockSync

attribute [ext] TsfPacket

variable {K : Type}

namespace PacketField

def Whole (field : PacketField) (arrived : Nat) : Prop := field.offset + field.width ≤ arrived

instance (field : PacketField) (arrived : Nat) : Decidable (field.Whole arrived) :=
  inferInstanceAs (Decidable (_ ≤ _))

end PacketField

namespace TsfPacket

/- The bytes of a number of single precision, as a word. -/
variable (bits : K → UInt32)

def fieldBytes (packet : TsfPacket K) : PacketField → List UInt8
  | .magic => Words.leBytes 4 packet.magic.toNat
  | .version => Words.leBytes 1 packet.version.toNat
  | .bssid => packet.bssid.toList
  | .senderMac => packet.senderMac.toList
  | .noMapping => Words.leBytes 1 (if packet.noMapping then 1 else 0)
  | .serverIdHash => Words.leBytes 4 packet.serverIdHash.toNat
  | .tsfBaseUs => Words.signedBytes 8 packet.tsfBaseUs
  | .tsfMinusServerUs => Words.signedBytes 8 packet.tsfMinusServerUs
  | .driftPpm => Words.leBytes 4 (bits packet.driftPpm).toNat
  | .pipelineUs => Words.signedBytes 4 packet.pipelineUs
  | .renderPhaseUs => Words.signedBytes 8 packet.renderPhaseUs
  | .crystalPpm =>
      match packet.crystalPpm with
      | none => PacketField.absent .crystalPpm
      | some ppm => Words.leBytes 4 (bits ppm).toNat
  | .adoptedTmsAtBaseUs => Words.signedBytes 8 packet.adoptedTmsAtBaseUs
  | .streamIdHash => Words.leBytes 4 packet.streamIdHash.toNat
  | .renderPhaseAgeMs => Words.leBytes 2 packet.renderPhaseAgeMs
  | .renderBiasUs => Words.signedBytes 4 packet.renderBiasUs
  | .commonErrUs => Words.signedBytes 4 packet.commonErrUs

/-- What `sendto` is given. -/
def toBytes (packet : TsfPacket K) : List UInt8 :=
  PacketField.layout.flatMap (packet.fieldBytes bits)

/-- The values fit the types of the struct, and its numbers are of single precision. -/
structure Fits (single : UInt32 → K) (packet : TsfPacket K) : Prop where
  tsfBaseUs : Words.FitsSigned (PacketField.width .tsfBaseUs) packet.tsfBaseUs
  tsfMinusServerUs : Words.FitsSigned (PacketField.width .tsfMinusServerUs) packet.tsfMinusServerUs
  driftPpm : single (bits packet.driftPpm) = packet.driftPpm
  pipelineUs : Words.FitsSigned (PacketField.width .pipelineUs) packet.pipelineUs
  renderPhaseUs : Words.FitsSigned (PacketField.width .renderPhaseUs) packet.renderPhaseUs
  crystalPpm : ∀ ppm ∈ packet.crystalPpm,
    Contents.isNan (bits ppm) = false ∧ single (bits ppm) = ppm
  adoptedTmsAtBaseUs :
    Words.FitsSigned (PacketField.width .adoptedTmsAtBaseUs) packet.adoptedTmsAtBaseUs
  renderPhaseAgeMs : packet.renderPhaseAgeMs < 2 ^ 16
  renderBiasUs : Words.FitsSigned (PacketField.width .renderBiasUs) packet.renderBiasUs
  commonErrUs : Words.FitsSigned (PacketField.width .commonErrUs) packet.commonErrUs

/-- The packet where only so many bytes of it arrive: the fields that are not whole are those of
an older sender. -/
def cut (packet : TsfPacket K) (arrived : Nat) : TsfPacket K :=
  { packet with
    crystalPpm := if PacketField.Whole .crystalPpm arrived then packet.crystalPpm else none
    adoptedTmsAtBaseUs :=
      if PacketField.Whole .adoptedTmsAtBaseUs arrived then packet.adoptedTmsAtBaseUs
      else tmsAdoptUnknown
    streamIdHash := if PacketField.Whole .streamIdHash arrived then packet.streamIdHash else 0
    renderPhaseAgeMs :=
      if PacketField.Whole .renderPhaseAgeMs arrived then packet.renderPhaseAgeMs else 65535
    renderBiasUs :=
      if PacketField.Whole .renderBiasUs arrived then packet.renderBiasUs else int32Min
    commonErrUs :=
      if PacketField.Whole .commonErrUs arrived then packet.commonErrUs else int32Min }

end TsfPacket

namespace PacketField

end PacketField

/-- A packet on its way: what a newer sender appends to it, and how many bytes arrive. -/
structure Transmission (K : Type) where
  packet : TsfPacket K
  newer : List UInt8
  arrived : Nat
  fromAddr : Addr
  sample : Option TsfSample

namespace Transmission

variable (bits : K → UInt32) (single : UInt32 → K)

def raw (sent : Transmission K) : RawDatagram :=
  { bytes := (sent.packet.toBytes bits ++ sent.newer).take sent.arrived
    fromAddr := sent.fromAddr
    sample := sent.sample }

def heard (sent : Transmission K) : Option (Datagram K) :=
  if sent.arrived < tsfPacketMinBytes then none
  else
    some
      { packet := sent.packet.cut sent.arrived
        fromAddr := sent.fromAddr
        sample := sent.sample }

end Transmission

namespace Transmission

variable (bits : K → UInt32) (single : UInt32 → K)

end Transmission

namespace TsfSync

variable [Field K] [LinearOrder K] [FloorRing K]

end TsfSync

end ClockSync
