import SnapcastSync.ClockSync.TsfSync

/-! Lines between the server clock and the access point's TSF counter, the evaluation of
one at the device's own TSF reading, and the chunk deadline for an offset. -/

namespace ClockSync

open Rounding

variable {K : Type} [Field K] [LinearOrder K] [FloorRing K]

def ppm : K := 1 / ((1000000 : Nat) : K)

structure Line (K : Type) where
  tsfBaseUs : Int
  tmsBaseUs : Int
  driftPpm : K
deriving DecidableEq

/-- A line carried to another TSF instant, truncated as the consensus does it. -/
def Line.tmsAt (line : Line K) (tsfUs : Int) : Int :=
  line.tmsBaseUs +
    truncToInt (line.driftPpm * ppm * ((tsfUs - line.tsfBaseUs : Int) : K))

def Peer.line (peer : Peer K) : Line K :=
  ⟨peer.tsfBaseUs, peer.tmsBaseUs, peer.driftPpm⟩

def TsfSync.pubLine (sync : TsfSync K) : Line K :=
  ⟨sync.pubTsfBase, sync.pubTmsBase, sync.pubDriftPpm⟩

def TsfSync.mapLine (sync : TsfSync K) : Line K :=
  ⟨sync.mapTsfBaseUs, sync.mapTsfMinusServerUs, sync.mapDriftPpm⟩

/-- `TsfSync::EvalResult` with the values written through its reference arguments. -/
inductive EvalResult where
  | ok (offsetUs extrapolationUs : Int)
  | noTsf
  | ageClamp (extrapolationUs : Int)
deriving DecidableEq, Repr

/-- `evaluate_mapping_` at the outcome of `sample_tsf_`. -/
def evaluateMapping (sample : Option TsfSample) (line : Line K) : EvalResult :=
  match sample with
  | none => .noTsf
  | some now =>
      let extrapolationUs := now.tsfUs - line.tsfBaseUs
      if extrapolationUs < -1000 ∨ maxExtrapolationUs < extrapolationUs then
        .ageClamp extrapolationUs
      else
        let tmsNow : K := line.tmsBaseUs + line.driftPpm * ppm * extrapolationUs
        let serverNowUs := now.tsfUs - truncToInt tmsNow
        .ok (serverNowUs - now.localUs) extrapolationUs

/-- `chunk_deadline`; no deadline at all without an offset. -/
def chunkDeadline (serverTsUs bufferUs : Int) (haveOffset : Bool) (offsetUs biasUs : Int) :
    Option Int :=
  if haveOffset then some (serverTsUs + bufferUs - offsetUs + biasUs) else none

def TsfSample.tsfOf (sample : TsfSample) (localUs : Int) : Int :=
  localUs + (sample.tsfUs - sample.localUs)

end ClockSync
