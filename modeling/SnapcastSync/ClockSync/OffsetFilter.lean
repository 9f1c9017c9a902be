import SnapcastSync.ClockSync.Beacon

/-! The offset that the player task takes from the adopted mapping: one sandwiched TSF read,
the bracket floor that says which reads are trusted, the crystal ratio that carries the
filter between reads, and the low-pass filter itself. -/

namespace ClockSync

open Rounding

variable {K : Type}

def mappingExpiryUs : Int := 5000000
def sharedHoldGraceUs : Int := 3000000
def sandwichTrustFactor : Int := 2
def sandwichFloorBlock : Nat := 256
def offsetRateWindowUs : Int := 8000000
def offsetFfMaxGapUs : Int := 2000000

/-- The fields that only `shared_server_offset_us` writes. -/
structure OffsetFilter (K : Type) where
  offsetFilterUs : K
  offsetFilterValid : Bool
  offsetFilterSeeded : Bool
  offsetFilterLocalUs : Int
  offsetRateRefTsfUs : Int
  offsetRateRefLocalUs : Int
  offsetRatePpm : K
  offsetRateValid : Bool
  sandwichFloorUs : Int
  sandwichBlockMinUs : Int
  sandwichBlockN : Nat

structure TsfRead where
  sample : TsfSample
  sandwichUs : Int
deriving DecidableEq, Repr

namespace OffsetFilter

def create [Zero K] : OffsetFilter K :=
  { offsetFilterUs := 0
    offsetFilterValid := false
    offsetFilterSeeded := false
    offsetFilterLocalUs := 0
    offsetRateRefTsfUs := 0
    offsetRateRefLocalUs := 0
    offsetRatePpm := 0
    offsetRateValid := false
    sandwichFloorUs := 0
    sandwichBlockMinUs := 0
    sandwichBlockN := 0 }

def invalidate (filter : OffsetFilter K) : OffsetFilter K :=
  { filter with offsetFilterValid := false }

def trackSandwich (filter : OffsetFilter K) (sandwichUs : Int) : OffsetFilter K :=
  let blockMinUs :=
    if filter.sandwichBlockMinUs = 0 then sandwichUs
    else min filter.sandwichBlockMinUs sandwichUs
  if sandwichFloorBlock ≤ filter.sandwichBlockN + 1 ∨ filter.sandwichFloorUs = 0 then
    { filter with
      sandwichFloorUs := blockMinUs
      sandwichBlockMinUs := 0
      sandwichBlockN := 0 }
  else
    { filter with
      sandwichBlockMinUs := blockMinUs
      sandwichBlockN := filter.sandwichBlockN + 1 }

def trustUs (filter : OffsetFilter K) : Int := filter.sandwichFloorUs * sandwichTrustFactor

section Field

variable [Field K] [LinearOrder K]

def offsetEwmaAlpha : K := 1 / ((256 : Nat) : K)
def offsetSnapUs : K := ((2000 : Nat) : K)
def offsetRateAlpha : K := 1 / ((4 : Nat) : K)
def offsetRateMaxPpm : K := ((100 : Nat) : K)

/-- The ratio over the finished window, unless it is a discontinuity rather than a rate. -/
def measuredRate (filter : OffsetFilter K) (sample : TsfSample) : Option K :=
  if filter.offsetRateRefLocalUs = 0 then none
  else if offsetRateWindowUs ≤ sample.localUs - filter.offsetRateRefLocalUs then
    let dl : K := ((sample.localUs - filter.offsetRateRefLocalUs : Int) : K)
    let dt : K := ((sample.tsfUs - filter.offsetRateRefTsfUs : Int) : K)
    let measuredPpm := (dt - dl) / dl * ((1000000 : Nat) : K)
    if |measuredPpm| < offsetRateMaxPpm then some measuredPpm else none
  else none

def takeRate (filter : OffsetFilter K) (measuredPpm : Option K) : OffsetFilter K :=
  match measuredPpm with
  | none => filter
  | some measured =>
      { filter with
        offsetRatePpm :=
          if filter.offsetRateValid then
            filter.offsetRatePpm + offsetRateAlpha * (measured - filter.offsetRatePpm)
          else measured
        offsetRateValid := true }

def trackOffsetRate (filter : OffsetFilter K) (sample : TsfSample) : OffsetFilter K :=
  if filter.offsetRateRefLocalUs = 0 ∨
      offsetRateWindowUs ≤ sample.localUs - filter.offsetRateRefLocalUs then
    { filter.takeRate (filter.measuredRate sample) with
      offsetRateRefTsfUs := sample.tsfUs
      offsetRateRefLocalUs := sample.localUs }
  else filter

def feedForward (filter : OffsetFilter K) (driftPpm : K) (sampleLocalUs : Int) :
    OffsetFilter K :=
  let gapUs := clamp (sampleLocalUs - filter.offsetFilterLocalUs) 0 offsetFfMaxGapUs
  { filter with
    offsetFilterUs :=
      if filter.offsetFilterSeeded = true ∧ filter.offsetRateValid = true ∧
          filter.offsetFilterLocalUs ≠ 0 then
        filter.offsetFilterUs + (filter.offsetRatePpm - driftPpm) * ppm * ((gapUs : Int) : K)
      else filter.offsetFilterUs
    offsetFilterLocalUs := sampleLocalUs }

def snaps (filter : OffsetFilter K) (rawUs : Int) : Bool :=
  !filter.offsetFilterSeeded || decide (offsetSnapUs < |(rawUs : K) - filter.offsetFilterUs|)

def settle (filter : OffsetFilter K) (rawUs sandwichUs : Int) : OffsetFilter K :=
  if filter.snaps rawUs then
    { filter with
      offsetFilterUs := rawUs
      offsetFilterValid := true
      offsetFilterSeeded := true }
  else if sandwichUs ≤ filter.trustUs then
    { filter with
      offsetFilterValid := true
      offsetFilterUs := filter.offsetFilterUs +
        offsetEwmaAlpha * ((rawUs : K) - filter.offsetFilterUs) }
  else filter

def prepare (filter : OffsetFilter K) (driftPpm : K) (read : TsfRead) : OffsetFilter K :=
  let bracketed := filter.trackSandwich read.sandwichUs
  let rated :=
    if read.sandwichUs ≤ bracketed.trustUs then bracketed.trackOffsetRate read.sample
    else bracketed
  rated.feedForward driftPpm read.sample.localUs

def mirroredRate (filter : OffsetFilter K) (read : TsfRead) : Option K :=
  let bracketed := filter.trackSandwich read.sandwichUs
  if read.sandwichUs ≤ bracketed.trustUs then
    match bracketed.measuredRate read.sample with
    | none => none
    | some measured => some (bracketed.takeRate (some measured)).offsetRatePpm
  else none

/-- A filtered value younger than the grace bridges a TSF read that failed. -/
def holds (filter : OffsetFilter K) (localNowUs : Int) : Bool :=
  filter.offsetFilterSeeded && decide (filter.offsetFilterLocalUs ≠ 0) &&
    decide (localNowUs - filter.offsetFilterLocalUs ≤ sharedHoldGraceUs)

def heldUs (filter : OffsetFilter K) (driftPpm : K) (localNowUs : Int) : K :=
  if filter.offsetRateValid then
    filter.offsetFilterUs + (filter.offsetRatePpm - driftPpm) * ppm *
      ((localNowUs - filter.offsetFilterLocalUs : Int) : K)
  else filter.offsetFilterUs

end Field

end OffsetFilter

namespace TsfSync

variable [Field K] [LinearOrder K] [FloorRing K]

def mappingLive (sync : TsfSync K) (localNowUs : Int) : Bool :=
  sync.mappingValid && decide (localNowUs - sync.mapUpdatedLocalUs ≤ mappingExpiryUs)

def mirrorCrystal (sync : TsfSync K) (ratePpm : Option K) : TsfSync K :=
  match ratePpm with
  | none => sync
  | some rate => { sync with pubCrystalPpm := some rate }

/-- `shared_server_offset_us`, at the outcome of the TSF read that it takes. -/
def sharedServerOffset (sync : TsfSync K) (filter : OffsetFilter K) (localNowUs : Int)
    (read : Option TsfRead) : TsfSync K × OffsetFilter K × Option Int :=
  if sync.mappingLive localNowUs then
    match read with
    | none =>
        if filter.holds localNowUs then
          (sync, filter, some (truncToInt (filter.heldUs sync.mapDriftPpm localNowUs)))
        else (sync, filter.invalidate, none)
    | some taken =>
        match evaluateMapping (some taken.sample) sync.mapLine with
        | .ok rawUs _ =>
            let settled := (filter.prepare sync.mapDriftPpm taken).settle rawUs taken.sandwichUs
            (sync.mirrorCrystal (filter.mirroredRate taken), settled,
              some (truncToInt settled.offsetFilterUs))
        | _ => (sync, filter.invalidate, none)
  else (sync, filter.invalidate, none)

end TsfSync

end ClockSync
