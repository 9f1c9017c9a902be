import SnapcastSync.ClockSync.Consensus
import SnapcastSync.ClockSync.GroupDelta

/-! Beacons between the devices of one access point: what a device publishes of its own
clock estimate, what it keeps of a peer's beacon, and the service tick around both. -/

namespace ClockSync

open Rounding

variable {K : Type} [Field K] [LinearOrder K] [FloorRing K]

def tsfMagic : UInt32 := 0x534E5446
def tsfVersion : UInt8 := 1

/-- `TsfPacket` as it stands after the defaults of absent fields are filled in. -/
structure TsfPacket (K : Type) where
  magic : UInt32
  version : UInt8
  bssid : Mac
  senderMac : Mac
  noMapping : Bool
  serverIdHash : UInt32
  tsfBaseUs : Int
  tsfMinusServerUs : Int
  driftPpm : K
  pipelineUs : Int
  renderPhaseUs : Int
  crystalPpm : Option K
  adoptedTmsAtBaseUs : Int
  streamIdHash : UInt32
  renderPhaseAgeMs : Nat
  renderBiasUs : Int
  commonErrUs : Int

def TsfPacket.line (packet : TsfPacket K) : Line K :=
  ⟨packet.tsfBaseUs, packet.tsfMinusServerUs, packet.driftPpm⟩

structure ServiceArgs (K : Type) where
  localNowUs : Int
  est : Estimate K
  serverIdHash : UInt32
  streamIdHash : UInt32

/-- A beacon as it arrives, with the sandwich that its evaluation takes. -/
structure Datagram (K : Type) where
  packet : TsfPacket K
  fromAddr : Addr
  sample : Option TsfSample

namespace TsfSync

def renderPhaseForBeacon (sync : TsfSync K) : Int :=
  if sync.renderPhaseBroadcast then sync.renderPhaseUs else renderPhaseUnknown

def renderPhaseAgeMs (sync : TsfSync K) (timerUs : Int) : Nat :=
  if sync.renderPhaseAtUs = 0 ∨ sync.renderPhaseUs = renderPhaseUnknown then 65535
  else (clamp (Int.tdiv (timerUs - sync.renderPhaseAtUs) 1000) 0 65534).toNat

def trackTsfRate (sync : TsfSync K) (sample : TsfSample) : TsfSync K :=
  if sync.rateRefLocalUs = 0 then
    { sync with
      rateRefTsfUs := sample.tsfUs
      rateRefLocalUs := sample.localUs }
  else if rateWindowUs ≤ sample.localUs - sync.rateRefLocalUs then
    let dl : K := ((sample.localUs - sync.rateRefLocalUs : Int) : K)
    let dt : K := ((sample.tsfUs - sync.rateRefTsfUs : Int) : K)
    let measuredPpm := (dt - dl) / dl * ((1000000 : Nat) : K)
    let measured :=
      if |measuredPpm| < ((100 : Nat) : K) then
        { sync with
          tsfRatePpm :=
            if sync.tsfRateValid then (sync.tsfRatePpm + measuredPpm) / ((2 : Nat) : K)
            else measuredPpm
          tsfRateValid := true }
      else sync
    { measured with
      rateRefTsfUs := sample.tsfUs
      rateRefLocalUs := sample.localUs }
  else sync

def publishedDrift (sync : TsfSync K) (est : Estimate K) : K :=
  let kalmanDriftPpm := est.drift * ((1000000 : Nat) : K)
  (if sync.tsfRateValid then sync.tsfRatePpm else 0) -
    (if |kalmanDriftPpm| ≤ maxPlausibleDriftPpm then kalmanDriftPpm else 0)

def publishedTms (sync : TsfSync K) (args : ServiceArgs K) (sample : TsfSample) : Int :=
  let thousand : K := ((1000 : Nat) : K)
  let serverNowUs := sample.localUs + truncToInt ((args.est.offsetMs +
    args.est.drift * (((sample.localUs - args.localNowUs : Int) : K) / thousand)) * thousand)
  let tmsTarget := sample.tsfUs - serverNowUs
  if sync.pubValid then
    let elapsedUs := sample.tsfUs - sync.pubTsfBase
    let tmsExpected := sync.pubLine.tmsAt sample.tsfUs
    let delta := tmsTarget - tmsExpected
    if |delta| ≤ tmsSnapUs then
      let rateUsPerS :=
        if tmsCatchupThresholdUs < |delta| then tmsSlewCatchupUsPerS else tmsSlewMaxUsPerS
      let slew := max 1 (Int.tdiv (rateUsPerS * max 0 elapsedUs) 1000000)
      tmsExpected + clamp delta (-slew) slew
    else tmsTarget
  else tmsTarget

/-- `broadcast_`: the own line published and sent, if the TSF can be read. -/
def broadcast (sync : TsfSync K) (args : ServiceArgs K) (timerUs : Int)
    (sample : Option TsfSample) : TsfSync K × Option (TsfPacket K) :=
  match sample with
  | none => (sync, none)
  | some now =>
      let tracked := sync.trackTsfRate now
      let published := { tracked with
        pubValid := true
        pubTsfBase := now.tsfUs
        pubTmsBase := tracked.publishedTms args now
        pubDriftPpm := tracked.publishedDrift args.est
        lastTxUs := args.localNowUs }
      (published, some
        { magic := tsfMagic
          version := tsfVersion
          bssid := sync.bssid
          senderMac := sync.myMac
          noMapping := false
          serverIdHash := args.serverIdHash
          tsfBaseUs := now.tsfUs
          tsfMinusServerUs := published.pubTmsBase
          driftPpm := published.pubDriftPpm
          pipelineUs := sync.pipelineUs
          renderPhaseUs := sync.renderPhaseForBeacon
          crystalPpm := sync.pubCrystalPpm
          adoptedTmsAtBaseUs :=
            if sync.mappingValid then sync.mapLine.tmsAt now.tsfUs else tmsAdoptUnknown
          streamIdHash := args.streamIdHash
          renderPhaseAgeMs := sync.renderPhaseAgeMs timerUs
          renderBiasUs := sync.pubRenderBiasUs
          commonErrUs := sync.pubCommonErrUs })

def concerns (sync : TsfSync K) (args : ServiceArgs K) (packet : TsfPacket K) : Bool :=
  decide (packet.magic = tsfMagic) && decide (packet.version = tsfVersion) &&
    !decide (packet.senderMac = sync.myMac) && decide (packet.bssid = sync.bssid) &&
    decide (packet.serverIdHash = args.serverIdHash) &&
    !(decide (packet.streamIdHash ≠ 0) && decide (args.streamIdHash ≠ 0) &&
      decide (packet.streamIdHash ≠ args.streamIdHash))

/-- The estimate gates of `receive_`: a beacon with a mapping that can be evaluated here and
is not far from the own estimate, if that can be trusted. -/
def acceptsLine (sync : TsfSync K) (args : ServiceArgs K) (datagram : Datagram K) : Bool :=
  !datagram.packet.noMapping &&
    match evaluateMapping datagram.sample datagram.packet.line with
    | .ok impliedOffsetUs _ =>
        !(args.est.valid && args.est.mature &&
          decide (sync.plausibilityUs <
            |impliedOffsetUs - truncToInt (args.est.offsetMs * ((1000 : Nat) : K))|))
    | _ => false

/-- What `receive_` keeps of any beacon that concerns this device. -/
def recordSender (sync : TsfSync K) (args : ServiceArgs K) (datagram : Datagram K) :
    TsfSync K :=
  let packet := datagram.packet
  { sync with
    roster := sync.roster.learnPeer datagram.fromAddr
    peer := (sync.peer.findPeer packet.senderMac args.localNowUs).modify packet.senderMac
      (fun peer => { peer with
        seenUs := args.localNowUs
        pipelineUs := packet.pipelineUs
        crystalPpm := packet.crystalPpm
        biasUs := if packet.renderBiasUs ≠ int32Min then packet.renderBiasUs else peer.biasUs
        biasSeenUs :=
          if packet.renderBiasUs ≠ int32Min then args.localNowUs else peer.biasSeenUs
        commonErrUs :=
          if packet.commonErrUs ≠ int32Min then packet.commonErrUs else peer.commonErrUs
        commonSeenUs :=
          if packet.commonErrUs ≠ int32Min then args.localNowUs else peer.commonSeenUs })
      fun _ => rfl }

/-- The phase half of `receive_`, for a beacon of the stream that this device plays. -/
def receivePhase (sync : TsfSync K) (args : ServiceArgs K) (packet : TsfPacket K) : TsfSync K :=
  if packet.streamIdHash ≠ 0 ∧ args.streamIdHash ≠ 0 ∧
      packet.streamIdHash = args.streamIdHash then
    let sampledUs :=
      if packet.renderPhaseAgeMs = 65535 then args.localNowUs
      else args.localNowUs - packet.renderPhaseAgeMs * 1000
    let index := sync.peer.slots.findIdx fun peer => peer.mac = packet.senderMac
    let recorded := sync.recordPeerPhase packet.senderMac packet.renderPhaseUs sampledUs
    let paired := recorded.pairAveragedDelta index packet.renderPhaseUs sampledUs
    paired.rollAveragedDelta args.localNowUs
  else sync

def storeLine (sync : TsfSync K) (args : ServiceArgs K) (packet : TsfPacket K) : TsfSync K :=
  { sync with
    peer := sync.peer.modify packet.senderMac
      (fun peer => { peer with
        mapValid := true
        mapSeenUs := args.localNowUs
        tsfBaseUs := packet.tsfBaseUs
        tmsBaseUs := packet.tsfMinusServerUs
        driftPpm := packet.driftPpm })
      fun _ => rfl }

def hear (sync : TsfSync K) (args : ServiceArgs K) (datagram : Datagram K) : TsfSync K :=
  (sync.recordSender args datagram).receivePhase args datagram.packet

def receive (sync : TsfSync K) (args : ServiceArgs K) (datagram : Datagram K) : TsfSync K :=
  if sync.concerns args datagram.packet then
    let heard := sync.hear args datagram
    if heard.acceptsLine args datagram then heard.storeLine args datagram.packet else heard
  else sync

structure Radio (K : Type) where
  ownMac : Option Mac
  apBssid : Option Mac
  socketReady : Bool
  inbox : List (Datagram K)
  timerUs : Int
  sample : Option TsfSample

/-- Joining an access point; leaving one for another resets what its TSF timed. -/
def associate (sync : TsfSync K) (bssid : Mac) : TsfSync K :=
  if sync.haveBssid && decide (bssid = sync.bssid) then sync
  else
    let left := if sync.haveBssid then sync.reset else sync
    { left with
      bssid := bssid
      haveBssid := true }

def publish (sync : TsfSync K) (args : ServiceArgs K) (radio : Radio K) :
    TsfSync K × Option (TsfPacket K) :=
  if args.est.valid && args.est.mature then
    if beaconIntervalUs ≤ args.localNowUs - sync.lastTxUs then
      sync.broadcast args radio.timerUs radio.sample
    else (sync, none)
  else if sync.renderPhaseForBeacon ≠ renderPhaseUnknown ∧
      4 * beaconIntervalUs ≤ args.localNowUs - sync.lastPhaseTxUs then
    ({ sync with lastPhaseTxUs := args.localNowUs }, none)
  else (sync, none)

def beginTick (sync : TsfSync K) (args : ServiceArgs K) : TsfSync K :=
  { sync with
    lastServiceUs := args.localNowUs
    pubServerIdHash := args.serverIdHash
    pubStreamIdHash := args.streamIdHash }

def learnMac (sync : TsfSync K) (ownMac : Option Mac) : TsfSync K :=
  match sync.haveMac, ownMac with
  | false, some mac => { sync with haveMac := true, myMac := mac }
  | _, _ => sync

def disassociate (sync : TsfSync K) : TsfSync K :=
  if sync.haveBssid then { sync.reset with haveBssid := false } else sync

def listen (sync : TsfSync K) (args : ServiceArgs K) (inbox : List (Datagram K)) : TsfSync K :=
  inbox.foldl (fun state datagram => state.receive args datagram) sync

def consensusTick (sync : TsfSync K) (localNowUs : Int) : TsfSync K :=
  if consensusIntervalUs ≤ localNowUs - sync.lastConsensusUs then
    { sync with lastConsensusUs := localNowUs }.updateConsensus localNowUs
  else sync

/-- `service`, with the mapping beacon that it sends. -/
def service (sync : TsfSync K) (args : ServiceArgs K) (radio : Radio K) :
    TsfSync K × Option (TsfPacket K) :=
  if args.localNowUs - sync.lastServiceUs < serviceMinIntervalUs then (sync, none)
  else
    let named := (sync.beginTick args).learnMac radio.ownMac
    if !named.haveMac then (named, none)
    else
      match radio.apBssid with
      | none => (named.disassociate, none)
      | some bssid =>
          let joined := named.associate bssid
          if !radio.socketReady then (joined, none)
          else
            let sent := (joined.listen args radio.inbox).publish args radio
            (sent.1.consensusTick args.localNowUs, sent.2)

end TsfSync

end ClockSync
