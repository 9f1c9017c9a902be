import SnapcastSync.ClockSync.Contribution
import SnapcastSync.Control.ControlSession
import SnapcastSync.Player.Loop

/-! The client that nobody else is connected beside: what the server's statuses make of the
unicast roster, and whether the evidence that the timing engine is handed says that there are
peers. -/

namespace ClockSync

namespace Roster

def Vacant (roster : Roster) : Prop :=
  roster.peers = [] ∧ roster.learnedPeers = []

theorem vacant_iff_peerCount (roster : Roster) : roster.Vacant ↔ roster.peerCount = 0 := by
  rw [peerCount_eq, Nat.add_eq_zero_iff, List.length_eq_zero_iff, List.length_eq_zero_iff]
  rfl

theorem setPeers_vacant (roster : Roster) (peerAddrs : List Addr) :
    (roster.setPeers peerAddrs).Vacant ↔ peerAddrs = [] ∧ roster.learnedPeers = [] := by
  unfold Vacant setPeers
  cases peerAddrs with
  | nil => simp
  | cons addr rest => simp

theorem learnPeer_not_vacant (roster : Roster) (addr : Addr) (vacant : roster.Vacant) :
    ¬ (roster.learnPeer addr).Vacant := by
  rintro ⟨_, learned⟩
  unfold learnPeer at learned
  rw [dif_neg (by simp [vacant.1, vacant.2])] at learned
  simp at learned

end Roster

def Action.setsPeers {K : Type} : Action K → Bool
  | .setPeers _ => true
  | _ => false

variable {K : Type} [Field K] [LinearOrder K] [FloorRing K]

def Action.Unheard (sync : TsfSync K) : Action K → Prop
  | .receive args datagram => sync.concerns args datagram.packet = false
  | _ => True

namespace TsfSync

theorem receive_roster (sync : TsfSync K) (args : ServiceArgs K) (datagram : Datagram K) :
    (sync.receive args datagram).roster =
      if sync.concerns args datagram.packet then sync.roster.learnPeer datagram.fromAddr
      else sync.roster := by
  have heard : (sync.hear args datagram).roster = sync.roster.learnPeer datagram.fromAddr :=
    (receivePhase_lines (sync.recordSender args datagram) args datagram.packet).roster
  unfold receive
  split
  · dsimp only
    split
    · exact heard
    · exact heard
  · rfl

theorem broadcast_roster (sync : TsfSync K) (args : ServiceArgs K) (timerUs : Int)
    (sample : Option TsfSample) :
    (sync.broadcast args timerUs sample).1.roster = sync.roster := by
  cases sample with
  | none => rfl
  | some now =>
      change (sync.trackTsfRate now).roster = sync.roster
      unfold trackTsfRate
      split
      · rfl
      · split
        · dsimp only
          split <;> rfl
        · rfl

theorem act_vacant_iff (sync : TsfSync K) (action : Action K)
    (unset : action.setsPeers = false) (vacant : sync.roster.Vacant) :
    (sync.act action).roster.Vacant ↔ action.Unheard sync := by
  have kept (after : TsfSync K) (same : after.roster = sync.roster) :
      after.roster.Vacant ↔ True := by
    rw [same]
    exact iff_true_intro vacant
  cases action with
  | reset => exact iff_true_intro ⟨vacant.1, rfl⟩
  | note notes => exact iff_true_intro vacant
  | receive args datagram =>
      change (sync.receive args datagram).roster.Vacant ↔
        sync.concerns args datagram.packet = false
      rw [receive_roster]
      cases sync.concerns args datagram.packet with
      | false => exact iff_of_true vacant rfl
      | true =>
          exact iff_of_false (sync.roster.learnPeer_not_vacant datagram.fromAddr vacant)
            fun absurd => Bool.noConfusion absurd
  | broadcast args timerUs sample => exact kept _ (broadcast_roster sync args timerUs sample)
  | updateConsensus localNowUs => exact kept _ (updateConsensus_lines sync localNowUs).roster
  | setRenderPhase phaseUs atUs => exact kept _ (setRenderPhase_lines sync phaseUs atUs).roster
  | commonErrConsensus localNowUs =>
      exact kept _ (commonErrConsensus_lines sync localNowUs).roster
  | setPeers peerAddrs => cases unset

end TsfSync

end ClockSync

namespace Player

open ClockSync Timing

variable {K : Type} [Field K] [LinearOrder K] [FloorRing K]

theorem TimingState.timingStep_roster (timing : TimingState K) (libm : Libm K)
    (input : TimingInput K) :
    (timing.timingStep libm input).1.tsfSync.map TsfSync.roster =
      timing.tsfSync.map TsfSync.roster := by
  unfold timingStep groupEvidence
  cases timing.tsfSync with
  | none => rfl
  | some sync =>
      exact congrArg some (TsfSync.commonErrConsensus_lines sync input.nowUs).roster

theorem PlayerState.playChunk_roster (state : PlayerState K) (libm : Libm K) (config : Config)
    (input : ChunkInput K) :
    (state.playChunk libm config input).1.timing.tsfSync.map TsfSync.roster =
      state.timing.tsfSync.map TsfSync.roster := by
  cases measured : measuredErrorUs input with
  | some errorUs =>
      rw [playChunk_of_measured state libm config input errorUs measured]
      have stepped := state.timing.timingStep_roster libm (input.timingInput errorUs)
      unfold playMeasured
      dsimp only
      cases state.resync config input errorUs with
      | none => exact stepped
      | some direction =>
          cases direction with
          | late => exact stepped
          | early => exact stepped
  | none =>
      obtain ⟨recon, chunk, played⟩ := playChunk_unmeasured state libm config input measured
      rw [played]

/-- A listed peer that never reports a phase stops the tracking: no frames are moved and the
crystal integral stands still, whatever the error. -/
theorem TimingState.timingStep_of_company (timing : TimingState K) (libm : Libm K)
    (input : TimingInput K) (sync : TsfSync K) (shared : timing.tsfSync = some sync)
    (listed : ¬ sync.roster.Vacant) (unmeasured : sync.renderGroupDeltaUs = int32Min)
    (needs : input.tuning.positionNeedsDiff = true) :
    (timing.timingStep libm input).2.frames = 0 ∧
      (timing.timingStep libm input).1.engine.crystalPpm = timing.engine.crystalPpm := by
  have company : (groupEvidence timing.tsfSync input.nowUs).2.hasPeers = true := by
    rw [shared]
    rw [Roster.vacant_iff_peerCount, ← ne_eq] at listed
    exact decide_eq_true (Nat.pos_of_ne_zero listed)
  have absent : (groupEvidence timing.tsfSync input.nowUs).2.present = false := by
    rw [shared]
    exact decide_eq_false (not_not.mpr unmeasured)
  have steady : (groupEvidence timing.tsfSync input.nowUs).2.selfTransient = false := by
    rw [shared]
    rfl
  refine Engine.step_of_waiting (timing.prepared input) libm input.nowUs input.observation _
    absent steady ?_
  rw [company, Bool.and_true]
  exact needs

end Player

namespace Control

open ClockSync Timing Player

structure Lone (clientId : String) (server : Json) : Prop where
  present : ∃ client ∈ entries server,
    isClient clientId client = true ∧ (client.field "connected").orFalse = true
  alone : ∀ client ∈ entries server,
    (client.field "connected").orFalse = true → isClient clientId client = true

/-- No entry of this client carries an address that the roster would take. -/
def Unlisted (clientId : String) (inetAddr : String → Addr) (server : Json) : Prop :=
  ∀ client ∈ entries server,
    isClient clientId client = true → connectedAddr inetAddr client = none

theorem Lone.rosterOf_eq_nil_iff {clientId : String} {server : Json}
    (lone : Lone clientId server) (inetAddr : String → Addr) :
    rosterOf inetAddr server = [] ↔ Unlisted clientId inetAddr server := by
  unfold rosterOf Unlisted
  rw [List.filterMap_eq_nil_iff]
  constructor
  · intro none client member _
    exact none client member
  · intro unlisted client member
    by_cases connected : (client.field "connected").orFalse = true
    · exact unlisted client member (lone.alone client member connected)
    · unfold connectedAddr
      rw [if_neg connected]

structure Station (K : Type) where
  session : ControlSession
  player : PlayerState K

/-- What happens to a station: the lines that one network tick reads off the control port,
the document of a fallback fetch, the group's own actions, and the events of the player. -/
inductive Event (K : Type) where
  | lines (docs : List Json)
  | refresh (doc : Json)
  | group (action : Action K) (unset : action.setsPeers = false)
  | chunk (input : ChunkInput K)
  | setCrystalPpm (ppm : Option K)
  | armSeedTrace

def fetched (doc : Json) : Json :=
  (doc.field "result").field "server"

namespace Event

variable {K : Type}

def isDocument : Event K → Bool
  | .lines _ => true
  | .refresh _ => true
  | _ => false

def Tells (clientId : String) : Event K → Prop
  | .lines docs => ∃ server ∈ (statuses docs).getLast?, Lone clientId server
  | .refresh doc => Lone clientId (fetched doc)
  | _ => False

def StaysLone (clientId : String) : Event K → Prop
  | .lines docs => ∀ server ∈ (statuses docs).getLast?, Lone clientId server
  | .refresh doc => Lone clientId (fetched doc)
  | _ => True

end Event

variable {K : Type} [Field K] [LinearOrder K] [FloorRing K]

namespace Station

def create (clientId : String) (tsfSync : Option (TsfSync K)) : Station K :=
  { session := ControlSession.create clientId
    player := PlayerState.create tsfSync }

def tsfSync (station : Station K) : Option (TsfSync K) :=
  station.player.timing.tsfSync

def act (station : Station K) (action : Action K) : Station K :=
  { station with player := { station.player with timing := { station.player.timing with
      tsfSync := station.player.timing.tsfSync.map fun sync => sync.act action } } }

/-- The control session's part of a network tick: everything read is handled before the
roster is taken. -/
def readLines (station : Station K) (inetAddr : String → Addr) (docs : List Json) : Station K :=
  let session := docs.foldl (ControlSession.handleLine inetAddr) station.session
  match station.tsfSync with
  | none => { station with session := session }
  | some _ =>
      let taken := session.takePeers
      match taken.2 with
      | none => { station with session := taken.1 }
      | some peers => { station with session := taken.1 }.act (.setPeers peers)

def refreshTsfPeers (station : Station K) (inetAddr : String → Addr) (doc : Json) : Station K :=
  station.act (.setPeers (rosterOf inetAddr (fetched doc)))

def handle (inetAddr : String → Addr) (libm : Libm K) (config : Config) (station : Station K) :
    Event K → Station K
  | .lines docs => station.readLines inetAddr docs
  | .refresh doc => station.refreshTsfPeers inetAddr doc
  | .group action _ => station.act action
  | .chunk input => { station with player := station.player.handle libm config (.chunk input) }
  | .setCrystalPpm ppm =>
      { station with player := station.player.handle libm config (.setCrystalPpm ppm) }
  | .armSeedTrace => { station with player := station.player.handle libm config .armSeedTrace }

/-- The evidence that a chunk at any instant would hand to the engine says there are no peers. -/
def Alone (station : Station K) : Prop :=
  ∀ atUs, (groupEvidence station.tsfSync atUs).2.hasPeers = false

def roster (station : Station K) : Option Roster :=
  station.tsfSync.map TsfSync.roster

def Settled (station : Station K) : Prop :=
  station.tsfSync ≠ none → station.session.peersDirty = false

theorem alone_iff_vacant (station : Station K) :
    station.Alone ↔ ∀ roster, station.roster = some roster → roster.Vacant := by
  unfold Alone roster groupEvidence
  cases station.tsfSync with
  | none =>
      refine iff_of_true (fun _ => rfl) ?_
      intro roster absent
      cases absent
  | some sync =>
      simp only [decide_eq_false_iff_not, not_lt, Nat.le_zero, forall_const, Option.map_some,
        Option.some.injEq, forall_eq', Roster.vacant_iff_peerCount]

theorem act_alone_iff (station : Station K) (action : Action K) :
    (station.act action).Alone ↔
      ∀ sync, station.tsfSync = some sync → (sync.act action).roster.Vacant := by
  rw [alone_iff_vacant]
  unfold roster tsfSync act
  cases station.player.timing.tsfSync with
  | none => simp
  | some sync => simp

theorem act_tsfSync_none_iff (station : Station K) (action : Action K) :
    (station.act action).tsfSync = none ↔ station.tsfSync = none := by
  unfold tsfSync act
  exact Option.map_eq_none_iff

theorem alone_congr (station other : Station K) (same : other.roster = station.roster) :
    other.Alone ↔ station.Alone := by
  rw [alone_iff_vacant, alone_iff_vacant, same]

def BringsNews (inetAddr : String → Addr) (station : Station K) (docs : List Json) : Prop :=
  ∃ server ∈ statuses docs, rosterOf inetAddr server ≠ station.session.peers

/-- Where a document is handed on it lists nobody and no beacon was heard before; where its
statuses bring no news the roster is empty already; and no other event is a beacon. -/
def Clears (inetAddr : String → Addr) (nobody : Json → Prop) (station : Station K) :
    Event K → Prop
  | .lines docs =>
      ∀ sync, station.tsfSync = some sync →
        (station.BringsNews inetAddr docs →
          (∀ server ∈ (statuses docs).getLast?, nobody server) ∧
            sync.roster.learnedPeers = []) ∧
        (¬ station.BringsNews inetAddr docs → sync.roster.Vacant)
  | .refresh doc =>
      ∀ sync, station.tsfSync = some sync →
        nobody (fetched doc) ∧ sync.roster.learnedPeers = []
  | .group action _ => ∀ sync, station.tsfSync = some sync → action.Unheard sync
  | _ => True

theorem setPeers_alone_iff (station : Station K) (peerAddrs : List Addr) :
    (station.act (.setPeers peerAddrs)).Alone ↔
      ∀ sync, station.tsfSync = some sync →
        peerAddrs = [] ∧ sync.roster.learnedPeers = [] := by
  rw [act_alone_iff]
  exact forall₂_congr fun sync _ => sync.roster.setPeers_vacant peerAddrs

theorem alone_of_no_group (station : Station K) (absent : station.tsfSync = none) :
    station.Alone := by
  intro atUs
  rw [absent]
  rfl

theorem alone_iff_of_group (station : Station K) (sync : TsfSync K)
    (shared : station.tsfSync = some sync) : station.Alone ↔ sync.roster.Vacant := by
  rw [alone_iff_vacant]
  unfold roster
  rw [shared]
  simp

theorem readLines_alone_iff (station : Station K) (inetAddr : String → Addr)
    (docs : List Json) (settled : station.Settled) :
    (station.readLines inetAddr docs).Alone ↔
      station.Clears inetAddr (fun server => rosterOf inetAddr server = []) (.lines docs) := by
  have dirty := ControlSession.handleLines_peersDirty inetAddr station.session docs
  have peers := ControlSession.handleLines_peers inetAddr station.session docs
  unfold readLines Clears
  cases shared : station.tsfSync with
  | none =>
      refine iff_of_true (alone_of_no_group _ shared) ?_
      intro sync absent
      cases absent
  | some sync =>
      have clean := settled (by rw [shared]; exact Option.some_ne_none sync)
      simp only [clean, Bool.false_eq_true, false_or] at dirty
      simp only [Option.some.injEq, forall_eq']
      unfold ControlSession.takePeers
      by_cases news : station.BringsNews inetAddr docs
      · -- the roster of the last status is handed over
        rw [if_pos (dirty.mpr news), and_iff_left fun quiet => absurd news quiet]
        simp only [news, true_imp_iff]
        rw [setPeers_alone_iff]
        change (∀ held, station.tsfSync = some held → _) ↔ _
        rw [shared, peers]
        cases last : (statuses docs).getLast? with
        | none =>
            obtain ⟨server, member, _⟩ := news
            rw [List.getLast?_eq_none_iff.mp last] at member
            cases member
        | some server => simp
      · rw [if_neg fun taken => news (dirty.mp taken), and_iff_right fun told => absurd told news]
        simp only [news, not_false_eq_true, true_imp_iff]
        exact alone_iff_of_group _ sync shared

/-- A document decides the roster whatever it was; other events keep an empty one. -/
theorem handle_alone_iff (inetAddr : String → Addr) (libm : Libm K) (config : Config)
    (station : Station K) (event : Event K) (settled : station.Settled)
    (before : event.isDocument = true ∨ station.Alone) :
    (station.handle inetAddr libm config event).Alone ↔
      station.Clears inetAddr (fun server => rosterOf inetAddr server = []) event := by
  have kept (player : PlayerState K)
      (same : player.timing.tsfSync.map TsfSync.roster = station.roster)
      (alone : station.Alone) : ({ station with player := player } : Station K).Alone ↔ True :=
    iff_true_intro ((alone_congr station { station with player := player } same).mpr alone)
  cases event with
  | lines docs => exact readLines_alone_iff station inetAddr docs settled
  | refresh doc => exact setPeers_alone_iff station _
  | group action unset =>
      have alone := before.resolve_left Bool.false_ne_true
      change (station.act action).Alone ↔ _
      rw [act_alone_iff]
      refine forall₂_congr fun sync shared => ?_
      exact sync.act_vacant_iff action unset ((alone_iff_of_group station sync shared).mp alone)
  | chunk input =>
      exact kept _ (station.player.playChunk_roster libm config input)
        (before.resolve_left Bool.false_ne_true)
  | setCrystalPpm ppm => exact kept _ rfl (before.resolve_left Bool.false_ne_true)
  | armSeedTrace => exact kept _ rfl (before.resolve_left Bool.false_ne_true)

theorem handle_settled (inetAddr : String → Addr) (libm : Libm K) (config : Config)
    (station : Station K) (event : Event K) (settled : station.Settled) :
    (station.handle inetAddr libm config event).Settled := by
  have acted (other : Station K) (action : Action K) (clean : other.Settled) :
      (other.act action).Settled :=
    fun shared => clean fun absent => shared ((act_tsfSync_none_iff other action).mpr absent)
  have played (player : PlayerState K)
      (same : player.timing.tsfSync.map TsfSync.roster = station.roster) :
      ({ station with player := player } : Station K).Settled := by
    intro shared
    apply settled
    intro absent
    apply shared
    unfold roster at same
    rw [absent] at same
    exact Option.map_eq_none_iff.mp same
  cases event with
  | lines docs =>
      change (station.readLines inetAddr docs).Settled
      unfold readLines
      cases shared : station.tsfSync with
      | none => exact fun present => absurd shared present
      | some sync =>
          have clean := ControlSession.takePeers_settled
            (docs.foldl (ControlSession.handleLine inetAddr) station.session)
          dsimp only
          split
          · exact fun _ => clean.1
          · exact acted _ _ fun _ => clean.1
  | refresh doc => exact acted station _ settled
  | group action unset => exact acted station action settled
  | chunk input => exact played _ (station.player.playChunk_roster libm config input)
  | setCrystalPpm ppm => exact played _ rfl
  | armSeedTrace => exact played _ rfl

omit [Field K] [LinearOrder K] [FloorRing K] in
theorem clears_iff_unlisted (clientId : String) (inetAddr : String → Addr)
    (event : Event K) (lone : event.StaysLone clientId) (station : Station K) :
    station.Clears inetAddr (fun server => rosterOf inetAddr server = []) event ↔
      station.Clears inetAddr (Unlisted clientId inetAddr) event := by
  cases event with
  | lines docs =>
      have own : (∀ server ∈ (statuses docs).getLast?, rosterOf inetAddr server = []) ↔
          ∀ server ∈ (statuses docs).getLast?, Unlisted clientId inetAddr server :=
        forall₂_congr fun server last => (lone server last).rosterOf_eq_nil_iff inetAddr
      unfold Clears
      dsimp only
      rw [own]
  | refresh doc =>
      unfold Clears
      dsimp only
      rw [Lone.rosterOf_eq_nil_iff lone inetAddr]
  | group action unset => exact Iff.rfl
  | chunk input => exact Iff.rfl
  | setCrystalPpm ppm => exact Iff.rfl
  | armSeedTrace => exact Iff.rfl

theorem run_settled (inetAddr : String → Addr) (libm : Libm K) (config : Config)
    (station : Station K) (events : List (Event K)) (settled : station.Settled) :
    (events.foldl (handle inetAddr libm config) station).Settled := by
  have visits := Run.visits_of_preserved (handle inetAddr libm config) Settled
    (handle_settled inetAddr libm config) station events settled
  exact Run.visits_last (handle inetAddr libm config) Settled station events visits

/-- From a status in which this client is the only one connected, and through any number of
further ones, no chunk is handed evidence of peers exactly when the client's own entry never
carries a usable address, no address is left over from before, and no beacon is heard. -/
theorem alone_iff_unlisted (clientId : String) (inetAddr : String → Addr) (libm : Libm K)
    (config : Config) (tsfSync : Option (TsfSync K)) (earlier : List (Event K))
    (told : Event K) (later : List (Event K)) (tells : told.Tells clientId)
    (staysLone : ∀ event ∈ later, event.StaysLone clientId) :
    let step := handle inetAddr libm config
    let station := earlier.foldl step (create clientId tsfSync)
    Run.Visits step Alone (step station told) later ↔
      Run.Along step (Clears inetAddr (Unlisted clientId inetAddr)) station (told :: later) := by
  intro step station
  have settled : station.Settled :=
    run_settled inetAddr libm config (create clientId tsfSync) earlier fun _ => rfl
  have next : (step station told).Settled :=
    handle_settled inetAddr libm config station told settled
  have document : told.isDocument = true := by
    cases told with
    | lines docs => rfl
    | refresh doc => rfl
    | _ => cases tells
  have toldLone : told.StaysLone clientId := by
    cases told with
    | lines docs =>
        obtain ⟨server, last, lone⟩ := tells
        intro other found
        rw [Option.mem_unique found last]
        exact lone
    | refresh doc => exact tells
    | _ => cases tells
  have first : (step station told).Alone ↔
      station.Clears inetAddr (Unlisted clientId inetAddr) told := by
    rw [← clears_iff_unlisted clientId inetAddr told toldLone station]
    exact handle_alone_iff inetAddr libm config station told settled (Or.inl document)
  -- the settled session is what makes a step of the run exact
  have rest (alone : (step station told).Alone) :
      Run.Visits step Alone (step station told) later ↔
        Run.Along step (Clears inetAddr (Unlisted clientId inetAddr)) (step station told)
          later := by
    have kept := Run.visits_of_preserved step Settled
      (handle_settled inetAddr libm config) (step station told) later next
    rw [← Run.along_congr step _ _ (step station told) later fun event member state =>
        clears_iff_unlisted clientId inetAddr event (staysLone event member) state,
      ← Run.visits_iff_along step (fun state => state.Settled ∧ state.Alone) _ ?_
        (step station told) later ⟨next, alone⟩,
      Run.visits_and, and_iff_right kept]
    rintro state event ⟨clean, quiet⟩
    rw [handle_alone_iff inetAddr libm config state event clean (Or.inr quiet),
      and_iff_right (handle_settled inetAddr libm config state event clean)]
  rw [Run.along_cons, ← first]
  constructor
  · intro visits
    have alone : (step station told).Alone := by
      cases later with
      | nil => exact visits
      | cons event others => exact visits.1
    exact ⟨alone, (rest alone).mp visits⟩
  · rintro ⟨alone, along⟩
    exact (rest alone).mpr along

end Station

section Examples

private def dottedQuad (ip : String) : Addr :=
  let part (digits : List Char) : Option UInt32 :=
    if digits ≠ [] ∧ digits.all Char.isDigit = true then
      some (UInt32.ofNat (digits.foldl (fun value digit => value * 10 + (digit.toNat - 48)) 0))
    else none
  match (ip.toList.splitOn '.').map part with
  | [some first, some second, some third, some fourth] =>
      first ||| second <<< 8 ||| third <<< 16 ||| fourth <<< 24
  | _ => inaddrNone

private def loneStatus (host : Json) : Json :=
  .obj [("id", .num), ("result", .obj [("server", .obj [("groups", .arr [.obj [
    ("id", .str "kitchen"), ("stream_id", .str "default"), ("clients", .arr [.obj [
      ("id", .str "aa:bb:cc:00:11:22"), ("connected", .bool true), ("host", host)]])]])])])]

private def loneServer (host : Json) : Json := fetched (loneStatus host)

private def ring : Config :=
  { bufferSize := 524288
    hardResyncThresholdMs := 50 }

private def booted : Station Rat :=
  Station.create "AA:BB:CC:00:11:22" (some (TsfSync.create 500000))

private theorem loneStatus_tells (host : Json) :
    (Event.lines [loneStatus host] : Event Rat).Tells "AA:BB:CC:00:11:22" := by
  have named : ∀ client ∈ entries (loneServer host),
      isClient "AA:BB:CC:00:11:22" client = true := by
    intro client member
    rw [List.mem_singleton.mp member]
    rfl
  exact ⟨loneServer host, rfl,
    ⟨_, List.mem_singleton_self _, named _ (List.mem_singleton_self _), rfl⟩,
    fun client member _ => named client member⟩

/-- The client's own entry, under the address by which the server knows it, is what makes
the group evidence speak of peers. -/
theorem lone_client_has_a_peer :
    ¬ ∀ told : Event Rat, told.Tells "AA:BB:CC:00:11:22" →
      (booted.handle dottedQuad Libm.rational ring told).Alone := by
  intro always
  have alone := always _ (loneStatus_tells (.obj [("ip", .str "::ffff:192.168.1.50")])) 0
  exact Bool.noConfusion (alone.symm.trans (by decide +kernel : _ = true))

/-- A status whose own entry has no host leaves the roster empty. -/
theorem alone_iff_unlisted_hostless :
    Run.Visits (Station.handle dottedQuad Libm.rational ring) Station.Alone
      (booted.handle dottedQuad Libm.rational ring (.lines [loneStatus .null])) [] := by
  refine (Station.alone_iff_unlisted "AA:BB:CC:00:11:22" dottedQuad Libm.rational ring
    (some (TsfSync.create 500000)) [] (.lines [loneStatus .null]) [] (loneStatus_tells .null)
    (by simp)).mpr ⟨?_, trivial⟩
  intro sync shared
  rw [← Option.some.inj shared]
  refine ⟨fun _ => ⟨?_, rfl⟩, fun _ => ⟨rfl, rfl⟩⟩
  intro server last client member _
  rw [← Option.some.inj last] at member
  rw [List.mem_singleton.mp member]
  rfl

end Examples

end Control
