import SnapcastSync.ClockSync.OffsetFilter
import SnapcastSync.ClockSync.ServiceActions

/-! Lines of one snapserver after a change to another. Beside the state it is kept from which
servers' estimates the own line, the peers' lines, the mapping and the filtered offset stem;
every adoption and every answered offset is recorded with the server it was computed for. -/

namespace ClockSync

open Rounding

variable {K : Type} [Field K] [LinearOrder K] [FloorRing K]

namespace TsfSync

def kalmanTms (args : ServiceArgs K) (sample : TsfSample) : Int :=
  let thousand : K := ((1000 : Nat) : K)
  sample.tsfUs - (sample.localUs + truncToInt ((args.est.offsetMs +
    args.est.drift * (((sample.localUs - args.localNowUs : Int) : K) / thousand)) * thousand))

def slews (sync : TsfSync K) (args : ServiceArgs K) (sample : TsfSample) : Bool :=
  sync.pubValid &&
    decide (|kalmanTms args sample - sync.pubLine.tmsAt sample.tsfUs| ≤ tmsSnapUs)

theorem publishedTms_of_not_slews (sync : TsfSync K) (args : ServiceArgs K)
    (sample : TsfSample) (fresh : sync.slews args sample = false) :
    sync.publishedTms args sample = kalmanTms args sample := by
  unfold slews at fresh
  unfold publishedTms
  dsimp only
  cases valid : sync.pubValid with
  | false => rfl
  | true =>
      rw [valid, Bool.true_and] at fresh
      rw [if_pos rfl]
      exact if_neg (of_decide_eq_false fresh)

def stores (sync : TsfSync K) (args : ServiceArgs K) (datagram : Datagram K) : Bool :=
  sync.concerns args datagram.packet &&
    (sync.hear args datagram).acceptsLine args datagram

end TsfSync

/-- The ways through `shared_server_offset_us`. -/
inductive OffsetPath where
  | refused
  | held
  | snapped
  | smoothed
deriving DecidableEq, Repr

namespace TsfSync

def offsetPath (sync : TsfSync K) (filter : OffsetFilter K) (localNowUs : Int)
    (read : Option TsfRead) : OffsetPath :=
  if sync.mappingLive localNowUs then
    match read with
    | none => if filter.holds localNowUs then .held else .refused
    | some taken =>
        match evaluateMapping (some taken.sample) sync.mapLine with
        | .ok rawUs _ =>
            if (filter.prepare sync.mapDriftPpm taken).snaps rawUs then .snapped else .smoothed
        | _ => .refused
  else .refused

theorem offsetPath_refused_iff (sync : TsfSync K) (filter : OffsetFilter K) (localNowUs : Int)
    (read : Option TsfRead) :
    sync.offsetPath filter localNowUs read = .refused ↔
      (sync.sharedServerOffset filter localNowUs read).2.2 = none := by
  unfold offsetPath sharedServerOffset
  by_cases live : sync.mappingLive localNowUs = true
  · rw [if_pos live, if_pos live]
    cases read with
    | none =>
        by_cases bridged : filter.holds localNowUs = true
        · simp only [if_pos bridged, reduceCtorEq]
        · simp only [if_neg bridged]
    | some taken =>
        dsimp only
        cases evaluateMapping (some taken.sample) sync.mapLine with
        | ok rawUs extrapolationUs =>
            by_cases anchor : (filter.prepare sync.mapDriftPpm taken).snaps rawUs = true
            · simp only [if_pos anchor, reduceCtorEq]
            · simp only [if_neg anchor, reduceCtorEq]
        | noTsf => simp only
        | ageClamp extrapolationUs => simp only
  · rw [if_neg live, if_neg live]
    simp only

/-- A filter that snaps answers what the mapping says at this read, and nothing older. -/
theorem sharedServerOffset_of_snapped [IsStrictOrderedRing K] (sync : TsfSync K)
    (filter : OffsetFilter K) (localNowUs : Int) (taken : TsfRead)
    (snapped : sync.offsetPath filter localNowUs (some taken) = .snapped) :
    ∃ rawUs extrapolationUs,
      evaluateMapping (some taken.sample) sync.mapLine = .ok rawUs extrapolationUs ∧
        (sync.sharedServerOffset filter localNowUs (some taken)).2.2 = some rawUs := by
  unfold offsetPath at snapped
  unfold sharedServerOffset
  by_cases live : sync.mappingLive localNowUs = true
  · rw [if_pos live] at snapped ⊢
    dsimp only at snapped ⊢
    cases evaluated : evaluateMapping (some taken.sample) sync.mapLine with
    | ok rawUs extrapolationUs =>
        rw [evaluated] at snapped
        dsimp only at snapped
        refine ⟨rawUs, extrapolationUs, rfl, ?_⟩
        by_cases anchor : (filter.prepare sync.mapDriftPpm taken).snaps rawUs = true
        · simp only [OffsetFilter.settle, if_pos anchor]
          simp [truncToInt]
        · rw [if_neg anchor] at snapped
          cases snapped
    | noTsf =>
        rw [evaluated] at snapped
        cases snapped
    | ageClamp extrapolationUs =>
        rw [evaluated] at snapped
        cases snapped
  · rw [if_neg live] at snapped
    cases snapped

end TsfSync

def OnlyFrom (serverIdHash : UInt32) (origins : List UInt32) : Prop :=
  ∀ origin ∈ origins, origin = serverIdHash

/-- Something computed for a server, and the servers whose estimates went into it. -/
structure Use where
  serverIdHash : UInt32
  origins : List UInt32
deriving DecidableEq, Repr

structure Traced (K : Type) where
  sync : TsfSync K
  filter : OffsetFilter K
  serverIdHash : UInt32
  nowUs : Int
  ownFrom : List UInt32
  peerFrom : Mac → List UInt32
  mapFrom : List UInt32
  filterFrom : List UInt32
  uses : List Use

/-- The calls on `TsfSync` and what happens around them. Connecting to a server also resets
the time filter, so the estimate of a service call is always one of the current server. -/
inductive ServerEvent (K : Type) where
  | elapse (us : Nat)
  | selectServer (serverIdHash : UInt32)
  | service (est : Estimate K) (streamIdHash : UInt32) (radio : TsfSync.Radio K)
  | chunk (read : Option TsfRead)
  | setRenderPhase (phaseUs atUs : Int)
  | commonErrConsensus
  | setPeers (peerAddrs : List Addr)

namespace Traced

def start (sync : TsfSync K) : Traced K :=
  { sync := sync
    filter := OffsetFilter.create
    serverIdHash := 0
    nowUs := 0
    ownFrom := []
    peerFrom := fun _ => []
    mapFrom := []
    filterFrom := []
    uses := [] }

def pooledFrom (state : Traced K) (localNowUs : Int) : List UInt32 :=
  (if state.sync.pubValid then state.ownFrom else []) ++
    (state.sync.peer.slots.filter fun peer => peer.pooled localNowUs).flatMap
      fun peer => state.peerFrom peer.mac

def use (state : Traced K) (origins : List UInt32) : Traced K :=
  { state with uses := state.uses ++ [⟨state.serverIdHash, origins⟩] }

def act (state : Traced K) (action : Action K) : Traced K :=
  let after := { state with sync := state.sync.act action }
  match action with
  | .broadcast args _ (some sample) =>
      { after with
        ownFrom :=
          args.serverIdHash :: if state.sync.slews args sample then state.ownFrom else [] }
  | .receive args datagram =>
      if state.sync.stores args datagram then
        { after with
          peerFrom := fun mac =>
            if mac = datagram.packet.senderMac then [datagram.packet.serverIdHash]
            else state.peerFrom mac }
      else after
  | .updateConsensus localNowUs =>
      match consensusReference state.sync localNowUs with
      | none => after
      | some _ =>
          { after with mapFrom := state.pooledFrom localNowUs }.use
            (state.pooledFrom localNowUs)
  | _ => after

def takeOffset (state : Traced K) (read : Option TsfRead) : Traced K :=
  let answered := state.sync.sharedServerOffset state.filter state.nowUs read
  let after := { state with
    sync := answered.1
    filter := answered.2.1 }
  match state.sync.offsetPath state.filter state.nowUs read with
  | .refused => after
  | .held => after.use (state.mapFrom ++ state.filterFrom)
  | .snapped => { after with filterFrom := state.mapFrom }.use state.mapFrom
  | .smoothed =>
      { after with filterFrom := state.mapFrom ++ state.filterFrom }.use
        (state.mapFrom ++ state.filterFrom)

def serviceArgs (state : Traced K) (est : Estimate K) (streamIdHash : UInt32) :
    ServiceArgs K :=
  { localNowUs := state.nowUs
    est := est
    serverIdHash := state.serverIdHash
    streamIdHash := streamIdHash }

def perform (state : Traced K) : ServerEvent K → Traced K
  | .elapse us => { state with nowUs := state.nowUs + us }
  | .selectServer serverIdHash => { state with serverIdHash := serverIdHash }
  | .service est streamIdHash radio =>
      (state.sync.serviceActions (state.serviceArgs est streamIdHash) radio).foldl act state
  | .chunk read => state.takeOffset read
  | .setRenderPhase phaseUs atUs => state.act (.setRenderPhase phaseUs atUs)
  | .commonErrConsensus => state.act (.commonErrConsensus state.nowUs)
  | .setPeers peerAddrs => state.act (.setPeers peerAddrs)

/-- Whatever was adopted or answered stems from the server it was computed for. -/
def Isolated (state : Traced K) : Prop :=
  ∀ use ∈ state.uses, OnlyFrom use.serverIdHash use.origins

/-- At a change to another server nothing is held that could still be used; and while the
filtered offset dates from before a change, an offset is answered only by a snap. -/
def Settled (state : Traced K) : ServerEvent K → Prop
  | .selectServer serverIdHash =>
      serverIdHash = state.serverIdHash ∨
        (state.sync.pubValid = false ∧
          (∀ peer ∈ state.sync.peer.slots, peer.pooled state.nowUs = false) ∧
          state.sync.mappingLive state.nowUs = false)
  | .chunk read =>
      OnlyFrom state.serverIdHash state.filterFrom ∨
        state.sync.offsetPath state.filter state.nowUs read = .refused ∨
        state.sync.offsetPath state.filter state.nowUs read = .snapped
  | _ => True

/-- What could be used at this instant stems from the current server. -/
structure Current (state : Traced K) : Prop where
  own : state.sync.pubValid = true → OnlyFrom state.serverIdHash state.ownFrom
  peers : ∀ mac line, state.sync.PoolsFrom mac line state.nowUs →
    OnlyFrom state.serverIdHash (state.peerFrom mac)
  map : state.sync.mappingLive state.nowUs = true → OnlyFrom state.serverIdHash state.mapFrom
  uses : state.Isolated

theorem act_kept (state : Traced K) (action : Action K) :
    (state.act action).sync = state.sync.act action ∧
      (state.act action).serverIdHash = state.serverIdHash ∧
      (state.act action).nowUs = state.nowUs := by
  cases action with
  | broadcast args timerUs sample =>
      cases sample with
      | none => exact ⟨rfl, rfl, rfl⟩
      | some now => exact ⟨rfl, rfl, rfl⟩
  | receive args datagram =>
      unfold act
      dsimp only
      split
      · exact ⟨rfl, rfl, rfl⟩
      · exact ⟨rfl, rfl, rfl⟩
  | updateConsensus localNowUs =>
      unfold act
      dsimp only
      split
      · exact ⟨rfl, rfl, rfl⟩
      · exact ⟨rfl, rfl, rfl⟩
  | _ => exact ⟨rfl, rfl, rfl⟩

theorem foldl_act_sync (state : Traced K) (actions : List (Action K)) :
    (actions.foldl act state).sync = actions.foldl TsfSync.act state.sync := by
  induction actions generalizing state with
  | nil => rfl
  | cons action rest ih => rw [List.foldl_cons, List.foldl_cons, ih, (state.act_kept action).1]

theorem perform_service_sync (state : Traced K) (est : Estimate K) (streamIdHash : UInt32)
    (radio : TsfSync.Radio K) :
    (state.perform (.service est streamIdHash radio)).sync =
      (state.sync.service (state.serviceArgs est streamIdHash) radio).1 := by
  rw [← TsfSync.serviceActions_eq]
  exact foldl_act_sync state _

omit [FloorRing K] in
theorem Current.with_sync {state : Traced K} (current : state.Current) (after : TsfSync K)
    (valid : after.pubValid = state.sync.pubValid)
    (held : ∀ mac, after.peer.heldLine mac = state.sync.peer.heldLine mac)
    (live : after.mappingLive state.nowUs = state.sync.mappingLive state.nowUs) :
    ({ state with sync := after } : Traced K).Current := by
  refine ⟨?_, ?_, ?_, current.uses⟩
  · intro published
    exact current.own (valid.symm.trans published)
  · intro mac line pools
    apply current.peers mac line
    rw [TsfSync.poolsFrom_iff] at pools ⊢
    rw [← held mac]
    exact pools
  · intro mapped
    exact current.map (live.symm.trans mapped)

omit [FloorRing K] in
theorem Current.use {state : Traced K} (current : state.Current) (origins : List UInt32)
    (only : OnlyFrom state.serverIdHash origins) : (state.use origins).Current := by
  refine ⟨current.own, current.peers, current.map, ?_⟩
  intro used member
  rcases List.mem_append.mp member with old | new
  · exact current.uses used old
  · rw [List.mem_singleton.mp new]
    exact only

omit [FloorRing K] in
/-- What the consensus of this instant would average stems from the current server. -/
theorem Current.pooled {state : Traced K} (current : state.Current) :
    OnlyFrom state.serverIdHash (state.pooledFrom state.nowUs) := by
  intro origin member
  rcases List.mem_append.mp member with own | peers
  · split at own
    · rename_i published
      exact current.own published origin own
    · cases own
  · obtain ⟨peer, counted, named⟩ := List.mem_flatMap.mp peers
    obtain ⟨present, pooled⟩ := List.mem_filter.mp counted
    exact current.peers peer.mac peer.line ⟨peer, present, rfl, pooled, rfl⟩ origin named

theorem broadcast_live (sync : TsfSync K) (args : ServiceArgs K) (timerUs : Int)
    (sample : Option TsfSample) (localNowUs : Int) :
    (sync.broadcast args timerUs sample).1.mappingLive localNowUs =
      sync.mappingLive localNowUs := by
  cases sample with
  | none => rfl
  | some now =>
      have tracked : (sync.trackTsfRate now).mappingLive localNowUs =
          sync.mappingLive localNowUs := by
        unfold TsfSync.trackTsfRate
        split
        · rfl
        · split
          · dsimp only
            split <;> rfl
          · rfl
      exact tracked

omit [Field K] [LinearOrder K] [FloorRing K] in
theorem phaseOnly_live {before after : TsfSync K} (same : TsfSync.PhaseOnly before after)
    (localNowUs : Int) : after.mappingLive localNowUs = before.mappingLive localNowUs := by
  obtain ⟨valid, updated, _⟩ := same.mapping
  unfold TsfSync.mappingLive
  rw [valid, updated]

theorem receive_poolsFrom (sync : TsfSync K) (args : ServiceArgs K) (datagram : Datagram K)
    (mac : Mac) (line : Line K) (localNowUs : Int)
    (other : ¬ (sync.stores args datagram = true ∧ mac = datagram.packet.senderMac))
    (pools : (sync.receive args datagram).PoolsFrom mac line localNowUs) :
    sync.PoolsFrom mac line localNowUs := by
  rw [TsfSync.poolsFrom_iff] at pools ⊢
  obtain ⟨credible, since, holds, fresh⟩ := pools
  refine ⟨credible, since, ?_, fresh⟩
  rw [TsfSync.receive_held] at holds
  by_cases concerned : sync.concerns args datagram.packet = true
  · have rejected : ¬ ((sync.hear args datagram).acceptsLine args datagram = true ∧
        mac = datagram.packet.senderMac) :=
      fun both => other ⟨Bool.and_eq_true_iff.mpr ⟨concerned, both.1⟩, both.2⟩
    rw [if_pos concerned, if_neg rejected] at holds
    split at holds
    · cases holds
    · exact holds
  · rw [if_neg concerned] at holds
    exact holds

theorem current_receive (state : Traced K) (args : ServiceArgs K) (datagram : Datagram K)
    (named : args.serverIdHash = state.serverIdHash) (current : state.Current) :
    (state.act (.receive args datagram)).Current := by
  have valid := (TsfSync.receive_pub state.sync args datagram).1
  have live := phaseOnly_live (TsfSync.receive_phaseOnly state.sync args datagram) state.nowUs
  have elsewhere := receive_poolsFrom state.sync args datagram
  unfold act
  dsimp only
  by_cases stored : state.sync.stores args datagram = true
  · rw [if_pos stored]
    have concerned := (Bool.and_eq_true_iff.mp stored).1
    refine ⟨fun published => current.own (valid.symm.trans published), ?_,
      fun mapped => current.map (live.symm.trans mapped), current.uses⟩
    intro mac line pools origin member
    change origin ∈ if mac = datagram.packet.senderMac then [datagram.packet.serverIdHash]
      else state.peerFrom mac at member
    by_cases sender : mac = datagram.packet.senderMac
    · rw [if_pos sender] at member
      unfold TsfSync.concerns at concerned
      simp only [Bool.and_eq_true, decide_eq_true_eq] at concerned
      rw [List.mem_singleton.mp member, concerned.1.2, named]
    · rw [if_neg sender] at member
      have before := elsewhere mac line state.nowUs (fun both => sender both.2) pools
      exact current.peers mac line before origin member
  · rw [if_neg stored]
    refine ⟨fun published => current.own (valid.symm.trans published), ?_,
      fun mapped => current.map (live.symm.trans mapped), current.uses⟩
    intro mac line pools
    exact current.peers mac line
      (elsewhere mac line state.nowUs (fun both => stored both.1) pools)

theorem current_broadcast (state : Traced K) (args : ServiceArgs K) (timerUs : Int)
    (sample : Option TsfSample) (named : args.serverIdHash = state.serverIdHash)
    (current : state.Current) : (state.act (.broadcast args timerUs sample)).Current := by
  cases sample with
  | none => exact current.with_sync _ rfl (fun _ => rfl) rfl
  | some now =>
      have peers := TsfSync.broadcast_peer state.sync args timerUs (some now)
      refine ⟨?_, ?_, ?_, current.uses⟩
      · intro _ origin member
        rcases List.mem_cons.mp member with first | older
        · rw [first, named]
          rfl
        · split at older
          · rename_i slewed
            exact current.own (Bool.and_eq_true_iff.mp slewed).1 origin older
          · cases older
      · intro mac line pools
        apply current.peers mac line
        unfold TsfSync.PoolsFrom at pools ⊢
        change ∃ peer ∈ (state.sync.broadcast args timerUs (some now)).1.peer.slots, _ at pools
        rw [peers] at pools
        exact pools
      · intro mapped
        exact current.map
          ((broadcast_live state.sync args timerUs (some now) state.nowUs).symm.trans mapped)

theorem current_updateConsensus (state : Traced K) (current : state.Current) :
    (state.act (.updateConsensus state.nowUs)).Current := by
  have lines := TsfSync.updateConsensus_lines state.sync state.nowUs
  unfold act
  dsimp only
  cases reference : consensusReference state.sync state.nowUs with
  | none =>
      have emptied : state.sync.act (.updateConsensus state.nowUs) =
          { state.sync with consensusN := 0 } := by
        change state.sync.updateConsensus state.nowUs = _
        unfold TsfSync.updateConsensus
        rw [reference]
      rw [emptied]
      exact current.with_sync _ rfl (fun _ => rfl) rfl
  | some refTsf =>
      have adopted : ({ state with
          sync := state.sync.act (.updateConsensus state.nowUs)
          mapFrom := state.pooledFrom state.nowUs } : Traced K).Current := by
        refine ⟨?_, ?_, fun _ => current.pooled, current.uses⟩
        · intro published
          exact current.own (lines.valid.symm.trans published)
        · intro mac line pools
          apply current.peers mac line
          rw [TsfSync.poolsFrom_iff] at pools ⊢
          rw [← lines.held mac]
          exact pools
      exact adopted.use _ current.pooled

/-- The step lemma: an action with the current server's arguments mixes nothing in. -/
theorem current_act (state : Traced K) (args : ServiceArgs K) (action : Action K)
    (during : action.During args) (named : args.serverIdHash = state.serverIdHash)
    (timed : args.localNowUs = state.nowUs) (current : state.Current) :
    (state.act action).Current := by
  cases action with
  | reset =>
      refine ⟨fun published => absurd published Bool.false_ne_true, ?_,
        fun mapped => absurd mapped Bool.false_ne_true, current.uses⟩
      intro mac line pools
      obtain ⟨_, since, held, _⟩ := (TsfSync.poolsFrom_iff _ _ _ _).mp pools
      change state.sync.reset.peer.heldLine mac = _ at held
      rw [TsfSync.reset_held] at held
      cases held
  | note notes => exact current.with_sync _ rfl (fun _ => rfl) rfl
  | receive own datagram =>
      cases during
      exact current_receive state args datagram named current
  | broadcast own timerUs sample =>
      cases during
      exact current_broadcast state args timerUs sample named current
  | updateConsensus localNowUs =>
      have instant : localNowUs = state.nowUs := Eq.trans during timed
      rw [instant]
      exact current_updateConsensus state current
  | setRenderPhase phaseUs atUs =>
      have lines := TsfSync.setRenderPhase_lines state.sync phaseUs atUs
      exact current.with_sync _ lines.valid lines.held
        (phaseOnly_live (TsfSync.setRenderPhase_phaseOnly state.sync phaseUs atUs) state.nowUs)
  | commonErrConsensus localNowUs =>
      have lines := TsfSync.commonErrConsensus_lines state.sync localNowUs
      exact current.with_sync _ lines.valid lines.held
        (phaseOnly_live (TsfSync.commonErrConsensus_phaseOnly state.sync localNowUs) state.nowUs)
  | setPeers peerAddrs => exact current.with_sync _ rfl (fun _ => rfl) rfl

theorem current_service (state : Traced K) (args : ServiceArgs K)
    (named : args.serverIdHash = state.serverIdHash) (timed : args.localNowUs = state.nowUs)
    (actions : List (Action K)) (during : ∀ action ∈ actions, action.During args)
    (current : state.Current) : (actions.foldl act state).Current := by
  induction actions generalizing state with
  | nil => exact current
  | cons action rest ih =>
      obtain ⟨_, server, now⟩ := state.act_kept action
      have here := current_act state args action (during action List.mem_cons_self) named timed
        current
      exact ih (state.act action) (named.trans server.symm) (timed.trans now.symm)
        (fun later member => during later (List.mem_cons_of_mem action member)) here

theorem offset_lines (sync : TsfSync K) (filter : OffsetFilter K) (localNowUs : Int)
    (read : Option TsfRead) :
    (sync.sharedServerOffset filter localNowUs read).1.pubValid = sync.pubValid ∧
      (∀ mac, (sync.sharedServerOffset filter localNowUs read).1.peer.heldLine mac =
        sync.peer.heldLine mac) ∧
      (sync.sharedServerOffset filter localNowUs read).1.mappingLive localNowUs =
        sync.mappingLive localNowUs := by
  have mirrored : ∀ ratePpm : Option K,
      (sync.mirrorCrystal ratePpm).pubValid = sync.pubValid ∧
        (∀ mac, (sync.mirrorCrystal ratePpm).peer.heldLine mac = sync.peer.heldLine mac) ∧
        (sync.mirrorCrystal ratePpm).mappingLive localNowUs = sync.mappingLive localNowUs := by
    intro ratePpm
    cases ratePpm with
    | none => exact ⟨rfl, fun _ => rfl, rfl⟩
    | some rate => exact ⟨rfl, fun _ => rfl, rfl⟩
  unfold TsfSync.sharedServerOffset
  split
  · split
    · split
      · exact ⟨rfl, fun _ => rfl, rfl⟩
      · exact ⟨rfl, fun _ => rfl, rfl⟩
    · split
      · exact mirrored _
      · exact ⟨rfl, fun _ => rfl, rfl⟩
  · exact ⟨rfl, fun _ => rfl, rfl⟩

theorem offsetPath_live (sync : TsfSync K) (filter : OffsetFilter K) (localNowUs : Int)
    (read : Option TsfRead) (answers : sync.offsetPath filter localNowUs read ≠ .refused) :
    sync.mappingLive localNowUs = true := by
  by_contra expired
  exact answers (if_neg expired)

theorem Current.mixed {state : Traced K} (current : state.Current)
    (live : state.sync.mappingLive state.nowUs = true) {read : Option TsfRead}
    (answers : state.sync.offsetPath state.filter state.nowUs read ≠ .refused)
    (mixes : state.sync.offsetPath state.filter state.nowUs read ≠ .snapped)
    (settled : state.Settled (.chunk read)) :
    OnlyFrom state.serverIdHash (state.mapFrom ++ state.filterFrom) := by
  intro origin member
  rcases List.mem_append.mp member with mapped | filtered
  · exact current.map live origin mapped
  · rcases settled with only | refused | snapped
    · exact only origin filtered
    · exact absurd refused answers
    · exact absurd snapped mixes

theorem current_takeOffset (state : Traced K) (read : Option TsfRead)
    (settled : state.Settled (.chunk read)) (current : state.Current) :
    (state.takeOffset read).Current := by
  have answered := offset_lines state.sync state.filter state.nowUs read
  have taken : ∀ (filter : OffsetFilter K) (filterFrom : List UInt32),
      ({ state with
          sync := (state.sync.sharedServerOffset state.filter state.nowUs read).1
          filter := filter
          filterFrom := filterFrom } : Traced K).Current := by
    intro filter filterFrom
    have kept := current.with_sync _ answered.1 answered.2.1 answered.2.2
    exact ⟨kept.own, kept.peers, kept.map, kept.uses⟩
  unfold takeOffset
  dsimp only
  cases path : state.sync.offsetPath state.filter state.nowUs read with
  | refused => exact taken _ _
  | snapped =>
      have live := offsetPath_live state.sync state.filter state.nowUs read (by rw [path]; simp)
      exact (taken _ _).use _ (current.map live)
  | held =>
      have live := offsetPath_live state.sync state.filter state.nowUs read (by rw [path]; simp)
      exact (taken _ _).use _ (current.mixed live (by rw [path]; simp) (by rw [path]; simp) settled)
  | smoothed =>
      have live := offsetPath_live state.sync state.filter state.nowUs read (by rw [path]; simp)
      exact (taken _ _).use _ (current.mixed live (by rw [path]; simp) (by rw [path]; simp) settled)

theorem current_perform (state : Traced K) (event : ServerEvent K)
    (current : state.Current) (settled : state.Settled event) :
    (state.perform event).Current := by
  cases event with
  | elapse us =>
      refine ⟨current.own, ?_, ?_, current.uses⟩
      · intro mac line pools
        apply current.peers mac line
        rw [TsfSync.poolsFrom_iff] at pools ⊢
        obtain ⟨credible, since, held, fresh⟩ := pools
        have earlier : state.nowUs - since ≤ peerMapStaleUs := by
          change state.nowUs + us - since ≤ peerMapStaleUs at fresh
          omega
        exact ⟨credible, since, held, earlier⟩
      · intro mapped
        apply current.map
        unfold TsfSync.mappingLive at mapped ⊢
        rw [Bool.and_eq_true, decide_eq_true_eq] at mapped ⊢
        obtain ⟨valid, fresh⟩ := mapped
        change state.nowUs + us - state.sync.mapUpdatedLocalUs ≤ mappingExpiryUs at fresh
        exact ⟨valid, by omega⟩
  | selectServer serverIdHash =>
      rcases settled with same | ⟨unpublished, stale, expired⟩
      · subst same
        exact current
      · refine ⟨?_, ?_, ?_, current.uses⟩
        · intro published
          exact absurd (unpublished.symm.trans published) Bool.false_ne_true
        · rintro mac line ⟨peer, member, _, pooled, _⟩
          exact absurd ((stale peer member).symm.trans pooled) Bool.false_ne_true
        · intro mapped
          exact absurd (expired.symm.trans mapped) Bool.false_ne_true
  | service est streamIdHash radio =>
      exact current_service state (state.serviceArgs est streamIdHash) rfl rfl _
        (TsfSync.serviceActions_during state.sync _ radio) current
  | chunk read => exact current_takeOffset state read settled current
  | setRenderPhase phaseUs atUs =>
      exact current_act state (state.serviceArgs ⟨false, false, 0, 0⟩ 0)
        (.setRenderPhase phaseUs atUs) trivial rfl rfl current
  | commonErrConsensus =>
      exact current_act state (state.serviceArgs ⟨false, false, 0, 0⟩ 0)
        (.commonErrConsensus state.nowUs) trivial rfl rfl current
  | setPeers peerAddrs =>
      exact current_act state (state.serviceArgs ⟨false, false, 0, 0⟩ 0)
        (.setPeers peerAddrs) trivial rfl rfl current

/-- In a run whose server changes find nothing left to use, whatever is adopted or answered is
computed from the lines of the current server alone. -/
theorem isolated_of_along_settled (plausibilityUs : Int) (events : List (ServerEvent K))
    (settled : Run.Along perform Settled (start (TsfSync.create plausibilityUs) : Traced K)
      events) :
    Run.Visits perform Isolated (start (TsfSync.create plausibilityUs) : Traced K) events := by
  apply Run.visits_of_along perform Current Isolated Settled (fun _ current => current.uses)
    current_perform _ events
  · refine ⟨fun published => absurd published Bool.false_ne_true, ?_,
      fun mapped => absurd mapped Bool.false_ne_true, ?_⟩
    · rintro mac line ⟨peer, member, _⟩
      cases member
    · intro used member
      cases member
  · exact settled

instance (serverIdHash : UInt32) (origins : List UInt32) :
    Decidable (OnlyFrom serverIdHash origins) :=
  -- the members are listed; the hashes themselves are too many to go through
  List.decidableBAll (fun origin => origin = serverIdHash) origins

instance (state : Traced K) (event : ServerEvent K) : Decidable (state.Settled event) :=
  match event with
  | .selectServer serverIdHash =>
      inferInstanceAs (Decidable (serverIdHash = state.serverIdHash ∨
        (state.sync.pubValid = false ∧
          (∀ peer ∈ state.sync.peer.slots, peer.pooled state.nowUs = false) ∧
          state.sync.mappingLive state.nowUs = false)))
  | .chunk read =>
      inferInstanceAs (Decidable (OnlyFrom state.serverIdHash state.filterFrom ∨
        state.sync.offsetPath state.filter state.nowUs read = .refused ∨
        state.sync.offsetPath state.filter state.nowUs read = .snapped))
  | .elapse _ => isTrue trivial
  | .service _ _ _ => isTrue trivial
  | .setRenderPhase _ _ => isTrue trivial
  | .commonErrConsensus => isTrue trivial
  | .setPeers _ => isTrue trivial

private def reachable (bssid : Option Mac) (timerUs : Int) : TsfSync.Radio Rat :=
  { ownMac := some (Vector.replicate 6 1)
    apBssid := bssid
    socketReady := true
    inbox := []
    timerUs := timerUs
    sample := some ⟨timerUs, timerUs⟩ }

private def estimated (offsetMs : Rat) : Estimate Rat := ⟨true, true, offsetMs, 0⟩
private def unknown : Estimate Rat := ⟨false, false, 0, 0⟩
private def accessPoint : Mac := Vector.replicate 6 9

private def joinedAnew : List (ServerEvent Rat) :=
  [.selectServer 7, .elapse 2000000,
    .service (estimated 50) 0 (reachable (some accessPoint) 2000000),
    .chunk (some ⟨⟨2010000, 2010000⟩, 45⟩), .elapse 1000000,
    .service unknown 0 (reachable none 3000000), .selectServer 9, .elapse 1000000,
    .service (estimated 900) 0 (reachable (some accessPoint) 4000000),
    .chunk (some ⟨⟨4010000, 4010000⟩, 45⟩)]

theorem isolated_joinedAnew :
    Run.Visits perform Isolated (start (TsfSync.create 100000) : Traced Rat) joinedAnew :=
  isolated_of_along_settled 100000 joinedAnew (by decide +kernel)

/-- The server changes while the own line is published: the next consensus still averages it,
with no estimate of the new server at all. -/
theorem mixed_of_published :
    ¬ ∀ (plausibilityUs : Int) (events : List (ServerEvent Rat)),
      Run.Visits perform Isolated (start (TsfSync.create plausibilityUs) : Traced Rat) events := by
  intro always
  have visits := always 100000
    [.selectServer 7, .elapse 2000000,
      .service (estimated 50) 0 (reachable (some accessPoint) 2000000), .selectServer 9,
      .elapse 1000000, .service unknown 0 (reachable (some accessPoint) 3000000)]
  have isolated := Run.visits_last perform Isolated _ _ visits
  have used : (⟨9, [7]⟩ : Use) ∈ (([.selectServer 7, .elapse 2000000,
      .service (estimated 50) 0 (reachable (some accessPoint) 2000000), .selectServer 9,
      .elapse 1000000, .service unknown 0 (reachable (some accessPoint) 3000000)] :
        List (ServerEvent Rat)).foldl perform (start (TsfSync.create 100000))).uses := by
    decide +kernel
  exact absurd (isolated _ used 7 List.mem_cons_self) (by decide)

end Traced

end ClockSync
