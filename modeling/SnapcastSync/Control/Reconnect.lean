import SnapcastSync.Control.ServerSelect
import SnapcastSync.Lib.Conformance

/-! Which server the network task connects to, while the main loop changes its mind. The two share
a target and the list of discovered servers under a mutex, and a flag that ends a session; an event
is one access of either to what they share, and they may come in any order. -/

namespace Control

open CText

deriving instance DecidableEq for ServerCandidate

def serverScanMinIntervalUs : Int := 60000000

structure ServerConfig where
  serverHost : Text
  serverPort : UInt16

structure Targets where
  manual : ServerTarget
  selected : ServerTarget
deriving DecidableEq

/-- What `apply_server_override_` hands on. -/
def Targets.override (targets : Targets) : ServerTarget :=
  if targets.manual.host ≠ [] then targets.manual else targets.selected

/-- The host that an override and the configuration give; it is empty where discovery is to. -/
def ServerConfig.target (config : ServerConfig) (override : ServerTarget) : ServerTarget :=
  if override.host ≠ [] then
    { host := override.host
      port := if override.port ≠ 0 then override.port else config.serverPort }
  else
    { host := config.serverHost
      port := config.serverPort }

/-- Where `connection_session_` is: not in it, before the override is read, before a server is
found, and in a session. -/
inductive SessionStage
  | away
  | cleared
  | wanting (wanted : ServerTarget)
  | linked (wanted server : ServerTarget)
deriving DecidableEq

structure Reconnect where
  targets : Targets
  storePending : Bool
  listed : List ServerCandidate
  overrideTarget : ServerTarget
  reconnectRequested : Bool
  discoveryEnabled : Bool
  discoveredServers : List ServerCandidate
  discoveredDirty : Bool
  stage : SessionStage
  lastScanUs : Int

inductive ReconnectEvent
  | setServerManual (target : ServerTarget)
  | setServerSelection (target : ServerTarget)
  | storeRequest
  | requestDisconnect
  | enableServerDiscovery
  | handOver
  | clearRequest
  | readOverride
  | findServer (nowUs : Int) (found : List ServerCandidate) (connects : Bool)
  | poll
  | lost

inductive ReconnectNotice
  | requested
  | ended (server : ServerTarget)
  | scanned (found : List ServerCandidate)
deriving DecidableEq

namespace Reconnect

def boot : Reconnect :=
  { targets := ⟨⟨[], 0⟩, ⟨[], 0⟩⟩
    storePending := false
    listed := []
    overrideTarget := ⟨[], 0⟩
    reconnectRequested := false
    discoveryEnabled := false
    discoveredServers := []
    discoveredDirty := false
    stage := .away
    lastScanUs := 0 }

/-- `set_server_override` up to the unlock; the request follows if the target is another one. -/
def setServerOverride (link : Reconnect) (targets : Targets) : Reconnect :=
  { link with
    targets := targets
    overrideTarget := targets.override
    storePending := decide (targets.override ≠ link.overrideTarget) }

def storeRequest (link : Reconnect) : Reconnect × List ReconnectNotice :=
  if link.storePending then
    ({ link with
        storePending := false
        reconnectRequested := true }, [.requested])
  else (link, [])

/-- The end of `loop`. -/
def handOver (link : Reconnect) : Reconnect :=
  if link.discoveredDirty then
    { link with
      listed := link.discoveredServers
      discoveredDirty := false }
  else link

/-- What `scan_servers_` does with the servers it has found. -/
def scanServers (link : Reconnect) (nowUs : Int) (found : List ServerCandidate) : Reconnect :=
  if found ≠ [] ∧ found ≠ link.discoveredServers then
    { link with
      lastScanUs := nowUs
      discoveredServers := found
      discoveredDirty := true }
  else { link with lastScanUs := nowUs }

def scans (link : Reconnect) (wanted : ServerTarget) (nowUs : Int) : Bool :=
  decide (wanted.host = []) ||
    (link.discoveryEnabled &&
      decide (link.lastScanUs = 0 ∨ serverScanMinIntervalUs ≤ nowUs - link.lastScanUs))

def findServer (link : Reconnect) (wanted : ServerTarget) (nowUs : Int)
    (found : List ServerCandidate) (connects : Bool) : Reconnect × List ReconnectNotice :=
  let scanning := link.scans wanted nowUs
  let scanned := if scanning then link.scanServers nowUs found else link
  let server :=
    if wanted.host = [] then scanned.discoveredServers.head?.map ServerCandidate.target
    else some wanted
  ({ scanned with
      stage :=
        match server with
        | some server => if connects then .linked wanted server else .away
        | none => .away },
    if scanning then [.scanned found] else [])

def step (config : ServerConfig) (link : Reconnect) :
    ReconnectEvent → Reconnect × List ReconnectNotice
  | .setServerManual target =>
      if link.storePending then (link, [])
      else (link.setServerOverride { link.targets with manual := target }, [])
  | .setServerSelection target =>
      if link.storePending then (link, [])
      else (link.setServerOverride { link.targets with selected := target }, [])
  | .storeRequest => link.storeRequest
  | .requestDisconnect => ({ link with reconnectRequested := true }, [.requested])
  | .enableServerDiscovery => ({ link with discoveryEnabled := true }, [])
  | .handOver => (link.handOver, [])
  | .clearRequest =>
      if link.stage = .away then
        ({ link with
            reconnectRequested := false
            stage := .cleared }, [])
      else (link, [])
  | .readOverride =>
      if link.stage = .cleared then
        ({ link with stage := .wanting (config.target link.overrideTarget) }, [])
      else (link, [])
  | .findServer nowUs found connects =>
      match link.stage with
      | .wanting wanted => link.findServer wanted nowUs found connects
      | _ => (link, [])
  | .poll =>
      match link.stage with
      | .linked _ server =>
          if link.reconnectRequested then ({ link with stage := .away }, [.ended server])
          else (link, [])
      | _ => (link, [])
  | .lost =>
      match link.stage with
      | .linked _ _ => ({ link with stage := .away }, [])
      | _ => (link, [])

def run (config : ServerConfig) (events : List ReconnectEvent) : Reconnect :=
  Conformance.run (step config) boot events

def notices (config : ServerConfig) (events : List ReconnectEvent) : List ReconnectNotice :=
  Conformance.trace (step config) boot events

def server? (config : ServerConfig) (link : Reconnect) : Option ServerTarget :=
  let wanted := config.target link.targets.override
  if wanted.host = [] then link.discoveredServers.head?.map ServerCandidate.target
  else some wanted

def wanted : SessionStage → Option ServerTarget
  | .away => none
  | .cleared => none
  | .wanting wanted => some wanted
  | .linked wanted _ => some wanted

/-- The session ends at the next look at the flag, or the main loop is about to raise it. -/
def Ending (link : Reconnect) : Prop :=
  link.reconnectRequested = true ∨ link.storePending = true

structure Sound (config : ServerConfig) (link : Reconnect) : Prop where
  handed : link.overrideTarget = link.targets.override
  chasing : ∀ target, wanted link.stage = some target →
    target = config.target link.overrideTarget ∨ link.Ending
  found : ∀ target server, link.stage = .linked target server →
    (if target.host = [] then link.discoveredServers.head?.map ServerCandidate.target
      else some target) = some server
  listed : link.discoveredDirty = false → link.listed = link.discoveredServers

theorem sound_boot (config : ServerConfig) : Sound config boot where
  handed := rfl
  chasing := fun target told => by cases told
  found := fun target server linked => by cases linked
  listed := fun _ => rfl

theorem sound_setServerOverride {config : ServerConfig} {link : Reconnect}
    (sound : Sound config link) (free : link.storePending = false) (targets : Targets) :
    Sound config (link.setServerOverride targets) := by
  refine ⟨rfl, ?_, sound.found, sound.listed⟩
  intro target told
  by_cases changed : targets.override = link.overrideTarget
  · rcases sound.chasing target told with same | requested | pending
    · left
      rw [same, setServerOverride, changed]
    · exact Or.inr (Or.inl requested)
    · exact Bool.noConfusion (free.symm.trans pending)
  · exact Or.inr (Or.inr (decide_eq_true changed))

theorem sound_storeRequest {config : ServerConfig} {link : Reconnect}
    (sound : Sound config link) : Sound config link.storeRequest.1 := by
  rw [storeRequest]
  split
  · exact ⟨sound.handed, fun _ _ => Or.inr (Or.inl rfl), sound.found, sound.listed⟩
  · exact sound

theorem sound_handOver {config : ServerConfig} {link : Reconnect}
    (sound : Sound config link) : Sound config link.handOver := by
  rw [handOver]
  split
  · exact ⟨sound.handed, sound.chasing, sound.found, fun _ => rfl⟩
  · exact sound

/-- Away from a session there is nothing to chase. -/
theorem sound_away {config : ServerConfig} {link : Reconnect} (sound : Sound config link) :
    Sound config { link with stage := .away } where
  handed := sound.handed
  chasing := fun target told => by cases told
  found := fun target server linked => by cases linked
  listed := sound.listed

theorem sound_scanServers {config : ServerConfig} {link : Reconnect} (sound : Sound config link)
    (unlinked : ∀ target server, link.stage ≠ .linked target server) (nowUs : Int)
    (found : List ServerCandidate) : Sound config (link.scanServers nowUs found) := by
  rw [scanServers]
  split
  · exact ⟨sound.handed, sound.chasing,
      fun target server linked => absurd linked (unlinked target server),
      fun clean => Bool.noConfusion clean⟩
  · exact ⟨sound.handed, sound.chasing, sound.found, sound.listed⟩

theorem scanServers_stage (link : Reconnect) (nowUs : Int) (found : List ServerCandidate) :
    (link.scanServers nowUs found).stage = link.stage := by
  rw [scanServers]
  split
  · rfl
  · rfl

theorem sound_findServer {config : ServerConfig} {link : Reconnect} (sound : Sound config link)
    (target : ServerTarget) (stage : link.stage = .wanting target) (nowUs : Int)
    (found : List ServerCandidate) (connects : Bool) :
    Sound config (link.findServer target nowUs found connects).1 := by
  rw [findServer]
  dsimp only
  generalize scanned_ : (if link.scans target nowUs then link.scanServers nowUs found else link) =
    scanned
  have kept : Sound config scanned ∧ scanned.stage = link.stage := by
    rw [← scanned_]
    split
    · refine ⟨sound_scanServers sound ?_ nowUs found, link.scanServers_stage nowUs found⟩
      intro other server linked
      rw [stage] at linked
      cases linked
    · exact ⟨sound, rfl⟩
  have chased := kept.1.chasing target (by rw [kept.2, stage]; rfl)
  split
  · rename_i server known
    split
    · refine ⟨kept.1.handed, ?_, ?_, kept.1.listed⟩
      · intro other told
        rw [← Option.some.inj told]
        exact chased
      · intro other otherServer linked
        cases linked
        exact known
    · exact sound_away kept.1
  · exact sound_away kept.1

theorem sound_step {config : ServerConfig} {link : Reconnect} (sound : Sound config link)
    (event : ReconnectEvent) : Sound config (link.step config event).1 := by
  cases event with
  | setServerManual target =>
      rw [step]
      split
      · exact sound
      · rename_i free
        exact sound_setServerOverride sound (Bool.eq_false_of_not_eq_true free) _
  | setServerSelection target =>
      rw [step]
      split
      · exact sound
      · rename_i free
        exact sound_setServerOverride sound (Bool.eq_false_of_not_eq_true free) _
  | storeRequest => exact sound_storeRequest sound
  | requestDisconnect =>
      exact ⟨sound.handed, fun _ _ => Or.inr (Or.inl rfl), sound.found, sound.listed⟩
  | enableServerDiscovery => exact ⟨sound.handed, sound.chasing, sound.found, sound.listed⟩
  | handOver => exact sound_handOver sound
  | clearRequest =>
      rw [step]
      split
      · exact ⟨sound.handed, fun target told => (by cases told),
          fun target server linked => (by cases linked), sound.listed⟩
      · exact sound
  | readOverride =>
      rw [step]
      split
      · refine ⟨sound.handed, ?_, fun target server linked => (by cases linked), sound.listed⟩
        intro target told
        exact Or.inl (Option.some.inj told).symm
      · exact sound
  | findServer nowUs found connects =>
      rw [step]
      split
      · rename_i target stage
        exact sound_findServer sound target stage nowUs found connects
      · exact sound
  | poll =>
      rw [step]
      split
      · split
        · exact sound_away sound
        · exact sound
      · exact sound
  | lost =>
      rw [step]
      split
      · exact sound_away sound
      · exact sound

def requests (notices : List ReconnectNotice) : Nat := notices.count .requested

def endings (notices : List ReconnectNotice) : Nat :=
  notices.countP fun notice =>
    match notice with
    | .ended _ => true
    | _ => false

def lastFound (notices : List ReconnectNotice) : List ServerCandidate :=
  notices.foldl
    (fun known notice =>
      match notice with
      | .scanned found => if found ≠ [] then found else known
      | _ => known) []

def owed (link : Reconnect) : Nat :=
  if link.reconnectRequested = true ∧ link.stage ≠ .away then 1 else 0

structure Accounted (link : Reconnect) (notices : List ReconnectNotice) : Prop where
  answered : endings notices + link.owed ≤ requests notices
  lastFound : link.discoveredServers = lastFound notices

theorem owed_le (link : Reconnect) : link.owed ≤ 1 := by
  rw [owed]
  split
  · exact Nat.le_refl 1
  · exact Nat.zero_le 1

theorem owed_away (link : Reconnect) (away : link.stage = .away) : link.owed = 0 :=
  if_neg fun both => both.2 away

theorem owed_unrequested (link : Reconnect) (clear : link.reconnectRequested = false) :
    link.owed = 0 :=
  if_neg fun both => Bool.noConfusion (clear.symm.trans both.1)

theorem owed_le_of_request {link : Reconnect} (after : Reconnect)
    (raised : after.reconnectRequested = true → link.reconnectRequested = true)
    (inSession : link.stage ≠ .away) : after.owed ≤ link.owed := by
  by_cases owes : after.reconnectRequested = true ∧ after.stage ≠ .away
  · rw [owed, owed, if_pos owes, if_pos ⟨raised owes.1, inSession⟩]
  · rw [owed, if_neg owes]
    exact Nat.zero_le _

theorem Accounted.quiet {link after : Reconnect} {notices : List ReconnectNotice}
    (accounted : Accounted link notices) (owes : after.owed ≤ link.owed)
    (servers : after.discoveredServers = link.discoveredServers) :
    Accounted after (notices ++ []) := by
  rw [List.append_nil]
  exact ⟨(Nat.add_le_add_left owes _).trans accounted.answered,
    servers.trans accounted.lastFound⟩

theorem Accounted.request {link : Reconnect} {notices : List ReconnectNotice}
    (accounted : Accounted link notices) (pending : Bool) :
    Accounted
      { link with
        storePending := pending
        reconnectRequested := true } (notices ++ [.requested]) := by
  obtain ⟨answered, found⟩ := accounted
  refine ⟨?_, ?_⟩
  · have owes := owed_le
      { link with
        storePending := pending
        reconnectRequested := true }
    rw [endings, requests] at answered ⊢
    rw [List.countP_append, List.count_append]
    simp only [List.countP_singleton, List.count_singleton_self]
    have fewer : endings notices ≤ requests notices := Nat.le_of_add_right_le answered
    rw [endings, requests] at fewer
    simp only [Bool.false_eq_true, if_false]
    omega
  · rw [Reconnect.lastFound, List.foldl_append]
    exact found

theorem Accounted.ending {link : Reconnect} {notices : List ReconnectNotice}
    (accounted : Accounted link notices) (server : ServerTarget)
    (requested : link.reconnectRequested = true) (inSession : link.stage ≠ .away) :
    Accounted { link with stage := .away } (notices ++ [.ended server]) := by
  obtain ⟨answered, found⟩ := accounted
  refine ⟨?_, ?_⟩
  · have owes : link.owed = 1 := if_pos ⟨requested, inSession⟩
    rw [owes] at answered
    rw [owed_away _ rfl, Nat.add_zero]
    rw [endings, requests] at answered ⊢
    rw [List.countP_append, List.count_append]
    simp only [List.countP_singleton, if_true]
    exact answered.trans (Nat.le_add_right _ _)
  · rw [Reconnect.lastFound, List.foldl_append]
    exact found

theorem scanServers_servers (link : Reconnect) (nowUs : Int) (found : List ServerCandidate) :
    (link.scanServers nowUs found).discoveredServers =
        (if found ≠ [] then found else link.discoveredServers) ∧
      (link.scanServers nowUs found).reconnectRequested = link.reconnectRequested := by
  rw [scanServers]
  by_cases nothing : found = []
  · rw [if_neg fun both => both.1 nothing, if_neg fun something => something nothing]
    exact ⟨rfl, rfl⟩
  · rw [if_pos nothing]
    split
    · exact ⟨rfl, rfl⟩
    · rename_i same
      refine ⟨?_, rfl⟩
      have equal : found = link.discoveredServers := by
        by_contra other
        exact same ⟨nothing, other⟩
      exact equal.symm

theorem Accounted.search {link after : Reconnect} {notices : List ReconnectNotice}
    (accounted : Accounted link notices) (found : List ServerCandidate)
    (owes : after.owed ≤ link.owed)
    (servers : after.discoveredServers = if found ≠ [] then found else link.discoveredServers) :
    Accounted after (notices ++ [.scanned found]) := by
  refine ⟨?_, ?_⟩
  · rw [endings, requests, List.countP_append, List.count_append]
    exact (Nat.add_le_add_left owes _).trans accounted.answered
  · rw [Reconnect.lastFound, List.foldl_append, servers, accounted.lastFound]
    rfl

theorem accounted_findServer {link : Reconnect} {notices : List ReconnectNotice}
    (accounted : Accounted link notices) (target : ServerTarget)
    (stage : link.stage = .wanting target) (nowUs : Int) (found : List ServerCandidate)
    (connects : Bool) :
    Accounted (link.findServer target nowUs found connects).1
      (notices ++ (link.findServer target nowUs found connects).2) := by
  have inSession : link.stage ≠ .away := by
    rw [stage]
    intro same
    cases same
  rw [findServer]
  cases link.scans target nowUs with
  | false =>
      apply accounted.quiet
      · apply owed_le_of_request _ _ inSession
        exact id
      · rfl
  | true =>
      obtain ⟨servers, requested⟩ := link.scanServers_servers nowUs found
      apply accounted.search found
      · apply owed_le_of_request _ _ inSession
        exact fun raised => requested.symm.trans raised
      · exact servers

theorem accounted_step (config : ServerConfig) {link : Reconnect}
    {notices : List ReconnectNotice} (accounted : Accounted link notices)
    (event : ReconnectEvent) :
    Accounted (link.step config event).1 (notices ++ (link.step config event).2) := by
  have unmoved : Accounted link (notices ++ []) := accounted.quiet (Nat.le_refl _) rfl
  cases event with
  | setServerManual target =>
      rw [step]
      split
      · exact unmoved
      · exact accounted.quiet (Nat.le_refl _) rfl
  | setServerSelection target =>
      rw [step]
      split
      · exact unmoved
      · exact accounted.quiet (Nat.le_refl _) rfl
  | storeRequest =>
      rw [step, storeRequest]
      split
      · exact accounted.request false
      · exact unmoved
  | requestDisconnect => exact accounted.request link.storePending
  | enableServerDiscovery => exact accounted.quiet (Nat.le_refl _) rfl
  | handOver =>
      rw [step, handOver]
      split
      · exact accounted.quiet (Nat.le_refl _) rfl
      · exact unmoved
  | clearRequest =>
      rw [step]
      split
      · refine accounted.quiet ?_ rfl
        rw [owed_unrequested _ rfl]
        exact Nat.zero_le _
      · exact unmoved
  | readOverride =>
      rw [step]
      split
      · rename_i cleared
        refine accounted.quiet ?_ rfl
        refine owed_le_of_request _ (fun raised => raised) ?_
        rw [cleared]
        intro same
        cases same
      · exact unmoved
  | findServer nowUs found connects =>
      rw [step]
      split
      · rename_i target stage
        exact accounted_findServer accounted target stage nowUs found connects
      · exact unmoved
  | poll =>
      rw [step]
      split
      · rename_i target server stage
        split
        · rename_i requested
          apply accounted.ending server requested
          rw [stage]
          intro same
          cases same
        · exact unmoved
      · exact unmoved
  | lost =>
      rw [step]
      split
      · refine accounted.quiet ?_ rfl
        rw [owed_away _ rfl]
        exact Nat.zero_le _
      · exact unmoved

theorem run_sound (config : ServerConfig) (events : List ReconnectEvent) :
    Sound config (run config events) ∧ Accounted (run config events) (notices config events) := by
  apply Conformance.run_history (step config)
    (fun link earlier => Sound config link ∧ Accounted link earlier) fun _ => True
  · intro link earlier event held _
    exact ⟨sound_step held.1 event, accounted_step config held.2 event⟩
  · exact fun _ _ => trivial
  · exact ⟨sound_boot config, Nat.le_refl 0, rfl⟩

theorem Sound.server {config : ServerConfig} {link : Reconnect} (sound : Sound config link)
    (target server : ServerTarget) (linked : link.stage = .linked target server) :
    link.server? config = some server ∨ link.Ending := by
  have known := sound.found target server linked
  rcases sound.chasing target (by rw [linked]; rfl) with same | ending
  · left
    rw [same, sound.handed] at known
    exact known
  · exact Or.inr ending

/-- However the main loop and the network task interleave: a session is with the server that is
wanted now, or is about to be ended; one that outlives a look at the flag, with no call of the main
loop under way, is with that server; no request ends more than one session; and the servers that are
listed are the last that a scan has found. -/
theorem server_followed (config : ServerConfig) (events : List ReconnectEvent) :
    let link := run config events
    let seen := notices config events
    (∀ target server, link.stage = .linked target server →
        link.server? config = some server ∨ link.Ending) ∧
      (∀ target server, link.storePending = false →
        (link.step config .poll).1.stage = .linked target server →
          link.server? config = some server) ∧
      endings seen ≤ requests seen ∧
      link.discoveredServers = lastFound seen ∧
      (link.discoveredDirty = false → link.listed = lastFound seen) := by
  intro link seen
  obtain ⟨sound, answered, found⟩ := run_sound config events
  refine ⟨sound.server, ?_, Nat.le_of_add_right_le answered, found, ?_⟩
  · intro target server free outlives
    rw [step] at outlives
    split at outlives
    · rename_i wanted_ server_ linked
      split at outlives
      · cases outlives
      · rename_i unrequested
        have same := linked.symm.trans outlives
        rw [SessionStage.linked.injEq] at same
        rcases sound.server wanted_ server_ linked with known | requested | pending
        · rw [← same.2]
          exact known
        · exact absurd requested unrequested
        · exact Bool.noConfusion (free.symm.trans pending)
    · rename_i unlinked
      exact absurd outlives (unlinked target server)
  · intro clean
    exact (sound.listed clean).trans found

/-- A selection is made while a session on the configured server runs. -/
example :
    let config : ServerConfig := ⟨"a".toList, 1704⟩
    let chosen : ServerTarget := ⟨"b".toList, 0⟩
    notices config [.clearRequest, .readOverride, .findServer 1 [] true,
        .setServerSelection chosen, .poll, .storeRequest, .poll, .clearRequest, .readOverride,
        .findServer 2 [] true, .poll] =
      [.requested, .ended ⟨"a".toList, 1704⟩] := by
  decide

end Reconnect

end Control
