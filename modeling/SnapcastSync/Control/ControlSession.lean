import SnapcastSync.ClockSync.TsfSync

/-! The control session, from the documents that the server sends on its control port to the
roster of connected clients that it hands on. Sockets, log bookkeeping and the metadata are
not part of it; the filter under which the documents are parsed keeps every field read here. -/

namespace Control

open ClockSync

/-- A parsed document. Nothing reads a number. -/
inductive Json where
  | null
  | bool (value : Bool)
  | num
  | str (text : String)
  | arr (elements : List Json)
  | obj (members : List (String × Json))

namespace Json

def isNull : Json → Bool
  | .null => true
  | _ => false

/-- `variant[key]`, null unless the variant is an object with this key. -/
def field : Json → String → Json
  | .obj members, key => ((members.find? fun member => member.1 = key).map Prod.snd).getD .null
  | _, _ => .null

def elements : Json → List Json
  | .arr elements => elements
  | _ => []

/-- The conversion to `const char *`: a string up to its first NUL. -/
def cString? : Json → Option String
  | .str text => some (String.ofList (text.toList.takeWhile (· ≠ '\x00')))
  | _ => none

def orFalse : Json → Bool
  | .bool value => value
  | _ => false

end Json

/-- The C library's test that `strcasecmp` finds no difference. -/
def sameIgnoringCase (first second : String) : Bool :=
  decide (first.toList.map Char.toLower = second.toList.map Char.toLower)

def inaddrNone : Addr := 0xFFFFFFFF

def mappedPrefix : String := "::ffff:"

def unmapped (ip : String) : String :=
  if mappedPrefix.toList.isPrefixOf ip.toList then
    String.ofList (ip.toList.drop mappedPrefix.toList.length)
  else ip

def connectedAddr (inetAddr : String → Addr) (client : Json) : Option Addr :=
  if (client.field "connected").orFalse then
    match ((client.field "host").field "ip").cString? with
    | none => none
    | some ip => if inetAddr (unmapped ip) = inaddrNone then none else some (inetAddr (unmapped ip))
  else none

def isClient (clientId : String) (client : Json) : Bool :=
  match (client.field "id").cString? with
  | none => false
  | some cid => sameIgnoringCase cid clientId

def entries (server : Json) : List Json :=
  (server.field "groups").elements.flatMap fun group => (group.field "clients").elements

def rosterOf (inetAddr : String → Addr) (server : Json) : List Addr :=
  (entries server).filterMap (connectedAddr inetAddr)

structure Scan where
  peers : List Addr
  myStream : String
  myGroup : String
deriving DecidableEq, Repr

def scanClients (inetAddr : String → Addr) (clientId : String) (clients : List Json)
    (peers : List Addr) : List Addr × Bool :=
  clients.foldl
    (fun found client =>
      (match connectedAddr inetAddr client with
        | none => found.1
        | some addr => found.1 ++ [addr],
        found.2 || isClient clientId client))
    (peers, false)

def scanGroup (inetAddr : String → Addr) (clientId : String) (scan : Scan) (group : Json) :
    Scan :=
  let found := scanClients inetAddr clientId (group.field "clients").elements scan.peers
  if found.2 then
    { peers := found.1
      myStream := ((group.field "stream_id").cString?).getD ""
      myGroup := ((group.field "id").cString?).getD "" }
  else { scan with peers := found.1 }

def scanServer (inetAddr : String → Addr) (clientId : String) (server : Json) : Scan :=
  (server.field "groups").elements.foldl (scanGroup inetAddr clientId)
    { peers := []
      myStream := ""
      myGroup := "" }

structure ControlSession where
  clientId : String
  groupId : String
  streamId : String
  statusPending : Bool
  streamIdentity : String
  streamIdentityDirty : Bool
  peers : List Addr
  peersDirty : Bool
deriving DecidableEq, Repr

namespace ControlSession

def create (clientId : String) : ControlSession :=
  { clientId := clientId
    groupId := ""
    streamId := ""
    statusPending := false
    streamIdentity := ""
    streamIdentityDirty := false
    peers := []
    peersDirty := false }

def parseServer (inetAddr : String → Addr) (session : ControlSession) (server : Json) :
    ControlSession :=
  if server.isNull then session
  else
    let scan := scanServer inetAddr session.clientId server
    let streamChanged := decide (scan.myStream ≠ session.streamId)
    { session with
      groupId := scan.myGroup
      streamId := scan.myStream
      streamIdentity := if streamChanged then scan.myStream else session.streamIdentity
      streamIdentityDirty := session.streamIdentityDirty || streamChanged
      peers := scan.peers
      peersDirty := session.peersDirty || decide (scan.peers ≠ session.peers) }

/-- A stream notification that is not about the own stream asks for the status while that
stream is unknown. -/
def askWhileUnknown (session : ControlSession) (streamId : Option String) : ControlSession :=
  if streamId = some session.streamId then session
  else { session with statusPending := session.statusPending || decide (session.streamId = "") }

def movesStatus (method : String) : Bool :=
  "Stream.".toList.isPrefixOf method.toList || "Group.".toList.isPrefixOf method.toList ||
    decide (method = "Client.OnConnect") || decide (method = "Client.OnDisconnect")

def handleLine (inetAddr : String → Addr) (session : ControlSession) (doc : Json) :
    ControlSession :=
  match (doc.field "method").cString? with
  | some method =>
      if method = "Stream.OnProperties" then
        session.askWhileUnknown ((doc.field "params").field "id").cString?
      else if method = "Stream.OnUpdate" then
        session.askWhileUnknown (((doc.field "params").field "stream").field "id").cString?
      else if method = "Server.OnUpdate" then
        session.parseServer inetAddr ((doc.field "params").field "server")
      else { session with statusPending := session.statusPending || movesStatus method }
  | none => session.parseServer inetAddr ((doc.field "result").field "server")

/-- `take_peers`: the roster, when it has changed since it was taken last. -/
def takePeers (session : ControlSession) : ControlSession × Option (List Addr) :=
  if session.peersDirty then ({ session with peersDirty := false }, some session.peers)
  else (session, none)

end ControlSession

/-- The server object that a line hands to `parse_server_`, the full status. -/
def statusOf (doc : Json) : Option Json :=
  let server :=
    match (doc.field "method").cString? with
    | some method =>
        if method = "Server.OnUpdate" then (doc.field "params").field "server" else .null
    | none => (doc.field "result").field "server"
  if server.isNull then none else some server

def statuses (docs : List Json) : List Json :=
  docs.filterMap statusOf

private theorem scanClients_peers (inetAddr : String → Addr) (clientId : String)
    (clients : List Json) (peers : List Addr) :
    (scanClients inetAddr clientId clients peers).1 =
      peers ++ clients.filterMap (connectedAddr inetAddr) := by
  unfold scanClients
  generalize false = mine
  induction clients generalizing peers mine with
  | nil => exact (List.append_nil peers).symm
  | cons client rest ih =>
      rw [List.foldl_cons, ih]
      cases found : connectedAddr inetAddr client with
      | none => rw [List.filterMap_cons_none found]
      | some addr => rw [List.filterMap_cons_some found, List.append_assoc, List.singleton_append]

private theorem scanGroup_peers (inetAddr : String → Addr) (clientId : String) (scan : Scan)
    (group : Json) :
    (scanGroup inetAddr clientId scan group).peers =
      scan.peers ++ (group.field "clients").elements.filterMap (connectedAddr inetAddr) := by
  have found := scanClients_peers inetAddr clientId (group.field "clients").elements scan.peers
  unfold scanGroup
  dsimp only
  split
  · exact found
  · exact found

/-- The control session and the fallback fetch read the same roster off a status. -/
theorem scanServer_peers (inetAddr : String → Addr) (clientId : String) (server : Json) :
    (scanServer inetAddr clientId server).peers = rosterOf inetAddr server := by
  have grouped (groups : List Json) (scan : Scan) :
      (groups.foldl (scanGroup inetAddr clientId) scan).peers =
        scan.peers ++ (groups.flatMap fun group =>
          (group.field "clients").elements).filterMap (connectedAddr inetAddr) := by
    induction groups generalizing scan with
    | nil => exact (List.append_nil scan.peers).symm
    | cons group rest ih =>
        rw [List.foldl_cons, ih, scanGroup_peers, List.flatMap_cons, List.filterMap_append,
          List.append_assoc]
  unfold scanServer rosterOf entries
  rw [grouped, List.nil_append]

namespace ControlSession

/-- From one session to another the roster became that of a status, if there was one, and
waits to be taken if that changed it. -/
structure Learns (inetAddr : String → Addr) (status : Option Json)
    (before after : ControlSession) : Prop where
  peers : after.peers = (status.map (rosterOf inetAddr)).getD before.peers
  peersDirty :
    after.peersDirty = true ↔ before.peersDirty = true ∨ after.peers ≠ before.peers

theorem Learns.nothing (inetAddr : String → Addr) (before after : ControlSession)
    (peers : after.peers = before.peers) (peersDirty : after.peersDirty = before.peersDirty) :
    Learns inetAddr none before after :=
  ⟨peers, by simp [peers, peersDirty]⟩

theorem parseServer_learns (inetAddr : String → Addr) (session : ControlSession)
    (server : Json) :
    Learns inetAddr (if server.isNull then none else some server) session
      (session.parseServer inetAddr server) := by
  unfold parseServer
  by_cases absent : server.isNull = true
  · rw [if_pos absent, if_pos absent]
    exact Learns.nothing inetAddr session session rfl rfl
  · rw [if_neg absent, if_neg absent]
    refine ⟨scanServer_peers inetAddr session.clientId server, ?_⟩
    rw [Bool.or_eq_true, decide_eq_true_eq]

private theorem askWhileUnknown_learns (inetAddr : String → Addr) (session : ControlSession)
    (streamId : Option String) :
    Learns inetAddr none session (session.askWhileUnknown streamId) := by
  unfold askWhileUnknown
  split
  · exact Learns.nothing inetAddr session session rfl rfl
  · exact Learns.nothing inetAddr session _ rfl rfl

theorem handleLine_learns (inetAddr : String → Addr) (session : ControlSession) (doc : Json) :
    Learns inetAddr (statusOf doc) session (session.handleLine inetAddr doc) := by
  unfold handleLine statusOf
  cases (doc.field "method").cString? with
  | none => exact parseServer_learns inetAddr session _
  | some method =>
      dsimp only
      by_cases properties : method = "Stream.OnProperties"
      · subst properties
        exact askWhileUnknown_learns inetAddr session _
      · rw [if_neg properties]
        by_cases stream : method = "Stream.OnUpdate"
        · subst stream
          exact askWhileUnknown_learns inetAddr session _
        · rw [if_neg stream]
          by_cases update : method = "Server.OnUpdate"
          · rw [if_pos update, if_pos update]
            exact parseServer_learns inetAddr session _
          · rw [if_neg update, if_neg update]
            exact Learns.nothing inetAddr session _ rfl rfl

theorem handleLines_peers (inetAddr : String → Addr) (session : ControlSession)
    (docs : List Json) :
    (docs.foldl (handleLine inetAddr) session).peers =
      ((statuses docs).getLast?.map (rosterOf inetAddr)).getD session.peers := by
  induction docs generalizing session with
  | nil => rfl
  | cons doc rest ih =>
      rw [List.foldl_cons, ih, (handleLine_learns inetAddr session doc).peers]
      unfold statuses
      cases status : statusOf doc with
      | none => rw [List.filterMap_cons_none status]; rfl
      | some server =>
          rw [List.filterMap_cons_some status, List.getLast?_cons]
          cases (rest.filterMap statusOf).getLast? with
          | none => rfl
          | some last => rfl

theorem handleLines_peersDirty (inetAddr : String → Addr) (session : ControlSession)
    (docs : List Json) :
    (docs.foldl (handleLine inetAddr) session).peersDirty = true ↔
      session.peersDirty = true ∨
        ∃ server ∈ statuses docs, rosterOf inetAddr server ≠ session.peers := by
  induction docs generalizing session with
  | nil => simp [statuses]
  | cons doc rest ih =>
      have handled := handleLine_learns inetAddr session doc
      rw [List.foldl_cons, ih, handled.peersDirty, handled.peers]
      unfold statuses
      cases status : statusOf doc with
      | none =>
          rw [List.filterMap_cons_none status]
          simp
      | some server =>
          rw [List.filterMap_cons_some status, or_assoc, List.exists_mem_cons_iff]
          by_cases same : rosterOf inetAddr server = session.peers
          · simp [same]
          · simp [same]

theorem takePeers_settled (session : ControlSession) :
    session.takePeers.1.peersDirty = false ∧ session.takePeers.1.peers = session.peers := by
  unfold takePeers
  cases dirty : session.peersDirty with
  | false => exact ⟨dirty, rfl⟩
  | true => exact ⟨rfl, rfl⟩

end ControlSession

end Control
