import NetaAgent.HistoryStore

/-!
The connection tracker: which connection a lifecycle event or a socket snapshot belongs to,
and what is stored for it.

A tracked connection is found by its identity, a text: the socket cookie when there is a
valid one, and otherwise what the collector gives. When the identity is not tracked, the
connection is looked up by the address tuple, and its identity is replaced by the new one.
A call that throws keeps what it did up to the throw, in the store and in memory.
-/

namespace NetaAgent.ConnectionTracker

open Decimal Crypto Sql Observation HistoryStore

def validCookie (cookie : ℕ) : Bool := cookie ≠ 0 && cookie ≠ twoPow64 - 1

/-- The difference is at least the floor and at least a quarter of `a`, `quarters` times. The
source divides doubles; the quotients are exact enough to compare with 0.25 and 0.5. -/
def material (a b quarters floor : ℕ) : Bool :=
  let difference := if b < a then a - b else b - a
  floor ≤ difference && (a = 0 || quarters * a ≤ 4 * difference)

def meaningfulChange (previous current : TcpSnapshot) (lastPersistNs : ℕ) : Bool :=
  current.totalRetrans ≠ previous.totalRetrans || current.lost ≠ previous.lost ||
    current.state ≠ previous.state ||
    material previous.rttUs current.rttUs 1 2000 ||
    material previous.rttVarianceUs current.rttVarianceUs 2 2000 ||
    -- an unsigned difference
    1000000000 ≤ (current.observedNs + twoPow64 - lastPersistNs) % twoPow64

inductive ConnectionObservationOrigin where
  | lifecycleExact
  | lifecyclePlusSnapshot
  | snapshotPreexisting
  | snapshotReconciledAfterLifecycleLoss
  deriving DecidableEq

/-- The connection was first seen in a snapshot, and by no lifecycle event since. -/
def ConnectionObservationOrigin.snapshotOwned : ConnectionObservationOrigin → Bool
  | snapshotPreexisting => true
  | snapshotReconciledAfterLifecycleLoss => true
  | _ => false

structure ConnectionAdmission where
  connectionId : ℕ
  newlyAdmitted : Bool
  closed : Bool
  directionPromoted : Bool
  direction : ConnectionDirection
  deriving DecidableEq

structure TrackedConnection where
  connectionId : ℕ
  /-- The serial number of the row inserted for it; no field of the source. -/
  serial : ℕ
  lastSeen : TcpSnapshot
  lastPersisted : TcpSnapshot
  lastPersistNs : ℕ
  hasTransportSample : Bool
  presentInSnapshot : Bool
  consecutiveSnapshotMisses : ℕ
  processPid : Option ℤ
  processStartTicks : Option ℕ
  origin : ConnectionObservationOrigin
  deriving DecidableEq

structure Entry where
  identity : Text
  tracked : TrackedConnection

structure Correlation where
  identity : Text
  key : Text

/-- `connections_`, `correlation_index_`, a multimap from keys to identities, and
`correlation_by_identity_`. -/
structure Tracker where
  connections : Table Entry.identity
  correlationIndex : List (Text × Text)
  correlationByIdentity : Table Correlation.identity

def Tracker.initial : Tracker := ⟨.empty, [], .empty⟩

/-! ### Identities and keys -/

def tupleText (ns : Option ℕ) (localIp : Text) (localPort : ℕ) (remoteIp : Text)
    (remotePort : ℕ) : Text :=
  "n:" ++ decimal (ns.getD 0) ++ "|" ++ localIp ++ ":" ++
    decimal localPort ++ "->" ++ remoteIp ++ ":" ++ decimal remotePort

/-- `tuple_for` two endpoints. -/
def endpointTuple (a b : NetworkEndpoint) (ns : Option ℕ) : Text :=
  tupleText ns a.address (a.port.getD 0) b.address (b.port.getD 0)

variable (s : SocketObservation)

/-- `tuple_for` a socket. -/
def socketTuple : Text :=
  tupleText s.networkNamespaceInode s.localIp s.localPort s.remoteIp s.remotePort

def processFrom (event : ConnectionLifecycleEvent) : Option ProcessIdentity :=
  event.process.agentVisible.tgid.map fun tgid => {
    pid := tgid
    uid := event.process.uid.getD 0
    startTicks := event.process.startTicks.filter (· ≠ 0)
    comm := event.process.comm.getD [] }

def cookieIdentity (cookie : ℕ) : Text := 'c' :: ':' :: decimal cookie

def eventCookie (event : ConnectionLifecycleEvent) : Option ℕ :=
  event.socketCookie.filter validCookie

/-- `identity_for` an event without a valid cookie. -/
def fallbackIdentity (event : ConnectionLifecycleEvent) : Option Text :=
  let process := event.process.agentVisible.tgid.getD (-1)
  match event.platformConnectionId with
  | some id =>
    some ('p' :: ':' :: signedDecimal process ++ "|" ++
      decimal (event.process.startTicks.getD 0) ++ "|" ++ decimal id)
  | none =>
    match event.localEndpoint, event.remoteEndpoint with
    | some a, some b =>
      some ('f' :: ':' :: decimal (event.networkNamespaceInode.getD 0) ++ "|" ++
        signedDecimal process ++ "|" ++ endpointTuple a b event.networkNamespaceInode ++
        "|" ++ decimal event.timestampNs)
    | _, _ => none

/-- `identity_for` an event. -/
def eventIdentity (event : ConnectionLifecycleEvent) : Option Text :=
  match eventCookie event with
  | some cookie => some (cookieIdentity cookie)
  | none => fallbackIdentity event

/-- `identity_for` a socket. -/
def socketIdentity : Text :=
  if validCookie s.socketCookie then cookieIdentity s.socketCookie
  else 'i' :: ':' :: decimal s.socketInode ++ "|" ++ socketTuple s

def correlationKey (tuple : Text) (process : Option ProcessIdentity)
    (requireProcessStart : Bool) : Text :=
  match requireProcessStart, process with
  | true, some p =>
    tuple ++ "|pid:" ++ signedDecimal p.pid ++ "|start:" ++
      decimal (p.startTicks.getD 0)
  | _, _ => tuple

/-- The key of an event seen as going from `a` to `b`. -/
def eventKey (event : ConnectionLifecycleEvent) (a b : NetworkEndpoint) : Text :=
  correlationKey (endpointTuple a b event.networkNamespaceInode) (processFrom event)
    event.platformConnectionId.isSome

/-- The key of a snapshot: the tuple, with the process where the snapshot names an owner. -/
def socketKey (process : Option ProcessIdentity) : Text :=
  match s.owningPid with
  | none => socketTuple s
  | some _ => correlationKey (socketTuple s) process true

/-! ### The maps -/

namespace Tracker

variable (tr : Tracker)

def find (identity : Text) : Option TrackedConnection :=
  (tr.connections.find identity).map (·.tracked)

def indexCorrelation (key identity : Text) : Tracker :=
  { tr with
    correlationIndex := tr.correlationIndex ++ [(key, identity)]
    -- `emplace` keeps what is there
    correlationByIdentity :=
      (tr.correlationByIdentity.insert ⟨identity, key⟩).getD tr.correlationByIdentity }

def removeCorrelationIdentity (identity : Text) : Tracker :=
  match tr.correlationByIdentity.find identity with
  | none => tr
  | some c =>
    { tr with
      correlationIndex := tr.correlationIndex.filter (· ≠ (c.key, identity))
      correlationByIdentity := tr.correlationByIdentity.delete fun x => x.identity = identity }

def moveEntry (previous : Text) (t : TrackedConnection) (canonical : Text) : Tracker :=
  { tr with
    connections := (tr.connections.delete fun e => e.identity = previous).replace ⟨canonical, t⟩ }

def moveCorrelation (previous canonical : Text) : Tracker :=
  match tr.correlationByIdentity.find previous with
  | none => tr
  | some c =>
    { tr with
      correlationIndex := tr.correlationIndex.map fun p =>
        if p = (c.key, previous) then (c.key, canonical) else p
      correlationByIdentity :=
        let rest := tr.correlationByIdentity.delete fun x => x.identity = previous
        -- `insert` keeps what is there
        (rest.insert ⟨canonical, c.key⟩).getD rest }

def rekeyIdentity (previous canonical : Text) : Bool × Tracker :=
  if previous = canonical then (true, tr)
  else if (tr.find canonical).isSome then (false, tr)
  else
    match tr.find previous with
    | none => (false, tr)
    | some t => (true, (tr.moveEntry previous t canonical).moveCorrelation previous canonical)

/-- The loop of `unique_active_correlation_match`. -/
def uniqueMatch (tr : Tracker) : Option Text → List Text → Option Text
  | found, [] => found
  | found, identity :: rest =>
    if (tr.find identity).isNone then tr.uniqueMatch found rest
    else if found.any (· ≠ identity) then none
    else tr.uniqueMatch (some identity) rest

def uniqueActiveCorrelationMatch (key : Text) : Option Text :=
  tr.uniqueMatch none ((tr.correlationIndex.filter fun p => p.1 = key).map (·.2))

def put (identity : Text) (t : TrackedConnection) : Tracker :=
  { tr with
    connections := tr.connections.update (fun e => e.identity = identity)
      (fun e => { e with tracked := t }) fun _ => rfl }

/-- `remove_correlation_identity` and the erasure of the entry. -/
def drop (identity : Text) : Tracker :=
  let tr := tr.removeCorrelationIdentity identity
  { tr with connections := tr.connections.delete fun e => e.identity = identity }

/-- `emplace` and `index_correlation`. -/
def track (identity : Text) (t : TrackedConnection) (key : Text) : Tracker :=
  { tr with
    connections := (tr.connections.insert ⟨identity, t⟩).getD tr.connections }.indexCorrelation
      key identity

/-- The tracked connection an event belongs to: that of its identity, or the one active
connection of its tuple, and for a close also of the reversed tuple. -/
def eventMatch (event : ConnectionLifecycleEvent) (identity : Text) : Option Text :=
  if (tr.find identity).isSome then some identity
  else
    match event.localEndpoint, event.remoteEndpoint with
    | some a, some b =>
      match (tr.uniqueActiveCorrelationMatch (eventKey event a b)).filter fun k =>
          event.type = .close || (tr.find k).any (·.origin.snapshotOwned) with
      | some k => some k
      | none =>
        if event.type = .close then tr.uniqueActiveCorrelationMatch (eventKey event b a)
        else none
    | _, _ => none

/-- The tracked identities in an order that `order` determines: the maps are not ordered. -/
def iteration (order : List Text) : List Text :=
  (order.dedup.filter fun k => (tr.find k).isSome) ++
    (tr.connections.rows.map (·.identity)).filter fun k => k ∉ order

end Tracker

/-! ### The calls -/

abbrev TrackerM := SqlM (Store × Tracker) StoreError

def tracker : TrackerM Tracker := do return (← state).2

def setTracker (f : Tracker → Tracker) : TrackerM Unit := assign fun s => (s.1, f s.2)

def rekeyIdentity (previous canonical : Text) : TrackerM Bool := do
  let tr ← tracker
  setTracker fun _ => (tr.rekeyIdentity previous canonical).2
  return (tr.rekeyIdentity previous canonical).1

def promoteSocketCookieIdentity (previous canonical : Text) (socketCookie : ℕ) :
    TrackerM Bool := do
  match (← tracker).find previous with
  | none => return false
  | some t =>
    if ← onDb (updateSocketCookie t.connectionId socketCookie) then
      rekeyIdentity previous canonical
    else return false

/-- The entry `existing` under the identity of an event with the valid cookie `cookie`. -/
def promoteIdentity (existing identity : Text) : Option ℕ → TrackerM Bool
  | some c => promoteSocketCookieIdentity existing identity c
  | none => rekeyIdentity existing identity

/-- The entry an event is stored for: under the identity of the event where it can be
promoted, and as it is where it cannot. -/
def adoptIdentity (existing identity : Text) (cookie : Option ℕ) : TrackerM Text :=
  if existing = identity then return existing
  else do
    let promoted ← promoteIdentity existing identity cookie
    return if promoted then identity else existing

structure Config where
  sha : Sha256
  targetHost : Text

section
variable (cfg : Config)

/-- A close event of the connection `existing`. -/
def closeConnection (event : ConnectionLifecycleEvent) (identity existing : Text) :
    TrackerM (Option ConnectionAdmission) := do
  let key ← adoptIdentity existing identity (eventCookie event)
  match (← tracker).find key with
  | none => return none
  | some t =>
    onDb (touchConnection t.connectionId event.timestampNs .closed)
    onDb (addLifecycleEvent t.connectionId event)
    setTracker (·.drop key)
    return some ⟨t.connectionId, false, true, false, .unknown⟩

/-- A connect or accept event of the connection `existing`. -/
def continueConnection (event : ConnectionLifecycleEvent) (direction : ConnectionDirection)
    (process : ProcessIdentity) (identity existing : Text) :
    TrackerM (Option ConnectionAdmission) := do
  let key ← adoptIdentity existing identity (eventCookie event)
  match (← tracker).find key with
  | none => return none
  | some t =>
    onDb (addLifecycleEvent t.connectionId event)
    let directionPromoted ← onDb (promoteConnectionDirection t.connectionId direction)
    setTracker (·.put key { t with
      processPid := some process.pid
      processStartTicks := process.startTicks
      origin := if t.hasTransportSample then .lifecyclePlusSnapshot else .lifecycleExact })
    return some ⟨t.connectionId, false, false, directionPromoted, direction⟩

def eventTransport (event : ConnectionLifecycleEvent) : TcpSnapshot :=
  { observedNs := event.timestampNs, state := event.tcpState.getD 0 }

/-- What is stored of a connection that an event is the first to show. -/
def eventSocket (event : ConnectionLifecycleEvent) (process : ProcessIdentity)
    (a b : NetworkEndpoint) (remotePort : ℕ) : SocketObservation where
  socketCookie := event.socketCookie.getD 0
  networkNamespaceInode := event.networkNamespaceInode
  owningPid := if event.platformConnectionId.isSome then some process.pid else none
  uid := event.process.uid.getD 0
  localIp := a.address
  localPort := a.port.getD 0
  remoteIp := b.address
  remotePort := remotePort
  transport := eventTransport event

variable (t : TrackedConnection) (now : ℕ)

/-- The admission of a connection by an event; `now` is the time of the capture. -/
def admitEvent (event : ConnectionLifecycleEvent) (direction : ConnectionDirection)
    (process : ProcessIdentity) (identity : Text) (a b : NetworkEndpoint) (remotePort : ℕ) :
    TrackerM (Option ConnectionAdmission) := do
  let s ← state
  let id ← onDb (beginConnection (eventSocket event process a b remotePort) (some process)
    cfg.targetHost event.timestampNs now direction)
  onDb (addLifecycleEvent id event)
  setTracker (·.track identity ⟨id, s.1.inserted, eventTransport event, {}, 0, false, false, 0,
    some process.pid, process.startTicks, .lifecycleExact⟩ (eventKey event a b))
  return some ⟨id, true, false, false, direction⟩

def observeLifecycle (event : ConnectionLifecycleEvent)
    (direction : ConnectionDirection) : TrackerM (Option ConnectionAdmission) := do
  if event.protocol ≠ .tcp then return none
  match eventIdentity event with
  | none => return none
  | some identity =>
    let tr ← tracker
    if event.type = .close then
      match tr.eventMatch event identity with
      | none => return none
      | some k => closeConnection event identity k
    else if !eligibleConnectionSeed event.endpointKind then return none
    else
      match event.localEndpoint, event.remoteEndpoint, processFrom event with
      | some a, some b, some process =>
        match b.port with
        | none => return none
        | some remotePort =>
          match tr.eventMatch event identity with
          | some k => continueConnection event direction process identity k
          | none => admitEvent cfg now event direction process identity a b remotePort
      | _, _, _ => return none

/-- The sample is the first, or it differs enough from the last one stored. -/
def needsSample (sample : TcpSnapshot) : Bool :=
  !t.hasTransportSample || meaningfulChange t.lastPersisted sample t.lastPersistNs

/-- The entry after `persist_sample`. -/
def TrackedConnection.sampled (sample : TcpSnapshot) : TrackedConnection :=
  let t := if needsSample t sample then { t with
      hasTransportSample := true
      lastPersisted := sample
      lastPersistNs := sample.observedNs } else t
  { t with lastSeen := sample, presentInSnapshot := true }

def storeSample (sample : TcpSnapshot) : TrackerM Unit :=
  if needsSample t sample then do
    let _ ← onDb (addTcpSample cfg.sha t.connectionId sample)
    return
  else return

def persistSample (identity : Text) (t : TrackedConnection) (sample : TcpSnapshot) :
    TrackerM Unit := do
  storeSample cfg t sample
  setTracker (·.put identity (t.sampled sample))
  onDb (touchConnection t.connectionId sample.observedNs .active)

def TrackedConnection.observed (sample : TcpSnapshot) : TrackedConnection :=
  { t.sampled sample with
    origin := if t.origin = .lifecycleExact then .lifecyclePlusSnapshot else t.origin }

/-- A snapshot of the connection `identity`. -/
def sampleConnection (socket : SocketObservation) (direction : ConnectionDirection)
    (identity : Text) : TrackerM (Option ConnectionAdmission) := do
  match (← tracker).find identity with
  | none => return none
  | some t =>
    persistSample cfg identity t socket.transport
    setTracker (·.put identity (t.observed socket.transport))
    return some ⟨t.connectionId, false, false, false, direction⟩

/-- The state a connection first seen in a snapshot starts in. -/
def touchOrigin (id observedNs : ℕ) : ConnectionObservationOrigin → StoreM Unit
  | .snapshotPreexisting => touchConnection id observedNs .preexisting
  | .snapshotReconciledAfterLifecycleLoss =>
    touchConnection id observedNs .reconciledAfterLifecycleLoss
  | _ => return

def admitSocket (socket : SocketObservation) (process : ProcessIdentity)
    (direction : ConnectionDirection) (origin : ConnectionObservationOrigin)
    (identity key : Text) : TrackerM (Option ConnectionAdmission) := do
  let s ← state
  let id ← onDb (beginConnection socket (some process) cfg.targetHost
    socket.transport.observedNs now direction)
  let _ ← onDb (addTcpSample cfg.sha id socket.transport)
  onDb (touchOrigin id socket.transport.observedNs origin)
  setTracker (·.track identity ⟨id, s.1.inserted, socket.transport, socket.transport,
    socket.transport.observedNs, true, true, 0, some process.pid, process.startTicks, origin⟩ key)
  return some ⟨id, true, false, false, direction⟩

/-- The two paths of the source, for snapshots with and without an owner, differ in the key
and in what the process is resolved from; `process` is what the resolver answers. -/
def observeSocket (process : Option ProcessIdentity) (socket : SocketObservation)
    (direction : ConnectionDirection) (allowNewConnection : Bool)
    (origin : ConnectionObservationOrigin) : TrackerM (Option ConnectionAdmission) := do
  let tr ← tracker
  match tr.find (socketIdentity socket),
      tr.uniqueActiveCorrelationMatch (socketKey socket process) with
  | some _, correlated =>
    if correlated.any (· ≠ socketIdentity socket) then return none
    else sampleConnection cfg socket direction (socketIdentity socket)
  | none, some k =>
    if validCookie socket.socketCookie && k ≠ socketIdentity socket then
      if ← promoteSocketCookieIdentity k (socketIdentity socket) socket.socketCookie then
        sampleConnection cfg socket direction (socketIdentity socket)
      else return none
    else sampleConnection cfg socket direction k
  | none, none =>
    if !allowNewConnection || !eligibleConnectionSeed socket.endpointKind then return none
    else
      match process with
      | none => return none
      | some p =>
        admitSocket cfg now socket p direction origin (socketIdentity socket)
          (socketKey socket process)

end

/-! ### Snapshots -/

/-- The entries, none of them shown by a snapshot yet. -/
def unmarked (tr : Tracker) : Tracker :=
  { tr with
    connections := tr.connections.update (fun _ => true)
      (fun e => { e with tracked := { e.tracked with presentInSnapshot := false } })
      fun _ => rfl }

def beginSnapshot : TrackerM Unit := setTracker unmarked

def reconciliationMissLimit : ℕ := 3

def absentState (pollingControlsLifecycle lifecycleEvidenceIncomplete : Bool) :
    LifecycleState :=
  if pollingControlsLifecycle then .disappeared
  else if lifecycleEvidenceIncomplete then .reconciledAbsentAfterLifecycleLoss
  else .preexistingDisappeared

/-- The connection, with its misses counted, is taken for gone. -/
def reconcileAbsent (pollingControlsLifecycle lifecycleEvidenceIncomplete : Bool)
    (t : TrackedConnection) : Bool :=
  pollingControlsLifecycle ||
    ((t.origin.snapshotOwned || lifecycleEvidenceIncomplete) &&
      reconciliationMissLimit ≤ t.consecutiveSnapshotMisses)

/-- The loop of `end_snapshot`. -/
def endSnapshotLoop (polling incomplete : Bool) : List Text → TrackerM (List ℕ)
  | [] => return []
  | identity :: rest => do
    match (← tracker).find identity with
    | none => endSnapshotLoop polling incomplete rest
    | some t =>
      if t.presentInSnapshot then
        setTracker (·.put identity { t with consecutiveSnapshotMisses := 0 })
        endSnapshotLoop polling incomplete rest
      else
        let t := { t with consecutiveSnapshotMisses := t.consecutiveSnapshotMisses + 1 }
        setTracker (·.put identity t)
        if reconcileAbsent polling incomplete t then
          onDb (touchConnection t.connectionId t.lastSeen.observedNs
            (absentState polling incomplete))
          setTracker (·.drop identity)
          let inactive ← endSnapshotLoop polling incomplete rest
          return t.connectionId :: inactive
        else endSnapshotLoop polling incomplete rest

def endSnapshot (order : List Text) (pollingControlsLifecycle lifecycleEvidenceIncomplete : Bool) :
    TrackerM (List ℕ) := do
  let tr ← tracker
  endSnapshotLoop pollingControlsLifecycle lifecycleEvidenceIncomplete (tr.iteration order)

/-- The loop of `finish_observation`. -/
def finishLoop (polling : Bool) : List Text → TrackerM Unit
  | [] => return
  | identity :: rest => do
    match (← tracker).find identity with
    | none => finishLoop polling rest
    | some t =>
      onDb (touchConnection t.connectionId t.lastSeen.observedNs
        (if polling && !t.presentInSnapshot then .disappeared else .observationEnded))
      finishLoop polling rest

def finishObservation (order : List Text) (pollingControlsLifecycle : Bool) :
    TrackerM Unit := do
  let tr ← tracker
  finishLoop pollingControlsLifecycle (tr.iteration order)

end NetaAgent.ConnectionTracker
