import NetaAgent.Crypto
import NetaAgent.Observation
import NetaAgent.SqlTriple
import NetaAgent.SqlValue
import NetaAgent.Table

/-!
The history database: its tables, and the calls of `HistoryStore` that write them, as
programs of SQL statements.

Every statement commits on its own, foreign keys are enforced, and a row inserted without an
id gets one more than the largest id there is, so the highest id is used again after its row
is deleted. Each connection row carries a serial number that is no column: it counts the
insertions and so tells two rows apart that had the same id.
-/

namespace NetaAgent.HistoryStore

open Decimal Crypto Sql Observation Triple

inductive PerformanceState where
  | normal
  | degraded
  | failed
  | insufficientEvidence
  deriving DecidableEq

inductive TrustState where
  | stable
  | changed
  | suspicious
  | unverified
  deriving DecidableEq

/-- The values the column `lifecycle_state` is given. -/
inductive LifecycleState where
  | active
  | closed
  | preexisting
  | reconciledAfterLifecycleLoss
  | disappeared
  | reconciledAbsentAfterLifecycleLoss
  | preexistingDisappeared
  | observationEnded
  deriving DecidableEq

/-- A row of `processes`. -/
structure Process where
  id : ℕ
  pid : ℤ
  uid : ℤ
  startTicks : ℤ
  startTicksObserved : Option ℤ
  comm : Text
  executablePath : Text

/-- A row of `connections`. -/
structure Connection where
  id : ℕ
  /-- The number of connections inserted before; no column. -/
  serial : ℕ
  socketCookie : ℕ
  socketInode : ℕ
  processId : Option ℕ
  localIp : Text
  localPort : ℕ
  remoteIp : Text
  remotePort : ℕ
  targetHost : Text
  lifecycleState : LifecycleState
  firstSeenNs : ℕ
  lastSeenNs : ℕ
  capturedAtNs : Option ℕ
  performanceState : PerformanceState := .insufficientEvidence
  trustState : TrustState := .unverified
  direction : ConnectionDirection := .unknown
  networkNamespaceInode : Option ℕ := none

/-- A row of `lifecycle_events`. -/
structure LifecycleEvent where
  id : ℕ
  connectionId : ℕ
  eventType : ConnectionLifecycleEventType
  observedNs : ℕ
  provenance : LifecycleProvenance
  agentPid : Option ℤ
  agentTgid : Option ℤ
  kernelPid : Option ℤ
  kernelTgid : Option ℤ
  agentPidNamespaceDevice : Option ℕ
  agentPidNamespaceInode : Option ℕ
  uid : Option ℕ
  processStartTicks : Option ℕ
  comm : Option Text
  networkNamespaceInode : Option ℕ
  addressFamily : NetworkAddressFamily
  protocol : TransportProtocol
  localIp : Option Text
  localPort : Option ℕ
  remoteIp : Option Text
  remotePort : Option ℕ
  socketCookie : Option ℕ
  tcpState : Option ℕ
  deriving DecidableEq

/-- A row of `transport_samples`. -/
structure TransportSample where
  id : ℕ
  connectionId : ℕ
  snapshot : TcpSnapshot
  sha256 : Text

structure TlsObservation where
  targetHost : Text
  targetPort : ℕ := 443
  observedNs : ℕ := 0
  tlsVersion : Text := []
  cipher : Text := []
  alpn : Text := []
  leafSha256 : Text := []
  spkiSha256 : Text := []
  subject : Text := []
  issuer : Text := []
  notBefore : Text := []
  notAfter : Text := []
  chainValid : Bool := false
  hostnameValid : Bool := false
  sha256 : Text := []
  deriving DecidableEq

variable (t : TlsObservation) (db : Store) (sha : Sha256)

def TlsObservation.bound : TlsObservation :=
  { t with
    targetHost := bindText t.targetHost
    tlsVersion := bindText t.tlsVersion
    cipher := bindText t.cipher
    alpn := bindText t.alpn
    leafSha256 := bindText t.leafSha256
    spkiSha256 := bindText t.spkiSha256
    subject := bindText t.subject
    issuer := bindText t.issuer
    notBefore := bindText t.notBefore
    notAfter := bindText t.notAfter
    sha256 := bindText t.sha256 }

/-- A row of `tls_observations`. -/
structure TlsRow where
  id : ℕ
  observation : TlsObservation

/-- A row of `connection_tls_observations`; its relation and its fidelity are constants. -/
structure ConnectionTls where
  connectionId : ℕ
  tlsObservationId : ℕ
  deriving DecidableEq

/-- A row of `baselines`. -/
structure Baseline where
  id : ℕ
  targetHost : Text
  targetPort : ℕ
  rttMedianUs : ℕ
  rttvarMedianUs : ℕ
  acceptedSpkiSha256 : Text
  acceptedIssuer : Text
  sampleCount : ℕ
  createdNs : ℕ
  sha256 : Text
  deriving DecidableEq

/-- The states, the baseline and the TLS observation of a verdict. -/
structure Verdict where
  connectionId : ℕ
  performanceState : PerformanceState
  trustState : TrustState
  baselineHash : Text
  tlsObservationId : Option ℕ

/-- What pruning reads of a row of `process_instances_ms5`. -/
structure ProcessInstance where
  processKey : Text
  exitedAtNs : Option ℕ
  updatedAtNs : ℕ

inductive ReportState where
  | pending
  | reported
  | suppressed
  deriving DecidableEq

/-- What pruning reads of a row of `process_findings_ms5`. -/
structure ProcessFinding where
  findingId : Text
  processKey : Text
  lastSeenNs : ℕ
  reportState : ReportState

/-- The observation that connections to its target are linked to. -/
structure PendingTls where
  id : ℕ
  host : Text
  port : ℕ
  deriving DecidableEq

/-- The database, and the pending TLS observation, which the object keeps in memory. The
process tables may be missing. -/
structure Store where
  processes : Table Process.id
  connections : Table Connection.id
  lifecycleEvents : Table LifecycleEvent.id
  transportSamples : Table TransportSample.id
  tlsObservations : Table TlsRow.id
  connectionTls : Table ConnectionTls.connectionId
  baselines : Table Baseline.id
  verdicts : Table Verdict.connectionId
  processInstances : Option (Table ProcessInstance.processKey)
  processFindings : Option (Table ProcessFinding.findingId)
  pendingTls : Option PendingTls
  /-- How many connections were inserted; no column. -/
  inserted : ℕ

/-- The store that `initialize_schema` creates. -/
def Store.initial : Store where
  processes := .empty
  connections := .empty
  lifecycleEvents := .empty
  transportSamples := .empty
  tlsObservations := .empty
  connectionTls := .empty
  baselines := .empty
  verdicts := .empty
  processInstances := none
  processFindings := none
  pendingTls := none
  inserted := 0

/-- What a statement throws: SQLite's message, or that a foreign key constraint failed. -/
inductive StoreError where
  | foreignKey
  | failed (message : Text)
  deriving DecidableEq

abbrev StoreM := SqlM Store StoreError

def Store.hasConnection (id : ℕ) : Bool :=
  db.connections.rows.any fun r => r.id = id

def Store.hasTls (id : ℕ) : Bool :=
  db.tlsObservations.rows.any fun r => r.id = id

def Store.hasProcess (id : ℕ) : Bool :=
  db.processes.rows.any fun r => r.id = id

@[simp] lemma Store.hasConnection_iff {db : Store} {id : ℕ} :
    db.hasConnection id ↔ ∃ r ∈ db.connections, r.id = id := by
  simp [hasConnection, Table.mem_def]

@[simp] lemma Store.hasTls_iff {db : Store} {id : ℕ} :
    db.hasTls id ↔ ∃ r ∈ db.tlsObservations, r.id = id := by
  simp [hasTls, Table.mem_def]

@[simp] lemma Store.hasProcess_iff {db : Store} {id : ℕ} :
    db.hasProcess id ↔ ∃ r ∈ db.processes, r.id = id := by
  simp [hasProcess, Table.mem_def]

/-! ### Processes -/

/-- `COALESCE((SELECT MIN(start_ticks)-1 … WHERE pid=? AND start_ticks<0),-1)`. -/
def Store.unknownStart (pid : ℤ) : ℤ :=
  (db.processes.rows.filter fun r => r.pid = pid ∧ r.startTicks < 0).foldr
    (fun r m => min (r.startTicks - 1) m) (-1)

/-- The process of a known start; the row of the same one is updated. -/
def Store.putProcess (p : ProcessIdentity) (start : ℤ) : ℕ × Store :=
  match db.processes.rows.find? fun r => r.pid = p.pid ∧ r.startTicks = start with
  | some r =>
    (r.id, { db with
      processes := db.processes.update (fun x => x.id = r.id) (fun x => { x with
        uid := int32 p.uid
        startTicksObserved := some start
        comm := bindText p.comm
        executablePath := bindText p.executablePath }) fun _ => rfl })
  | none =>
    (db.processes.nextId, { db with
      processes := db.processes.add (fun id => ⟨id, p.pid, int32 p.uid, start, some start,
        bindText p.comm, bindText p.executablePath⟩) fun _ => rfl })

/-- A process whose start is not known is a row of its own. -/
def Store.addProcess (p : ProcessIdentity) : ℕ × Store :=
  (db.processes.nextId, { db with
    processes := db.processes.add (fun id => ⟨id, p.pid, int32 p.uid, db.unknownStart p.pid,
      none, bindText p.comm, bindText p.executablePath⟩) fun _ => rfl })

def upsertProcess (p : ProcessIdentity) : StoreM ℕ :=
  statement fun _ db => .ok <|
    match p.startTicks with
    | some (t + 1) => db.putProcess p (int64 (t + 1))
    | _ => db.addProcess p

/-- The row of the process of a connection, when it is known. -/
def processRow : Option ProcessIdentity → StoreM (Option ℕ)
  | some p => do return some (← upsertProcess p)
  | none => return none

/-! ### Connections -/

def Store.insertConnection (s : SocketObservation)
    (processId : Option ℕ) (targetHost : Text) (firstSeenNs captureNow : ℕ)
    (direction : ConnectionDirection) : Store :=
  { db with
    connections := db.connections.add (fun id => {
      id
      serial := db.inserted
      socketCookie := s.socketCookie
      socketInode := s.socketInode
      processId
      localIp := bindText s.localIp
      localPort := s.localPort
      remoteIp := bindText s.remoteIp
      remotePort := s.remotePort
      targetHost := bindText targetHost
      lifecycleState := .active
      firstSeenNs
      lastSeenNs := firstSeenNs
      capturedAtNs := some captureNow
      direction
      networkNamespaceInode := s.networkNamespaceInode }) fun _ => rfl
    inserted := db.inserted + 1 }

/-- `INSERT OR REPLACE INTO connection_tls_observations`. -/
def linkTlsObservation (connectionId tlsId : ℕ) : StoreM Unit :=
  statement fun _ db =>
    if db.hasConnection connectionId && db.hasTls tlsId then
      .ok ((), { db with connectionTls := db.connectionTls.replace ⟨connectionId, tlsId⟩ })
    else .error .foreignKey

/-- The insertion of the connection row, which returns `sqlite3_last_insert_rowid`. -/
def insertConnection (s : SocketObservation) (processId : Option ℕ) (targetHost : Text)
    (firstSeenNs captureNow : ℕ) (direction : ConnectionDirection) : StoreM ℕ :=
  statement fun _ db =>
    if processId.all db.hasProcess then
      .ok (db.connections.nextId,
        db.insertConnection s processId targetHost firstSeenNs captureNow direction)
    else .error .foreignKey

/-- The link to the pending TLS observation, when it is of this target. -/
def linkPendingTls (connectionId : ℕ) (targetHost : Text) (remotePort : ℕ) : StoreM Unit := do
  let db ← state
  match db.pendingTls with
  | some p =>
    if p.host = targetHost ∧ p.port = remotePort then linkTlsObservation connectionId p.id
    else return
  | none => return

def beginConnection (s : SocketObservation) (process : Option ProcessIdentity)
    (targetHost : Text) (firstSeenNs captureNow : ℕ) (direction : ConnectionDirection) :
    StoreM ℕ := do
  let processId ← processRow process
  let connectionId ←
    insertConnection s processId targetHost firstSeenNs captureNow direction
  linkPendingTls connectionId targetHost s.remotePort
  return connectionId

/-- `UPDATE connections SET … WHERE id=? AND …`. -/
def Store.updateConnections (p : Connection → Bool)
    (f : Connection → Connection) (hf : ∀ r, (f r).id = r.id) : Store :=
  { db with connections := db.connections.update p f hf }

def touchConnection (id lastSeenNs : ℕ) (lifecycleState : LifecycleState) : StoreM Unit :=
  modify fun db => db.updateConnections (fun r => r.id = id)
    (fun r => { r with lastSeenNs, lifecycleState }) fun _ => rfl

def updateSocketCookie (id socketCookie : ℕ) : StoreM Bool :=
  statement fun _ db =>
    .ok (db.connections.rows.any fun r => r.id = id ∧ r.socketCookie = 0,
      db.updateConnections (fun r => r.id = id ∧ r.socketCookie = 0)
        (fun r => { r with socketCookie }) fun _ => rfl)

def promoteConnectionDirection (id : ℕ) (direction : ConnectionDirection) : StoreM Bool :=
  if direction = .unknown then return false
  else statement fun _ db =>
    .ok (db.connections.rows.any fun r => r.id = id ∧ r.direction = .unknown,
      db.updateConnections (fun r => r.id = id ∧ r.direction = .unknown)
        (fun r => { r with direction }) fun _ => rfl)

/-! ### Samples and events -/

def tcpSampleHash (s : TcpSnapshot) : Text :=
  sha256Hex sha (List.intercalate ['|'] ([s.observedNs, s.state, s.rttUs, s.rttVarianceUs,
    s.totalRetrans, s.lost, s.unacked, s.sndCwnd, s.sndSsthresh, s.sndMss, s.rcvMss,
    s.sendQueueBytes, s.recvQueueBytes].map decimal))

def Store.insertSample (id : ℕ) (s : TcpSnapshot) : Store :=
  { db with
    transportSamples := db.transportSamples.add (fun n => ⟨n, id, s, tcpSampleHash sha s⟩)
      fun _ => rfl }

def addTcpSample (id : ℕ) (s : TcpSnapshot) : StoreM ℕ :=
  statement fun _ db =>
    if db.hasConnection id then .ok (db.transportSamples.nextId, db.insertSample sha id s)
    else .error .foreignKey

variable (event : ConnectionLifecycleEvent)

def lifecycleEventRow (connectionId id : ℕ) : LifecycleEvent where
  id
  connectionId
  eventType := event.type
  observedNs := event.timestampNs
  provenance := event.provenance
  agentPid := event.process.agentVisible.pid
  agentTgid := event.process.agentVisible.tgid
  kernelPid := event.process.kernel.pid
  kernelTgid := event.process.kernel.tgid
  agentPidNamespaceDevice := event.process.agentPidNamespace.map (·.device)
  agentPidNamespaceInode := event.process.agentPidNamespace.map (·.inode)
  uid := event.process.uid
  processStartTicks := event.process.startTicks
  comm := event.process.comm.map bindText
  networkNamespaceInode := event.networkNamespaceInode
  addressFamily := event.addressFamily
  protocol := event.protocol
  localIp := event.localEndpoint.map fun x => bindText x.address
  localPort := event.localEndpoint.bind (·.port)
  remoteIp := event.remoteEndpoint.map fun x => bindText x.address
  remotePort := event.remoteEndpoint.bind (·.port)
  socketCookie := event.socketCookie
  tcpState := event.tcpState

lemma lifecycleEventRow_id (connectionId id : ℕ) :
    (lifecycleEventRow event connectionId id).id = id := rfl

def Store.insertEvent (id : ℕ) (event : ConnectionLifecycleEvent) : Store :=
  { db with
    lifecycleEvents := db.lifecycleEvents.add (lifecycleEventRow event id)
      (lifecycleEventRow_id event id) }

/-- `INSERT OR IGNORE`: an event of the same type and time of the connection is kept. -/
def addLifecycleEvent (id : ℕ) (event : ConnectionLifecycleEvent) : StoreM Unit :=
  statement fun _ db =>
    if db.lifecycleEvents.rows.any fun e =>
        e.connectionId = id ∧ e.eventType = event.type ∧ e.observedNs = event.timestampNs then
      .ok ((), db)
    -- `OR IGNORE` does not cover a foreign key
    else if db.hasConnection id then .ok ((), db.insertEvent id event)
    else .error .foreignKey

/-! ### TLS observations and verdicts -/

def addTls : StoreM ℕ := do
  let tlsId ← statement fun _ (db : Store) =>
    .ok (db.tlsObservations.nextId, { db with
      tlsObservations := db.tlsObservations.add (fun id => ⟨id, t.bound⟩) fun _ => rfl })
  assign fun db => { db with pendingTls := some ⟨tlsId, t.targetHost, t.targetPort⟩ }
  return tlsId

lemma addTls_triple : Triple (fun _ => True) (· = db) (addTls t) (fun _ d => d = { db with
        tlsObservations := db.tlsObservations.add (fun id => ⟨id, t.bound⟩) fun _ => rfl
        pendingTls := some ⟨db.tlsObservations.nextId, t.targetHost, t.targetPort⟩ })
      fun _ d => d = db := by
  refine bind (Q := fun id d => id = db.tlsObservations.nextId ∧ d = { db with
      tlsObservations := db.tlsObservations.add (fun id => ⟨id, t.bound⟩) fun _ => rfl })
    (statement ?_ (fun _ _ _ _ h => nomatch h) fun _ _ _ h => h) fun id =>
    bind (assign ?_) fun _ => pure fun _ h => h
  · rintro _ _ _ _ rfl ⟨⟩
    exact ⟨rfl, rfl⟩
  · rintro _ ⟨rfl, rfl⟩
    rfl

def saveVerdict (v : Verdict) : StoreM Unit := do
  statement fun _ (db : Store) =>
    if db.hasConnection v.connectionId && v.tlsObservationId.all db.hasTls then
      .ok ((), { db with
        verdicts := db.verdicts.replace { v with baselineHash := bindText v.baselineHash } })
    else .error .foreignKey
  modify fun db => db.updateConnections (fun r => r.id = v.connectionId)
    (fun r => { r with performanceState := v.performanceState, trustState := v.trustState })
    fun _ => rfl

end NetaAgent.HistoryStore
