import NetaAgent.AdmissionPolicy
import NetaAgent.EvidenceScheduler
import NetaAgent.HistoryMaintenance
import NetaAgent.NameResolution
import NetaAgent.Process
import NetaAgent.TrackerRuns

/-!
The observation session: one run of its loop over the collectors, the tracker and the store.

The state is the store, the tracker and the variables that the lambdas of `ObservationSession::run`
share, with a log of what the run tells and attaches. Every call of a collector, a callback, the
tracker or the store is one action; how it goes (what the collector returns, what the clock reads,
in which order a hash map is walked, which statement fails) is an `Answer` of the environment. The
run is a process of such actions.
-/

namespace NetaAgent.ObservationSession

open Decimal Sql Observation HistoryStore HistoryMaintenance ConnectionTracker NameResolution
open TlsSession AdmissionPolicy EvidenceScheduler NetaAgent.Process

def snapshotReconciliationGraceNs : ℕ := 250000000
def snapshotCandidateStaleNs : ℕ := 5000000000
def maxSnapshotReconciliationCandidates : ℕ := 4096
def maxNameResolutionObservations : ℕ := 4096
def maxTlsSessionObservations : ℕ := 4096
def completionEvidenceGrace : ℕ := 350

/-! ### Keys of snapshot candidates -/

def tupleKey (localIp : Text) (localPort : ℕ) (remoteIp : Text) (remotePort : ℕ) : Text :=
  localIp ++ ':' :: decimal localPort ++ "->" ++ remoteIp ++ ':' :: decimal remotePort

def processKey (pid : ℤ) (startTicks : ℕ) : Text :=
  "|pid:" ++ signedDecimal pid ++ "|start:" ++ decimal startTicks

def snapshotTupleKey (socket : SocketObservation) (process : Option ProcessIdentity) : Text :=
  tupleKey socket.localIp socket.localPort socket.remoteIp socket.remotePort ++
    match process, socket.owningPid with
    | some p, _ => processKey p.pid (p.startTicks.getD 0)
    | none, some pid => processKey pid 0
    | none, none => []

def lifecycleTupleKey (event : ConnectionLifecycleEvent) (reverse : Bool) : Text :=
  match event.localEndpoint, event.remoteEndpoint with
  | some a, some b =>
    let l := if reverse then b else a
    let r := if reverse then a else b
    tupleKey l.address (l.port.getD 0) r.address (r.port.getD 0) ++
      match event.process.agentVisible.tgid with
      | some tgid => processKey tgid (event.process.startTicks.getD 0)
      | none => []
  | _, _ => []

/-! ### What the session is given -/

structure LifecycleCapability where
  connectEvents : Bool := false
  acceptEvents : Bool := false
  closeEvents : Bool := false

structure NameResolutionCapability where
  applicationResolverApi : Bool := false
  glibcGetaddrinfo : Bool := false
  systemResolverEvents : Bool := false

structure TlsSessionCapability where
  applicationInstrumentation : Bool := false
  senderCredentialsVerified : Bool := false

def LifecycleCapability.available (c : LifecycleCapability) : Bool :=
  c.connectEvents && c.acceptEvents && c.closeEvents

def LifecycleCapability.outboundAvailable (c : LifecycleCapability) : Bool :=
  c.connectEvents && c.closeEvents

def NameResolutionCapability.available (c : NameResolutionCapability) : Bool :=
  (c.applicationResolverApi && c.glibcGetaddrinfo) || c.systemResolverEvents

def TlsSessionCapability.available (c : TlsSessionCapability) : Bool :=
  c.applicationInstrumentation && c.senderCredentialsVerified

/-- `StorageMaintenance`: the budget, and the interval in nanoseconds. -/
structure Maintenance where
  maxBytes : ℕ
  interval : ℕ

structure Callbacks where
  started : Bool := false
  periodic : Bool := false
  transportObserved : Bool := false
  connectionCompleted : Bool := false

structure Setup where
  policy : AdmissionPolicyConfig := {}
  tracker : ConnectionTracker.Config
  lifecycle : LifecycleCapability := {}
  nameResolution : Option NameResolutionCapability := none
  tlsSession : Option TlsSessionCapability := none
  maintenance : Option Maintenance := none
  callbacks : Callbacks := {}
  /-- The duration in nanoseconds. -/
  duration : Option ℕ := none
  /-- The interval in milliseconds. -/
  transportPollInterval : ℕ := 1000

namespace Setup
variable (cfg : Setup)

def lifecycleActive : Bool :=
  match cfg.policy.mode with
  | .target => cfg.lifecycle.outboundAvailable
  | .outbound => cfg.lifecycle.outboundAvailable
  | .inbound => cfg.lifecycle.acceptEvents && cfg.lifecycle.closeEvents
  | .all => cfg.lifecycle.available

def nameResolutionActive : Bool := cfg.nameResolution.any NameResolutionCapability.available

def tlsSessionActive : Bool := cfg.tlsSession.any TlsSessionCapability.available

end Setup

/-! ### The variables of a run -/

structure ObservationRunResult where
  connectionIds : List ℕ := []
  admittedConnections : ℕ := 0
  nameResolutionEventsObserved : ℕ := 0
  nameResolutionEvidenceAttached : ℕ := 0
  ambiguousNameResolutionMatches : ℕ := 0
  tlsSessionEventsObserved : ℕ := 0
  tlsSessionEvidenceAttached : ℕ := 0
  ambiguousTlsSessionMatches : ℕ := 0
  deriving DecidableEq

structure RouteRequest where
  connectionId : ℕ
  remoteAddress : Text
  direction : ConnectionDirection

/-- A completed connection and when its callback is due. -/
structure Completion where
  connectionId : ℕ
  due : ℕ

/-- A socket that snapshots show and no lifecycle event explains yet. Only sockets that the policy
admits become candidates. -/
structure PendingSnapshotCandidate (policy : AdmissionPolicyConfig) where
  key : Text
  socket : SocketObservation
  process : Option ProcessIdentity
  firstSeenNs : ℕ
  lastSeenNs : ℕ
  startup : Bool
  admitted : (evaluateReconciliationSocket policy socket (process.map (·.comm))).admits = true

/-- Evidence of a name resolution that was attached, beside the connection as it was read, and all
that the collector had reported by then: the observations that were received, and those of them that
were dropped because there were too many. -/
structure NameAttachment where
  connectionId : ℕ
  connection : ConnectionSummary
  evidence : NameResolutionEvidence
  received : List NameResolutionObservation
  overflowed : List NameResolutionObservation
  deriving DecidableEq

inductive Entry where
  /-- The tracker reports the connection closed or inactive. -/
  | reported (id : ℕ)
  /-- `connection_completed` is called. -/
  | completed (id : ℕ)
  | tlsAttached (id : ℕ) (evidence : TlsSessionEvidence)
  | nameAttached (a : NameAttachment)
  deriving DecidableEq

structure Locals (policy : AdmissionPolicyConfig) where
  scheduler : EvidenceScheduler
  result : ObservationRunResult
  /-- `connection_ids`, in ascending order. -/
  connectionIds : List ℕ
  pendingCompleted : Table Completion.connectionId
  dispatchedCompleted : List ℕ
  routeRequests : Table RouteRequest.connectionId
  candidates : Table (@PendingSnapshotCandidate.key policy)
  nameObservations : List NameResolutionObservation
  nameAttached : List ℕ
  nameAmbiguous : List ℕ
  tlsObservations : List TlsSessionObservation
  attachedTlsKeys : List Text
  /-- `next_run_` of the maintenance. -/
  nextRun : ℕ
  /-- The observations that were received; no variable of the source. -/
  received : List NameResolutionObservation
  /-- Those that were dropped for their age, and for their number. -/
  expired : List NameResolutionObservation
  overflowed : List NameResolutionObservation
  log : List Entry

variable (cfg : Setup)

def Locals.initial : Locals cfg.policy where
  scheduler := { transportInterval := cfg.transportPollInterval }
  result := {}
  connectionIds := []
  pendingCompleted := .empty
  dispatchedCompleted := []
  routeRequests := .empty
  candidates := .empty
  nameObservations := []
  nameAttached := []
  nameAmbiguous := []
  tlsObservations := []
  attachedTlsKeys := []
  nextRun := 0
  received := []
  expired := []
  overflowed := []
  log := []

abbrev State := World × Locals cfg.policy

def fresh : State cfg := ((.initial, .initial), .initial cfg)

structure Answer where
  /-- Which statements of the store fail. -/
  oracle : Oracle Text := ⟨fun _ => none, fun _ _ => 0⟩
  /-- What the collector or the callback throws. -/
  failure : Option Text := none
  /-- The steady clock. -/
  clock : ℕ := 0
  /-- The steady clock when the completion of a connection is queued. -/
  queuedAt : ℕ → ℕ := fun _ => 0
  /-- The time the tracker takes for a new row. -/
  now : ℕ := 0
  stop : Bool := false
  lifecycleEvents : List ConnectionLifecycleEvent := []
  evidenceIncomplete : Bool := false
  names : List NameResolutionObservation := []
  /-- The order in which the sort leaves observations of one time. -/
  sorted : List NameResolutionObservation := []
  tlsSessions : List TlsSessionObservation := []
  sockets : List SocketObservation := []
  process : Option ProcessIdentity := none
  /-- The orders of the hash maps. -/
  order : List Text := []
  ids : List ℕ := []
  maintenance : List HistoryMaintenance.Answer := []
  /-- The verdict a callback stores. -/
  verdict : Option Verdict := none

/-- The elements of a hash map in the order in which it is walked. -/
def arranged {α : Type} [DecidableEq α] (order l : List α) : List α :=
  if order.Perm l then order else l

lemma arranged_perm {α : Type} [DecidableEq α] (order l : List α) : (arranged order l).Perm l := by
  unfold arranged
  split
  · assumption
  · rfl

/-! ### Actions -/

inductive Callback where
  | started
  | periodic
  | transportObserved (id : ℕ) (snapshot : TcpSnapshot)

inductive Action (policy : AdmissionPolicyConfig) where
  | view
  | clock
  | stopRequested
  | callback (c : Callback)
  | lifecycleHealth
  | pollLifecycle (timeout : ℤ)
  | snapshot
  | resolve (socket : SocketObservation)
  | drainNameResolution
  | attachNameResolution (id : ℕ) (direction : ConnectionDirection)
  | retryNameResolution (id : ℕ)
  | connection (id : ℕ)
  | drainTlsSessions
  | correlateTlsSession (connections : List ConnectionSummary) (watermarkNs : ℕ)
      (observation : TlsSessionObservation)
  | keepTlsSessions (unresolved : List TlsSessionObservation)
  | clearCompleted
  | dueCompleted (force : Bool) (now : ℕ)
  | complete (id : ℕ)
  | recordAdmission (id : ℕ) (remoteAddress : Text) (direction : ConnectionDirection)
  | recordPromotion (id : ℕ) (remoteAddress : Text) (direction : ConnectionDirection)
  | beginSnapshot
  | observeSocket (socket : SocketObservation) (direction : ConnectionDirection)
      (allowNew : Bool) (origin : ConnectionObservationOrigin)
  | offerCandidate (key : Text) (socket : SocketObservation) (process : Option ProcessIdentity)
      (startup : Bool)
      (admitted : (evaluateReconciliationSocket policy socket (process.map (·.comm))).admits = true)
  | unseenCandidates (seen : List Text)
  | eraseCandidate (key : Text)
  | trimCandidates
  | endSnapshot (polling incomplete : Bool)
  | observeLifecycle (event : ConnectionLifecycleEvent) (direction : ConnectionDirection)
  | finishObservation (polling : Bool)
  | transportSampled (now : ℕ)
  | takeRoutes
  | observeRoute (id : ℕ)
  | maintain (now : ℕ)

@[reducible] def Action.Reply {policy : AdmissionPolicyConfig} : Action policy → Type
  | .view => Locals policy
  | .clock => ℕ
  | .stopRequested => Bool
  | .lifecycleHealth => Bool
  | .pollLifecycle _ => List ConnectionLifecycleEvent
  | .snapshot => List SocketObservation
  | .resolve _ => Option ProcessIdentity
  | .connection _ => Option ConnectionSummary
  | .correlateTlsSession _ _ _ => Bool
  | .dueCompleted _ _ => List ℕ
  | .observeSocket _ _ _ _ => Option ConnectionAdmission
  | .offerCandidate _ _ _ _ _ => PendingSnapshotCandidate policy
  | .unseenCandidates _ => List (PendingSnapshotCandidate policy)
  | .observeLifecycle _ _ => Option ConnectionAdmission
  | .takeRoutes => List ℕ
  | _ => Unit

section
variable {policy : AdmissionPolicyConfig}

abbrev SessionM (policy : AdmissionPolicyConfig) := SqlM (World × Locals policy) StoreError

def locals : SessionM policy (Locals policy) := do return (← state).2

def setLocals (f : Locals policy → Locals policy) : SessionM policy Unit :=
  assign fun s => (s.1, f s.2)

variable (s : Locals policy) (l : List NameResolutionObservation) (d : Answer)

/-- What a collector or a callback throws goes through the session. -/
def external : SessionM policy Unit :=
  match d.failure with
  | some message => throwing (.failed message)
  | none => pure ()

def storeVerdict : SessionM policy Unit :=
  match d.verdict with
  | some v => onDb (onDb (saveVerdict v))
  | none => pure ()

def notify : SessionM policy Unit := do
  storeVerdict d
  external d

def logging (entry : Locals policy → Entry) : SessionM policy Unit :=
  modify fun s => (s.1, { s.2 with log := s.2.log ++ [entry s.2] })

/-- `store_.connection`. -/
def storedConnection (id : ℕ) : SessionM policy (Option ConnectionSummary) :=
  lookup fun _ s => s.1.1.connection id

/-! ### Name resolution -/

/-- The newest time of the observations, and the time from which on they are kept. -/
def newestNs : ℕ := (l.map (·.completedNs)).foldr max 0

def thresholdNs : ℕ := newestNs l - defaultMaxAgeNs

/-- An observation that has a time; others are not kept. -/
def timed (o : NameResolutionObservation) : Bool := o.completedNs ≠ 0

variable (sorted names : List NameResolutionObservation)

/-- The observations that are kept and the new ones, sorted. -/
def Locals.mergedNames : List NameResolutionObservation :=
  (arranged sorted (s.nameObservations ++ names.filter timed)).insertionSort
    fun a b => a.completedNs ≤ b.completedNs

/-- What is below the threshold: the list is sorted, so this is what `lower_bound` cuts off. -/
def expiredNames : List NameResolutionObservation :=
  l.filter fun o => o.completedNs < thresholdNs l

def currentNames : List NameResolutionObservation :=
  l.filter fun o => thresholdNs l ≤ o.completedNs

def excess : ℕ := l.length - maxNameResolutionObservations

/-- `drain_name_resolution` with what the observer returned. -/
def Locals.drainNames : Locals policy :=
  let merged := s.mergedNames sorted names
  let current := currentNames merged
  { s with
    result := { s.result with
      nameResolutionEventsObserved := s.result.nameResolutionEventsObserved + names.length }
    nameObservations := current.drop (excess current)
    received := s.received ++ names
    expired := s.expired ++ expiredNames merged
    overflowed := s.overflowed ++ current.take (excess current) }

def Locals.noteAmbiguousName (id : ℕ) : Locals policy :=
  if s.nameAmbiguous.contains id then s
  else
    { s with
      nameAmbiguous := id :: s.nameAmbiguous
      result := { s.result with
        ambiguousNameResolutionMatches := s.result.ambiguousNameResolutionMatches + 1 } }

def Locals.noteAttachedName (id : ℕ) : Locals policy :=
  { s with
    nameAttached := s.nameAttached.insert id
    nameAmbiguous := s.nameAmbiguous.erase id
    result := { s.result with
      nameResolutionEvidenceAttached := s.result.nameResolutionEvidenceAttached + 1 } }

/-- `add_name_resolution_evidence`: the row of the evidence, then the rows of its addresses. -/
def addNameResolutionEvidence (id : ℕ) (c : ConnectionSummary) (e : NameResolutionEvidence) :
    SessionM policy Unit := do
  logging fun s => .nameAttached ⟨id, c, e, s.received, s.overflowed⟩
  query fun _ => ()

/-! ### TLS sessions -/

/-- A session key that is new moves the callback of its connection forward, or asks for another
one. -/
def Locals.prompt (id now : ℕ) : Locals policy :=
  if (s.pendingCompleted.find id).isSome then
    { s with pendingCompleted := s.pendingCompleted.replace ⟨id, now⟩ }
  else if s.dispatchedCompleted.contains id then
    { s with
      dispatchedCompleted := s.dispatchedCompleted.filter (· ≠ id)
      pendingCompleted := s.pendingCompleted.replace ⟨id, now⟩ }
  else s

/-- `add_tls_session_evidence`. -/
def addTlsSessionEvidence (id : ℕ) (e : TlsSessionEvidence) : SessionM policy Unit :=
  logging fun _ => .tlsAttached id e

def Locals.noteAmbiguousTls : Locals policy :=
  { s with result := { s.result with
      ambiguousTlsSessionMatches := s.result.ambiguousTlsSessionMatches + 1 } }

def Locals.noteAttachedTls : Locals policy :=
  { s with result := { s.result with
      tlsSessionEvidenceAttached := s.result.tlsSessionEvidenceAttached + 1 } }

/-! ### Completed connections -/

/-- A call of the tracker returns with these connections closed or inactive. -/
def Locals.report (ids : List ℕ) : Locals policy :=
  { s with log := s.log ++ ids.map .reported }

/-- `queue_completed`, after the connection was dropped from the schedule and the routes. -/
def Locals.closed (queuedAt : ℕ → ℕ) (id : ℕ) : Locals policy :=
  { s with
    scheduler := connectionClosed s.scheduler id
    routeRequests := s.routeRequests.delete fun r => r.connectionId = id
    pendingCompleted := s.pendingCompleted.replace
      ⟨id, queuedAt id + completionEvidenceGrace * millisecond⟩ }

/-- The callback of a pending connection is called, unless it was called before. -/
def Locals.calls (id : ℕ) : Bool :=
  (s.pendingCompleted.find id).isSome && !s.dispatchedCompleted.contains id

def Locals.dispatch (id : ℕ) : Locals policy :=
  let left := s.pendingCompleted.delete fun c => c.connectionId = id
  if s.calls id then
    { s with
      pendingCompleted := left
      dispatchedCompleted := id :: s.dispatchedCompleted
      log := s.log ++ [.completed id] }
  else { s with pendingCompleted := left }

/-- `completion_wait_time`, in milliseconds; without a completion the largest value. -/
def completionWaitTime (pending : List Completion) (now : ℕ) : ℕ :=
  if pending.any fun c => c.due ≤ now then 0
  else pending.foldl (fun wait c => min wait ((c.due - now) / millisecond)) (2 ^ 63 - 1)

/-! ### Admissions and candidates -/

def Locals.recordAdmission (id : ℕ) (remoteAddress : Text)
    (direction : ConnectionDirection) : Locals policy :=
  { s with
    scheduler := connectionAdmitted s.scheduler id
    result := { s.result with admittedConnections := s.result.admittedConnections + 1 }
    connectionIds :=
      if s.connectionIds.contains id then s.connectionIds
      else s.connectionIds.orderedInsert (· ≤ ·) id
    -- `emplace` keeps a request that is there
    routeRequests :=
      (s.routeRequests.insert ⟨id, remoteAddress, direction⟩).getD s.routeRequests }

lemma RouteRequest.update_key (remoteAddress : Text) (direction : ConnectionDirection)
    (r : RouteRequest) : RouteRequest.connectionId { r with remoteAddress, direction } =
      r.connectionId := rfl

def Locals.recordPromotion (id : ℕ) (remoteAddress : Text)
    (direction : ConnectionDirection) : Locals policy :=
  { s with
    routeRequests := s.routeRequests.update (fun r => r.connectionId = id)
      (fun r => { r with remoteAddress, direction })
      (RouteRequest.update_key remoteAddress direction) }

/-- The candidate under a key after a snapshot showed its socket. -/
def Locals.candidate (key : Text) (socket : SocketObservation)
    (process : Option ProcessIdentity) (startup : Bool)
    (admitted : (evaluateReconciliationSocket policy socket (process.map (·.comm))).admits = true) :
    PendingSnapshotCandidate policy :=
  match s.candidates.find key with
  | none =>
    ⟨key, socket, process, socket.transport.observedNs, socket.transport.observedNs, startup,
      admitted⟩
  | some c =>
    ⟨key, socket, process, c.firstSeenNs, socket.transport.observedNs, c.startup || startup,
      admitted⟩

def Locals.trimCandidates (order : List Text) : Locals policy :=
  let keys := arranged order (s.candidates.rows.map (·.key))
  let dropped := keys.take (keys.length - maxSnapshotReconciliationCandidates)
  { s with
    candidates := s.candidates.delete fun c => dropped.contains c.key ||
      (c.firstSeenNs ≤ c.lastSeenNs && snapshotCandidateStaleNs < c.lastSeenNs - c.firstSeenNs) }

/-! ### Maintenance -/

/-- `prune_to_budget`, one answer for every statement. -/
def pruneToBudget (maxBytes : ℕ) (answers : List HistoryMaintenance.Answer) (db : Store) :
    Store × Pruning :=
  answers.foldl (fun c a => c.2.step c.1 a) (db, .running maxBytes 0 .measure)

/-- `run_if_due`. -/
def runIfDue (m : Maintenance) (answers : List HistoryMaintenance.Answer) (now : ℕ) :
    SessionM policy Unit := do
  if now < (← locals).nextRun then return
  let s ← state
  assign fun s => (((pruneToBudget m.maxBytes answers s.1.1).1, s.1.2), s.2)
  match (pruneToBudget m.maxBytes answers s.1.1).2 with
  | .returned => setLocals fun s => { s with nextRun := now + m.interval }
  | .threw e => throwing e
  -- the answers end inside the call: the process is stopped there
  | .running _ _ _ => throwing (.failed [])

end

section
variable (cfg : Setup)

def attachNameResolution (id : ℕ) (direction : ConnectionDirection) :
    SessionM cfg.policy Unit := do
  let s ← locals
  if !cfg.nameResolutionActive || direction ≠ .outbound || s.nameAttached.contains id then return
  match ← storedConnection id with
  | none => return
  | some c =>
    let correlation := correlateNameResolution c s.nameObservations defaultMaxAgeNs
    match correlation.status, correlation.evidence with
    | .ambiguous, _ => setLocals (·.noteAmbiguousName id)
    | .matched, some e =>
      addNameResolutionEvidence id c e
      setLocals (·.noteAttachedName id)
    | _, _ => return

/-- The body of `retry_name_resolution`. -/
def retryNameResolution (id : ℕ) : SessionM cfg.policy Unit := do
  if (← locals).nameAttached.contains id then return
  match ← storedConnection id with
  | none => return
  | some c => attachNameResolution cfg id c.direction

/-- The body of the loop of `correlate_tls_sessions`: `true` if the observation stays unresolved. -/
def correlateTlsObservation (d : Answer) (connections : List ConnectionSummary) (watermarkNs : ℕ)
    (o : TlsSessionObservation) : SessionM cfg.policy Bool := do
  if o.observedNs < watermarkNs && TlsSession.defaultPolicy < watermarkNs - o.observedNs then
    return false
  let correlation := correlateTlsSession o connections TlsSession.defaultPolicy
  match correlation.status, correlation.connectionId, correlation.evidence with
  | .ambiguous, _, _ =>
    setLocals (·.noteAmbiguousTls)
    return false
  | .matched, some id, some e =>
    let key := tlsSessionIdentityKey cfg.tracker.sha e.observation
    if (← locals).attachedTlsKeys.contains key then return false
    setLocals fun s => { s with attachedTlsKeys := key :: s.attachedTlsKeys }
    addTlsSessionEvidence id e
    setLocals (·.noteAttachedTls)
    setLocals (·.prompt id d.clock)
    return false
  | _, _, _ => return true

def Action.program (d : Answer) : (a : Action cfg.policy) → SessionM cfg.policy a.Reply
  | .view => locals
  | .clock => return d.clock
  | .stopRequested => do
    external d
    return d.stop
  | .callback _ => notify d
  | .lifecycleHealth => do
    external d
    return d.evidenceIncomplete
  | .pollLifecycle _ => do
    external d
    return d.lifecycleEvents
  | .snapshot => do
    external d
    return d.sockets
  | .resolve _ => do
    external d
    return d.process
  | .drainNameResolution => do
    external d
    setLocals (·.drainNames d.sorted d.names)
  | .attachNameResolution id direction => ObservationSession.attachNameResolution cfg id direction
  | .retryNameResolution id => ObservationSession.retryNameResolution cfg id
  | .connection id => storedConnection id
  | .drainTlsSessions => do
    external d
    setLocals fun s =>
      let all := s.tlsObservations ++ d.tlsSessions.filter fun o => o.observedNs ≠ 0
      { s with
        result := { s.result with
          tlsSessionEventsObserved := s.result.tlsSessionEventsObserved + d.tlsSessions.length }
        tlsObservations := all.drop (all.length - maxTlsSessionObservations) }
  | .correlateTlsSession connections watermarkNs o =>
    correlateTlsObservation cfg d connections watermarkNs o
  | .keepTlsSessions unresolved => setLocals fun s => { s with tlsObservations := unresolved }
  | .clearCompleted => setLocals fun s => { s with pendingCompleted := .empty }
  | .dueCompleted force now => do
    let pending := (← locals).pendingCompleted.rows
    return arranged d.ids ((pending.filter fun c => force || c.due ≤ now).map (·.connectionId))
  | .complete id => do
    let called := (← locals).calls id
    setLocals (·.dispatch id)
    if called then notify d
  | .recordAdmission id remoteAddress direction =>
    setLocals (·.recordAdmission id remoteAddress direction)
  | .recordPromotion id remoteAddress direction =>
    setLocals (·.recordPromotion id remoteAddress direction)
  | .beginSnapshot => onDb ConnectionTracker.beginSnapshot
  | .observeSocket socket direction allowNew origin =>
    onDb (ConnectionTracker.observeSocket cfg.tracker d.now d.process socket direction allowNew
      origin)
  | .offerCandidate key socket process startup admitted => do
    let c := (← locals).candidate key socket process startup admitted
    setLocals fun s => { s with candidates := s.candidates.replace c }
    return c
  | .unseenCandidates seen => do
    let s ← locals
    let keys := arranged d.order (s.candidates.rows.map (·.key))
    return (keys.filter fun key => !seen.contains key).filterMap s.candidates.find
  | .eraseCandidate key =>
    setLocals fun s => { s with candidates := s.candidates.delete fun c => c.key = key }
  | .trimCandidates => setLocals (·.trimCandidates d.order)
  | .endSnapshot polling incomplete => do
    let inactive ← onDb (ConnectionTracker.endSnapshot d.order polling incomplete)
    setLocals (·.report inactive)
    setLocals fun s => inactive.foldl (Locals.closed · d.queuedAt) s
  | .observeLifecycle event direction => do
    let admission ← onDb (ConnectionTracker.observeLifecycle cfg.tracker d.now event direction)
    setLocals (·.report ((admission.toList.filter (·.closed)).map (·.connectionId)))
    -- a close promotes no direction, so nothing comes between the call and this
    match admission with
    | some a =>
      if a.closed then setLocals (·.closed d.queuedAt a.connectionId)
    | none => pure ()
    return admission
  | .finishObservation polling => onDb (ConnectionTracker.finishObservation d.order polling)
  | .transportSampled now =>
    setLocals fun s => { s with scheduler := EvidenceScheduler.transportSampled s.scheduler now }
  | .takeRoutes => do
    let due := (takeRouteObservationsDue (← locals).scheduler).1
    setLocals fun s => { s with scheduler := (takeRouteObservationsDue s.scheduler).2 }
    return arranged d.ids due
  | .observeRoute id => do
    -- the route and the environment are rows that nothing here reads
    if ((← locals).routeRequests.find id).isSome then
      external d
      query fun _ => ()
      setLocals fun s => { s with
        routeRequests := s.routeRequests.delete fun r => r.connectionId = id }
  | .maintain now =>
    match cfg.maintenance with
    | some m => runIfDue m d.maintenance now
    | none => pure ()

/-! ### The run -/

abbrev SessionP := Proc (State cfg) Answer (Action cfg.policy) StoreError

variable (a : Action cfg.policy) (c : PendingSnapshotCandidate cfg.policy) (event : ConnectionLifecycleEvent)

def perform (d : Answer) (s : State cfg) : State cfg :=
  (Sql.exec (a.program cfg d) (d.oracle.map .failed) s).2

def op : SessionP cfg a.Reply :=
  Proc.act a fun d s => Sql.exec (a.program cfg d) (d.oracle.map .failed) s

def drainNames : SessionP cfg Unit :=
  (op cfg .drainNameResolution).onlyIf cfg.nameResolutionActive

def retryNames : SessionP cfg Unit := do
  let s ← op cfg .view
  (s.connectionIds.forM fun id => op cfg (.retryNameResolution id)).onlyIf
    (cfg.nameResolutionActive && !s.nameObservations.isEmpty)

/-- The latest time of the connections and the observations. -/
def correlationWatermarkNs (connections : List ConnectionSummary)
    (observations : List TlsSessionObservation) : ℕ :=
  observations.foldl (fun w o => max w o.observedNs)
    (connections.foldl (fun w c => max w c.lastSeenNs) 0)

def correlateTlsSessions : SessionP cfg Unit := do
  let s ← op cfg .view
  if !cfg.tlsSessionActive || s.tlsObservations.isEmpty || s.connectionIds.isEmpty then return
  let connections ← s.connectionIds.foldlM (fun l id => do
    return l ++ (← op cfg (.connection id)).toList) []
  if connections.isEmpty then return
  let watermarkNs := correlationWatermarkNs connections s.tlsObservations
  let unresolved ← s.tlsObservations.foldlM (fun l o => do
    if ← op cfg (.correlateTlsSession connections watermarkNs o) then return l ++ [o]
    else return l) []
  op cfg (.keepTlsSessions unresolved)

def drainTlsSessions : SessionP cfg Unit := do
  (op cfg .drainTlsSessions).onlyIf cfg.tlsSessionActive
  (correlateTlsSessions cfg).onlyIf cfg.tlsSessionActive

def dispatchCompleted (force : Bool) : SessionP cfg Unit := do
  if !cfg.callbacks.connectionCompleted then
    op cfg .clearCompleted
  else
    let now ← op cfg .clock
    let due ← op cfg (.dueCompleted force now)
    due.forM fun id => op cfg (.complete id)

def recordAdmission (admission : ConnectionAdmission) (remoteAddress : Text)
    (direction : ConnectionDirection) : SessionP cfg Unit := do
  if !admission.newlyAdmitted then return
  op cfg (.recordAdmission admission.connectionId remoteAddress direction)
  op cfg (.attachNameResolution admission.connectionId direction)
  correlateTlsSessions cfg

def recordDirectionPromotion (admission : ConnectionAdmission) (remoteAddress : Text) :
    SessionP cfg Unit := do
  if !admission.directionPromoted then return
  op cfg (.recordPromotion admission.connectionId remoteAddress admission.direction)
  op cfg (.attachNameResolution admission.connectionId admission.direction)

def eraseCandidateForLifecycle : SessionP cfg Unit := do
  (op cfg (.eraseCandidate (lifecycleTupleKey event false))).onlyIf
    !(lifecycleTupleKey event false).isEmpty
  (op cfg (.eraseCandidate (lifecycleTupleKey event true))).onlyIf
    (event.type = .close && !(lifecycleTupleKey event true).isEmpty)

def transportObserved (admission : ConnectionAdmission) (snapshot : TcpSnapshot) :
    SessionP cfg Unit :=
  (op cfg (.callback (.transportObserved admission.connectionId snapshot))).onlyIf
    cfg.callbacks.transportObserved

/-- The transport callback and the admission, if the tracker returned one. -/
def admitted (admission : Option ConnectionAdmission) (socket : SocketObservation)
    (direction : ConnectionDirection) : SessionP cfg Unit :=
  match admission with
  | none => return
  | some a => do
    transportObserved cfg a socket.transport
    recordAdmission cfg a socket.remoteIp direction

/-- A candidate is given to the tracker as a connection of unknown direction. -/
def reconcile (degraded : Bool) : SessionP cfg Unit := do
  let origin := if degraded then .snapshotReconciledAfterLifecycleLoss else .snapshotPreexisting
  let admission ← op cfg (.observeSocket c.socket .unknown true origin)
  admitted cfg admission c.socket .unknown

def graceElapsed : Bool :=
  c.firstSeenNs ≤ c.lastSeenNs && snapshotReconciliationGraceNs ≤ c.lastSeenNs - c.firstSeenNs

/-- A socket of a snapshot beside lifecycle events; the keys of the candidates seen so far. -/
def sampleBesideEvents (startup degraded : Bool) (seen : List Text) (socket : SocketObservation)
    (process : Option ProcessIdentity) : SessionP cfg (List Text) := do
  match ← op cfg (.observeSocket socket .unknown false .snapshotPreexisting) with
  | some enrichment =>
    transportObserved cfg enrichment socket.transport
    op cfg (.eraseCandidate (snapshotTupleKey socket process))
    return seen
  | none =>
    if h : (evaluateReconciliationSocket cfg.policy socket (process.map (·.comm))).admits = true then
      let key := snapshotTupleKey socket process
      let c ← op cfg (.offerCandidate key socket process startup h)
      (reconcile cfg c degraded).onlyIf (degraded || graceElapsed cfg c)
      (op cfg (.eraseCandidate key)).onlyIf (degraded || graceElapsed cfg c)
      return key :: seen
    else return seen

def ownerOf (socket : SocketObservation) : SessionP cfg (Option ProcessIdentity) :=
  if socket.owningPid.isSome || hasProcessFilters cfg.policy then op cfg (.resolve socket)
  else return none

def sampleSocket (startup degraded : Bool) (seen : List Text) (socket : SocketObservation) :
    SessionP cfg (List Text) := do
  let process ← ownerOf cfg socket
  if cfg.lifecycleActive then
    sampleBesideEvents cfg startup degraded seen socket process
  else
    let decision := evaluateNewSocket cfg.policy socket (process.map (·.comm))
    let admission ← op cfg (.observeSocket socket decision.direction decision.admits
      .snapshotPreexisting)
    admitted cfg admission socket decision.direction
    return seen

def sweepCandidates (degraded : Bool) (seen : List Text) : SessionP cfg Unit := do
  let unseen ← op cfg (.unseenCandidates seen)
  unseen.forM fun c => do
    (reconcile cfg c true).onlyIf degraded
    op cfg (.eraseCandidate c.key)
  op cfg .trimCandidates

def lifecycleDegraded : SessionP cfg Bool :=
  if cfg.lifecycleActive then op cfg .lifecycleHealth else return false

def sampleTransport (startup : Bool) : SessionP cfg Unit := do
  drainNames cfg
  retryNames cfg
  op cfg .beginSnapshot
  let degraded ← lifecycleDegraded cfg
  let sockets ← op cfg .snapshot
  let seen ← sockets.foldlM (fun seen socket => sampleSocket cfg startup degraded seen socket) []
  (sweepCandidates cfg degraded seen).onlyIf cfg.lifecycleActive
  op cfg (.endSnapshot (!cfg.lifecycleActive) degraded)
  drainTlsSessions cfg
  dispatchCompleted cfg false

def observeScheduledRoutes : SessionP cfg Unit := do
  let due ← op cfg .takeRoutes
  due.forM fun id => op cfg (.observeRoute id)

def sample (startup : Bool) : SessionP cfg Unit := do
  sampleTransport cfg startup
  let now ← op cfg .clock
  op cfg (.transportSampled now)
  observeScheduledRoutes cfg

def observeEvent : SessionP cfg Unit := do
  eraseCandidateForLifecycle cfg event
  let decision := evaluate cfg.policy event
  if !decision.admits then return
  match ← op cfg (.observeLifecycle event decision.direction), event.remoteEndpoint with
  | some admission, some remote =>
    recordDirectionPromotion cfg admission remote.address
    recordAdmission cfg admission remote.address decision.direction
    (sample cfg false).onlyIf admission.newlyAdmitted
  | _, _ => return

/-- The timeout of a poll, in milliseconds; it may be negative once the deadline is passed. -/
def pollTimeout (s : Locals cfg.policy) (deadline : Option ℕ) (now : ℕ) : ℤ :=
  let scheduled : ℤ := waitTime s.scheduler now
  let timeout := match deadline with
    | some deadline => min scheduled (((deadline : ℤ) - now).tdiv millisecond)
    | none => scheduled
  min timeout (completionWaitTime s.pendingCompleted.rows now)

variable (deadline : Option ℕ)

def observeEvents : SessionP cfg Unit := do
  let now ← op cfg .clock
  let s ← op cfg .view
  let events ← op cfg (.pollLifecycle (pollTimeout cfg s deadline now))
  drainNames cfg
  retryNames cfg
  events.forM fun event => observeEvent cfg event
  drainTlsSessions cfg
  dispatchCompleted cfg false

def iteration : SessionP cfg Unit := do
  (observeEvents cfg deadline).onlyIf cfg.lifecycleActive
  let now ← op cfg .clock
  let s ← op cfg .view
  let reconciliationPollRequired := cfg.lifecycleActive && !s.candidates.rows.isEmpty
  (sample cfg false).onlyIf
    (transportDue s.scheduler now (!cfg.lifecycleActive || reconciliationPollRequired))
  (op cfg (.maintain now)).onlyIf cfg.maintenance.isSome
  (op cfg (.callback .periodic)).onlyIf cfg.callbacks.periodic

def goesOn : SessionP cfg Bool := do
  match deadline with
  | none => return !(← op cfg .stopRequested)
  | some deadline =>
    if (← op cfg .clock) < deadline then return !(← op cfg .stopRequested) else return false

/-- The loop; a run of more iterations than the bound does not return. -/
def loop (deadline : Option ℕ) : ℕ → SessionP cfg Unit
  | 0 => .fail (.failed [])
  | n + 1 => do
    if ← goesOn cfg deadline then
      iteration cfg deadline
      loop deadline n

def deadlineOf : SessionP cfg (Option ℕ) :=
  match cfg.duration with
  | none => return none
  | some duration => do return some ((← op cfg .clock) + duration)

def start : SessionP cfg (Option ℕ) := do
  let deadline ← deadlineOf cfg
  (op cfg (.callback .started)).onlyIf cfg.callbacks.started
  drainNames cfg
  retryNames cfg
  drainTlsSessions cfg
  (sample cfg true).onlyIf cfg.lifecycleActive
  return deadline

def shutdown : SessionP cfg ObservationRunResult := do
  drainNames cfg
  retryNames cfg
  drainTlsSessions cfg
  dispatchCompleted cfg true
  correlateTlsSessions cfg
  dispatchCompleted cfg true
  op cfg (.finishObservation (!cfg.lifecycleActive))
  let s ← op cfg .view
  return { s.result with connectionIds := s.connectionIds }

/-- `ObservationSession::run`, with at most `n` iterations. -/
def run (n : ℕ) : SessionP cfg ObservationRunResult := do
  let deadline ← start cfg
  loop cfg deadline n
  shutdown cfg

end

end NetaAgent.ObservationSession
