import NetaAgent.CoordinatorAck
import NetaAgent.NapEnvelope
import NetaAgent.OutboundQueue

/-!
`OutboundDispatcher::drain` as a machine whose steps are the calls of the queue's methods,
the preparation of an attempt and the network post, so that the drains of several processes
can be interleaved at these points.

Everything a step takes from outside is in its `Env`: the clock, the failures and orderings
of the database, the identity, random bytes and sequence number that `prepare_attempt`
obtains, and what the network answers. A drain ends by returning its counts or by the
exception it lets through.
-/

namespace NetaAgent.OutboundDispatcher

open Decimal Crypto Sql Search OutboundQueue NapEnvelope Acknowledgement

def nanosecondsPerSecond : ℕ := 1000000000
/-- `kAttemptLifetimeNs`. -/
def attemptLifetimeNs : ℕ := 300 * nanosecondsPerSecond
/-- `kAttemptRefreshMarginNs`. -/
def attemptRefreshMarginNs : ℕ := 5 * nanosecondsPerSecond
def acknowledgedRetentionNs : ℕ := 24 * 60 * 60 * nanosecondsPerSecond

def plus (a b : ℕ) : ℕ := (a + b) % twoPow64

variable (m : OutboundMessage)

def retryDelayNs : ℕ :=
  let exponent := min m.attemptCount 6
  let seconds := min 300 (5 * 2 ^ exponent)
  (seconds + m.eventCounter % 5) * nanosecondsPerSecond

variable (status : ℕ) (body : Text)

def contains (s : String) : Bool := (find s.toList body).isSome

/-- `is_permanent_rejection`, of a status code and a response body. -/
def isPermanentRejection : Bool :=
  if status = 413 || status = 422 then true
  else if status = 409 then contains body "different content"
  else if status ≠ 400 then false
  else !contains body "expired" && !contains body "clock" &&
    !contains body "created_at is too far"

/-- The fields of `FleetIdentity` that an envelope carries. -/
structure FleetIdentity where
  agentId : Text
  certificateSha256 : Text

inductive Delivery where
  | response (body : Text)
  | httpError (status : ℕ) (body : Text)
  | failed (what : Text)

/-- `FleetHttpError::what`. -/
def httpErrorWhat : Text :=
  "coordinator rejected NAP message with HTTP " ++ decimal status ++ ": " ++ body

structure Env where
  now : ℕ
  oracle : Oracle Text
  identity : Except Text FleetIdentity
  random : Option (Fin 16 → UInt8)
  sequence : Except Text ℕ
  delivery : Delivery

/-! ### Preparing an attempt -/

/-- The stored attempt has more than the margin left and is sent again as it is. -/
def reusable (now : ℕ) : Bool :=
  m.attemptEnvelopeJson ≠ [] && plus now attemptRefreshMarginNs < m.attemptExpiresAtNs

def envelopeFor (identity : FleetIdentity) (random : Fin 16 → UInt8)
    (sequence now : ℕ) : Envelope where
  messageId := randomUuid random
  messageType := m.messageType
  agentId := identity.agentId
  createdAtNs := now
  expiresAtNs := plus now attemptLifetimeNs
  sequence := sequence
  idempotencyKey := m.eventId
  payloadHash := m.payloadHash
  payload := m.payloadJson
  keyId := identity.certificateSha256

def withEnvelope (e : Envelope) : OutboundMessage :=
  { m with
    attemptMessageId := e.messageId
    attemptSequence := e.sequence
    attemptExpiresAtNs := e.expiresAtNs
    attemptEnvelopeJson := e.render }

/-- The part of `prepare_attempt` that makes a new attempt, up to storing it. -/
def newAttempt (env : Env) (m : OutboundMessage) (now : ℕ) : Except Text Envelope := do
  let identity ← env.identity
  let random ← match env.random with
    | some bytes => .ok bytes
    | none => .error "random NAP message ID generation failed"
  let sequence ← env.sequence
  return envelopeFor m identity random sequence now

/-! ### The drain -/

structure DispatchResult where
  attempted : ℕ := 0
  acknowledged : ℕ := 0
  failed : ℕ := 0

structure Job where
  maximum : ℕ
  result : DispatchResult
  ready : OutboundMessage
  now : ℕ

inductive Phase where
  | stopped (outcome : Option (Except Text DispatchResult))
  | begin (maximum : ℕ)
  | marker (maximum now : ℕ)
  | next (maximum : ℕ) (result : DispatchResult)
  | prepare (job : Job)
  | store (job : Job) (message : OutboundMessage)
  | post (job : Job) (message : OutboundMessage)
  | acknowledge (job : Job) (message : OutboundMessage) (ack : CoordinatorAck)
  | retry (job : Job) (error : Text)
  | deadLetter (job : Job) (error : Text)

def Job.fail (job : Job) : DispatchResult := { job.result with failed := job.result.failed + 1 }

def afterPost (job : Job) (message : OutboundMessage) : Delivery → Phase
  | .failed what => .retry job what
  | .httpError status body =>
    if isPermanentRejection status body then .deadLetter job (httpErrorWhat status body)
    else .retry job (httpErrorWhat status body)
  | .response body =>
    match parseCoordinatorAck body with
    | .error e => .retry job e
    | .ok ack =>
      match validateCoordinatorAck ack ⟨message.attemptMessageId, message.attemptSequence,
          message.eventId, message.payloadHash⟩ with
      | .error e => .retry job e
      | .ok () => .acknowledge job message ack

variable (sha : Sha256) (cfg : Config)

/-- One step of a drain: the database after it and where the drain stands then. -/
def Phase.step (env : Env) (db : Database) : Phase → Database × Phase
  | .stopped outcome => (db, .stopped outcome)
  | .begin maximum =>
    let cutoff := if acknowledgedRetentionNs < env.now then env.now - acknowledgedRetentionNs else 0
    match Sql.exec (pruneAcknowledged cutoff) env.oracle db with
    | (.ok (), db) => (db, .marker maximum env.now)
    | (.error e, db) => (db, .stopped (some (.error e)))
  | .marker maximum now =>
    -- a queue without room for the marker is left to a later drain
    ((Sql.exec (enqueueGapMarker sha cfg now) env.oracle db).2, .next maximum {})
  | .next maximum result =>
    if result.attempted < maximum then
      match Sql.exec (nextReady env.now) env.oracle db with
      | (.ok (some ready), db) =>
        (db, .prepare ⟨maximum, { result with attempted := result.attempted + 1 }, ready, env.now⟩)
      | (.ok none, db) => (db, .stopped (some (.ok result)))
      | (.error e, db) => (db, .stopped (some (.error e)))
    else (db, .stopped (some (.ok result)))
  | .prepare job =>
    if reusable job.ready job.now then (db, .post job job.ready)
    else
      match newAttempt env job.ready job.now with
      | .ok e => (db, .store job (withEnvelope job.ready e))
      | .error e => (db, .retry job e)
  | .store job message =>
    match Sql.exec (storeAttempt cfg message job.now) env.oracle db with
    | (.ok (), db) => (db, .post job message)
    | (.error e, db) => (db, .retry job e)
  | .post job message => (db, afterPost job message env.delivery)
  | .acknowledge job message ack =>
    match Sql.exec (markAcknowledged message.eventId ⟨ack.status, ack.receivedAt⟩ env.now)
        env.oracle db with
    | (.ok (), db) =>
      (db, .next job.maximum { job.result with acknowledged := job.result.acknowledged + 1 })
    | (.error e, db) => (db, .retry job e)
  | .retry job error =>
    match Sql.exec (markRetry job.ready.eventId (plus job.now (retryDelayNs job.ready)) error)
        env.oracle db with
    | (.ok (), db) => (db, .stopped (some (.ok job.fail)))
    | (.error e, db) => (db, .stopped (some (.error e)))
  | .deadLetter job error =>
    match Sql.exec (markDeadLetter job.ready.eventId error) env.oracle db with
    | (.ok (), db) => (db, .stopped (some (.ok job.fail)))
    | (.error e, db) => (db, .stopped (some (.error e)))

end NetaAgent.OutboundDispatcher
