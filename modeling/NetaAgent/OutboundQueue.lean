import NetaAgent.Crypto
import NetaAgent.Sql
import NetaAgent.SqlValue
import NetaAgent.Table

/-!
The durable outbox: the table of outbound messages, the counters beside it, and the methods
of `OutboundQueue` as programs of SQL statements.

Texts are strings of bytes. What is bound to a statement ends at the first NUL, and
`length()` counts UTF-8 characters. Times and sequence numbers are 64 bit unsigned numbers;
the database compares them as signed ones.
-/

namespace NetaAgent.OutboundQueue

open Decimal Crypto Sql

inductive OutboundState where
  | pending
  | inFlight
  | acknowledged
  | deadLetter
  deriving DecidableEq

/-- A row of `outbound_messages`. -/
structure Row where
  eventId : Text
  eventCounter : ℕ
  producerKey : Text
  messageType : Text
  findingType : Text
  findingKey : Text
  priority : ℤ
  payloadJson : Text
  payloadHash : Text
  createdAtNs : ℕ
  state : OutboundState
  attemptMessageId : Option Text := none
  attemptSequence : Option ℕ := none
  attemptEnvelopeJson : Option Text := none
  attemptExpiresAtNs : Option ℕ := none
  attemptCount : ℕ := 0
  nextAttemptAtNs : ℕ
  lastAttemptAtNs : Option ℕ := none
  lastError : Option Text := none
  ackStatus : Option Text := none
  ackReceivedAtNs : Option ℕ := none
  serverReceivedAt : Option Text := none
  deriving DecidableEq

/-- `outbound_messages` and the values of `outbound_metadata`. -/
structure Database where
  messages : Table Row.eventId
  nextEventCounter : ℕ
  droppedLowPriority : ℕ
  reportedDroppedLowPriority : ℕ
  coalesced : ℕ
  lastAckNs : ℕ

/-- The database that `initialize_schema` creates. -/
def Database.initial : Database := ⟨.empty, 1, 0, 0, 0, 0⟩

/-- The identity and the capacity a queue is opened with. -/
structure Config where
  agentId : Text
  maxBytes : ℕ

/-- An `OutboundMessage`, what `next_ready` reads of a row. -/
structure OutboundMessage where
  eventId : Text
  eventCounter : ℕ
  producerKey : Text
  messageType : Text
  findingType : Text
  findingKey : Text
  priority : ℤ
  payloadJson : Text
  payloadHash : Text
  state : OutboundState
  attemptMessageId : Text
  attemptSequence : ℕ
  attemptEnvelopeJson : Text
  attemptExpiresAtNs : ℕ
  attemptCount : ℕ

variable (tie : ℕ → ℕ) (cfg : Config) (m : OutboundMessage) (r : Row) (db : Database)

def Row.toMessage : OutboundMessage where
  eventId := r.eventId
  eventCounter := r.eventCounter
  producerKey := r.producerKey
  messageType := r.messageType
  findingType := r.findingType
  findingKey := r.findingKey
  priority := r.priority
  payloadJson := r.payloadJson
  payloadHash := r.payloadHash
  state := r.state
  attemptMessageId := r.attemptMessageId.getD []
  attemptSequence := r.attemptSequence.getD 0
  attemptEnvelopeJson := r.attemptEnvelopeJson.getD []
  attemptExpiresAtNs := r.attemptExpiresAtNs.getD 0
  attemptCount := r.attemptCount

/-- What a producer hands to `enqueue`. -/
structure Finding where
  producerKey : Text
  messageType : Text
  findingType : Text
  findingKey : Text
  priority : ℤ
  payloadJson : Text
  payloadHash : Text

/-- The fields of a `CoordinatorAck` that the queue stores. -/
structure Receipt where
  status : Text
  receivedAt : Text

abbrev QueueM := SqlM Database Text

/-! ### Capacity -/

def Row.logicalBytes : ℕ :=
  sqlLength r.payloadJson + (r.attemptEnvelopeJson.map sqlLength).getD 0 + 512

/-- The capacity in use: acknowledged rows do not count. -/
def usedBytes : ℕ :=
  ((db.messages.rows.filter fun r => r.state ≠ .acknowledged).map Row.logicalBytes).sum

/-- `state='PENDING' AND attempt_count=0 AND priority<=1`. -/
def Row.evictable : Bool :=
  r.state = .pending && r.attemptCount = 0 && r.priority ≤ 1

variable (sha : Sha256) (ack : Receipt) (a b : Row) (dropped : ℕ)

def lowOrder : Bool :=
  a.priority < b.priority || a.priority = b.priority && int64 a.createdAtNs ≤ int64 b.createdAtNs

def ackOrder : Bool :=
  match a.ackReceivedAtNs, b.ackReceivedAtNs with
  | none, _ => true
  | some _, none => false
  | some x, some y => int64 x ≤ int64 y

/-- Delete the 256 acknowledged rows with the oldest acknowledgements. -/
def removeAcked : Database :=
  let ids := (pickMany ackOrder tie 256
    (db.messages.rows.filter fun r => r.state = .acknowledged)).map Row.eventId
  { db with messages := db.messages.delete fun r => ids.contains r.eventId }

/-- Delete the least important evictable row; the number of rows deleted. -/
def removeLow : ℕ × Database :=
  match pick lowOrder (tie 0) (db.messages.rows.filter Row.evictable) with
  | none => (0, db)
  | some low => (1, { db with messages := db.messages.delete fun r => r.eventId = low.eventId })

def capacityReserved : Text :=
  "outbound queue capacity is reserved for important findings"

def exceeds (maxBytes required used : ℕ) : Bool :=
  maxBytes < required || maxBytes - required < used

/-- The loop of `enforce_budget`. Each round deletes a row or throws, so `fuel` rounds are
enough when there are fewer rows. -/
def evictLow (maxBytes required : ℕ) : ℕ → ℕ → QueueM Unit
  | 0, _ => throwing capacityReserved
  | fuel + 1, used => do
    if exceeds maxBytes required used then
      let changes ← statement fun tie db => .ok (removeLow tie db)
      if changes = 0 then throwing capacityReserved
      else
        modify fun db => { db with droppedLowPriority := db.droppedLowPriority + 1 }
        let used ← query usedBytes
        evictLow maxBytes required fuel used
    else return

/-- The number of rows, which bounds the loop; not a statement. -/
def rowCount : QueueM ℕ := fun _ s => (.ok s.db.messages.rows.length, s)

def enforceBudget (requiredBytes : ℕ) : QueueM Unit := do
  if cfg.maxBytes = 0 then return
  else
    let used ← query usedBytes
    if requiredBytes ≤ cfg.maxBytes && used ≤ cfg.maxBytes - requiredBytes then return
    else
      statement fun tie db => .ok ((), removeAcked tie db)
      evictLow cfg.maxBytes requiredBytes ((← rowCount) + 1) used

/-! ### The methods -/

def eventIdOf (counter : ℕ) : Text := cfg.agentId ++ ":" ++ decimal counter

/-- The row that `enqueue` inserts. -/
def Finding.toRow (x : Finding) (cfg : Config) (counter now : ℕ) : Row where
  eventId := bindText (eventIdOf cfg counter)
  eventCounter := counter
  producerKey := bindText x.producerKey
  messageType := bindText x.messageType
  findingType := bindText x.findingType
  findingKey := bindText x.findingKey
  priority := x.priority
  payloadJson := bindText x.payloadJson
  payloadHash := bindText x.payloadHash
  createdAtNs := now
  state := .pending
  nextAttemptAtNs := now

/-- `INSERT INTO outbound_messages` with its three uniqueness constraints. -/
def insertRow (row : Row) (db : Database) : Except Text (Unit × Database) :=
  if db.messages.rows.any fun r => r.eventCounter = row.eventCounter then
    .error "UNIQUE constraint failed: outbound_messages.event_counter"
  else if db.messages.rows.any fun r => r.producerKey = row.producerKey then
    .error "UNIQUE constraint failed: outbound_messages.producer_key"
  else
    match db.messages.insert row with
    | none => .error "UNIQUE constraint failed: outbound_messages.event_id"
    | some messages => .ok ((), { db with messages })

def existingEvent (x : Finding) (db : Database) : Option Text :=
  (db.messages.rows.find? fun r => r.producerKey = bindText x.producerKey).map Row.eventId

/-- The end of `enqueue`, when there is room. -/
def insertNew (x : Finding) (now : ℕ) : QueueM Text := do
  let value ← query Database.nextEventCounter
  statement fun _ db => insertRow (x.toRow cfg value now) db
  modify fun db => { db with nextEventCounter := db.nextEventCounter + 1 }
  return eventIdOf cfg value

/-- `enqueue` after the `SELECT` for the producer key. -/
def enqueueAfter (x : Finding) (now : ℕ) (existing : Option Text) : QueueM Text :=
  if existing.getD [] ≠ [] then do
    modify fun db => { db with coalesced := db.coalesced + 1 }
    return existing.getD []
  else do
    enforceBudget cfg (x.payloadJson.length + 512)
    insertNew cfg x now

def enqueue (x : Finding) (now : ℕ) : QueueM Text :=
  transaction do enqueueAfter cfg x now (← lookup fun _ => existingEvent x)

/-- `enqueue` where SQLite may end the transaction when the step of that `SELECT` fails. -/
def enqueueEnding (ends : Bool) (x : Finding) (now : ℕ) : QueueM Text :=
  transactionOf ends (fun _ => existingEvent x) "cannot commit - no transaction is active"
    (enqueueAfter cfg x now)

def readyOrder : Bool :=
  b.priority < a.priority || a.priority = b.priority && int64 a.createdAtNs ≤ int64 b.createdAtNs

def Row.ready (now : ℕ) (r : Row) : Bool :=
  (r.state = .pending || r.state = .inFlight) && int64 r.nextAttemptAtNs ≤ int64 now

variable (now : ℕ)

def nextReady : QueueM (Option OutboundMessage) :=
  lookup fun tie db =>
    (pick readyOrder (tie 0) (db.messages.rows.filter (Row.ready now))).map Row.toMessage

/-- `UPDATE … WHERE event_id=?` on a table. -/
def updateEvent (eventId : Text) (f : Row → Row) (hf : ∀ r, (f r).eventId = r.eventId)
    (db : Database) : Database :=
  { db with messages := db.messages.update (fun r => r.eventId = bindText eventId) f hf }

def eventDisappeared : Text := "outbound event disappeared before its attempt was stored"

def reserve : Row := { r with state := .inFlight }

lemma reserve_eventId : (reserve r).eventId = r.eventId := rfl

/-- The row after the attempt in `m` has been stored. -/
def Row.withAttempt (r : Row) : Row :=
  { r with
    state := .inFlight
    attemptMessageId := some (bindText m.attemptMessageId)
    attemptSequence := some m.attemptSequence
    attemptEnvelopeJson := some (bindText m.attemptEnvelopeJson)
    attemptExpiresAtNs := some m.attemptExpiresAtNs
    attemptCount := r.attemptCount + 1
    lastAttemptAtNs := some now
    lastError := none }

lemma Row.withAttempt_eventId (r : Row) : (r.withAttempt m now).eventId = r.eventId := rfl

/-- Room for an envelope that is longer than the one stored before it. -/
def makeRoom (existingBytes attemptBytes : ℕ) : QueueM Unit :=
  if existingBytes < attemptBytes then enforceBudget cfg (attemptBytes - existingBytes)
  else pure ()

def storeAttempt : QueueM Unit :=
  transaction do
    let changes ← statement fun _ db => .ok
      ((db.messages.rows.filter fun r => r.eventId = bindText m.eventId).length,
        updateEvent m.eventId reserve (fun _ => rfl) db)
    if changes ≠ 1 then throwing eventDisappeared
    else
      let existing ← statement fun _ db => .ok (db.messages.find (bindText m.eventId), db)
      match existing with
      | none => throwing eventDisappeared
      | some r =>
        makeRoom cfg (sqlLength (r.attemptEnvelopeJson.getD [])) m.attemptEnvelopeJson.length
        modify (updateEvent m.eventId (Row.withAttempt m now) (fun _ => rfl))

/-- `error.substr(0, 1024)`, bound. -/
def boundError (error : Text) : Text := bindText (error.take 1024)

def Row.withRetry (next : ℕ) (error : Text) (r : Row) : Row :=
  { r with state := .pending, nextAttemptAtNs := next, lastError := some (boundError error) }

def markRetry (eventId : Text) (next : ℕ) (error : Text) : QueueM Unit :=
  modify (updateEvent eventId (Row.withRetry next error) (fun _ => rfl))

def Row.withDeadLetter (error : Text) (r : Row) : Row :=
  { r with state := .deadLetter, lastError := some (boundError error) }

def markDeadLetter (eventId error : Text) : QueueM Unit :=
  modify (updateEvent eventId (Row.withDeadLetter error) (fun _ => rfl))

def Row.withAck (now : ℕ) (r : Row) : Row :=
  { r with
    state := .acknowledged
    ackStatus := some (bindText ack.status)
    ackReceivedAtNs := some now
    serverReceivedAt := some (bindText ack.receivedAt)
    lastError := none }

lemma Row.withAck_eventId (now : ℕ) (r : Row) : (r.withAck ack now).eventId = r.eventId := rfl

def telemetryGap : Text := "TELEMETRY_GAP"

/-- What the acknowledged event reports as dropped, if it is a gap marker. -/
def reportedBy (eventId : Text) (db : Database) : ℕ :=
  match db.messages.find (bindText eventId) with
  | none => 0
  | some r => if r.findingType = telemetryGap then (castInteger r.findingKey).toNat else 0

def markAcknowledged (eventId : Text) (ack : Receipt) (now : ℕ) : QueueM Unit :=
  transaction do
    modify (updateEvent eventId (Row.withAck ack now) (fun _ => rfl))
    modify fun db => { db with
      reportedDroppedLowPriority := max db.reportedDroppedLowPriority (reportedBy eventId db) }
    modify fun db => { db with lastAckNs := now }

def gapPayload : Text :=
  "\x7b\"telemetry_gap\":\x7b\"reason\":\"outbox_capacity\",\"dropped_low_priority\":" ++
    decimal dropped ++ "\x7d\x7d"

def gapFinding : Finding where
  producerKey := "EvidenceSummary:TelemetryGap:" ++ decimal dropped
  messageType := "EvidenceSummary"
  findingType := telemetryGap
  findingKey := decimal dropped
  priority := 4
  payloadJson := gapPayload dropped
  payloadHash := "sha256:" ++ sha256Hex sha (gapPayload dropped)

/-- `finding_type='TELEMETRY_GAP' AND state IN ('PENDING','IN_FLIGHT')`. -/
def Row.waitingMarker : Bool :=
  r.findingType = telemetryGap && (r.state = .pending || r.state = .inFlight)

inductive GapCounter where
  | dropped
  | reported

/-- The rows of `outbound_metadata` with the two counters; the query does not order them. -/
def gapRows : List (GapCounter × ℕ) :=
  let rows := [(.dropped, db.droppedLowPriority), (.reported, db.reportedDroppedLowPriority)]
  if tie 1 = 0 then rows else rows.reverse

/-- The counts (dropped, reported) after one more row. -/
def readGapRow (counts : ℕ × ℕ) : GapCounter × ℕ → ℕ × ℕ
  | (.dropped, value) => (value, counts.2)
  | (.reported, value) => (counts.1, value)

def gapMarkerBy (enqueue : Finding → QueueM Text) : QueueM Unit := do
  let rows ← scan gapRows
  let (dropped, reported) := rows.foldl readGapRow (0, 0)
  if dropped ≤ reported then return
  else
    let pending ← lookup fun _ db => db.messages.rows.find? Row.waitingMarker
    if pending.isSome then return
    else
      let _ ← enqueue (gapFinding sha dropped)
      return

def enqueueGapMarker (cfg : Config) (now : ℕ) : QueueM Unit :=
  gapMarkerBy sha fun x => enqueue cfg x now

def pruneAcknowledged (olderThan : ℕ) : QueueM Unit :=
  modify fun db => { db with messages := db.messages.delete fun r =>
    r.state = .acknowledged && r.ackReceivedAtNs.any fun t => int64 t < int64 olderThan }

end NetaAgent.OutboundQueue
