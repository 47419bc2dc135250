import NetaAgent.Search

/-!
The coordinator's acknowledgement: reading it out of a response and checking it against the
attempt it must acknowledge.

The reader looks for each key as a quoted text anywhere in the response and takes what
follows the next colon.
-/

namespace NetaAgent.Acknowledgement

open Decimal Search

structure CoordinatorAck where
  protocol : Text
  schemaVersion : ℤ
  messageType : Text
  version : ℤ
  messageId : Text
  sequence : ℕ
  idempotencyKey : Text
  payloadHash : Text
  status : Text
  receivedAt : Text

variable (json key : Text)

def valueStart : Except Text Text :=
  let needle := ['"'] ++ key ++ ['"']
  match find needle json with
  | none => .error ("coordinator ACK lacks " ++ key)
  | some position =>
    let rest := json.drop (position + needle.length)
    match find [':'] rest with
    | none => .error "coordinator ACK is malformed"
    | some colon => .ok ((rest.drop (colon + 1)).dropWhile isSpace)

def stringBody : Text → Except Text Text
  | [] => .error "coordinator ACK contains an unterminated string"
  | '"' :: _ => .ok []
  | ['\\'] => .error "coordinator ACK contains an unterminated string"
  | '\\' :: c :: r =>
    if c = '"' ∨ c = '\\' ∨ c = '/' then (stringBody r).map (c :: ·)
    else .error "coordinator ACK contains an unsupported escape"
  | c :: r => (stringBody r).map (c :: ·)

def stringValue : Except Text Text := do
  match ← valueStart json key with
  | '"' :: r => stringBody r
  | _ => .error ("coordinator ACK field is not a string: " ++ key)

def unsignedValue : Except Text ℕ := do
  let digits := (← valueStart json key).takeWhile Char.isDigit
  if digits = [] then .error ("coordinator ACK field is not unsigned: " ++ key)
  else
    match stoull digits with
    | .ok v => .ok v
    | .error _ => .error "stoull"

/-- `static_cast<int>` of an unsigned 64 bit number. -/
def toInt32 (n : ℕ) : ℤ :=
  if n % 4294967296 < 2147483648 then n % 4294967296 else (n % 4294967296 : ℤ) - 4294967296

def parseCoordinatorAck (response : Text) : Except Text CoordinatorAck := do
  let protocol ← stringValue response "protocol"
  let schemaVersion ← unsignedValue response "schemaVersion"
  let messageType ← stringValue response "messageType"
  let version ← unsignedValue response "ackVersion"
  let messageId ← stringValue response "messageId"
  let sequence ← unsignedValue response "sequence"
  let idempotencyKey ← stringValue response "idempotencyKey"
  let payloadHash ← stringValue response "payloadHash"
  let status ← stringValue response "status"
  let receivedAt ← stringValue response "receivedAt"
  return { protocol, schemaVersion := toInt32 schemaVersion, messageType, version := toInt32 version,
           messageId, sequence, idempotencyKey, payloadHash, status, receivedAt }

/-- What the acknowledgement of an attempt must carry. -/
structure Expected where
  messageId : Text
  sequence : ℕ
  idempotencyKey : Text
  payloadHash : Text

def validateCoordinatorAck (ack : CoordinatorAck) (expected : Expected) : Except Text Unit :=
  if ack.protocol ≠ "neta-agent/1" ∨ ack.schemaVersion ≠ 1 ∨ ack.messageType ≠ "Ack" then
    .error "response is not a supported NAP ACK"
  else if ack.version ≠ 1 then .error "unsupported coordinator ACK version"
  else if ack.messageId ≠ expected.messageId then
    .error "coordinator ACK message mismatch"
  else if ack.sequence ≠ expected.sequence then
    .error "coordinator ACK sequence mismatch"
  else if ack.idempotencyKey ≠ expected.idempotencyKey then
    .error "coordinator ACK idempotency mismatch"
  else if ack.payloadHash ≠ expected.payloadHash then
    .error "coordinator ACK payload hash mismatch"
  else if ack.status ≠ "ACCEPTED" ∧ ack.status ≠ "ALREADY_ACCEPTED" then
    .error "coordinator did not acknowledge the NAP event"
  else if ack.receivedAt = [] then .error "coordinator ACK lacks commit time"
  else .ok ()

theorem validateCoordinatorAck_ok {ack : CoordinatorAck} {expected : Expected} {u : Unit}
    (h : validateCoordinatorAck ack expected = .ok u) :
    ack.protocol = "neta-agent/1" ∧ ack.schemaVersion = 1 ∧
      ack.messageType = "Ack" ∧ ack.version = 1 ∧ ack.messageId = expected.messageId ∧
      ack.sequence = expected.sequence ∧ ack.idempotencyKey = expected.idempotencyKey ∧
      ack.payloadHash = expected.payloadHash ∧
      (ack.status = "ACCEPTED" ∨ ack.status = "ALREADY_ACCEPTED") ∧ ack.receivedAt ≠ [] := by
  unfold validateCoordinatorAck at h
  split_ifs at h with h1 h2 h3 h4 h5 h6 h7 h8
  simp only [not_or, not_not] at h1 h2 h3 h4 h5 h6
  have hstatus : ack.status = "ACCEPTED" ∨ ack.status = "ALREADY_ACCEPTED" := by
    by_contra hno
    exact h7 (not_or.mp hno)
  exact ⟨h1.1, h1.2.1, h1.2.2, h2, h3, h4, h5, h6, hstatus, h8⟩

end NetaAgent.Acknowledgement
