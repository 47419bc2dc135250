import NetaAgent.TlsSession

/-!
Name resolutions that processes make: which of them a connection may come from, and the hashes of
the evidence.
-/

namespace NetaAgent.NameResolution

open Decimal Crypto TextOrder Observation HistoryStore TlsSession

inductive NameResolutionQueryKind where
  | unknown
  | forward
  | reverse
  deriving DecidableEq

inductive NameResolutionMechanism where
  | unknown
  | applicationResolverApi
  | systemResolverEvent
  | applicationProvided
  deriving DecidableEq

inductive NameResolutionRelation where
  | unknown
  | resolvedAddressForOutboundConnection
  | reverseLookupForInboundPeer
  deriving DecidableEq

structure NameResolutionAddress where
  family : NetworkAddressFamily := .unknown
  address : Text := []
  deriving DecidableEq

structure NameResolutionObservation where
  startedNs : ℕ := 0
  completedNs : ℕ := 0
  queryKind : NameResolutionQueryKind := .unknown
  mechanism : NameResolutionMechanism := .unknown
  process : LifecycleProcessContext := {}
  networkNamespaceInode : Option ℕ := none
  queryName : Text := []
  canonicalName : Option Text := none
  addresses : List NameResolutionAddress := []
  resultCode : Option ℤ := none
  fidelity : EvidenceFidelity := .contextual
  source : Text := []
  deriving DecidableEq

structure NameResolutionEvidence where
  observation : NameResolutionObservation := {}
  relation : NameResolutionRelation := .unknown
  correlationFidelity : EvidenceFidelity := .contextual
  deriving DecidableEq

def NameResolutionQueryKind.toText : NameResolutionQueryKind → Text
  | .forward => "FORWARD"
  | .reverse => "REVERSE"
  | .unknown => "UNKNOWN"

def NameResolutionMechanism.toText : NameResolutionMechanism → Text
  | .applicationResolverApi => "APPLICATION_RESOLVER_API"
  | .systemResolverEvent => "SYSTEM_RESOLVER_EVENT"
  | .applicationProvided => "APPLICATION_PROVIDED"
  | .unknown => "UNKNOWN"

def NameResolutionRelation.toText : NameResolutionRelation → Text
  | .resolvedAddressForOutboundConnection => "RESOLVED_ADDRESS_FOR_OUTBOUND_CONNECTION"
  | .reverseLookupForInboundPeer => "REVERSE_LOOKUP_FOR_INBOUND_PEER"
  | .unknown => "UNKNOWN"

/-! ### Correlation -/

/-- `max_age_ns` of `NameResolutionCorrelationPolicy`. -/
abbrev NameResolutionCorrelationPolicy := ℕ

def defaultMaxAgeNs : NameResolutionCorrelationPolicy := 5000000000

def agentProcessId (p : LifecycleProcessContext) : Option ℤ :=
  p.agentVisible.tgid.orElse fun _ => p.agentVisible.pid

variable (c : ConnectionSummary) (o : NameResolutionObservation)

def containsRemoteAddress (remoteIp : Text) : Bool :=
  o.addresses.any fun a => a.address = remoteIp

def isCandidate (policy : NameResolutionCorrelationPolicy) : Bool :=
  c.direction = .outbound && o.queryKind = .forward && o.resultCode.all (· = 0) &&
    c.firstSeenNs ≠ 0 && o.completedNs ≠ 0 &&
    (o.startedNs = 0 || o.startedNs ≤ o.completedNs) &&
    o.completedNs ≤ c.firstSeenNs && c.firstSeenNs - o.completedNs ≤ policy &&
    o.queryName ≠ [] && containsRemoteAddress o c.remoteIp &&
    0 ≤ c.process.pid && agentProcessId o.process = some c.process.pid &&
    agree o.process.startTicks c.process.startTicks &&
    agree o.networkNamespaceInode c.networkNamespaceInode

def correlationFidelity : EvidenceFidelity :=
  if o.fidelity = .contextual then .contextual
  else if o.fidelity = .supporting then .supporting
  else if o.process.startTicks.isSome ∧ o.process.startTicks = c.process.startTicks ∧
      o.networkNamespaceInode = c.networkNamespaceInode then .stronglyCorrelated
  else .supporting

inductive NameResolutionCorrelationStatus where
  | noMatch
  | matched
  | ambiguous
  deriving DecidableEq

structure NameResolutionCorrelationResult where
  status : NameResolutionCorrelationStatus := .noMatch
  evidence : Option NameResolutionEvidence := none
  candidateCount : ℕ := 0

def correlateNameResolution (observations : List NameResolutionObservation)
    (policy : NameResolutionCorrelationPolicy) : NameResolutionCorrelationResult :=
  match observations.filter fun o => isCandidate c o policy with
  | [] => {}
  | [o] =>
    { status := .matched
      evidence := some ⟨o, .resolvedAddressForOutboundConnection, correlationFidelity c o⟩
      candidateCount := 1 }
  | candidates => { status := .ambiguous, candidateCount := candidates.length }

lemma correlateNameResolution_evidence {c : ConnectionSummary}
    {observations : List NameResolutionObservation} {policy : NameResolutionCorrelationPolicy}
    {e : NameResolutionEvidence}
    (h : (correlateNameResolution c observations policy).evidence = some e) :
    observations.filter (fun o => isCandidate c o policy) = [e.observation] := by
  unfold correlateNameResolution at h
  split at h
  · cases h
  · next o heq =>
    cases h
    exact heq
  · cases h

/-! ### Hashes -/

/-- The value of `static_cast<int>`. -/
def familyCode : NetworkAddressFamily → ℕ
  | .unknown => 0
  | .ipv4 => 1
  | .ipv6 => 2

def optionalSigned (n : Option ℤ) : Text := (n.map signedDecimal).getD []

def addressText (a : NameResolutionAddress) : Text :=
  decimal (familyCode a.family) ++ ':' :: a.address

/-- What is hashed of an item, but the addresses. -/
def resolutionFields (e : NameResolutionEvidence) : List Text :=
  let o := e.observation
  [decimal o.startedNs,
    decimal o.completedNs,
    o.queryKind.toText,
    o.mechanism.toText,
    o.queryName,
    o.canonicalName.getD [],
    o.source,
    optionalSigned o.resultCode,
    o.fidelity.toText,
    e.correlationFidelity.toText,
    e.relation.toText,
    optionalSigned o.process.agentVisible.pid,
    optionalSigned o.process.agentVisible.tgid,
    optionalSigned o.process.kernel.pid,
    optionalSigned o.process.kernel.tgid,
    optionalDecimal o.process.uid,
    optionalDecimal o.process.startTicks,
    o.process.comm.getD [],
    optionalDecimal o.networkNamespaceInode]

def nameResolutionFields (e : NameResolutionEvidence) : List Text :=
  resolutionFields e ++ sortTexts (e.observation.addresses.map addressText)

def nameResolutionText (e : NameResolutionEvidence) : Text :=
  List.intercalate ['|'] (nameResolutionFields e)

section Hashes

variable (sha : Sha256)

def nameResolutionEvidenceHash (e : NameResolutionEvidence) : Text :=
  sha256Hex sha (nameResolutionText e)

end Hashes

end NetaAgent.NameResolution
