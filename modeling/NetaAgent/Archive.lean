import NetaAgent.NameResolution
import NetaAgent.Verdict

/-!
The database with all that verdicts are made from: the history, the evidence of TLS sessions and of
name resolutions, the environments, and the verdicts with all their columns.

As in the history, integers are read back as they were written. The tables of the environments
are only read here.
-/

namespace NetaAgent.Assurance

open Decimal Crypto Sql Observation HistoryStore TlsSession NameResolution Verdict

/-! ### Rows -/

/-- A row of `connection_tls_session_evidence`; its hash is not read back. -/
structure TlsSessionRow where
  id : ℕ
  connectionId : ℕ
  evidence : TlsSessionEvidence
  sessionKey : Text
  deriving DecidableEq

/-- A row of `connection_name_resolution_evidence` with its addresses. -/
structure NameResolutionRow where
  id : ℕ
  connectionId : ℕ
  evidence : NameResolutionEvidence
  deriving DecidableEq

structure HostIdentity where
  id : ℕ
  hostId : Text
  hostname : Text
  os : Text
  architecture : Text
  environmentClass : Text

structure HostBoot where
  id : ℕ
  hostIdentityId : ℕ
  bootId : Text
  kernelRelease : Text

structure NetworkEnvironment where
  id : ℕ
  hostBootId : ℕ
  networkNamespaceInode : Option ℕ
  interfaceIndex : Option ℕ
  interfaceName : Text
  interfaceMac : Text
  interfaceMtu : Option ℕ
  localAddress : Text
  gateway : Text
  preferredSource : Text
  routeTable : Option ℕ
  routeMetric : Option ℕ
  environmentFingerprint : Text

/-- A row of `connection_network_environments`. -/
structure ConnectionEnvironment where
  connectionId : ℕ
  networkEnvironmentId : ℕ
  capturedAtNs : ℕ
  fidelity : EvidenceFidelity
  source : Text

/-- A row of `verdicts`. -/
structure VerdictRow where
  connectionId : ℕ
  verdict : AssuranceVerdict
  tlsObservationId : Option ℕ

structure EvidenceTables where
  tlsSessions : Table TlsSessionRow.id := .empty
  names : Table NameResolutionRow.id := .empty

structure Archive where
  history : Store
  evidence : EvidenceTables := {}
  hostIdentities : Table HostIdentity.id := .empty
  hostBoots : Table HostBoot.id := .empty
  networkEnvironments : Table NetworkEnvironment.id := .empty
  connectionEnvironments : Table ConnectionEnvironment.connectionId := .empty
  verdicts : Table VerdictRow.connectionId := .empty

abbrev ArchiveM := SqlM Archive StoreError

def steadyOracle : Oracle StoreError := ⟨fun _ => none, fun _ _ => 0⟩

def onHistory {α : Type} (m : StoreM α) : ArchiveM α := fun o s =>
  ((m o ⟨s.db.history, s.count⟩).1,
    ⟨{ s.db with history := (m o ⟨s.db.history, s.count⟩).2.db },
      (m o ⟨s.db.history, s.count⟩).2.count⟩)

lemma onHistory_triple {α : Type} {m : StoreM α} {F : StoreError → Prop} {P : Archive → Prop}
    {Q : α → Archive → Prop} {E : StoreError → Archive → Prop}
    (h : ∀ a : Archive, Triple F (fun db => P { a with history := db }) m
      (fun x db => Q x { a with history := db }) fun e db => E e { a with history := db }) :
    Triple F P (onHistory m) Q E := by
  intro o s ho hs
  have h := h s.db o ⟨s.db.history, s.count⟩ ho hs
  unfold onHistory
  rcases hr : m o ⟨s.db.history, s.count⟩ with ⟨e | x, s'⟩ <;> rw [hr] at h
  · exact h
  · exact h

/-- `throw std::runtime_error(…)`. -/
def fail {α : Type} (message : String) : ArchiveM α := throwing (.failed message.toList)

/-! ### TLS sessions -/

lemma bindText_finalizeHex (d : Fin 32 → UInt8) : bindText (finalizeHex d) = finalizeHex d := by
  refine List.takeWhile_eq_self_iff.mpr fun c hc => ?_
  obtain ⟨n, hn, rfl⟩ := hex_of_mem_finalizeHex hc
  exact decide_eq_true (digitChar_ne_nul n hn)

/-- The observation as its columns are bound; the ALPN text is bound with its size. -/
def boundObservation (o : TlsSessionObservation) : TlsSessionObservation :=
  { o with
    process := { o.process with comm := bindText o.process.comm, executablePath := [] }
    localEndpoint := { o.localEndpoint with address := bindText o.localEndpoint.address }
    remoteEndpoint := { o.remoteEndpoint with address := bindText o.remoteEndpoint.address }
    tlsVersion := bindText o.tlsVersion
    cipher := bindText o.cipher
    sni := bindText o.sni
    expectedPeerName := o.expectedPeerName.map bindText
    matchedPeerName := o.matchedPeerName.map bindText
    leafSha256 := bindText o.leafSha256
    spkiSha256 := bindText o.spkiSha256
    subject := bindText o.subject
    issuer := bindText o.issuer
    notBefore := bindText o.notBefore
    notAfter := bindText o.notAfter
    source := bindText o.source }

variable (sha : Sha256) (t : EvidenceTables) (connectionId : ℕ) (e : TlsSessionEvidence)

/-- The evidence with its texts bound; they are read back in the same way. -/
def boundEvidence : TlsSessionEvidence :=
  { e with observation := boundObservation e.observation }

def TlsSessionRow.read (r : TlsSessionRow) : TlsSessionEvidence := boundEvidence r.evidence

/-- `ORDER BY observed_ns,id`. -/
def TlsSessionRow.le (a b : TlsSessionRow) : Bool :=
  int64 a.evidence.observation.observedNs < int64 b.evidence.observation.observedNs ||
    (a.evidence.observation.observedNs = b.evidence.observation.observedNs && a.id ≤ b.id)

def EvidenceTables.tlsSessionEvidenceForConnection : List TlsSessionEvidence :=
  ((t.tlsSessions.rows.filter fun r => r.connectionId = connectionId).insertionSort
    fun a b => a.le b).map TlsSessionRow.read

/-! ### Verdicts -/

def boundVerdict (v : AssuranceVerdict) : AssuranceVerdict :=
  { v with
    performanceHypothesis := bindText v.performanceHypothesis
    trustHypothesis := bindText v.trustHypothesis
    ruleSetVersion := bindText v.ruleSetVersion
    ruleSetHash := bindText v.ruleSetHash
    baselineHash := bindText v.baselineHash
    inputHash := bindText v.inputHash }

/-- The row of a verdict, in the history and with all its columns. -/
def Archive.putVerdict (a : Archive) (connectionId : ℕ) (v : AssuranceVerdict)
    (tlsId : Option ℕ) : Archive :=
  { a with
    history := { a.history with
      verdicts := a.history.verdicts.replace
        ⟨connectionId, v.performance, v.trust, bindText v.baselineHash, tlsId⟩ }
    verdicts := a.verdicts.replace ⟨connectionId, boundVerdict v, tlsId⟩ }

def saveVerdict (v : AssuranceVerdict) (tlsId : Option ℕ) : ArchiveM Unit := do
  statement fun _ (a : Archive) =>
    if a.history.hasConnection connectionId && tlsId.all a.history.hasTls then
      .ok ((), a.putVerdict connectionId v tlsId)
    else .error .foreignKey
  modify fun a => { a with
    history := a.history.updateConnections (fun r => r.id = connectionId)
      (fun r => { r with performanceState := v.performance, trustState := v.trust }) fun _ => rfl }

def Archive.saveBaseline (a : Archive) (b : Baseline) : Archive :=
  { a with history := a.history.saveBaseline b }

end NetaAgent.Assurance
