import NetaAgent.RuleSetLoader
import NetaAgent.TlsSession

/-!
Verdicts: the canonical text and the hash of a rule set, and the evaluation of outbound and inbound
connections under one.
-/

namespace NetaAgent.Verdict

open Decimal Crypto NumberText Rules TlsSession Observation HistoryStore

/-- The digest of the library, and the conversions of the processor. -/
structure Machine where
  sha : Sha256
  undefined : Conversion

/-- A machine to evaluate the model on: the digest of a text is the sum of its bytes. -/
def sampleMachine : Machine := ⟨fun text _ => UInt8.ofNat (text.foldl (fun n c => n + c.toNat) 0), fun _ => 0⟩

/-! ### The canonical text of a rule set -/

def networkRule : Text :=
  ("|network_path_degradation:rtt_ratio=2.0,rttvar_ratio=2.0,retransmissions=2," ++
    "weights=0.50/0.20/0.30,threshold=0.50").toList

def outboundTrustRule : Text :=
  "|outbound_tls_identity:supporting_probe,invalid=SUSPICIOUS,spki_change=CHANGED,match=STABLE"

def inboundTrustRule : Text :=
  ("|inbound_mtls_identity:exact_application_session_only,principal=certificate_subject," ++
    "accepted_identity=issuer+spki,no_cert=UNVERIFIED,present_not_authenticated=UNVERIFIED," ++
    "verification_failure=SUSPICIOUS,authenticated_without_accepted_principal=UNVERIFIED," ++
    "accepted_issuer_spki=STABLE,accepted_principal_identity_change=CHANGED").toList

/-- `a == b` of doubles. -/
def doubleEq (a b : Double) : Bool := a.signed = b.signed

variable (m : Machine) (baseline : Baseline) (metrics : AggregateMetrics) (s : Settings)

def isPreviousDefaultSemantics : Bool :=
  s.performanceEnabled && doubleEq s.rttRatio (literal "2.0") &&
    doubleEq s.rttvarRatio (literal "2.0") && s.retransmissionThreshold = 2 &&
    doubleEq s.rttWeight (literal "0.50") &&
    doubleEq s.rttvarWeight (literal "0.20") &&
    doubleEq s.retransmissionWeight (literal "0.30") &&
    doubleEq s.degradedThreshold (literal "0.50") && s.outboundTlsIdentity &&
    s.outboundRequireChainValid && s.outboundRequireHostnameValid && s.outboundCompareSpki &&
    s.inboundAuthenticatedIdentity && s.inboundRequireExactEvidence &&
    s.inboundRequirePeerCertificate && s.inboundRequirePeerAuthentication &&
    s.inboundVerificationFailureSuspicious && s.inboundCompareSpki && s.inboundCompareIssuer

/-- A parameter or a list in the text of a definition. -/
def segment (label name content : Text) : Text := ',' :: (label ++ (name ++ '=' :: content))

def appendList (name : Text) (values : List Text) : Text :=
  if values = [] then [] else segment "x:" name (List.intercalate [';'] values)

def exclusionLists (x : RuleExclusion) : List (Text × List Text) :=
  [("process_names", x.processNames), ("executable_paths", x.executablePaths),
    ("process_path_prefixes", x.processPathPrefixes),
    ("parent_process_names", x.parentProcessNames), ("users", x.users),
    ("remote_hosts", x.remoteHosts), ("remote_ips", x.remoteIps),
    ("remote_ports", x.remotePorts), ("local_ports", x.localPorts),
    ("domains", x.domains), ("directions", x.directions)]

/-- `append_rule_definition`. -/
def definitionText (d : RuleDefinition) : Text :=
  "|rule:" ++ d.id ++ ",engine=" ++ d.engineRuleId ++ ",enabled=" ++
    bit d.enabled ++ ",severity=" ++ d.severity ++
    (d.numericParameters.flatMap fun p => segment "n:" p.1 (numberText p.2)) ++
    (d.booleanParameters.flatMap fun p => segment "b:" p.1 (bit p.2)) ++
    (d.stringParameters.flatMap fun p => segment "s:" p.1 p.2) ++
    (d.stringListParameters.flatMap fun p =>
      segment "l:" p.1 (List.intercalate [';'] p.2)) ++
    (exclusionLists d.exclude).flatMap fun p => appendList p.1 p.2

def settingsText : Text :=
  "|performance_enabled=" ++ bit s.performanceEnabled ++
    "|network_path_degradation:rtt_ratio=" ++ numberText s.rttRatio ++
    ",rttvar_ratio=" ++ numberText s.rttvarRatio ++
    ",retransmissions=" ++ decimal s.retransmissionThreshold ++
    ",weights=" ++ numberText s.rttWeight ++ '/' :: numberText s.rttvarWeight ++
    '/' :: numberText s.retransmissionWeight ++
    ",threshold=" ++ numberText s.degradedThreshold ++
    "|outbound_tls_identity:enabled=" ++ bit s.outboundTlsIdentity ++
    ",chain=" ++ bit s.outboundRequireChainValid ++
    ",hostname=" ++ bit s.outboundRequireHostnameValid ++
    ",spki=" ++ bit s.outboundCompareSpki ++
    "|inbound_mtls_identity:enabled=" ++ bit s.inboundAuthenticatedIdentity ++
    ",exact=" ++ bit s.inboundRequireExactEvidence ++
    ",cert=" ++ bit s.inboundRequirePeerCertificate ++
    ",auth=" ++ bit s.inboundRequirePeerAuthentication ++
    ",verify_suspicious=" ++ bit s.inboundVerificationFailureSuspicious ++
    ",spki=" ++ bit s.inboundCompareSpki ++
    ",issuer=" ++ bit s.inboundCompareIssuer

def ruleSetCanonical (rules : RuleSet) : Text :=
  if rules.version = legacyRuleSetVersion then legacyRuleSetVersion ++ networkRule
  else if rules.version = previousRuleSetVersion ∧ isPreviousDefaultSemantics rules.toSettings then
    previousRuleSetVersion ++ networkRule ++ outboundTrustRule ++ inboundTrustRule
  else
    rules.version ++ "|id=" ++ rules.id ++ "|revision=" ++ decimal rules.revision ++
      if rules.definitions ≠ [] then rules.definitions.flatMap definitionText
      else settingsText rules.toSettings

def ruleSetHash (rules : RuleSet) : Text := sha256Hex m.sha (ruleSetCanonical rules)

/-! ### Performance -/

structure AggregateMetrics where
  observedRttUs : ℕ := 0
  observedRttvarUs : ℕ := 0
  retransmissionDelta : ℕ := 0

def aggregateMetrics (samples : List TcpSnapshot) : AggregateMetrics :=
  match samples with
  | [] => {}
  | first :: rest =>
    let timed := samples.filter fun s => s.rttUs ≠ 0
    let last := (first :: rest).getLast (List.cons_ne_nil first rest)
    { observedRttUs := (timed.map TcpSnapshot.rttUs).foldl max 0
      observedRttvarUs := (timed.map TcpSnapshot.rttVarianceUs).foldl max 0
      retransmissionDelta := last.totalRetrans - first.totalRetrans }

structure AssuranceVerdict where
  performance : PerformanceState := .insufficientEvidence
  trust : TrustState := .unverified
  performanceHypothesis : Text := []
  trustHypothesis : Text := []
  ruleConfidence : Extended := .finite .zero
  ruleSetVersion : Text := []
  ruleSetHash : Text := []
  baselineHash : Text := []
  inputHash : Text := []
  deriving DecidableEq

/-- `observed >= static_cast<std::uint64_t>(static_cast<double>(median) * ratio)`. -/
def exceeds (observed median : ℕ) (ratio : Double) : Bool :=
  toUint64 m.undefined ((ofUint64 median).mul (.finite ratio)) ≤ observed

def performanceScore : Extended :=
  let score : Extended := .finite .zero
  let score := if exceeds m metrics.observedRttUs baseline.rttMedianUs s.rttRatio then
    score.add (.finite s.rttWeight) else score
  let score := if 0 < baseline.rttvarMedianUs ∧
      exceeds m metrics.observedRttvarUs baseline.rttvarMedianUs s.rttvarRatio then
    score.add (.finite s.rttvarWeight) else score
  if s.retransmissionThreshold ≤ metrics.retransmissionDelta then
    score.add (.finite s.retransmissionWeight) else score

def evaluatePerformance (verdict : AssuranceVerdict) (baseline : Baseline)
    (metrics : AggregateMetrics) (s : Settings) : AssuranceVerdict :=
  if s.performanceEnabled = false ∨ baseline.sampleCount = 0 ∨ baseline.rttMedianUs = 0 then
    { verdict with performance := .insufficientEvidence }
  else
    let score := performanceScore m baseline metrics s
    if (Extended.finite s.degradedThreshold).le score then
      { verdict with
        ruleConfidence := score
        performance := .degraded
        performanceHypothesis := "NETWORK_PATH_DEGRADATION" }
    else { verdict with ruleConfidence := score, performance := .normal }

/-! ### Outbound connections -/

def outboundTrust (acceptedSpki : Text) (tls : Option TlsObservation) : TrustState × Text :=
  if s.outboundTlsIdentity = false then (.unverified, "OUTBOUND_TRUST_POLICY_DISABLED")
  else
    match tls with
    | none => (.unverified, [])
    | some t =>
      if acceptedSpki = [] then (.unverified, [])
      else if (s.outboundRequireChainValid ∧ t.chainValid = false) ∨
          (s.outboundRequireHostnameValid ∧ t.hostnameValid = false) then
        (.suspicious, "TLS_VALIDATION_FAILURE")
      else if s.outboundCompareSpki ∧ t.spkiSha256 ≠ acceptedSpki then
        (.changed, "TLS_IDENTITY_CHANGE")
      else (.stable, [])

/-- The texts of the metrics in the input of both evaluations. -/
def metricsText : Text :=
  "|rtt=" ++ decimal metrics.observedRttUs ++ "|rttvar=" ++
    decimal metrics.observedRttvarUs ++ "|retrans=" ++ decimal metrics.retransmissionDelta

variable (connection : ConnectionSummary) (tls : Option TlsObservation) (clientSubject : Text) (item : TlsSessionEvidence)

def outboundInput (rules : RuleSet) : Text :=
  "baseline=" ++ baseline.sha256 ++ metricsText metrics ++ "|tls=" ++
    (match tls with | some t => t.sha256 | none => "none") ++
    "|rules=" ++ ruleSetHash m rules

def evaluate (rules : RuleSet) : AssuranceVerdict :=
  let verdict : AssuranceVerdict :=
    { ruleSetVersion := rules.version
      ruleSetHash := Verdict.ruleSetHash m rules
      baselineHash := baseline.sha256 }
  let trust := outboundTrust rules.toSettings baseline.acceptedSpkiSha256 tls
  { evaluatePerformance m verdict baseline metrics rules.toSettings with
    trust := trust.1
    trustHypothesis := trust.2
    inputHash := sha256Hex m.sha (outboundInput m baseline metrics tls rules) }

/-! ### Inbound connections -/

structure InboundTrustContext where
  tlsSessionObserved : Bool := false
  exactEvidence : Bool := false
  ambiguous : Bool := false
  peerCertificatePresent : Bool := false
  peerVerificationRequired : Bool := false
  verifyResult : Option ℤ := none
  peerAuthenticated : Bool := false
  spkiSha256 : Text := []
  subject : Text := []
  issuer : Text := []
  evidenceHash : Text := []

def isInbound : Bool :=
  item.observation.localRole = .server &&
    (item.relation = .inboundTlsSession || item.relation = .inboundClientIdentity)

def isExact : Bool :=
  item.observation.fidelity = .exact && item.correlationFidelity = .exact

def inboundTrustContext (evidence : List TlsSessionEvidence) : InboundTrustContext :=
  let relevant := evidence.filter isInbound
  let exact := relevant.filter isExact
  let context : InboundTrustContext := { tlsSessionObserved := relevant ≠ [] }
  match exact with
  | [] => { context with evidenceHash := tlsSessionEvidenceSetHash m.sha relevant }
  | [item] =>
    { context with
      exactEvidence := true
      peerCertificatePresent := item.observation.peerCertificatePresent
      peerVerificationRequired := item.observation.peerVerificationRequired
      verifyResult := item.observation.verifyResult
      peerAuthenticated := item.observation.peerAuthenticated
      spkiSha256 := item.observation.spkiSha256
      subject := item.observation.subject
      issuer := item.observation.issuer
      evidenceHash := tlsSessionEvidenceHash m.sha item }
  | _ =>
    { context with
      ambiguous := true
      evidenceHash := tlsSessionEvidenceSetHash m.sha exact }

/-- What of the process names the service: its path, or its name when there is no path. -/
def processIdentityText (p : ProcessIdentity) : Text :=
  if p.executablePath ≠ [] then "exe=" ++ p.executablePath
  else if p.comm ≠ [] then "comm=" ++ p.comm
  else []

def baselineKeyText : Text :=
  "uid=" ++ decimal connection.process.uid ++ '|' :: processIdentityText connection.process ++
    (match connection.networkNamespaceInode with
      | some inode => "|netns=" ++ decimal inode
      | none => []) ++
    "|subject=" ++ clientSubject

def inboundClientBaselineKey : Text :=
  if connection.direction ≠ .inbound ∨ clientSubject = [] then []
  else if processIdentityText connection.process = [] then []
  else "inbound-client:" ++ sha256Hex m.sha (baselineKeyText connection clientSubject)

def verificationFailed (context : InboundTrustContext) : Bool :=
  context.peerVerificationRequired && context.verifyResult.any (· ≠ 0)

variable (accepted : Option Baseline)

def inboundTrust (context : InboundTrustContext) : TrustState × Text :=
  if s.inboundAuthenticatedIdentity = false then
    (.unverified, "INBOUND_TRUST_POLICY_UNAVAILABLE")
  else if context.ambiguous then (.unverified, "INBOUND_CLIENT_IDENTITY_AMBIGUOUS")
  else if context.tlsSessionObserved = false then
    (.unverified, "INBOUND_TLS_EVIDENCE_UNAVAILABLE")
  else if s.inboundRequireExactEvidence ∧ context.exactEvidence = false then
    (.unverified, "INBOUND_TLS_EVIDENCE_NOT_EXACT")
  else if s.inboundRequirePeerCertificate ∧ context.peerCertificatePresent = false then
    (.unverified, "INBOUND_CLIENT_CERTIFICATE_ABSENT")
  else if s.inboundVerificationFailureSuspicious ∧ verificationFailed context then
    (.suspicious, "INBOUND_CLIENT_CERTIFICATE_VERIFICATION_FAILURE")
  else if s.inboundRequirePeerAuthentication ∧ context.peerAuthenticated = false then
    (.unverified, "INBOUND_CLIENT_CERTIFICATE_NOT_AUTHENTICATED")
  else if context.subject = [] then (.unverified, "INBOUND_CLIENT_PRINCIPAL_UNAVAILABLE")
  else
    match accepted with
    | none => (.unverified, "INBOUND_CLIENT_IDENTITY_NOT_ACCEPTED")
    | some b =>
      if b.acceptedSpkiSha256 = [] then (.unverified, "INBOUND_CLIENT_IDENTITY_NOT_ACCEPTED")
      else if (s.inboundCompareSpki ∧ context.spkiSha256 ≠ b.acceptedSpkiSha256) ∨
          (s.inboundCompareIssuer ∧ b.acceptedIssuer ≠ [] ∧ context.issuer ≠ b.acceptedIssuer) then
        (.changed, "INBOUND_CLIENT_IDENTITY_CHANGE")
      else (.stable, [])

def inboundInput (metrics : AggregateMetrics)
    (context : InboundTrustContext) (rules : RuleSet) : Text :=
  "baseline=" ++ (match accepted with | some b => b.sha256 | none => "none") ++
    metricsText metrics ++ "|direction=INBOUND" ++
    "|tls_session=" ++
    (if context.evidenceHash = [] then "none".toList else context.evidenceHash) ++
    "|tls_observed=" ++ bit context.tlsSessionObserved ++
    "|tls_exact=" ++ bit context.exactEvidence ++
    "|tls_ambiguous=" ++ bit context.ambiguous ++
    "|peer_cert=" ++ bit context.peerCertificatePresent ++
    "|verify_required=" ++ bit context.peerVerificationRequired ++
    "|verify_result=" ++
    (match context.verifyResult with | some r => signedDecimal r | none => "none") ++
    "|peer_authenticated=" ++ bit context.peerAuthenticated ++
    "|client_subject=" ++ context.subject ++
    "|client_issuer=" ++ context.issuer ++
    "|client_spki=" ++ context.spkiSha256 ++
    "|rules=" ++ ruleSetHash m rules

def evaluateInbound (metrics : AggregateMetrics)
    (context : InboundTrustContext) (rules : RuleSet) : AssuranceVerdict :=
  let trust := inboundTrust rules.toSettings accepted context
  { performance := .insufficientEvidence
    trust := trust.1
    trustHypothesis := trust.2
    ruleSetVersion := rules.version
    ruleSetHash := ruleSetHash m rules
    baselineHash := match accepted with | some b => b.sha256 | none => []
    inputHash := sha256Hex m.sha (inboundInput m accepted metrics context rules) }

end NetaAgent.Verdict
