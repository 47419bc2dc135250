import NetaAgent.LoadedRules
import NetaAgent.NameResolution

/-!
`ContextRuleEngine`: the rules on a connection, with its evidence, its baseline and its route.

A rule reads its parameters when its branch is reached, and throws where one is missing; on a
definition that the loader has admitted none is (`evaluateOne_reads`).
-/

namespace NetaAgent.ContextRules

open Decimal Observation HistoryStore NameResolution TlsSession NumberText Rules Verdict List

structure RouteObservation where
  gateway : Text := []
  interfaceName : Text := []

structure ContextRuleMatch where
  ruleId : Text
  engineRuleId : Text
  category : Text
  severity : Text
  semanticType : Text
  summary : Text
  interpretation : Text

structure ConnectionRuleContext where
  connection : ConnectionSummary := {}
  metrics : AggregateMetrics := {}
  baseline : Option Baseline := none
  nameResolution : List NameResolutionEvidence := []
  tlsSessions : List TlsSessionEvidence := []
  route : Option RouteObservation := none
  bytesSent : Option ℕ := none
  bytesReceived : Option ℕ := none
  destinationPrevalence : Option ℕ := none

/-! ### Exclusions -/

def processBasename (process : ProcessIdentity) : Text :=
  let normalized := exclusionNormalized process.executablePath
  if '/' ∈ normalized then (normalized.reverse.takeWhile (· ≠ '/')).reverse
  else if process.comm ≠ [] then process.comm else normalized

def directionText : ConnectionDirection → Text
  | .outbound => "outbound"
  | .inbound => "inbound"
  | .unknown => "unknown"

/-- An exclusion with no entry excludes nothing, as the test for that at the start of the source
says once more. -/
def excludesConnection (exclusion : RuleExclusion) (connection : ConnectionSummary)
    (correlatedDomains : List Text) (parentProcessName : Option Text := none) : Bool :=
  if exclusion = {} then false
  else
    exclusionContains exclusion.processNames connection.process.comm ||
    exclusionContains exclusion.processNames (processBasename connection.process) ||
    exclusionContains exclusion.executablePaths connection.process.executablePath ||
    exclusionPrefix exclusion.processPathPrefixes connection.process.executablePath ||
    exclusionContains exclusion.users (decimal connection.process.uid) ||
    parentProcessName.any (exclusionContains exclusion.parentProcessNames) ||
    exclusionContains exclusion.remoteHosts connection.targetHost ||
    exclusionContains exclusion.remoteIps connection.remoteIp ||
    exclusionContains exclusion.remotePorts (decimal connection.remotePort) ||
    exclusionContains exclusion.localPorts (decimal connection.localPort) ||
    correlatedDomains.any (exclusionContains exclusion.domains) ||
    exclusionContains exclusion.directions (directionText connection.direction)

/-! ### The evidence -/

def correlatedDomains (evidence : List NameResolutionEvidence) : List Text :=
  evidence.flatMap fun item =>
    (item.observation.queryName :: item.observation.canonicalName.toList).filter (· ≠ [])

def isExactOutbound (item : TlsSessionEvidence) : Bool :=
  item.correlationFidelity = .exact &&
    (item.relation = .outboundServerIdentity || item.relation = .outboundTlsSession)

def exactOutboundTls (evidence : List TlsSessionEvidence) : Option TlsSessionEvidence :=
  evidence.find? isExactOutbound

def failedDnsCount (evidence : List NameResolutionEvidence) : ℕ :=
  evidence.countP fun item => item.observation.resultCode.any (· ≠ 0)

/-- The addresses of the forward answers, those of well correlated evidence only if asked. -/
def forwardAnswers (correlated : NameResolutionEvidence → Bool)
    (evidence : List NameResolutionEvidence) : List Text :=
  (evidence.filter fun item => item.observation.queryKind = .forward && correlated item).flatMap
    fun item => item.observation.addresses.map NameResolutionAddress.address

def dnsContainsRemote (context : ConnectionRuleContext) : Bool :=
  let remote := context.connection.remoteIp
  if remote = [] then false
  else
    let answers := forwardAnswers (fun item => item.correlationFidelity = .exact ||
      item.correlationFidelity = .stronglyCorrelated) context.nameResolution
    answers.any (fun a => a = remote || ("::ffff:" <+: remote && a = remote.drop 7)) ||
      answers = []

def distinctDnsAnswers (evidence : List NameResolutionEvidence) : ℕ :=
  (forwardAnswers (fun _ => true) evidence).dedup.length

/-! ### The rules -/

def semanticTypes : List (Text × Text) :=
  [("NET-002", "TCP_RETRANSMISSION_SPIKE"),
    ("NET-003", "UNUSUAL_OUTBOUND_DESTINATION_PORT"),
    ("NET-004", "RARE_OUTBOUND_DESTINATION"),
    ("NET-005", "HIGH_OUTBOUND_ASYMMETRY"),
    ("DNS-001", "REPEATED_DNS_FAILURES"),
    ("DNS-002", "DNS_CONNECTION_MISMATCH"),
    ("DNS-003", "DNS_ANSWER_CHURN"),
    ("TLS-001", "TLS_VALIDATION_FAILURE"),
    ("TLS-002", "TLS_IDENTITY_CHANGE"),
    ("ROUTE-001", "UNEXPECTED_ROUTE")]

/-- `match`, if the condition of the rule holds. -/
def matchIf (condition : Bool) (rule : RuleDefinition) (summary interpretation : String) :
    Option ContextRuleMatch :=
  if condition then
    some {
      ruleId := rule.id
      engineRuleId := rule.engineRuleId
      category := rule.category
      severity := rule.severity
      semanticType := ((semanticTypes.find? fun s => s.1 = rule.engineRuleId).map
        Prod.snd).getD rule.engineRuleId
      summary := summary.toList
      interpretation := interpretation.toList }
  else none

section Rules
variable (undefined : Conversion) (ratioAtLeast : ℕ → ℕ → Double → Bool)
  (rule : RuleDefinition) (context : ConnectionRuleContext)

def unsignedParameter (name : Text) : Except Text ℕ := do
  return toUint64 undefined (.finite (← rule.numeric name))

def retransmissionSpike : Except Text (Option ContextRuleMatch) := do
  let threshold ← unsignedParameter undefined rule "retransmission_threshold"
  return matchIf (threshold ≤ context.metrics.retransmissionDelta) rule
    "TCP retransmissions exceeded the configured rule threshold."
    ("Repeated retransmissions can indicate path degradation, packet loss, interference, or " ++
      "deliberate disruption; malicious intent is not established.")

def unusualPort : Except Text (Option ContextRuleMatch) :=
  if context.connection.direction ≠ .outbound ∨ context.connection.remotePort = 0 then .ok none
  else do
    let allowed ← rule.stringList "allowed_ports"
    return matchIf (!allowed.contains (decimal context.connection.remotePort)) rule
      "Outbound connection used a destination port outside the configured allowlist."
      ("An unusual destination port can be legitimate application behavior or a sign of " ++
        "tunneling or custom protocol use; malicious intent is not established.")

def rareDestination : Except Text (Option ContextRuleMatch) :=
  match context.destinationPrevalence with
  | none => .ok none
  | some prevalence =>
    if context.connection.direction ≠ .outbound then .ok none
    else do
      let maximum ← unsignedParameter undefined rule "maximum_prevalence"
      return matchIf (prevalence ≤ maximum) rule
        "Outbound connection targeted a destination with low local prevalence."
        ("Rare destinations deserve additional context, especially when combined with process, " ++
          "DNS, TLS, or transfer anomalies; rarity alone is not malicious.")

/-- The quotient is one of `long double`, so the comparison with it depends on the platform. -/
def outboundAsymmetry : Except Text (Option ContextRuleMatch) :=
  match context.bytesSent, context.bytesReceived with
  | some sent, some received =>
    if context.connection.direction ≠ .outbound then .ok none
    else do
      let minimumSent ← unsignedParameter undefined rule "minimum_bytes_sent"
      let minimumRatio ← rule.numeric "minimum_sent_to_received_ratio"
      let receivedFloor ← unsignedParameter undefined rule "received_bytes_floor"
      return matchIf (minimumSent ≤ sent && ratioAtLeast sent (max received receivedFloor)
          minimumRatio) rule
        "Outbound transfer volume was highly asymmetric."
        ("A high outbound-to-inbound byte ratio can be expected for uploads, backups, or " ++
          "telemetry and can also merit investigation; data exfiltration is not established.")
  | _, _ => .ok none

def repeatedDnsFailures : Except Text (Option ContextRuleMatch) := do
  let minimum ← unsignedParameter undefined rule "minimum_failures"
  return matchIf (minimum ≤ failedDnsCount context.nameResolution) rule
    "Correlated DNS activity contained repeated resolution failures."
    ("Repeated resolver failures can result from outages, stale configuration, blocked domains, " ++
      "or generated-domain behavior; malicious intent is not established.")

def dnsMismatch : Except Text (Option ContextRuleMatch) :=
  if context.connection.direction ≠ .outbound ∨ context.nameResolution = [] then .ok none
  else do
    let required ← rule.boolean "require_remote_ip_match"
    return matchIf (required && !dnsContainsRemote context) rule
      "Correlated DNS answers did not contain the remote address used by the connection."
      ("A DNS-to-connection mismatch may indicate stale correlation, proxying, address " ++
        "rewriting, or unexpected name resolution behavior and should be investigated.")

def dnsChurn : Except Text (Option ContextRuleMatch) := do
  let maximum ← unsignedParameter undefined rule "maximum_distinct_answers"
  return matchIf (maximum < distinctDnsAnswers context.nameResolution) rule
    "Correlated DNS evidence contained more distinct answers than the configured limit."
    ("High DNS answer churn can be normal for CDNs but can also accompany fast-flux or rapidly " ++
      "changing infrastructure; malicious intent is not established.")

def tlsValidation : Except Text (Option ContextRuleMatch) :=
  match exactOutboundTls context.tlsSessions with
  | none => .ok none
  | some tls => do
    let authentication ← rule.boolean "require_peer_authentication"
    let verification ← rule.boolean "verification_failure_match"
    return matchIf (authentication && !tls.observation.peerAuthenticated ||
        verification && tls.observation.verifyResult.any (· ≠ 0)) rule
      "Exact application TLS evidence failed the configured validation or authentication policy."
      ("A failed or unauthenticated TLS peer can reflect interception, misconfiguration, " ++
        "certificate problems, or an untrusted endpoint and warrants investigation.")

/-- An accepted value that is known and is not the observed one. -/
def differs (accepted observed : Text) : Bool := accepted ≠ [] && accepted ≠ observed

def tlsIdentityChange : Except Text (Option ContextRuleMatch) :=
  match exactOutboundTls context.tlsSessions, context.baseline with
  | some tls, some baseline => do
    let spki ← rule.boolean "compare_spki"
    let issuer ← rule.boolean "compare_issuer"
    return matchIf (spki && differs baseline.acceptedSpkiSha256 tls.observation.spkiSha256 ||
        issuer && differs baseline.acceptedIssuer tls.observation.issuer) rule
      "TLS peer identity differed from the accepted baseline."
      ("A changed TLS identity can result from legitimate certificate rotation, load-balancer " ++
        "changes, interception, or endpoint replacement and should be verified.")
  | _, _ => .ok none

/-- An allowlist that is not empty and does not have the value. -/
def outside (allowed : List Text) (value : Text) : Bool := allowed ≠ [] && !allowed.contains value

def unexpectedRoute : Except Text (Option ContextRuleMatch) :=
  match context.route with
  | none => .ok none
  | some route => do
    let gateways ← rule.stringList "allowed_gateways"
    let interfaces ← rule.stringList "allowed_interfaces"
    return matchIf (outside gateways route.gateway || outside interfaces route.interfaceName) rule
      "Observed route used a gateway or interface outside the configured allowlist."
      ("Unexpected route selection can result from VPNs, failover, local reconfiguration, or " ++
        "traffic redirection and should be correlated with host or network changes.")

def evaluateOne : Except Text (Option ContextRuleMatch) :=
  if rule.enabled = false then .ok none
  else if excludesConnection rule.exclude context.connection
      (correlatedDomains context.nameResolution) then .ok none
  else if rule.engineRuleId = "NET-002" then retransmissionSpike undefined rule context
  else if rule.engineRuleId = "NET-003" then unusualPort rule context
  else if rule.engineRuleId = "NET-004" then rareDestination undefined rule context
  else if rule.engineRuleId = "NET-005" then
    outboundAsymmetry undefined ratioAtLeast rule context
  else if rule.engineRuleId = "DNS-001" then repeatedDnsFailures undefined rule context
  else if rule.engineRuleId = "DNS-002" then dnsMismatch rule context
  else if rule.engineRuleId = "DNS-003" then dnsChurn undefined rule context
  else if rule.engineRuleId = "TLS-001" then tlsValidation rule context
  else if rule.engineRuleId = "TLS-002" then tlsIdentityChange rule context
  else if rule.engineRuleId = "ROUTE-001" then unexpectedRoute rule context
  else .ok none

def evaluateAll : List RuleDefinition → Except Text (List ContextRuleMatch)
  | [] => .ok []
  | rule :: rules => do
    let result ← evaluateOne undefined ratioAtLeast rule context
    return result.toList ++ (← evaluateAll rules)

def evaluate (rules : RuleSet) : Except Text (List ContextRuleMatch) :=
  evaluateAll undefined ratioAtLeast context rules.definitions

end Rules

/-! ### The parameters are there -/

section Admitted
variable {undefined : Conversion} {ratioAtLeast : ℕ → ℕ → Double → Bool}
  {rule : RuleDefinition} {context : ConnectionRuleContext} {name : Text}

lemma reads_ok {α : Type} (a : α) : Reads (.ok a) := ⟨a, rfl⟩

lemma reads_ite {α : Type} {c : Prop} [Decidable c] {r r' : Except Text α} (hr : c → Reads r)
    (hr' : Reads r') : Reads (if c then r else r') := by
  split
  · next hc => exact hr hc
  · exact hr'

lemma unsignedParameter_reads (h : Reads (rule.numeric name)) :
    Reads (unsignedParameter undefined rule name) := h.bind fun _ _ => reads_ok _

variable (h : Admitted undefined rule)
include h

lemma retransmissionSpike_reads (hid : rule.engineRuleId = "NET-002") :
    Reads (retransmissionSpike undefined rule context) := by
  refine (unsignedParameter_reads (h.numeric hid ?_)).bind fun _ _ => reads_ok _
  simp only [evaluatedParameters, mem_cons, true_or]

lemma repeatedDnsFailures_reads (hid : rule.engineRuleId = "DNS-001") :
    Reads (repeatedDnsFailures undefined rule context) := by
  refine (unsignedParameter_reads (h.numeric hid ?_)).bind fun _ _ => reads_ok _
  simp only [evaluatedParameters, mem_cons, true_or, or_true]

lemma dnsChurn_reads (hid : rule.engineRuleId = "DNS-003") :
    Reads (dnsChurn undefined rule context) := by
  refine (unsignedParameter_reads (h.numeric hid ?_)).bind fun _ _ => reads_ok _
  simp only [evaluatedParameters, mem_cons, true_or, or_true]

lemma unusualPort_reads (hid : rule.engineRuleId = "NET-003") :
    Reads (unusualPort rule context) := by
  unfold unusualPort
  split
  · exact reads_ok _
  · exact (h.stringList hid (by simp [evaluatedParameters])).bind fun _ _ => reads_ok _

lemma rareDestination_reads (hid : rule.engineRuleId = "NET-004") :
    Reads (rareDestination undefined rule context) := by
  unfold rareDestination
  split
  · exact reads_ok _
  split
  · exact reads_ok _
  · refine (unsignedParameter_reads (h.numeric hid ?_)).bind fun _ _ => reads_ok _
    simp only [evaluatedParameters, mem_cons, true_or, or_true]

lemma outboundAsymmetry_reads (hid : rule.engineRuleId = "NET-005") :
    Reads (outboundAsymmetry undefined ratioAtLeast rule context) := by
  unfold outboundAsymmetry
  split
  · split
    · exact reads_ok _
    refine (unsignedParameter_reads (h.numeric hid ?_)).bind fun _ _ => ?_
    · simp only [evaluatedParameters, mem_cons, true_or, or_true]
    refine (h.numeric hid ?_).bind fun _ _ => ?_
    · simp only [evaluatedParameters, mem_cons, true_or, or_true]
    refine (unsignedParameter_reads (h.numeric hid ?_)).bind fun _ _ => reads_ok _
    simp only [evaluatedParameters, mem_cons, true_or, or_true]
  · exact reads_ok _

lemma dnsMismatch_reads (hid : rule.engineRuleId = "DNS-002") :
    Reads (dnsMismatch rule context) := by
  unfold dnsMismatch
  split
  · exact reads_ok _
  · exact (h.boolean hid (by simp [evaluatedParameters])).bind fun _ _ => reads_ok _

lemma tlsValidation_reads (hid : rule.engineRuleId = "TLS-001") :
    Reads (tlsValidation rule context) := by
  unfold tlsValidation
  split
  · exact reads_ok _
  · refine (h.boolean hid ?_).bind fun _ _ => (h.boolean hid ?_).bind fun _ _ => reads_ok _
    all_goals simp only [evaluatedParameters, mem_cons, true_or, or_true]

lemma tlsIdentityChange_reads (hid : rule.engineRuleId = "TLS-002") :
    Reads (tlsIdentityChange rule context) := by
  unfold tlsIdentityChange
  split
  · refine (h.boolean hid ?_).bind fun _ _ => (h.boolean hid ?_).bind fun _ _ => reads_ok _
    all_goals simp only [evaluatedParameters, mem_cons, true_or, or_true]
  · exact reads_ok _

lemma unexpectedRoute_reads (hid : rule.engineRuleId = "ROUTE-001") :
    Reads (unexpectedRoute rule context) := by
  unfold unexpectedRoute
  split
  · exact reads_ok _
  · refine (h.stringList hid ?_).bind fun _ _ => (h.stringList hid ?_).bind fun _ _ => reads_ok _
    all_goals simp only [evaluatedParameters, mem_cons, true_or, or_true]

/-- **A definition that the loader has admitted** is evaluated on every connection. -/
lemma evaluateOne_reads : Reads (evaluateOne undefined ratioAtLeast rule context) := by
  refine reads_ite (fun _ => reads_ok _) ?_
  refine reads_ite (fun _ => reads_ok _) ?_
  refine reads_ite (retransmissionSpike_reads h) ?_
  refine reads_ite (unusualPort_reads h) ?_
  refine reads_ite (rareDestination_reads h) ?_
  refine reads_ite (outboundAsymmetry_reads h) ?_
  refine reads_ite (repeatedDnsFailures_reads h) ?_
  refine reads_ite (dnsMismatch_reads h) ?_
  refine reads_ite (dnsChurn_reads h) ?_
  refine reads_ite (tlsValidation_reads h) ?_
  refine reads_ite (tlsIdentityChange_reads h) ?_
  exact reads_ite (unexpectedRoute_reads h) (reads_ok _)

end Admitted

lemma evaluateAll_reads {undefined : Conversion} {ratioAtLeast : ℕ → ℕ → Double → Bool}
    {context : ConnectionRuleContext} {rules : List RuleDefinition}
    (h : ∀ d ∈ rules, Admitted undefined d) :
    Reads (evaluateAll undefined ratioAtLeast context rules) := by
  induction rules with
  | nil => exact reads_ok _
  | cons rule rules ih =>
    obtain ⟨hrule, hrules⟩ := forall_mem_cons.mp h
    refine (evaluateOne_reads hrule).bind fun _ _ => ?_
    exact (ih hrules).bind fun _ _ => reads_ok _

end NetaAgent.ContextRules
