import NetaAgent.Archive

/-!
Baselines of outbound connections: the TLS identity an exact session shows, the acceptance of a
baseline, and the evaluation of a connection against the accepted one.
-/

namespace NetaAgent.Assurance

open Decimal Crypto Sql Observation HistoryStore TlsSession Verdict Rules Option

variable (sha : Sha256) (c : ConnectionSummary)

def targetHost : Text := if c.targetHost ≠ [] then c.targetHost else c.remoteIp

def median (values : List ℕ) : ℕ :=
  let sorted := values.insertionSort fun a b => a ≤ b
  let middle := values.length / 2
  if values = [] then 0
  else if values.length % 2 ≠ 0 then sorted.getD middle 0
  else (sorted.getD (middle - 1) 0 + sorted.getD middle 0) / 2

/-! ### The identity of the server -/

def isServerIdentity (item : TlsSessionEvidence) : Bool :=
  isExact item && item.relation = .outboundServerIdentity

variable (session : TlsSessionObservation) (evidence : List TlsSessionEvidence)

def exactOutboundIdentity : Option TlsSessionEvidence :=
  evidence.find? isServerIdentity

def chainValid : Bool :=
  session.peerAuthenticated && session.verifyResult.all (· = 0)

def hostnameValid : Bool :=
  match session.expectedPeerName, session.matchedPeerName with
  | some expected, some matched => expected = matched
  | _, _ => false

/-- What a session shows of the server, as a TLS observation. -/
def sessionTlsObservation (exact : TlsSessionEvidence) : TlsObservation where
  targetHost := targetHost c
  targetPort := c.remotePort
  observedNs := exact.observation.observedNs
  tlsVersion := exact.observation.tlsVersion
  cipher := exact.observation.cipher
  alpn := exact.observation.alpn
  leafSha256 := exact.observation.leafSha256
  spkiSha256 := exact.observation.spkiSha256
  subject := exact.observation.subject
  issuer := exact.observation.issuer
  notBefore := exact.observation.notBefore
  notAfter := exact.observation.notAfter
  chainValid := chainValid exact.observation
  hostnameValid := hostnameValid exact.observation
  sha256 := tlsSessionEvidenceHash sha exact

def exactTlsObservation : Option TlsObservation :=
  (exactOutboundIdentity evidence).map (sessionTlsObservation sha c)

/-! ### Acceptance and evaluation -/

/-- `ensure_tls_session_schema` and the query. -/
def tlsSessionEvidenceForConnection (id : ℕ) : ArchiveM (List TlsSessionEvidence) := do
  query fun _ => ()
  scan fun _ (a : Archive) => a.evidence.tlsSessionEvidenceForConnection id

def samplesForConnection (id : ℕ) : ArchiveM (List TcpSnapshot) :=
  scan fun _ (a : Archive) => a.history.samplesForConnection id

def outboundBaselineText (b : Baseline) : Text :=
  b.targetHost ++ ':' :: decimal b.targetPort ++ '|' :: decimal b.rttMedianUs ++
    '|' :: decimal b.rttvarMedianUs ++ '|' :: b.acceptedSpkiSha256 ++ '|' :: b.acceptedIssuer ++
    '|' :: decimal b.sampleCount

/-- The baseline of the samples of a target and the identity of its server. -/
def outboundBaseline (host : Text) (port : ℕ) (samples : List TcpSnapshot)
    (tls : Option TlsObservation) (now : ℕ) : Baseline :=
  let timed := samples.filter fun s => s.rttUs ≠ 0
  let b : Baseline :=
    { id := 0
      targetHost := host
      targetPort := port
      rttMedianUs := median (timed.map TcpSnapshot.rttUs)
      rttvarMedianUs := median ((timed.map TcpSnapshot.rttVarianceUs).filter (· ≠ 0))
      acceptedSpkiSha256 := (tls.map TlsObservation.spkiSha256).getD []
      acceptedIssuer := (tls.map TlsObservation.issuer).getD []
      sampleCount := samples.length
      createdNs := now
      sha256 := [] }
  { b with sha256 := sha256Hex sha (outboundBaselineText b) }

def refused (tls : TlsObservation) : Bool :=
  !tls.chainValid || !tls.hostnameValid || tls.spkiSha256 = []

def refusal : StoreError :=
  .failed "refusing to accept invalid or incomplete exact TLS server identity"

section Programs

variable (m : Machine) (rules : RuleSet)

def acceptTarget (now id : ℕ) (c : ConnectionSummary) : ArchiveM Baseline := do
  if c.direction ≠ .outbound then fail "outbound baselines require an OUTBOUND connection"
  else if targetHost c = [] ∨ c.remotePort = 0 then fail "connection has no stable remote target"
  else
    let samples ← scan fun _ (a : Archive) =>
      a.history.recentSamplesForTarget (targetHost c) c.remotePort 200
    if (samples.filter fun s => s.rttUs ≠ 0).length < 5 then
      fail "outbound baseline requires at least 5 persisted RTT-bearing target samples"
    else
      let tls := exactTlsObservation m.sha c (← tlsSessionEvidenceForConnection id)
      if tls.any refused then throwing refusal
      else
        let baseline := outboundBaseline m.sha (targetHost c) c.remotePort samples tls now
        modify fun a => a.saveBaseline baseline
        let metrics := aggregateMetrics (← samplesForConnection id)
        saveVerdict id (evaluate m baseline metrics tls rules) none
        return baseline

def acceptOutboundConnectionBaseline (now id : ℕ) : ArchiveM Baseline := do
  match ← lookup fun _ (a : Archive) => a.history.connection id with
  | none => fail "connection not found"
  | some c => acceptTarget m rules now id c

/-- What follows when the connection and its baseline have been found. -/
def evaluateAgainst (id : ℕ) (c : ConnectionSummary) (baseline : Baseline) :
    ArchiveM AssuranceVerdict := do
  let tls := exactTlsObservation m.sha c (← tlsSessionEvidenceForConnection id)
  let metrics := aggregateMetrics (← samplesForConnection id)
  let verdict := evaluate m baseline metrics tls rules
  saveVerdict id verdict none
  return verdict

def evaluateOutboundConnection (id : ℕ) : ArchiveM (Option AssuranceVerdict) := do
  match ← lookup fun _ (a : Archive) => a.history.connection id with
  | none => return none
  | some c =>
    if c.direction ≠ .outbound then return none
    else
      match ← lookup fun _ (a : Archive) => a.history.baselineFor (targetHost c) c.remotePort with
      | none => return none
      | some baseline => return some (← evaluateAgainst m rules id c baseline)

end Programs

/-! ### Evaluation where no statement fails -/

structure OutboundInput where
  connection : ConnectionSummary
  baseline : Baseline
  samples : List TcpSnapshot
  evidence : List TlsSessionEvidence

def Archive.outboundInput (a : Archive) (id : ℕ) : Option OutboundInput := do
  let c ← a.history.connection id
  if c.direction ≠ .outbound then none
  else
    let baseline ← a.history.baselineFor (targetHost c) c.remotePort
    return ⟨c, baseline, a.history.samplesForConnection id,
      a.evidence.tlsSessionEvidenceForConnection id⟩

def OutboundInput.verdict (m : Machine) (rules : RuleSet) (i : OutboundInput) : AssuranceVerdict :=
  evaluate m i.baseline (aggregateMetrics i.samples)
    (exactTlsObservation m.sha i.connection i.evidence) rules

lemma hasConnection_of_connection {db : Store} {id : ℕ} {c : ConnectionSummary}
    (h : db.connection id = some c) : db.hasConnection id = true := by
  obtain ⟨r, hr, -⟩ := map_eq_some_iff.mp h
  exact Store.hasConnection_iff.mpr ⟨r, Table.find_eq_some.mp hr⟩

section Steady

variable {o : Oracle StoreError} (hfails : ∀ n, o.fails n = none)
include hfails

variable {s : Session Archive}

lemma saveVerdict_steady {id : ℕ} (v : AssuranceVerdict)
    (hid : s.db.history.hasConnection id = true) : ∃ s', saveVerdict id v none o s = (.ok (), s') := by
  unfold saveVerdict
  rw [bind_apply_ok (statement_steady hfails (a := ()) (by simp only [hid]; rfl))]
  exact ⟨_, statement_steady hfails rfl⟩

lemma tlsSessionEvidence_steady {id : ℕ} :
    tlsSessionEvidenceForConnection id o s =
      (.ok (s.db.evidence.tlsSessionEvidenceForConnection id), ⟨s.db, s.count + 1 + 1⟩) := by
  unfold tlsSessionEvidenceForConnection query
  rw [bind_apply_ok (statement_steady hfails rfl), scan_steady hfails]

lemma evaluateAgainst_steady (m : Machine) (rules : RuleSet) {id : ℕ}
    (c : ConnectionSummary) (baseline : Baseline) (hid : s.db.history.hasConnection id = true) :
    ∃ s', evaluateAgainst m rules id c baseline o s =
      (.ok (OutboundInput.verdict m rules ⟨c, baseline, s.db.history.samplesForConnection id,
        s.db.evidence.tlsSessionEvidenceForConnection id⟩), s') := by
  unfold evaluateAgainst
  rw [bind_apply_ok (tlsSessionEvidence_steady hfails), samplesForConnection,
    bind_apply_ok (scan_steady hfails)]
  obtain ⟨s', hsave⟩ := saveVerdict_steady hfails (s := ⟨s.db, s.count + 1 + 1 + 1⟩)
    (OutboundInput.verdict m rules ⟨c, baseline, s.db.history.samplesForConnection id,
      s.db.evidence.tlsSessionEvidenceForConnection id⟩) hid
  exact ⟨s', bind_apply_ok hsave⟩

theorem evaluateOutboundConnection_steady (m : Machine) (rules : RuleSet) (s : Session Archive)
    (id : ℕ) : (evaluateOutboundConnection m rules id o s).1 =
      .ok ((s.db.outboundInput id).map (OutboundInput.verdict m rules)) := by
  unfold evaluateOutboundConnection Archive.outboundInput
  rw [bind_apply_ok (lookup_steady hfails)]
  cases hc : s.db.history.connection id with
  | none => rfl
  | some c =>
    by_cases hdir : c.direction = .outbound
    · simp only [bind_eq_bind, bind_some, hdir, ne_eq, not_true, if_false]
      rw [bind_apply_ok (lookup_steady hfails)]
      cases hb : s.db.history.baselineFor (targetHost c) c.remotePort with
      | none => rfl
      | some b =>
        obtain ⟨s', hrun⟩ := evaluateAgainst_steady hfails m rules
          (s := ⟨s.db, s.count + 1 + 1⟩) c b (hasConnection_of_connection hc)
        simp only [bind_apply_ok hrun]
        rfl
    · simp only [bind_eq_bind, bind_some, hdir, ne_eq, not_false_iff, if_true]
      rfl

end Steady

end NetaAgent.Assurance
