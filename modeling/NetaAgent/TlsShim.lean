import NetaAgent.OutboundTrust

/-!
The OpenSSL shim in an application, which reports a completed session, and the reading of its
reports by the agent.

OpenSSL is what it answers: the names, the texts and the digests of a session. The buffers of a
report are texts up to their terminating NUL.
-/

namespace NetaAgent.TlsShim

open Decimal Crypto Sql Observation HistoryStore TlsSession Verdict Rules Assurance Option

/-! ### What OpenSSL and the system answer -/

/-- A certificate, with what cannot be printed left out. -/
structure Certificate where
  leafDigest : Option (Fin 32 → UInt8)
  spkiDigest : Option (Fin 32 → UInt8)
  subject : Option Text
  issuer : Option Text
  notBefore : Option Text
  notAfter : Option Text

structure Ssl where
  streamSocket : Bool
  errorQueueSafe : Bool
  pid : ℕ
  uid : ℕ
  monotonicNowNs : ℕ
  processStartTicks : ℕ
  networkNamespaceInode : ℕ
  comm : Text
  socketCookie : Option ℕ
  localEndpoint : Option (Text × ℕ)
  remoteEndpoint : Option (Text × ℕ)
  version : Text
  cipher : Option Text
  alpn : Text
  servername : Option Text
  /-- `X509_VERIFY_PARAM_get0_host`. -/
  expected : Option Text
  /-- `SSL_get0_peername`: the entry of the certificate that matched. -/
  matched : Option Text
  verifyPeer : Bool
  verifyResult : ℤ
  peerCertificate : Option Certificate

/-! ### The report -/

inductive Role where
  | client
  | server
  deriving DecidableEq

/-- `neta_tls_session_wire_event`; the bits of `availability` are the truth values. -/
structure WireEvent where
  role : Role
  pid : ℕ := 0
  uid : ℕ := 0
  observedNs : ℕ := 0
  processStartTicks : ℕ := 0
  networkNamespaceInode : ℕ := 0
  socketCookie : ℕ := 0
  verifyResult : ℤ := 0
  localPort : ℕ := 0
  remotePort : ℕ := 0
  comm : Text := []
  localAddress : Text := []
  remoteAddress : Text := []
  tlsVersion : Text := []
  cipher : Text := []
  alpn : Text := []
  sni : Text := []
  expectedPeerName : Text := []
  matchedPeerName : Text := []
  leafSha256 : Text := []
  spkiSha256 : Text := []
  subject : Text := []
  issuer : Text := []
  notBefore : Text := []
  notAfter : Text := []
  hasStartTicks : Bool := false
  hasNetns : Bool := false
  hasCookie : Bool := false
  hasLocal : Bool := false
  hasRemote : Bool := false
  hasAlpn : Bool := false
  hasSni : Bool := false
  hasExpectedPeerName : Bool := false
  hasMatchedPeerName : Bool := false
  hasPeerCert : Bool := false
  peerVerificationRequired : Bool := false
  hasVerifyResult : Bool := false
  peerAuthenticated : Bool := false
  hasSubject : Bool := false
  hasIssuer : Bool := false
  hasNotBefore : Bool := false
  hasNotAfter : Bool := false
  isPartial : Bool := false

def nameLength : ℕ := 256
def hashLength : ℕ := 65
def dnLength : ℕ := 384
def timeLength : ℕ := 48

variable (available : Bool) (wire : WireEvent) (capacity : ℕ)

/-- `copy_text`: the text that fits before the NUL, and whether it is all of it. -/
def copyText (source : Option Text) : Text × Bool :=
  match source with
  | none => ([], true)
  | some t => ((bindText t).take (capacity - 1), (bindText t).length < capacity)

/-- A digest as `hex_digest` writes it. -/
def digestText (digest : Option (Fin 32 → UInt8)) : Text × Bool :=
  match digest with
  | none => ([], false)
  | some d => copyText hashLength (some (finalizeHex d))

/-- `bio_to_buffer` of what was printed. -/
def printedText (printed : Option Text) : Text × Bool :=
  match printed with
  | none => ([], false)
  | some t => (bindText (t.take (capacity - 1)), t ≠ [] && t.length ≤ capacity - 1)

def fillCertificate (event : WireEvent) (certificate : Certificate) : WireEvent :=
  let leaf := digestText certificate.leafDigest
  let spki := digestText certificate.spkiDigest
  let subject := printedText dnLength certificate.subject
  let issuer := printedText dnLength certificate.issuer
  let notBefore := printedText timeLength certificate.notBefore
  let notAfter := printedText timeLength certificate.notAfter
  { event with
    hasPeerCert := true
    leafSha256 := leaf.1
    spkiSha256 := spki.1
    subject := subject.1
    hasSubject := subject.2
    issuer := issuer.1
    hasIssuer := issuer.2
    notBefore := notBefore.1
    hasNotBefore := notBefore.2
    notAfter := notAfter.1
    hasNotAfter := notAfter.2
    isPartial := !(leaf.2 && spki.2 && subject.2 && issuer.2 && notBefore.2 && notAfter.2) ||
      event.isPartial }

variable (ssl : Ssl) (role : Role)

/-- The report before the certificate has been looked at. -/
def sessionEvent : WireEvent where
  role
  pid := ssl.pid
  uid := ssl.uid
  observedNs := ssl.monotonicNowNs
  processStartTicks := ssl.processStartTicks
  hasStartTicks := ssl.processStartTicks ≠ 0
  networkNamespaceInode := ssl.networkNamespaceInode
  hasNetns := ssl.networkNamespaceInode ≠ 0
  comm := (copyText 16 (some ssl.comm)).1
  socketCookie := ssl.socketCookie.getD 0
  hasCookie := ssl.socketCookie.any (· ≠ 0)
  localAddress := ((ssl.localEndpoint.map Prod.fst).getD [])
  localPort := ((ssl.localEndpoint.map Prod.snd).getD 0)
  hasLocal := ssl.localEndpoint.isSome
  remoteAddress := ((ssl.remoteEndpoint.map Prod.fst).getD [])
  remotePort := ((ssl.remoteEndpoint.map Prod.snd).getD 0)
  hasRemote := ssl.remoteEndpoint.isSome
  tlsVersion := (copyText 32 (some ssl.version)).1
  cipher := (copyText 128 ssl.cipher).1
  alpn := ssl.alpn.take 64
  hasAlpn := ssl.alpn ≠ []
  sni := (copyText nameLength ssl.servername).1
  hasSni := ssl.servername.isSome
  expectedPeerName := (copyText nameLength ssl.expected).1
  hasExpectedPeerName := ssl.expected.isSome
  matchedPeerName := (copyText nameLength ssl.matched).1
  hasMatchedPeerName := ssl.matched.isSome
  verifyResult := ssl.verifyResult
  hasVerifyResult := true
  peerVerificationRequired := ssl.verifyPeer

def complete : Bool :=
  (copyText 32 (some ssl.version)).2 && (copyText 128 ssl.cipher).2 && ssl.alpn.length ≤ 64 &&
    (copyText nameLength ssl.servername).2 && (copyText nameLength ssl.expected).2 &&
    (copyText nameLength ssl.matched).2

def verifiedClient : Bool :=
  role = .server && ssl.verifyPeer && ssl.verifyResult = 0

def verifiedServerName : Bool :=
  role = .client && ssl.verifyResult = 0 && ssl.expected.isSome && ssl.matched.isSome

/-- `emit_session`: the report that is sent. -/
def emitSession : Option WireEvent :=
  if ssl.streamSocket = false ∨ ssl.errorQueueSafe = false then none
  else
    let event := sessionEvent ssl role
    let event := match ssl.peerCertificate with
      | none => event
      | some certificate =>
        { fillCertificate event certificate with
          peerAuthenticated := verifiedClient ssl role || verifiedServerName ssl role }
    some { event with isPartial := event.isPartial || !complete ssl }

/-! ### Reading a report -/

def Role.toRole : Role → TlsSessionRole
  | .client => .client
  | .server => .server

def optionalText (text : Text) : Option Text :=
  if available then some text else none

def nonzero (n : ℕ) : Option ℕ := if available ∧ n ≠ 0 then some n else none

def observationOf : TlsSessionObservation where
  localRole := wire.role.toRole
  observedNs := wire.observedNs
  process :=
    { pid := wire.pid
      uid := wire.uid
      comm := wire.comm
      startTicks := nonzero wire.hasStartTicks wire.processStartTicks }
  networkNamespaceInode := nonzero wire.hasNetns wire.networkNamespaceInode
  socketCookie := nonzero wire.hasCookie wire.socketCookie
  localEndpoint := if wire.hasLocal then ⟨wire.localAddress, wire.localPort⟩ else {}
  remoteEndpoint := if wire.hasRemote then ⟨wire.remoteAddress, wire.remotePort⟩ else {}
  tlsVersion := wire.tlsVersion
  cipher := wire.cipher
  alpn := if wire.hasAlpn then wire.alpn else []
  sni := if wire.hasSni then wire.sni else []
  expectedPeerName := optionalText wire.hasExpectedPeerName wire.expectedPeerName
  matchedPeerName := optionalText wire.hasMatchedPeerName wire.matchedPeerName
  peerCertificatePresent := wire.hasPeerCert
  peerVerificationRequired := wire.peerVerificationRequired
  verifyResult := if wire.hasVerifyResult then some wire.verifyResult else none
  peerAuthenticated := wire.peerAuthenticated
  leafSha256 := if wire.hasPeerCert then wire.leafSha256 else []
  spkiSha256 := if wire.hasPeerCert then wire.spkiSha256 else []
  subject := if wire.hasSubject then wire.subject else []
  issuer := if wire.hasIssuer then wire.issuer else []
  notBefore := if wire.hasNotBefore then wire.notBefore else []
  notAfter := if wire.hasNotAfter then wire.notAfter else []
  fidelity := if wire.isPartial then .supporting else .exact
  source := "openssl3:application-shim"

/-- `decode_tls_session_event` of a whole report of the same version. -/
def decodeTlsSessionEvent (credentialPid : Option ℤ) (credentialUid : Option ℕ) :
    Except Text TlsSessionObservation :=
  match credentialPid, credentialUid with
  | some pid, some uid =>
    if pid ≠ wire.pid ∨ uid ≠ wire.uid then
      .error "TLS session sender credentials do not match payload identity"
    else if wire.hasAlpn ∧ 64 < wire.alpn.length then
      .error "invalid TLS session ALPN length"
    else .ok (observationOf wire)
  | _, _ => .error "TLS session event has no kernel sender credentials"

variable {wire : WireEvent} {o : TlsSessionObservation}

lemma decodeTlsSessionEvent_ok {pid : Option ℤ} {uid : Option ℕ}
    (h : decodeTlsSessionEvent wire pid uid = .ok o) : o = observationOf wire := by
  unfold decodeTlsSessionEvent at h
  split at h
  · split at h
    · cases h
    · split at h
      · cases h
      · cases h
        rfl
  · cases h

/-! ### Authenticated servers -/

lemma copyText_fits {capacity : ℕ} {t : Text} (h : (copyText capacity (some t)).2 = true) :
    (copyText capacity (some t)).1 = bindText t := by
  have hlt : (bindText t).length < capacity := of_decide_eq_true h
  exact List.take_of_length_le (by omega)

lemma optionalText_copy {capacity : ℕ} {source : Option Text}
    (h : (copyText capacity source).2 = true) :
    optionalText source.isSome (copyText capacity source).1 = source.map bindText := by
  cases source with
  | none => rfl
  | some t => rw [copyText_fits h]; rfl

lemma digestText_ne_nil {digest : Option (Fin 32 → UInt8)} (h : (digestText digest).2 = true) :
    bindText (digestText digest).1 ≠ [] := by
  cases digest with
  | none => cases h
  | some d =>
    have hcopy : (digestText (some d)).1 = finalizeHex d := by
      rw [digestText, copyText_fits h, bindText_finalizeHex]
    rw [hcopy, bindText_finalizeHex]
    intro hnil
    have hlen := length_finalizeHex d
    rw [hnil] at hlen
    cases hlen

lemma emitted_authenticated {ssl : Ssl}
    (hwire : emitSession ssl .client = some wire) (hauth : wire.peerAuthenticated = true)
    (hwhole : wire.isPartial = false) :
    ssl.expected.isSome = true ∧ ssl.matched.isSome = true ∧
      (observationOf wire).localRole = .client ∧
      (observationOf wire).peerCertificatePresent = true ∧
      (observationOf wire).peerAuthenticated = true ∧ (observationOf wire).verifyResult = some 0 ∧
      (observationOf wire).expectedPeerName = ssl.expected.map bindText ∧
      (observationOf wire).matchedPeerName = ssl.matched.map bindText ∧
      bindText (observationOf wire).spkiSha256 ≠ [] := by
  unfold emitSession at hwire
  split at hwire
  · cases hwire
  · cases hcert : ssl.peerCertificate with
    | none =>
      simp only [hcert, some.injEq] at hwire
      rw [← hwire] at hauth
      cases hauth
    | some certificate =>
      simp only [hcert, some.injEq] at hwire
      subst hwire
      -- the bit and the missing mark of a cut text, as conditions on the session
      have hverified : (verifiedClient ssl .client || verifiedServerName ssl .client) = true := hauth
      have hcut : ((fillCertificate (sessionEvent ssl .client) certificate).isPartial ||
        !complete ssl) = false := hwhole
      simp only [verifiedClient, verifiedServerName, reduceCtorEq, decide_false, Bool.false_and,
        Bool.false_or, decide_true, Bool.true_and, Bool.and_eq_true, decide_eq_true_eq] at hverified
      obtain ⟨⟨hresult, hexpected⟩, hmatched⟩ := hverified
      simp only [fillCertificate, sessionEvent, complete, Bool.or_eq_false_iff, Bool.not_eq_false',
        Bool.and_eq_true] at hcut
      obtain ⟨⟨⟨⟨⟨⟨⟨-, hspki⟩, -⟩, -⟩, -⟩, -⟩, -⟩, ⟨-, hcopy⟩, hcopy'⟩ := hcut
      refine ⟨hexpected, hmatched, rfl, rfl, hauth, ?_, ?_, ?_, ?_⟩
      · exact congrArg some hresult
      · exact optionalText_copy hcopy
      · exact optionalText_copy hcopy'
      · exact digestText_ne_nil hspki

/-! ### Evaluation and acceptance -/

lemma correlateTlsSession_evidence {connections : List ConnectionSummary}
    {policy : TlsSessionCorrelationPolicy} {e : TlsSessionEvidence}
    (h : (correlateTlsSession o connections policy).evidence = some e) :
    e.observation = o ∧ e.relation = relationFor o := by
  unfold correlateTlsSession at h
  dsimp only at h
  split at h
  · split at h
    · cases h
    · cases h
  · cases h
    exact ⟨rfl, rfl⟩
  · cases h

/-- The observation of an authenticated server has a valid chain; its name is valid just when the
entry of the certificate that matched is the expected name itself. -/
lemma authenticated_observation {ssl : Ssl}
    (hwire : emitSession ssl .client = some wire) (hauth : wire.peerAuthenticated = true)
    (hwhole : wire.isPartial = false) :
    chainValid (boundObservation (observationOf wire)) = true ∧
      (hostnameValid (boundObservation (observationOf wire)) = true ↔
        ssl.expected.map bindText = ssl.matched.map bindText) ∧
      (boundObservation (observationOf wire)).spkiSha256 ≠ [] := by
  obtain ⟨hexpected, hmatched, -, -, hbit, hresult, hname, hname', hspki⟩ :=
    emitted_authenticated hwire hauth hwhole
  obtain ⟨expected, he⟩ := isSome_iff_exists.mp hexpected
  obtain ⟨matched, hm⟩ := isSome_iff_exists.mp hmatched
  refine ⟨?_, ?_, hspki⟩
  · simp [chainValid, boundObservation, hbit, hresult]
  · simp [hostnameValid, boundObservation, hname, hname', he, hm]

section Acceptance

variable {o : Oracle StoreError} (hfails : ∀ n, o.fails n = none)
include hfails

lemma saveVerdict_ne_refusal (id : ℕ) (v : AssuranceVerdict) (s : Session Archive) :
    (Assurance.saveVerdict id v none o s).1 ≠ .error refusal := by
  unfold Assurance.saveVerdict
  cases hid : s.db.history.hasConnection id with
  | true =>
    rw [bind_apply_ok (statement_steady hfails (a := ()) (by simp only [hid]; rfl))]
    rw [Sql.modify, statement_steady hfails rfl]
    simp
  | false =>
    have hrow : ∀ f : Archive → Archive, (statement (fun _ (a : Archive) =>
        if a.history.hasConnection id && (none : Option ℕ).all a.history.hasTls then .ok ((), f a)
        else .error StoreError.foreignKey) : ArchiveM Unit) o s =
          (.error .foreignKey, { s with count := s.count + 1 }) := by
      intro f
      simp [statement, hfails, hid]
    rw [bind_apply_error (hrow fun a => a.putVerdict id v none)]
    simp [refusal]

omit hfails in
lemma fail_ne_refusal {message : String} (h : message.toList.head? ≠ some 'r')
    (s : Session Archive) : (fail message o s : Except StoreError Baseline × Session Archive).1 ≠
      .error refusal := by
  intro heq
  simp only [fail, throwing, refusal, Except.error.injEq, StoreError.failed.injEq] at heq
  rw [heq] at h
  exact h rfl

lemma acceptOutboundConnectionBaseline_ne_refusal (m : Machine) (rules : RuleSet) (now id : ℕ)
    (s : Session Archive) (hvalid : ∀ c, (exactTlsObservation m.sha c
      (s.db.evidence.tlsSessionEvidenceForConnection id)).any refused = false) :
    (acceptOutboundConnectionBaseline m rules now id o s).1 ≠ .error refusal := by
  unfold acceptOutboundConnectionBaseline
  rw [bind_apply_ok (lookup_steady hfails)]
  cases hc : s.db.history.connection id with
  | none => exact fail_ne_refusal (by decide) _
  | some c =>
    simp only [acceptTarget]
    by_cases hdir : c.direction = .outbound
    · by_cases htarget : targetHost c = [] ∨ c.remotePort = 0
      · simp only [hdir, htarget, ne_eq, not_true, if_false, if_true]
        exact fail_ne_refusal (by decide) _
      · simp only [hdir, htarget, ne_eq, not_true, if_false]
        rw [bind_apply_ok (scan_steady hfails)]
        split
        · exact fail_ne_refusal (by decide) _
        · rw [bind_apply_ok (tlsSessionEvidence_steady hfails)]
          simp only [hvalid c, Bool.false_eq_true, if_false]
          rw [Sql.modify, bind_apply_ok (statement_steady hfails rfl), samplesForConnection,
            bind_apply_ok (scan_steady hfails)]
          intro h
          rcases hsave : saveVerdict id _ none o _ with ⟨e | u, s'⟩
          · rw [bind_apply_error hsave] at h
            simp only [Except.error.injEq] at h
            exact saveVerdict_ne_refusal hfails _ _ _ (by rw [hsave, h])
          · rw [bind_apply_ok hsave] at h
            cases h
    · simp only [hdir, ne_eq, not_false_iff, if_true]
      exact fail_ne_refusal (by decide) _

end Acceptance

/-- **Authenticated servers are valid**, when the entry of the certificate that matched is the
expected name: the observation made of the exact evidence has a valid chain and name, it is never
suspicious, and its acceptance is never refused. -/
theorem authenticated_server_valid (m : Machine) {ssl : Ssl} {wire : WireEvent} {pid : Option ℤ}
    {uid : Option ℕ} {observation : TlsSessionObservation} {connections : List ConnectionSummary}
    {policy : TlsSessionCorrelationPolicy} {e : TlsSessionEvidence}
    {evidence : List TlsSessionEvidence} (c : ConnectionSummary)
    (hwire : emitSession ssl .client = some wire) (hauth : wire.peerAuthenticated = true)
    (hdecode : decodeTlsSessionEvent wire pid uid = .ok observation)
    (hcorrelate : (correlateTlsSession observation connections policy).evidence = some e)
    (hexact : isExact e = true)
    (hfirst : exactOutboundIdentity evidence = some (boundEvidence e))
    (hname : ssl.matched = ssl.expected) :
    ∃ tls, exactTlsObservation m.sha c evidence = some tls ∧
      tls.chainValid = true ∧ tls.hostnameValid = true ∧
      (∀ baseline metrics rules, (evaluate m baseline metrics (some tls) rules).trust ≠ .suspicious) ∧
      (∀ (rules : RuleSet) (now id : ℕ) (o : Oracle StoreError) (s : Session Archive),
        (∀ n, o.fails n = none) → s.db.evidence.tlsSessionEvidenceForConnection id = evidence →
        (acceptOutboundConnectionBaseline m rules now id o s).1 ≠ .error refusal) := by
  obtain ⟨hobs, -⟩ := correlateTlsSession_evidence hcorrelate
  have hwire' := decodeTlsSessionEvent_ok hdecode
  have hwhole : wire.isPartial = false := by
    simp only [isExact, Bool.and_eq_true, decide_eq_true_eq] at hexact
    have hfidelity := hexact.1
    rw [hobs, hwire'] at hfidelity
    by_contra hpartial
    simp [observationOf, hpartial] at hfidelity
  obtain ⟨hchain, hhost, hspki⟩ := authenticated_observation hwire hauth hwhole
  have hvalid : hostnameValid (boundObservation (observationOf wire)) = true :=
    hhost.mpr (by rw [hname])
  have hstored : (boundEvidence e).observation = boundObservation (observationOf wire) := by
    rw [← hwire', ← hobs]
    rfl
  have htls : ∀ c', exactTlsObservation m.sha c' evidence =
      some (sessionTlsObservation m.sha c' (boundEvidence e)) := by
    intro c'
    rw [exactTlsObservation, hfirst, map_some]
  refine ⟨_, htls c, ?_, ?_, ?_, ?_⟩
  · rw [← hchain, ← hstored]
    rfl
  · rw [← hvalid, ← hstored]
    rfl
  · intro baseline metrics rules
    refine outboundTrust_ne_suspicious ?_ ?_
    · rw [← hchain, ← hstored]
      rfl
    · rw [← hvalid, ← hstored]
      rfl
  · intro rules now id o s hfails hread
    refine acceptOutboundConnectionBaseline_ne_refusal hfails m rules now id s fun c' => ?_
    rw [hread, htls c']
    simp only [any_some, refused, sessionTlsObservation, hstored, hchain, hvalid, hspki,
      Bool.not_true, Bool.false_or, decide_false]

/-- A session with `expected` as the host, whose certificate has the entry `matched`. -/
def sampleSsl (expected matched : String) : Ssl where
  streamSocket := true
  errorQueueSafe := true
  pid := 10
  uid := 0
  monotonicNowNs := 5
  processStartTicks := 3
  networkNamespaceInode := 0
  comm := []
  socketCookie := some 9
  localEndpoint := none
  remoteEndpoint := none
  version := []
  cipher := none
  alpn := []
  servername := none
  expected := some expected.toList
  matched := some matched.toList
  verifyPeer := true
  verifyResult := 0
  peerCertificate := some ⟨some fun _ => 0, some fun _ => 0, some ['s'], some ['i'], some ['b'],
    some ['a']⟩

def sampleClient : ConnectionSummary :=
  { id := 1
    firstSeenNs := 1
    direction := .outbound
    socketCookie := 9
    process := { pid := 10 }
    targetHost := ['h']
    remotePort := 443 }

/-- A certificate for the host by its own name. -/
theorem authenticated_server_valid_same_name :
    ∃ wire observation e,
      emitSession (sampleSsl "a.b" "a.b") .client = some wire ∧ wire.peerAuthenticated = true ∧
      decodeTlsSessionEvent wire (some 10) (some 0) = .ok observation ∧
      (correlateTlsSession observation [sampleClient] defaultPolicy).evidence = some e ∧
      isExact e = true ∧
      ∃ tls, exactTlsObservation sampleMachine.sha sampleClient [boundEvidence e] = some tls ∧
        tls.chainValid = true ∧ tls.hostnameValid = true := by
  refine ⟨_, _, _, rfl, rfl, rfl, rfl, rfl, Exists.imp (fun tls
    (h : exactTlsObservation sampleMachine.sha sampleClient _ = some tls ∧ _ ∧ _ ∧ _) =>
      ⟨h.1, h.2.1, h.2.2.1⟩) (authenticated_server_valid sampleMachine sampleClient
        (show emitSession (sampleSsl "a.b" "a.b") .client = some _ from rfl) rfl
        (show decodeTlsSessionEvent _ (some 10) (some 0) = .ok _ from rfl)
        (show (correlateTlsSession _ [sampleClient] defaultPolicy).evidence = some _ from rfl)
        rfl rfl rfl)⟩

/-- The sample connection with evidence and enough samples to accept it. -/
def sampledArchive (item : TlsSessionEvidence) : Archive :=
  { sampleArchive [item] with
    history := { (sampleArchive [item]).history with
      transportSamples := [1, 2, 3, 4, 5].foldl (fun t n => t.add (fun id =>
        ⟨id, 1, { observedNs := n, rttUs := 7 }, []⟩) fun _ => rfl) .empty } }

/-- A certificate for the host by a wildcard: the session is authenticated and the evidence is
exact, the connection is suspicious with the accepted key, and its acceptance is refused. -/
theorem authenticated_server_wildcard :
    ∃ wire observation e tls,
      emitSession (sampleSsl "a.b" "*.b") .client = some wire ∧ wire.peerAuthenticated = true ∧
      decodeTlsSessionEvent wire (some 10) (some 0) = .ok observation ∧
      (correlateTlsSession observation [sampleClient] defaultPolicy).evidence = some e ∧
      isExact e = true ∧
      exactTlsObservation sampleMachine.sha sampleClient [boundEvidence e] = some tls ∧
      tls.chainValid = true ∧ tls.hostnameValid = false ∧
      (evaluate sampleMachine ⟨0, ['h'], 443, 0, 0, tls.spkiSha256, [], 5, 1, []⟩ {} (some tls)
        {}).trust = .suspicious ∧
      (acceptOutboundConnectionBaseline sampleMachine {} 9 1 steadyOracle
        ⟨sampledArchive (boundEvidence e), 0⟩).1 = .error refusal :=
  ⟨_, _, _, _, rfl, rfl, rfl, rfl, rfl, rfl, rfl, rfl, rfl, rfl⟩

end NetaAgent.TlsShim
