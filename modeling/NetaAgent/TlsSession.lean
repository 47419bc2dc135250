import NetaAgent.HistoryQueries
import NetaAgent.TextOrder

/-!
TLS sessions that applications report: their correlation with a connection, and the hashes of the
evidence.
-/

namespace NetaAgent.TlsSession

open Decimal Crypto TextOrder Observation HistoryStore List

inductive TlsSessionRole where
  | unknown
  | client
  | server
  deriving DecidableEq

inductive TlsSessionRelation where
  | unknown
  | outboundTlsSession
  | outboundServerIdentity
  | inboundTlsSession
  | inboundClientIdentity
  deriving DecidableEq

structure TlsSessionEndpoint where
  address : Text := []
  port : ℕ := 0
  deriving DecidableEq

structure TlsSessionObservation where
  observedNs : ℕ := 0
  localRole : TlsSessionRole := .unknown
  process : ProcessIdentity := {}
  networkNamespaceInode : Option ℕ := none
  socketCookie : Option ℕ := none
  localEndpoint : TlsSessionEndpoint := {}
  remoteEndpoint : TlsSessionEndpoint := {}
  tlsVersion : Text := []
  cipher : Text := []
  alpn : Text := []
  sni : Text := []
  expectedPeerName : Option Text := none
  matchedPeerName : Option Text := none
  peerCertificatePresent : Bool := false
  peerVerificationRequired : Bool := false
  verifyResult : Option ℤ := none
  peerAuthenticated : Bool := false
  leafSha256 : Text := []
  spkiSha256 : Text := []
  subject : Text := []
  issuer : Text := []
  notBefore : Text := []
  notAfter : Text := []
  fidelity : EvidenceFidelity := .contextual
  source : Text := []
  deriving DecidableEq

structure TlsSessionEvidence where
  observation : TlsSessionObservation := {}
  relation : TlsSessionRelation := .unknown
  correlationFidelity : EvidenceFidelity := .contextual
  deriving DecidableEq

inductive TlsSessionCorrelationStatus where
  | noMatch
  | awaitingIdentity
  | matched
  | ambiguous
  deriving DecidableEq

/-- `tuple_max_age_ns` of `TlsSessionCorrelationPolicy`. -/
abbrev TlsSessionCorrelationPolicy := ℕ

def defaultPolicy : TlsSessionCorrelationPolicy := 30000000000

structure TlsSessionCorrelationResult where
  status : TlsSessionCorrelationStatus := .noMatch
  connectionId : Option ℕ := none
  evidence : Option TlsSessionEvidence := none
  candidateCount : ℕ := 0

def TlsSessionRole.toText : TlsSessionRole → Text
  | .client => "CLIENT"
  | .server => "SERVER"
  | .unknown => "UNKNOWN"

def TlsSessionRelation.toText : TlsSessionRelation → Text
  | .outboundTlsSession => "OUTBOUND_TLS_SESSION"
  | .outboundServerIdentity => "OUTBOUND_SERVER_IDENTITY"
  | .inboundTlsSession => "INBOUND_TLS_SESSION"
  | .inboundClientIdentity => "INBOUND_CLIENT_IDENTITY"
  | .unknown => "UNKNOWN"

/-! ### Correlation -/

/-- A cookie that is there, and neither zero nor all ones. -/
def validCookie (cookie : Option ℕ) : Option ℕ :=
  cookie.filter fun c => c ≠ 0 ∧ c ≠ twoPow64 - 1

def directionFor : TlsSessionRole → ConnectionDirection
  | .client => .outbound
  | .server => .inbound
  | .unknown => .unknown

def agree (a b : Option ℕ) : Bool :=
  match a, b with
  | some x, some y => x = y
  | _, _ => true

variable (o : TlsSessionObservation) (c : ConnectionSummary) (policy : TlsSessionCorrelationPolicy)

def sameProcess : Bool :=
  0 ≤ o.process.pid && 0 ≤ c.process.pid && o.process.pid = c.process.pid &&
    agree o.process.startTicks c.process.startTicks

def sameNamespace : Bool :=
  agree o.networkNamespaceInode c.networkNamespaceInode

def sameTuple : Bool :=
  o.localEndpoint.address = c.localIp && o.localEndpoint.port = c.localPort &&
    o.remoteEndpoint.address = c.remoteIp && o.remoteEndpoint.port = c.remotePort

def withinConnectionTime (cookieMatch : Bool) : Bool :=
  if o.observedNs = 0 ∨ c.firstSeenNs = 0 ∨ o.observedNs < c.firstSeenNs then false
  else if c.lifecycleState = .closed ∧ c.lastSeenNs ≠ 0 ∧ c.lastSeenNs < o.observedNs then false
  else cookieMatch || o.observedNs - c.firstSeenNs ≤ policy

inductive CandidateKind where
  | none
  | awaitingIdentity
  | exact
  | tuple
  deriving DecidableEq

def candidateKind : CandidateKind :=
  let direction := directionFor o.localRole
  if direction = .unknown ∨ c.direction ≠ direction then .none
  else if !sameProcess o c || !sameNamespace o c then .none
  else
    match validCookie o.socketCookie with
    | some cookie =>
      if c.socketCookie ≠ 0 then
        if cookie ≠ c.socketCookie then .none
        else if withinConnectionTime o c policy true then .exact else .none
      -- a tuple alone does not attach evidence that carries a cookie
      else if !sameTuple o c then .none
      else if withinConnectionTime o c policy false then .awaitingIdentity else .none
    | none =>
      if !sameTuple o c then .none
      else if withinConnectionTime o c policy false then .tuple else .none

def relationFor : TlsSessionRelation :=
  match o.localRole with
  | .client => if o.peerCertificatePresent then .outboundServerIdentity else .outboundTlsSession
  | .server => if o.peerCertificatePresent then .inboundClientIdentity else .inboundTlsSession
  | .unknown => .unknown

def correlationFidelity (cookieMatch : Bool) : EvidenceFidelity :=
  if o.fidelity = .contextual then .contextual
  else if o.fidelity = .supporting then .supporting
  else if cookieMatch then .exact
  else .stronglyCorrelated

def correlateTlsSession (connections : List ConnectionSummary)
    (policy : TlsSessionCorrelationPolicy) : TlsSessionCorrelationResult :=
  let kinds := connections.map fun c => (c, candidateKind o c policy)
  let candidates := kinds.filter fun x => x.2 = .exact ∨ x.2 = .tuple
  let awaiting := (kinds.filter fun x => x.2 = .awaitingIdentity).length
  match candidates with
  | [] =>
    if awaiting = 0 then {}
    else
      { candidateCount := awaiting
        status := if awaiting = 1 then .awaitingIdentity else .ambiguous }
  | [(c, kind)] =>
    { status := .matched
      connectionId := some c.id
      evidence := some ⟨o, relationFor o, correlationFidelity o (kind = .exact)⟩
      candidateCount := 1 }
  | _ => { candidateCount := candidates.length, status := .ambiguous }

def isMatch (c : ConnectionSummary) : Bool :=
  candidateKind o c policy = .exact || candidateKind o c policy = .tuple

section Correlation
variable {o : TlsSessionObservation} {c : ConnectionSummary} {policy : TlsSessionCorrelationPolicy}
  {connections : List ConnectionSummary}

lemma cookie_of_candidateKind :
    (candidateKind o c policy = .exact → validCookie o.socketCookie = some c.socketCookie) ∧
      (candidateKind o c policy = .tuple → validCookie o.socketCookie = none) := by
  unfold candidateKind
  cases hcookie : validCookie o.socketCookie with
  | none =>
    refine ⟨fun h => ?_, fun _ => rfl⟩
    simp only at h
    split_ifs at h
  | some cookie =>
    simp only
    refine ⟨fun h => ?_, fun h => ?_⟩
    · split_ifs at h with _ _ _ hne
      · rw [not_not.mp hne]
    · split_ifs at h

lemma length_candidates :
    ((connections.map fun c => (c, candidateKind o c policy)).filter
      fun x => x.2 = .exact ∨ x.2 = .tuple).length = connections.countP (isMatch o policy) := by
  rw [← countP_eq_length_filter, countP_map]
  congr 1
  funext c
  simp [isMatch]

lemma matched_iff : (correlateTlsSession o connections policy).status = .matched ↔
    connections.countP (isMatch o policy) = 1 := by
  rw [← length_candidates]
  simp only [correlateTlsSession]
  split
  · next h =>
    rw [h]
    split_ifs <;> simp
  · next h =>
    rw [h]
    simp
  · next h₁ h₂ =>
    refine iff_of_false (by simp) fun hone => ?_
    obtain ⟨x, hx⟩ := length_eq_one_iff.mp hone
    exact h₂ x.1 x.2 hx

lemma evidence_of_correlate {e : TlsSessionEvidence}
    (h : (correlateTlsSession o connections policy).evidence = some e) :
    ∃ c ∈ connections, isMatch o policy c = true ∧
      (correlateTlsSession o connections policy).connectionId = some c.id ∧
      (e.correlationFidelity = .exact → candidateKind o c policy = .exact) := by
  simp only [correlateTlsSession] at h ⊢
  split at h
  · split_ifs at h
  · next c kind heq =>
    cases h
    have hmem : (c, kind) ∈ [(c, kind)] := mem_singleton_self _
    rw [← heq, mem_filter, mem_map] at hmem
    obtain ⟨⟨c', hc', hpair⟩, hkind⟩ := hmem
    obtain ⟨rfl, rfl⟩ := Prod.mk.inj hpair
    refine ⟨c', hc', by simpa [isMatch] using hkind, rfl, fun hexact => ?_⟩
    unfold correlationFidelity at hexact
    split_ifs at hexact with _ _ hcookie
    exact of_decide_eq_true hcookie
  · cases h

lemma correlateTlsSession_perm {connections' : List ConnectionSummary}
    (h : connections'.Perm connections) :
    correlateTlsSession o connections' policy = correlateTlsSession o connections policy := by
  have hkinds := h.map fun c => (c, candidateKind o c policy)
  have hcandidates := hkinds.filter fun x => decide (x.2 = .exact ∨ x.2 = .tuple)
  have hawaiting := (hkinds.filter fun x => decide (x.2 = .awaitingIdentity)).length_eq
  have hlength := hcandidates.length_eq
  simp only [correlateTlsSession, hawaiting]
  -- no candidate and one candidate are the same list; of several only their number is told
  rcases hb : filter (fun x => decide (x.2 = .exact ∨ x.2 = .tuple))
    (connections.map fun c => (c, candidateKind o c policy)) with _ | ⟨x, _ | ⟨y, b⟩⟩
  · rw [hb] at hcandidates
    rw [hb, hcandidates.eq_nil]
  · rw [hb] at hcandidates
    rw [hb, perm_singleton.mp hcandidates]
  · rw [hb] at hlength
    rcases ha : filter (fun x => decide (x.2 = .exact ∨ x.2 = .tuple))
      (connections'.map fun c => (c, candidateKind o c policy)) with _ | ⟨x', _ | ⟨y', a⟩⟩
    all_goals rw [ha] at hlength
    · simp at hlength
    · simp at hlength
    · simp only [ha, hb, hlength]

end Correlation

/-- **The correlation of TLS sessions.** A session is matched exactly if one connection is an exact
or a tuple candidate; the match is exact only by the valid cookie that both have, and a session with
a valid cookie is matched by nothing else; the order of the connections does not matter. -/
theorem tls_session_correlation (o : TlsSessionObservation) (connections : List ConnectionSummary)
    (policy : TlsSessionCorrelationPolicy) :
    ((correlateTlsSession o connections policy).status = .matched ↔
        connections.countP (isMatch o policy) = 1) ∧
      (∀ e, (correlateTlsSession o connections policy).evidence = some e →
        ∃ c ∈ connections, isMatch o policy c = true ∧
          (correlateTlsSession o connections policy).connectionId = some c.id ∧
          (e.correlationFidelity = .exact → validCookie o.socketCookie = some c.socketCookie) ∧
          ((validCookie o.socketCookie).isSome →
            validCookie o.socketCookie = some c.socketCookie)) ∧
      ∀ connections', connections'.Perm connections →
        correlateTlsSession o connections' policy = correlateTlsSession o connections policy := by
  refine ⟨matched_iff, fun e he => ?_, fun _ h => correlateTlsSession_perm h⟩
  obtain ⟨c, hc, hmatch, hid, hexact⟩ := evidence_of_correlate he
  refine ⟨c, hc, hmatch, hid, fun h => cookie_of_candidateKind.1 (hexact h), fun hcookie => ?_⟩
  simp only [isMatch, Bool.or_eq_true, decide_eq_true_eq] at hmatch
  rcases hmatch with h | h
  · exact cookie_of_candidateKind.1 h
  · rw [cookie_of_candidateKind.2 h] at hcookie
    cases hcookie

/-! ### Hashes -/

/-- A truth value as `std::to_string` writes it. -/
def bit (b : Bool) : Text := if b then ['1'] else ['0']

def optionalDecimal (n : Option ℕ) : Text := (n.map decimal).getD []

def endpoints : Text :=
  o.localEndpoint.address ++ ':' :: decimal o.localEndpoint.port ++ "->" ++
    o.remoteEndpoint.address ++ ':' :: decimal o.remoteEndpoint.port

def observationFields (includeObservedNs : Bool) : List Text :=
  [if includeObservedNs then decimal o.observedNs else [],
    o.localRole.toText,
    signedDecimal o.process.pid,
    decimal o.process.uid,
    optionalDecimal o.process.startTicks,
    o.process.comm,
    optionalDecimal o.networkNamespaceInode,
    optionalDecimal o.socketCookie,
    endpoints o,
    o.tlsVersion,
    o.cipher,
    o.alpn,
    o.sni,
    o.expectedPeerName.getD [],
    o.matchedPeerName.getD [],
    bit o.peerCertificatePresent,
    bit o.peerVerificationRequired,
    (o.verifyResult.map signedDecimal).getD [],
    bit o.peerAuthenticated,
    o.leafSha256,
    o.spkiSha256,
    o.subject,
    o.issuer,
    o.notBefore,
    o.notAfter,
    o.fidelity.toText,
    o.source]

def canonicalObservation (includeObservedNs : Bool) : Text :=
  List.intercalate ['|'] (observationFields o includeObservedNs)

section Hashes

variable (sha : Sha256)

def tlsSessionIdentityKey (o : TlsSessionObservation) : Text :=
  sha256Hex sha (canonicalObservation o false)

def tlsSessionEvidenceHash (e : TlsSessionEvidence) : Text :=
  sha256Hex sha (List.intercalate ['|']
    [canonicalObservation e.observation true, e.relation.toText, e.correlationFidelity.toText])

/-- The hashes with a bar between them, none before the first character. -/
def joinHashes (hashes : List Text) : Text :=
  hashes.foldl (fun material h => if material = [] then h else material ++ '|' :: h) []

def hashSetHash (hashes : List Text) : Text :=
  if hashes = [] then [] else sha256Hex sha (joinHashes (sortTexts hashes))

def tlsSessionEvidenceSetHash (evidence : List TlsSessionEvidence) : Text :=
  hashSetHash sha (evidence.map (tlsSessionEvidenceHash sha))

theorem tlsSessionEvidenceSetHash_perm {e e' : List TlsSessionEvidence} (h : e.Perm e') :
    tlsSessionEvidenceSetHash sha e = tlsSessionEvidenceSetHash sha e' := by
  have hmap := h.map (tlsSessionEvidenceHash sha)
  unfold tlsSessionEvidenceSetHash hashSetHash
  rw [sortTexts_perm hmap]
  congr 1
  rw [eq_iff_iff]
  constructor
  · intro hnil
    rw [hnil] at hmap
    exact hmap.symm.eq_nil
  · intro hnil
    rw [hnil] at hmap
    exact hmap.eq_nil

end Hashes

end NetaAgent.TlsSession
