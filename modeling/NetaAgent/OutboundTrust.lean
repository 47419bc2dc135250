import NetaAgent.OutboundBaseline

/-!
The trust of outbound connections, which rests on the first exact item that shows the server.
-/

namespace NetaAgent.Assurance

open Decimal Crypto Sql Observation HistoryStore TlsSession Verdict Rules Option

def ChecksIdentity (s : Settings) : Prop :=
  s.outboundTlsIdentity = true ∧ s.outboundRequireChainValid = true ∧
    s.outboundRequireHostnameValid = true ∧ s.outboundCompareSpki = true

instance (s : Settings) : Decidable (ChecksIdentity s) := instDecidableAnd

def validIdentity (session : TlsSessionObservation) : Bool :=
  chainValid session && hostnameValid session

/-- All exact items that show the server are valid or none is, and the valid ones all have the
accepted key or none has. -/
def ItemsAgree (accepted : Text) (evidence : List TlsSessionEvidence) : Prop :=
  ∀ i ∈ evidence, ∀ j ∈ evidence, isServerIdentity i = true → isServerIdentity j = true →
    validIdentity i.observation = validIdentity j.observation ∧
      (validIdentity i.observation = true →
        (i.observation.spkiSha256 = accepted ↔ j.observation.spkiSha256 = accepted))

section Selection

variable {evidence : List TlsSessionEvidence}

lemma exactOutboundIdentity_mem {item : TlsSessionEvidence}
    (h : exactOutboundIdentity evidence = some item) :
    item ∈ evidence ∧ isServerIdentity item = true :=
  ⟨List.mem_of_find?_eq_some h, List.find?_some h⟩

/-- An exact item is the first one of the list in another order. -/
lemma exists_perm_first {item : TlsSessionEvidence} (hmem : item ∈ evidence)
    (hexact : isServerIdentity item = true) :
    ∃ e, evidence.Perm e ∧ exactOutboundIdentity e = some item := by
  obtain ⟨l, r, rfl⟩ := List.append_of_mem hmem
  exact ⟨item :: (l ++ r), List.perm_middle, List.find?_cons_of_pos hexact⟩

end Selection

section Trust

variable {s : Settings} {accepted : Text} {t t' : TlsObservation}

lemma outboundTrust_unaccepted (hs : ChecksIdentity s) (tls : Option TlsObservation) :
    (outboundTrust s [] tls).1 = .unverified := by
  cases tls with
  | none | some => simp [outboundTrust, hs.1]

/-- Under rules that check all of it, a stable identity is the accepted one and valid. -/
lemma outboundTrust_stable (hs : ChecksIdentity s)
    (h : (outboundTrust s accepted (some t)).1 = .stable) :
    t.spkiSha256 = accepted ∧ (t.chainValid && t.hostnameValid) = true := by
  obtain ⟨hon, hchain, hname, hspki⟩ := hs
  simp only [outboundTrust, hon, hchain, hname, hspki, Bool.true_eq_false, if_false, true_and] at h
  split at h
  · cases h
  · split at h
    · cases h
    · next hvalid =>
      split at h
      · cases h
      · next hsame =>
        simp only [not_or, Bool.not_eq_false] at hvalid
        exact ⟨not_not.mp hsame, by simp [hvalid]⟩

lemma outboundTrust_ne_suspicious (hchain : t.chainValid = true)
    (hname : t.hostnameValid = true) : (outboundTrust s accepted (some t)).1 ≠ .suspicious := by
  simp only [outboundTrust, hchain, hname, Bool.true_eq_false, and_false, or_false, if_false]
  split
  · simp
  · split
    · simp
    · split
      · simp
      · simp

/-- The trust state is one of three, by the validity of the identity and by its key. -/
lemma outboundTrust_eq_iff (hs : ChecksIdentity s) (haccepted : accepted ≠ []) :
    (outboundTrust s accepted (some t)).1 = (outboundTrust s accepted (some t')).1 ↔
      (t.chainValid && t.hostnameValid) = (t'.chainValid && t'.hostnameValid) ∧
        ((t.chainValid && t.hostnameValid) = true →
          (t.spkiSha256 = accepted ↔ t'.spkiSha256 = accepted)) := by
  have hstate : ∀ t : TlsObservation, (outboundTrust s accepted (some t)).1 =
      if (t.chainValid && t.hostnameValid) = false then .suspicious
      else if t.spkiSha256 ≠ accepted then .changed else .stable := by
    intro t
    obtain ⟨hon, hchain, hname, hspki⟩ := hs
    simp only [outboundTrust, hon, hchain, hname, hspki, haccepted, Bool.true_eq_false, if_false,
      true_and, Bool.and_eq_false_iff]
    split_ifs <;> rfl
  rw [hstate, hstate]
  generalize (t.chainValid && t.hostnameValid) = v, (t'.chainValid && t'.hostnameValid) = v'
  by_cases hkey : t.spkiSha256 = accepted <;> by_cases hkey' : t'.spkiSha256 = accepted <;>
    cases v <;> cases v' <;> simp [hkey, hkey']

end Trust

lemma outboundInput_evidence {a : Archive} {id : ℕ} {i : OutboundInput}
    (h : a.outboundInput id = some i) :
    i.evidence = a.evidence.tlsSessionEvidenceForConnection id := by
  unfold Archive.outboundInput at h
  simp only [bind_eq_bind, bind_eq_some_iff] at h
  obtain ⟨c, -, h⟩ := h
  split at h
  · cases h
  · simp only [bind_eq_some_iff] at h
    obtain ⟨b, -, h⟩ := h
    cases h
    rfl

section Verdict

variable (m : Machine) (rules : RuleSet) (i : OutboundInput)

/-- The trust state of the connection if this item is the first exact one. -/
def itemTrust (item : TlsSessionEvidence) : TrustState :=
  (outboundTrust rules.toSettings i.baseline.acceptedSpkiSha256
    (some (sessionTlsObservation m.sha i.connection item))).1

lemma verdict_trust : (i.verdict m rules).trust =
    ((exactOutboundIdentity i.evidence).map (itemTrust m rules i)).getD .unverified := by
  show (outboundTrust _ _ ((exactOutboundIdentity i.evidence).map _)).1 = _
  cases exactOutboundIdentity i.evidence with
  | none =>
    simp only [outboundTrust, map_none]
    split <;> rfl
  | some item => rfl

variable {m rules i} (hrules : ChecksIdentity rules.toSettings)
include hrules

/-- A stable verdict says that every exact item shows the accepted server, when they agree. -/
lemma verdict_stable (hagree : i.baseline.acceptedSpkiSha256 ≠ [] →
      ItemsAgree i.baseline.acceptedSpkiSha256 i.evidence)
    (h : (i.verdict m rules).trust = .stable) :
    ∀ item ∈ i.evidence, isServerIdentity item = true →
      item.observation.spkiSha256 = i.baseline.acceptedSpkiSha256 ∧
      chainValid item.observation = true ∧ hostnameValid item.observation = true := by
  intro item hitem hexact
  cases hfirst : exactOutboundIdentity i.evidence with
  | none => exact absurd hexact (List.find?_eq_none.mp hfirst item hitem)
  | some first =>
    rw [verdict_trust, hfirst] at h
    have haccepted : i.baseline.acceptedSpkiSha256 ≠ [] := by
      intro hnil
      rw [map_some, getD_some, itemTrust, hnil, outboundTrust_unaccepted hrules] at h
      cases h
    obtain ⟨hkey, hvalid⟩ := outboundTrust_stable hrules h
    obtain ⟨hmem, hexact'⟩ := exactOutboundIdentity_mem hfirst
    obtain ⟨hsame, hkeys⟩ := hagree haccepted first hmem item hitem hexact' hexact
    have hboth : validIdentity item.observation = true := hsame.symm.trans hvalid
    exact ⟨(hkeys hvalid).mp hkey, by simpa [validIdentity] using hboth⟩

/-- The order of the items does not matter exactly when they agree. -/
lemma verdict_perm_iff : (∀ e, i.evidence.Perm e →
      (i.verdict m rules).trust = (OutboundInput.verdict m rules { i with evidence := e }).trust) ↔
    (i.baseline.acceptedSpkiSha256 ≠ [] →
      ItemsAgree i.baseline.acceptedSpkiSha256 i.evidence) := by
  constructor
  · intro h haccepted x hx y hy hexact hexact'
    obtain ⟨e, hperm, hfirst⟩ := exists_perm_first hx hexact
    obtain ⟨e', hperm', hfirst'⟩ := exists_perm_first hy hexact'
    have hsame := (h e hperm).symm.trans (h e' hperm')
    rw [verdict_trust, verdict_trust, hfirst, hfirst'] at hsame
    exact (outboundTrust_eq_iff hrules haccepted).mp hsame
  · intro hagree e hperm
    rw [verdict_trust, verdict_trust]
    have hfirst : (exactOutboundIdentity i.evidence).map (itemTrust m rules i) =
        (exactOutboundIdentity e).map (itemTrust m rules i) := by
      refine TextOrder.map_find?_perm hperm fun x hx y hy hexact hexact' => ?_
      unfold itemTrust
      by_cases haccepted : i.baseline.acceptedSpkiSha256 = []
      · rw [haccepted, outboundTrust_unaccepted hrules, outboundTrust_unaccepted hrules]
      · exact (outboundTrust_eq_iff hrules haccepted).mpr (hagree haccepted x (hperm.mem_iff.mpr hx)
          y (hperm.mem_iff.mpr hy) hexact hexact')
    exact congrArg (Option.getD · TrustState.unverified) hfirst

end Verdict

/-- **The outbound trust state** speaks of every exact item and not of their order, exactly when
there is nothing to evaluate, no key is accepted, or the items agree. -/
theorem outbound_trust_of_agreeing_items (m : Machine) (rules : RuleSet) (o : Oracle StoreError)
    (s : Session Archive) (id : ℕ) (hfails : ∀ n, o.fails n = none)
    (hrules : ChecksIdentity rules.toSettings) :
    ((∀ v, (evaluateOutboundConnection m rules id o s).1 = .ok (some v) → v.trust = .stable →
      ∃ i, s.db.outboundInput id = some i ∧
        ∀ item ∈ s.db.evidence.tlsSessionEvidenceForConnection id, isServerIdentity item = true →
          item.observation.spkiSha256 = i.baseline.acceptedSpkiSha256 ∧
          chainValid item.observation = true ∧ hostnameValid item.observation = true) ∧
    (∀ e, (s.db.evidence.tlsSessionEvidenceForConnection id).Perm e →
      (evaluateOutboundConnection m rules id o s).1.map (Option.map AssuranceVerdict.trust) =
        .ok ((s.db.outboundInput id).map fun i =>
          (OutboundInput.verdict m rules { i with evidence := e }).trust))) ↔
    ∀ i, s.db.outboundInput id = some i → i.baseline.acceptedSpkiSha256 ≠ [] →
      ItemsAgree i.baseline.acceptedSpkiSha256 (s.db.evidence.tlsSessionEvidenceForConnection id) := by
  rw [evaluateOutboundConnection_steady hfails]
  cases hin : s.db.outboundInput id with
  | none => simp [Except.map]
  | some i =>
    have hperm := verdict_perm_iff (m := m) (i := i) hrules
    rw [outboundInput_evidence hin] at hperm
    simp only [map_some, Except.map, Except.ok.injEq, some.injEq, forall_eq', hperm]
    refine ⟨fun h => h.2, fun hagree => ⟨fun hstable => ⟨i, rfl, ?_⟩, hagree⟩⟩
    rw [← outboundInput_evidence hin] at hagree ⊢
    exact verdict_stable hrules hagree hstable

variable (items : List TlsSessionEvidence)

/-- An outbound connection to a target with an accepted key, and evidence for it. -/
def sampleArchive : Archive where
  history :=
    { Store.initial with
      connections := Table.empty.add (fun id =>
        { id
          serial := 0
          socketCookie := 9
          socketInode := 0
          processId := none
          localIp := []
          localPort := 0
          remoteIp := ['r']
          remotePort := 443
          targetHost := ['h']
          lifecycleState := .active
          firstSeenNs := 1
          lastSeenNs := 1
          capturedAtNs := none
          direction := .outbound
          networkNamespaceInode := none }) fun _ => rfl
      baselines := Table.empty.add (fun id => ⟨id, ['h'], 443, 0, 0, ['A'], [], 5, 1, ['b']⟩)
        fun _ => rfl }
  evidence :=
    { tlsSessions := items.foldl (fun t item => t.add (fun id => ⟨id, 1, item, decimal id⟩) fun _ => rfl)
        .empty }

/-- A session with the server, which was or was not authenticated. -/
def sampleItem (spki : Char) (authenticated : Bool) : TlsSessionEvidence where
  observation :=
    { observedNs := 5
      localRole := .client
      expectedPeerName := some ['h']
      matchedPeerName := some ['h']
      peerCertificatePresent := true
      peerAuthenticated := authenticated
      spkiSha256 := [spki]
      fidelity := .exact }
  relation := .outboundServerIdentity
  correlationFidelity := .exact

def sampleVerdict : Except StoreError (Option AssuranceVerdict) :=
  (evaluateOutboundConnection sampleMachine {} 1 steadyOracle ⟨sampleArchive items, 0⟩).1

lemma sampleVerdict_eq : sampleVerdict items =
    .ok (((sampleArchive items).outboundInput 1).map (OutboundInput.verdict sampleMachine {})) :=
  evaluateOutboundConnection_steady (fun _ => rfl) _ _ _ _

/-- The only item of a connection. -/
theorem outbound_trust_of_one_item :
    (sampleVerdict [sampleItem 'A' true]).map (Option.map AssuranceVerdict.trust) =
      .ok (some .stable) ∧
    ∀ v, sampleVerdict [sampleItem 'A' true] = .ok (some v) → v.trust = .stable →
      ∃ i, (sampleArchive [sampleItem 'A' true]).outboundInput 1 = some i ∧
        ∀ item ∈ (sampleArchive [sampleItem 'A' true]).evidence.tlsSessionEvidenceForConnection 1,
          isServerIdentity item = true →
          item.observation.spkiSha256 = i.baseline.acceptedSpkiSha256 ∧
          chainValid item.observation = true ∧ hostnameValid item.observation = true := by
  refine ⟨by rw [sampleVerdict_eq]; rfl, ?_⟩
  refine ((outbound_trust_of_agreeing_items sampleMachine {} steadyOracle
    ⟨sampleArchive [sampleItem 'A' true], 0⟩ 1 (fun _ => rfl) (by decide)).mpr ?_).1
  have hlist : (sampleArchive [sampleItem 'A' true]).evidence.tlsSessionEvidenceForConnection 1 =
      [sampleItem 'A' true] := by rfl
  rintro i - -
  simp [ItemsAgree, hlist]

/-- Two sessions of one connection, the second not authenticated: the connection is stable, and
with the two in the other order it is suspicious. -/
theorem outbound_trust_of_first_item :
    (sampleVerdict [sampleItem 'A' true, sampleItem 'B' false]).map
        (Option.map AssuranceVerdict.trust) = .ok (some .stable) ∧
    isServerIdentity (sampleItem 'B' false) = true ∧
    chainValid (sampleItem 'B' false).observation = false ∧
    (sampleVerdict [sampleItem 'B' false, sampleItem 'A' true]).map
        (Option.map AssuranceVerdict.trust) = .ok (some .suspicious) := by
  refine ⟨?_, by decide, by decide, ?_⟩
  · rw [sampleVerdict_eq]
    rfl
  · rw [sampleVerdict_eq]
    rfl

end NetaAgent.Assurance
