import NetaAgent.OutboundBaseline

/-!
The history of baselines: acceptances of outbound connections and of inbound clients, captures of a
target, and which baseline is in force after one of them.

Whatever else changes the database between two of them, it stores no baseline; pruning may delete
some.
-/

namespace NetaAgent.Assurance

open Decimal Crypto Sql Observation HistoryStore TlsSession Verdict Rules List Option Table Triple Baseline

/-! ### Inbound clients and captures -/

variable (sha : Sha256)

def clientBaseline (key : Text) (port : ℕ) (context : InboundTrustContext)
    (now : ℕ) : Baseline where
  id := 0
  targetHost := key
  targetPort := port
  rttMedianUs := 0
  rttvarMedianUs := 0
  acceptedSpkiSha256 := context.spkiSha256
  acceptedIssuer := context.issuer
  sampleCount := 0
  createdNs := now
  sha256 := sha256Hex sha ("inbound-client|" ++ key ++ '|' :: decimal port ++
    '|' :: context.subject ++ '|' :: context.spkiSha256 ++ '|' :: context.issuer)

section Programs

variable (m : Machine) (rules : RuleSet)

/-- What follows when the connection has been found and the evidence has been read. -/
def acceptIdentity (now id : ℕ) (c : ConnectionSummary) (context : InboundTrustContext) :
    ArchiveM Baseline := do
  if context.ambiguous then fail "inbound client identity evidence is ambiguous"
  else if context.exactEvidence = false ∨ context.peerCertificatePresent = false ∨
      context.subject = [] then
    fail "client identity baseline requires an EXACT presented client certificate with a subject"
  else if inboundClientBaselineKey m c context.subject = [] then
    fail "cannot derive stable inbound client/service identity from process evidence"
  else if context.peerAuthenticated = false then
    fail "refusing to accept a client certificate that was not authenticated by the server TLS session"
  else if context.spkiSha256 = [] then fail "authenticated client identity has no SPKI hash"
  else
    let key := inboundClientBaselineKey m c context.subject
    let baseline := clientBaseline m.sha key c.localPort context now
    modify fun a => a.saveBaseline baseline
    let metrics := aggregateMetrics (← samplesForConnection id)
    saveVerdict id (evaluateInbound m (some baseline) metrics context rules) none
    return baseline

/-- `baseline accept-client`. -/
def acceptClient (now id : ℕ) : ArchiveM Baseline := do
  match ← lookup fun _ (a : Archive) => a.history.connection id with
  | none => fail "connection not found"
  | some c =>
    if c.direction ≠ .inbound then
      fail "client identity baselines require an INBOUND connection"
    else
      let evidence ← tlsSessionEvidenceForConnection id
      acceptIdentity m rules now id c (inboundTrustContext m evidence)

end Programs

/-- The text that is hashed for a captured baseline has no issuer. -/
def capturedBaselineText (b : Baseline) : Text :=
  b.targetHost ++ ':' :: decimal b.targetPort ++ '|' :: decimal b.rttMedianUs ++
    '|' :: decimal b.rttvarMedianUs ++ '|' :: b.acceptedSpkiSha256 ++ '|' :: decimal b.sampleCount

def capturedBaseline (host : Text) (port : ℕ) (samples : List TcpSnapshot)
    (tls : TlsObservation) (now : ℕ) : Baseline :=
  let b := outboundBaseline sha host port samples (some tls) now
  { b with sha256 := sha256Hex sha (capturedBaselineText b) }

/-- `baseline capture`, where the probe has answered `tls`. -/
def captureBaseline (host : Text) (port : ℕ) (tls : TlsObservation) (now : ℕ) :
    ArchiveM Baseline := do
  let samples ← scan fun _ (a : Archive) => a.history.recentSamplesForTarget host port 200
  if samples.length < 5 then
    fail "need at least 5 persisted target samples; run observe first (20+ recommended)"
  else if (samples.filter fun s => s.rttUs ≠ 0) = [] then fail "samples contain no RTT evidence"
  else if tls.chainValid = false ∨ tls.hostnameValid = false then
    fail "refusing to accept baseline from invalid TLS identity"
  else
    let _ ← onHistory (addTls tls)
    let baseline := capturedBaseline sha host port samples tls now
    modify fun a => a.saveBaseline baseline
    return baseline

/-! ### What the programs do to the baselines -/

/-- The texts of a baseline are read back as they are. -/
structure BoundTexts (b : Baseline) : Prop where
  host : bindText b.targetHost = b.targetHost
  spki : bindText b.acceptedSpkiSha256 = b.acceptedSpkiSha256
  issuer : bindText b.acceptedIssuer = b.acceptedIssuer
  sha256 : bindText b.sha256 = b.sha256

/-- A program that stores a baseline made at `now`, and no other; when it throws it may have stored
it. -/
def Stores (now : ℕ) (p : ArchiveM Baseline) (K : Baseline → Prop) : Prop :=
  ∀ B, Triple (fun _ => True) (fun a => a.history.baselines = B) p
    (fun b a => b.createdNs = now ∧ K b ∧ a.history.baselines = putBaseline B b)
    (fun _ a => a.history.baselines = B ∨
      ∃ b, b.createdNs = now ∧ a.history.baselines = putBaseline B b)

variable {n t id now port : ℕ} {a : Archive}

lemma evidence_bound {e : TlsSessionEvidence}
    (h : e ∈ a.evidence.tlsSessionEvidenceForConnection id) : ∃ e', e = boundEvidence e' := by
  obtain ⟨r, -, rfl⟩ := mem_map.mp h
  exact ⟨r.evidence, rfl⟩

variable {b : Baseline} {c : ConnectionSummary}

lemma targetHost_bound
    (hc : a.history.connection id = some c) : bindText (targetHost c) = targetHost c := by
  obtain ⟨r, -, rfl⟩ := map_eq_some_iff.mp hc
  by_cases hne : bindText r.targetHost = []
  · simp [targetHost, Store.summary, hne]
  · simp [targetHost, Store.summary, hne]

/-- The baselines of the archive. -/
abbrev Has (B : Table Baseline.id) (a : Archive) : Prop := a.history.baselines = B

section Effects

variable {B : Table Baseline.id} {E : StoreError → Archive → Prop}

lemma triple_fail {α : Type} {Q : α → Archive → Prop} {R : Archive → Prop} {message : String} :
    Triple (fun _ => True) (Has B) (fail message : ArchiveM α) Q fun _ a => Has B a ∨ R a :=
  throwing fun _ => .inl

lemma saveVerdict_baselines (id : ℕ) (v : AssuranceVerdict) (tlsId : Option ℕ) :
    Triple (fun _ => True) (Has B) (saveVerdict id v tlsId)
      (fun _ => Has B) fun _ => Has B := by
  refine bind (Q := fun _ => Has B)
    (statement ?_ (fun _ _ _ h _ => h) fun _ _ _ h => h)
    fun _ => Triple.modify (fun _ h => h) fun _ _ _ h => h
  intro _ a _ a' h hrun
  split at hrun
  · cases hrun
    exact h
  · cases hrun

lemma evidence_read_bound {a : Archive} {id n : ℕ} {e : TlsSessionEvidence}
    (h : e ∈ (a.evidence.tlsSessionEvidenceForConnection id).take n) : ∃ e', e = boundEvidence e' :=
  evidence_bound (mem_of_mem_take h)

lemma tlsSessionEvidence_triple (id : ℕ) :
    Triple (fun _ => True) (Has B) (tlsSessionEvidenceForConnection id)
      (fun l a => a.history.baselines = B ∧ ∀ e ∈ l, ∃ e', e = boundEvidence e')
      fun _ => Has B := bind (Q := fun _ => Has B)
    (query (fun _ h => h) fun _ _ _ h => h)
    fun _ => scan (fun _ _ _ h => ⟨h, fun _ he => evidence_read_bound he⟩) fun _ _ _ h => h

lemma samples_triple (id : ℕ) :
    Triple (fun _ => True) (Has B) (samplesForConnection id)
      (fun _ => Has B) fun _ => Has B := scan (fun _ _ _ h => h) fun _ _ _ h => h

lemma store_then_verdict {now : ℕ} {b : Baseline} {K : Baseline → Prop} (hnow : b.createdNs = now)
    (hK : K b) (id : ℕ) (verdict : List TcpSnapshot → AssuranceVerdict) :
    Triple (fun _ => True) (Has B) (do
        modify fun a => a.saveBaseline b
        let samples ← samplesForConnection id
        saveVerdict id (verdict samples) none
        return b : ArchiveM Baseline)
      (fun b a => b.createdNs = now ∧ K b ∧ a.history.baselines = putBaseline B b)
      (fun _ a => a.history.baselines = B ∨
        ∃ b, b.createdNs = now ∧ a.history.baselines = putBaseline B b) := by
  refine bind (Q := fun _ a => a.history.baselines = putBaseline B b)
    (Triple.modify ?_ fun _ _ _ h => .inl h) fun _ => ?_
  · intro a ha
    rw [← ha]
    rfl
  refine bind (Q := fun _ a => a.history.baselines = putBaseline B b)
    ((samples_triple id).relax fun _ _ h => .inr ⟨b, hnow, h⟩)
    fun samples => ?_
  refine bind (Q := fun _ a => a.history.baselines = putBaseline B b)
    ((saveVerdict_baselines id _ none).relax fun _ _ h => .inr ⟨b, hnow, h⟩) fun _ => ?_
  exact pure fun _ h => ⟨hnow, hK, h⟩

lemma connection_triple (id : ℕ) :
    Triple (fun _ => True) (Has B)
      (lookup fun _ (a : Archive) => a.history.connection id : ArchiveM _)
      (fun c a => a.history.baselines = B ∧ ∀ x ∈ c, bindText (targetHost x) = targetHost x)
      fun _ => Has B := by
  refine lookup ?_ (fun _ h => ⟨h, fun x hx => nomatch hx⟩) fun _ _ _ h => h
  intro _ a h
  exact ⟨h, fun x hx => targetHost_bound hx⟩

end Effects

lemma bindText_sha256Hex (t : Text) : bindText (sha256Hex sha t) = sha256Hex sha t :=
  bindText_finalizeHex (sha t)

variable {evidence : List TlsSessionEvidence}

lemma exactTlsObservation_bound {sha : Sha256} (hbound : ∀ e ∈ evidence, ∃ e', e = boundEvidence e')
    {tls : TlsObservation} (h : exactTlsObservation sha c evidence = some tls) :
    bindText tls.spkiSha256 = tls.spkiSha256 ∧ bindText tls.issuer = tls.issuer := by
  obtain ⟨item, hitem, rfl⟩ := map_eq_some_iff.mp h
  obtain ⟨e', rfl⟩ := hbound item (mem_of_find?_eq_some hitem)
  exact ⟨bindText_bindText _, bindText_bindText _⟩

lemma outboundBaseline_bound {sha : Sha256} {host : Text} {samples : List TcpSnapshot}
    {tls : Option TlsObservation} (hhost : bindText host = host)
    (htls : ∀ t ∈ tls, bindText t.spkiSha256 = t.spkiSha256 ∧ bindText t.issuer = t.issuer) :
    BoundTexts (outboundBaseline sha host port samples tls now) := by
  cases tls with
  | none => exact ⟨hhost, rfl, rfl, bindText_sha256Hex _ _⟩
  | some t => exact ⟨hhost, (htls t rfl).1, (htls t rfl).2, bindText_sha256Hex _ _⟩

variable (m : Machine) (rules : RuleSet)

lemma acceptOutbound_stores (now id : ℕ) :
    Stores now (acceptOutboundConnectionBaseline m rules now id) BoundTexts := by
  intro B
  refine bind ((connection_triple id).relax fun _ _ h => .inl h) fun found => ?_
  cases found with
  | none => exact triple_fail.pre fun _ h => h.1
  | some c =>
    refine start fun a ⟨hB, hbound⟩ => ?_
    have hhost := hbound c rfl
    refine pre (P := Has B) ?_ fun _ h => h ▸ hB
    dsimp only [acceptTarget]
    split
    · exact triple_fail
    split
    · exact triple_fail
    refine bind (Q := fun _ => Has B)
      (scan (fun _ _ _ h => h) fun _ _ _ h => .inl h) fun samples => ?_
    split
    · exact triple_fail
    refine bind ((tlsSessionEvidence_triple id).relax fun _ _ h => .inl h) fun evidence => ?_
    refine start fun a ⟨hB, hevidence⟩ => ?_
    refine pre (P := Has B) ?_ fun _ h => h ▸ hB
    split
    · exact throwing fun _ h => .inl h
    · exact store_then_verdict rfl (outboundBaseline_bound hhost
        fun t ht => exactTlsObservation_bound hevidence ht) id _

lemma inboundTrustContext_bound {m : Machine}
    (hbound : ∀ e ∈ evidence, ∃ e', e = boundEvidence e') :
    bindText (inboundTrustContext m evidence).spkiSha256 = (inboundTrustContext m evidence).spkiSha256 ∧
      bindText (inboundTrustContext m evidence).issuer = (inboundTrustContext m evidence).issuer := by
  rcases hlist : (evidence.filter isInbound).filter isExact with _ | ⟨item, _ | ⟨b, rest⟩⟩
  · simp only [inboundTrustContext, hlist]
    exact ⟨rfl, rfl⟩
  · have hmem : item ∈ evidence := by
      have hin : item ∈ (evidence.filter isInbound).filter isExact := by simp [hlist]
      exact (mem_filter.mp (mem_filter.mp hin).1).1
    obtain ⟨e', rfl⟩ := hbound item hmem
    simp only [inboundTrustContext, hlist]
    exact ⟨bindText_bindText _, bindText_bindText _⟩
  · simp only [inboundTrustContext, hlist]
    exact ⟨rfl, rfl⟩

lemma inboundClientBaselineKey_bound (c : ConnectionSummary) (subject : Text) :
    bindText (inboundClientBaselineKey m c subject) = inboundClientBaselineKey m c subject := by
  unfold inboundClientBaselineKey
  split
  · rfl
  · split
    · rfl
    · rw [bindText, takeWhile_append_of_pos (all_eq_true.1 (by decide))]
      exact congrArg _ (bindText_sha256Hex m.sha _)

lemma acceptClient_stores (now id : ℕ) : Stores now (acceptClient m rules now id) BoundTexts := by
  intro B
  refine bind ((connection_triple id).relax fun _ _ h => .inl h) fun found => ?_
  cases found with
  | none => exact triple_fail.pre fun _ h => h.1
  | some c =>
    refine pre (P := Has B) ?_ fun _ h => h.1
    dsimp only
    split
    · exact triple_fail
    refine bind ((tlsSessionEvidence_triple id).relax fun _ _ h => .inl h) fun evidence => ?_
    refine start fun a ⟨hB, hevidence⟩ => ?_
    refine pre (P := Has B) ?_ fun _ h => h ▸ hB
    obtain ⟨hspki, hissuer⟩ := inboundTrustContext_bound (m := m) hevidence
    unfold acceptIdentity
    split
    · exact triple_fail
    split
    · exact triple_fail
    split
    · exact triple_fail
    split
    · exact triple_fail
    split
    · exact triple_fail
    exact store_then_verdict (b := clientBaseline m.sha _ c.localPort _ now) rfl
      ⟨inboundClientBaselineKey_bound m c _, hspki, hissuer, bindText_sha256Hex _ _⟩ id _

lemma addTls_baselines (tls : TlsObservation) (B : Table Baseline.id) :
    Triple (fun _ => True) (Has B)
      (onHistory (addTls tls)) (fun _ => Has B)
      fun _ => Has B := by
  refine onHistory_triple fun a => start fun db hdb => ?_
  exact (addTls_triple tls db).weaken (fun _ _ h => h ▸ hdb) fun _ _ h => h ▸ hdb

lemma captureBaseline_stores (host : Text) (port : ℕ) (tls : TlsObservation)
    (now : ℕ) : Stores now (captureBaseline sha host port tls now) fun _ => True := by
  intro B
  refine bind (Q := fun _ => Has B)
    (scan (fun _ _ _ h => h) fun _ _ _ h => .inl h) fun samples => ?_
  split
  · exact triple_fail
  split
  · exact triple_fail
  split
  · exact triple_fail
  refine bind ((addTls_baselines tls B).relax fun _ _ h => .inl h) fun _ => ?_
  refine bind (Q := fun _ a => a.history.baselines =
      putBaseline B (capturedBaseline sha host port samples tls now))
    (Triple.modify ?_ fun _ _ _ h => .inl h) fun _ => pure fun _ h => ⟨rfl, trivial, h⟩
  intro a ha
  rw [← ha]
  rfl

/-! ### Histories -/

inductive Acceptance where
  | outbound (id : ℕ)
  | client (id : ℕ)

def Acceptance.run (now : ℕ) : Acceptance → ArchiveM Baseline
  | .outbound id => acceptOutboundConnectionBaseline m rules now id
  | .client id => acceptClient m rules now id

lemma Acceptance.stores (now : ℕ) (acceptance : Acceptance) :
    Stores now (acceptance.run m rules now) BoundTexts := by
  cases acceptance with
  | outbound id => exact acceptOutbound_stores m rules now id
  | client id => exact acceptClient_stores m rules now id

/-- The largest time of a signed clock in nanoseconds. -/
def maxClock : ℕ := 9223372036854775807

/-- The archives that acceptances and captures at increasing times before `t` lead to, from one
without baselines. -/
inductive History (m : Machine) : ℕ → Archive → Prop
  | start {a : Archive} (h : a.history.baselines = .empty) : History m 0 a
  | other {t : ℕ} {a a' : Archive} (h : History m t a)
      (hkeep : ∀ b ∈ a'.history.baselines, b ∈ a.history.baselines) : History m t a'
  | accept {t now : ℕ} {a : Archive} (h : History m t a) (ht : t ≤ now) (hnow : now ≤ maxClock)
      (rules : RuleSet) (acceptance : Acceptance) (o : Oracle StoreError) :
      History m (now + 1) (exec (acceptance.run m rules now) o a).2
  | capture {t now : ℕ} {a : Archive} (h : History m t a) (ht : t ≤ now) (hnow : now ≤ maxClock)
      (host : Text) (port : ℕ) (tls : TlsObservation) (o : Oracle StoreError) :
      History m (now + 1) (exec (captureBaseline m.sha host port tls now) o a).2

/-- Every baseline was made before `t`, and its texts are bound. -/
def Before (t : ℕ) (B : Table Baseline.id) : Prop :=
  ∀ b ∈ B, b.createdNs < t ∧ b.createdNs ≤ maxClock ∧ b.read = b

lemma before_putBaseline {B : Table Baseline.id} (h : Before t B)
    (ht : t ≤ now) (hnow : now ≤ maxClock) (hb : b.createdNs = now) :
    Before (now + 1) (putBaseline B b) := by
  have hold : Before (now + 1) B := fun r hr => by
    obtain ⟨hlt, hclock, hread⟩ := h r hr
    exact ⟨by omega, hclock, hread⟩
  unfold putBaseline
  split
  · exact hold
  · intro r hr
    rcases mem_add.mp hr with hr | rfl
    · exact hold r hr
    · refine ⟨?_, ?_, ?_⟩
      · show b.createdNs < now + 1
        omega
      · show b.createdNs ≤ maxClock
        omega
      · simp [Baseline.read, Baseline.bound]

lemma before_of_stores {p : ArchiveM Baseline} {K : Baseline → Prop}
    (hp : Stores now p K) (h : Before t a.history.baselines) (ht : t ≤ now) (hnow : now ≤ maxClock)
    (o : Oracle StoreError) : Before (now + 1) (exec p o a).2.history.baselines := by
  have hkeep : Before (now + 1) a.history.baselines := fun r hr => by
    obtain ⟨hlt, hclock, hread⟩ := h r hr
    exact ⟨by omega, hclock, hread⟩
  rcases (hp a.history.baselines).exec (o := o) (fun _ _ _ => trivial) rfl with
    ⟨b, -, hb, -, hput⟩ | ⟨e, -, hsame | ⟨b, hb, hput⟩⟩
  · rw [hput]
    exact before_putBaseline h ht hnow hb
  · rw [hsame]
    exact hkeep
  · rw [hput]
    exact before_putBaseline h ht hnow hb

lemma History.before {m : Machine} (h : History m t a) : Before t a.history.baselines := by
  induction h with
  | start h =>
    intro b hb
    rw [h] at hb
    exact absurd hb (not_mem_empty b)
  | other _ hkeep ih => exact fun b hb => ih b (hkeep b hb)
  | accept _ ht hnow rules acceptance o ih =>
    exact before_of_stores (acceptance.stores m rules _) ih ht hnow o
  | capture _ ht hnow host port tls o ih =>
    exact before_of_stores (captureBaseline_stores m.sha host port tls _) ih ht hnow o

def SameBaseline (r b : Baseline) : Prop :=
  r.sha256 = b.sha256 ∧ r.acceptedSpkiSha256 = b.acceptedSpkiSha256 ∧
    r.acceptedIssuer = b.acceptedIssuer ∧ r.rttMedianUs = b.rttMedianUs ∧
    r.rttvarMedianUs = b.rttvarMedianUs

lemma int64_of_le_maxClock (h : n ≤ maxClock) : int64 n = n := by
  unfold maxClock at h
  simp only [int64]
  rw [if_pos (by omega)]

lemma baselineFor_add {db : Store} (h : Before t db.baselines)
    (ht : t ≤ now) (hnow : now ≤ maxClock) (hb : b.createdNs = now) :
    ({ db with baselines := db.baselines.add b.bound b.bound_id } : Store).baselineFor b.targetHost
      b.targetPort = some (b.bound db.baselines.nextId) := by
  set x := b.bound db.baselines.nextId with hx
  have hxcreated : x.createdNs = now := hb
  have hfirst : (((db.baselines.add b.bound b.bound_id).rows.filter (fun r : Baseline =>
      r.targetHost = bindText b.targetHost ∧ r.targetPort = b.targetPort)).insertionSort
        fun r s => r.laterLe s = true).head? = some x := by
    apply head_insertionSort
    · refine mem_filter.mpr ⟨mem_add.mpr (.inr rfl), ?_⟩
      exact decide_eq_true ⟨rfl, rfl⟩
    · intro y hy
      rcases mem_add.mp (mem_filter.mp hy).1 with hy | rfl
      · obtain ⟨hlt, hclock, -⟩ := h y hy
        simp only [Baseline.laterLe, hxcreated, int64_of_le_maxClock hnow,
          int64_of_le_maxClock hclock, Bool.or_eq_true, decide_eq_true_eq]
        left
        omega
      · simp [Baseline.laterLe, hx]
    · intro y hy hne
      rcases mem_add.mp (mem_filter.mp hy).1 with hy | rfl
      · obtain ⟨hlt, hclock, -⟩ := h y hy
        simp only [Baseline.laterLe, hxcreated, int64_of_le_maxClock hnow,
          int64_of_le_maxClock hclock, Bool.or_eq_true, Bool.and_eq_true, decide_eq_true_eq, not_or,
          not_and]
        constructor
        · omega
        · intro heq
          omega
      · exact absurd rfl hne
  have hread : x.read = x := by simp [hx, Baseline.read, Baseline.bound]
  unfold Store.baselineFor
  dsimp only
  rw [hfirst, map_some, hread]

/-- **The baseline in force**: right after an acceptance the baseline of its target is the accepted
one, when its hash is new or is that of the baseline in force already. -/
theorem accepted_baseline_in_force (m : Machine) {t now : ℕ} {a : Archive} {b : Baseline}
    (rules : RuleSet) (acceptance : Acceptance) (o : Oracle StoreError) (hist : History m t a)
    (ht : t ≤ now) (hnow : now ≤ maxClock)
    (hok : (exec (acceptance.run m rules now) o a).1 = .ok b)
    (hhash : (∀ r ∈ a.history.baselines, r.sha256 ≠ b.sha256) ∨
      ∃ r, a.history.baselineFor b.targetHost b.targetPort = some r ∧ SameBaseline r b) :
    ∃ r, (exec (acceptance.run m rules now) o a).2.history.baselineFor b.targetHost b.targetPort =
      some r ∧ SameBaseline r b := by
  obtain ⟨hcreated, hbound, hput⟩ : b.createdNs = now ∧ BoundTexts b ∧
      (exec (acceptance.run m rules now) o a).2.history.baselines =
        putBaseline a.history.baselines b := by
    rcases (acceptance.stores m rules now a.history.baselines).exec (o := o)
      (fun _ _ _ => trivial) rfl with ⟨b', hrun, hpost⟩ | ⟨e, hrun, -⟩
    · rw [hok] at hrun
      cases hrun
      exact hpost
    · rw [hok] at hrun
      cases hrun
  have hlookup : ∀ db : Store, db.baselines = putBaseline a.history.baselines b →
      db.baselineFor b.targetHost b.targetPort =
        ({ a.history with baselines := putBaseline a.history.baselines b } : Store).baselineFor
          b.targetHost b.targetPort := by
    intro db hdb
    simp only [Store.baselineFor, hdb]
  rw [hlookup _ hput]
  by_cases hthere : (a.history.baselines.rows.any fun r => r.sha256 = bindText b.sha256) = true
  · -- the hash is stored already, and nothing is inserted
    have hkept : putBaseline a.history.baselines b = a.history.baselines := if_pos hthere
    rw [hkept]
    rcases hhash with hnew | hforce
    · obtain ⟨r, hr, heq⟩ := any_eq_true.mp hthere
      rw [decide_eq_true_eq, hbound.sha256] at heq
      exact absurd heq (hnew r hr)
    · exact hforce
  · have hadded : putBaseline a.history.baselines b =
        a.history.baselines.add b.bound b.bound_id := if_neg hthere
    rw [hadded, baselineFor_add hist.before ht hnow hcreated]
    exact ⟨_, rfl, hbound.sha256, hbound.spki, hbound.issuer, rfl, rfl⟩

/-- Two connections of one client to a service, the second with another key. -/
def clientArchive : Archive where
  history :=
    { Store.initial with
      processes := Table.empty.add (fun id => ⟨id, 10, 0, 3, some 3, ['s'], ['/', 's']⟩) fun _ => rfl
      connections := [7, 8].foldl (fun t cookie => t.add (fun id =>
        { id
          serial := id
          socketCookie := cookie
          socketInode := 0
          processId := some 1
          localIp := []
          localPort := 443
          remoteIp := []
          remotePort := 0
          targetHost := []
          lifecycleState := .active
          firstSeenNs := 1
          lastSeenNs := 1
          capturedAtNs := none
          direction := .inbound
          networkNamespaceInode := none }) fun _ => rfl) .empty }
  evidence :=
    { tlsSessions := ['A', 'B'].foldl (fun t key => t.add (fun id =>
        ⟨id, id,
          { observation :=
              { observedNs := 5
                localRole := .server
                peerCertificatePresent := true
                peerAuthenticated := true
                spkiSha256 := [key]
                subject := ['c']
                fidelity := .exact }
            relation := .inboundClientIdentity
            correlationFidelity := .exact }, decimal id⟩) fun _ => rfl) .empty }

/-- The archive after the client of a connection has been accepted. -/
def afterAccepting (a : Archive) (now id : ℕ) : Archive :=
  (exec (Acceptance.run sampleMachine {} now (.client id)) steadyOracle a).2

/-- The first acceptance of a client. -/
theorem accepted_baseline_in_force_first :
    ∃ b, (exec (Acceptance.run sampleMachine {} 1 (.client 1)) steadyOracle clientArchive).1 = .ok b ∧
      ∃ r, (afterAccepting clientArchive 1 1).history.baselineFor b.targetHost b.targetPort = some r ∧
        SameBaseline r b := by
  refine ⟨_, rfl, ?_⟩
  refine accepted_baseline_in_force sampleMachine (t := 0) {} (.client 1) steadyOracle
    (.start rfl) (by decide) (by decide) rfl (.inl ?_)
  intro r hr
  exact absurd hr (not_mem_empty r)

/-- A client is accepted with one key, then with another, then with the first one again: the other
key stays in force. -/
theorem accepted_baseline_not_in_force :
    History sampleMachine 3 (afterAccepting (afterAccepting clientArchive 1 1) 2 2) ∧
    ∃ b r, (exec (Acceptance.run sampleMachine {} 3 (.client 1)) steadyOracle
        (afterAccepting (afterAccepting clientArchive 1 1) 2 2)).1 = .ok b ∧
      (afterAccepting (afterAccepting (afterAccepting clientArchive 1 1) 2 2) 3 1).history.baselineFor
        b.targetHost b.targetPort = some r ∧
      b.acceptedSpkiSha256 = ['A'] ∧ r.acceptedSpkiSha256 = ['B'] := by
  refine ⟨.accept (.accept (.start rfl) (by decide) (by decide) {} (.client 1) steadyOracle)
    (by decide) (by decide) {} (.client 2) steadyOracle, ?_⟩
  set a := afterAccepting (afterAccepting clientArchive 1 1) 2 2 with ha
  obtain ⟨b, hrun⟩ : ∃ b, (exec (Acceptance.run sampleMachine {} 3 (.client 1)) steadyOracle a).1 =
      .ok b := ⟨_, rfl⟩
  have hkeys : ((exec (Acceptance.run sampleMachine {} 3 (.client 1)) steadyOracle a).1.toOption.bind
      fun b => ((afterAccepting a 3 1).history.baselineFor b.targetHost b.targetPort).map
        fun r => (b.acceptedSpkiSha256, r.acceptedSpkiSha256)) = some (['A'], ['B']) := by
    decide +kernel
  rw [hrun] at hkeys
  simp only [Except.toOption, bind_some, map_eq_some_iff, Prod.mk.injEq] at hkeys
  obtain ⟨r, hr, heq⟩ := hkeys
  exact ⟨b, r, hrun, hr, heq⟩

end NetaAgent.Assurance
