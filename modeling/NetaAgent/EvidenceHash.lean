import NetaAgent.NameResolution
import NetaAgent.Separated

/-!
Which items of evidence have the same hash.

The fields are joined by bars and not escaped, and a missing text is written as the empty one. Two
items that differ have the same text when a bar in a field of one stands where the other has a new
field, or when all fields are written alike.
-/

namespace NetaAgent.EvidenceHash

open Decimal Crypto TextOrder Separated Observation HistoryStore TlsSession NameResolution List Function

/-! ### The texts of fields -/

lemma decimal_injective : Injective decimal := fun _ _ => decimal_inj

lemma signedDecimal_injective : Injective signedDecimal := by
  intro a b h
  have hdash (n : ℕ) (r : Text) : '-' :: r ≠ decimal n := fun h =>
    absurd (isDigit_of_mem_decimal (h ▸ mem_cons_self)) (by decide)
  unfold signedDecimal at h
  split at h <;> split at h
  · have := decimal_inj (cons.inj h).2
    omega
  · exact absurd h (hdash _ _)
  · exact absurd h.symm (hdash _ _)
  · have := decimal_inj h
    omega

lemma signedDecimal_ne_nil (n : ℤ) : signedDecimal n ≠ [] := by
  unfold signedDecimal
  split
  · exact cons_ne_nil _ _
  · exact decimal_ne_nil _

lemma optional_injective {α : Type} {text : α → Text} (h : Injective text)
    (hne : ∀ a, text a ≠ []) : Injective fun a : Option α => (a.map text).getD [] := by
  intro a b heq
  cases a <;> cases b
  · rfl
  · exact absurd heq.symm (hne _)
  · exact absurd heq (hne _)
  · exact congrArg some (h heq)

lemma optionalDecimal_injective : Injective optionalDecimal :=
  optional_injective decimal_injective decimal_ne_nil

lemma optionalSigned_injective : Injective fun n : Option ℤ => (n.map signedDecimal).getD [] :=
  optional_injective signedDecimal_injective signedDecimal_ne_nil

lemma bit_injective : Injective bit := fun a b => by cases a <;> cases b <;> decide

lemma role_injective : Injective TlsSessionRole.toText :=
  fun a b => by cases a <;> cases b <;> decide

lemma tlsRelation_injective : Injective TlsSessionRelation.toText :=
  fun a b => by cases a <;> cases b <;> decide

lemma fidelity_injective : Injective EvidenceFidelity.toText :=
  fun a b => by cases a <;> cases b <;> decide

lemma queryKind_injective : Injective NameResolutionQueryKind.toText :=
  fun a b => by cases a <;> cases b <;> decide

lemma mechanism_injective : Injective NameResolutionMechanism.toText :=
  fun a b => by cases a <;> cases b <;> decide

lemma nameRelation_injective : Injective NameResolutionRelation.toText :=
  fun a b => by cases a <;> cases b <;> decide

/-- One text is missing and the other one is empty. -/
def Mixed (a b : Option Text) : Prop := a ≠ b ∧ a.getD [] = b.getD []

lemma eq_of_not_mixed {a b : Option Text} (hmixed : ¬ Mixed a b) (h : a.getD [] = b.getD []) :
    a = b := by
  by_contra hne
  exact hmixed ⟨hne, h⟩

lemma address_port_inj {a b : Text} {p q : ℕ} (h : a ++ ':' :: decimal p = b ++ ':' :: decimal q) :
    a = b ∧ p = q := by
  have hcolon (n : ℕ) : ':' ∉ (decimal n).reverse := fun h =>
    absurd (isDigit_of_mem_decimal (mem_reverse.mp h)) (by decide)
  have hreverse := congrArg reverse h
  simp only [reverse_append, reverse_cons, append_assoc, singleton_append]
    at hreverse
  obtain ⟨hport, haddress⟩ := append_sep_inj (hcolon p) (hcolon q) hreverse
  exact ⟨reverse_inj.mp haddress, decimal_inj (reverse_inj.mp hport)⟩

/-! ### TLS sessions -/

/-- The fields that are hashed. -/
def sessionFields (e : TlsSessionEvidence) : List Text :=
  observationFields e.observation true ++ [e.relation.toText, e.correlationFidelity.toText]

def tlsSessionText (e : TlsSessionEvidence) : Text := intercalate ['|'] (sessionFields e)

lemma tlsSessionText_eq_iff {e e' : TlsSessionEvidence} : tlsSessionText e = tlsSessionText e' ↔
    sessionFields e = sessionFields e' ∨ Recut '|' (sessionFields e) (sessionFields e') :=
  intercalate_eq_iff (by simp [sessionFields]) (by simp [sessionFields])

lemma tlsSessionEvidenceHash_eq (sha : Sha256) (e : TlsSessionEvidence) :
    tlsSessionEvidenceHash sha e = sha256Hex sha (tlsSessionText e) := by
  simp only [tlsSessionEvidenceHash, tlsSessionText, sessionFields, canonicalObservation,
    observationFields, intercalate_cons, cons_append, nil_append, append_assoc, ← flatMap_append]

/-- What the hash covers. -/
def hashedSession (e : TlsSessionEvidence) : TlsSessionEvidence :=
  { e with observation.process.executablePath := [] }

/-- The two ends, with the dash of the arrow between them. -/
def ends (o : TlsSessionObservation) : List Text :=
  [o.localEndpoint.address ++ ':' :: decimal o.localEndpoint.port ++ ['-'],
    o.remoteEndpoint.address ++ ':' :: decimal o.remoteEndpoint.port]

lemma endpoints_eq (o : TlsSessionObservation) : endpoints o = intercalate ['>'] (ends o) := by
  simp [endpoints, ends]

lemma endpoints_inj {o o' : TlsSessionObservation} (harrow : ¬ Recut '>' (ends o) (ends o'))
    (h : endpoints o = endpoints o') :
    o.localEndpoint = o'.localEndpoint ∧ o.remoteEndpoint = o'.remoteEndpoint := by
  rw [endpoints_eq, endpoints_eq] at h
  have hends := ((intercalate_eq_iff (by simp [ends]) (by simp [ends])).mp h).resolve_right harrow
  simp only [ends, cons.injEq, and_true] at hends
  obtain ⟨hla, hlp⟩ := address_port_inj (append_cancel_right hends.1)
  obtain ⟨hra, hrp⟩ := address_port_inj hends.2
  exact ⟨congrArg₂ TlsSessionEndpoint.mk hla hlp, congrArg₂ TlsSessionEndpoint.mk hra hrp⟩

/-- A bar in a field of one session stands where the other has a new field; or all fields are
written alike, and an arrow stands in an address, or a name is missing in one and empty in the
other. -/
def SessionsConfused (e e' : TlsSessionEvidence) : Prop :=
  Recut '|' (sessionFields e) (sessionFields e') ∨ sessionFields e = sessionFields e' ∧
    (Recut '>' (ends e.observation) (ends e'.observation) ∨
      Mixed e.observation.expectedPeerName e'.observation.expectedPeerName ∨
      Mixed e.observation.matchedPeerName e'.observation.matchedPeerName)

lemma hashedSession_eq {e e' : TlsSessionEvidence} (hconfused : ¬ SessionsConfused e e')
    (h : tlsSessionText e = tlsSessionText e') : hashedSession e = hashedSession e' := by
  rw [SessionsConfused, not_or] at hconfused
  have hfields := (tlsSessionText_eq_iff.mp h).resolve_right hconfused.1
  obtain ⟨harrow, hnames⟩ := not_or.mp fun hor => hconfused.2 ⟨hfields, hor⟩
  obtain ⟨hexpect, hmatch⟩ := not_or.mp hnames
  simp only [sessionFields, observationFields, if_true, cons_append, nil_append, cons.injEq,
    and_true] at hfields
  obtain ⟨hns, hrole, hpid, huid, hticks, hcomm, hnetns, hcookie, hends, hversion, hcipher, halpn,
    hsni, hexpected, hmatched, hpresent, hrequired, hverify, hauthenticated, hleaf, hspki, hsubject,
    hissuer, hbefore, hafter, hfidelity, hsource, hrelation, hcorrelation⟩ := hfields
  obtain ⟨hlocal, hremote⟩ := endpoints_inj harrow hends
  simp only [hashedSession, decimal_injective hns, role_injective hrole,
    signedDecimal_injective hpid, decimal_injective huid, optionalDecimal_injective hticks, hcomm,
    optionalDecimal_injective hnetns, optionalDecimal_injective hcookie, hlocal, hremote, hversion,
    hcipher, halpn, hsni, eq_of_not_mixed hexpect hexpected, eq_of_not_mixed hmatch hmatched,
    bit_injective hpresent, bit_injective hrequired, optionalSigned_injective hverify,
    bit_injective hauthenticated, hleaf, hspki, hsubject, hissuer, hbefore, hafter,
    fidelity_injective hfidelity, hsource, tlsRelation_injective hrelation,
    fidelity_injective hcorrelation]

lemma SessionsConfused.text_eq {e e' : TlsSessionEvidence} (h : SessionsConfused e e') :
    tlsSessionText e = tlsSessionText e' ∧ hashedSession e ≠ hashedSession e' := by
  -- the fields, the ends and the names are those of what the hash covers
  have hof : ∀ {α : Type} (f : TlsSessionEvidence → α), (∀ e, f (hashedSession e) = f e) →
      hashedSession e = hashedSession e' → f e = f e' := fun f hf heq => by
    rw [← hf e, ← hf e', heq]
  rcases h with h | ⟨hfields, h⟩
  · exact ⟨tlsSessionText_eq_iff.mpr (.inr h), fun heq => h.ne (hof sessionFields (fun _ => rfl) heq)⟩
  · refine ⟨congrArg (intercalate _) hfields, fun heq => ?_⟩
    rcases h with h | h | h
    · exact h.ne (hof (fun e => ends e.observation) (fun _ => rfl) heq)
    · exact h.1 (hof (fun e => e.observation.expectedPeerName) (fun _ => rfl) heq)
    · exact h.1 (hof (fun e => e.observation.matchedPeerName) (fun _ => rfl) heq)

/-! ### Name resolutions -/

lemma nameResolutionText_eq_iff {e e' : NameResolutionEvidence} :
    nameResolutionText e = nameResolutionText e' ↔ nameResolutionFields e = nameResolutionFields e' ∨
      Recut '|' (nameResolutionFields e) (nameResolutionFields e') :=
  intercalate_eq_iff (cons_ne_nil _ _) (cons_ne_nil _ _)

/-- What the hash covers, but the addresses. -/
def hashedResolution (e : NameResolutionEvidence) : NameResolutionEvidence :=
  let p := e.observation.process
  { e with observation := { e.observation with
      addresses := []
      process :=
        { p with
          agentVisible := ⟨p.agentVisible.pid, p.agentVisible.tgid⟩
          kernel := ⟨p.kernel.pid, p.kernel.tgid⟩
          agentPidNamespace := none } } }

/-- The same items, but for the order of the addresses. -/
def SameResolution (e e' : NameResolutionEvidence) : Prop :=
  hashedResolution e = hashedResolution e' ∧
    e.observation.addresses.Perm e'.observation.addresses

/-- A bar in a field of one item stands where the other has a new field; or all fields are written
alike, and a name is missing in one and empty in the other. -/
def ResolutionsConfused (e e' : NameResolutionEvidence) : Prop :=
  Recut '|' (nameResolutionFields e) (nameResolutionFields e') ∨
    nameResolutionFields e = nameResolutionFields e' ∧
      (Mixed e.observation.canonicalName e'.observation.canonicalName ∨
        Mixed e.observation.process.comm e'.observation.process.comm)

lemma addressText_injective : Injective addressText := by
  rintro ⟨family, address⟩ ⟨family', address'⟩ h
  have hcolon (n : ℕ) : ':' ∉ decimal n := fun h => absurd (isDigit_of_mem_decimal h) (by decide)
  obtain ⟨hfamily, haddress⟩ := append_sep_inj (hcolon _) (hcolon _) h
  have hcode := decimal_inj hfamily
  cases haddress
  cases family <;> cases family' <;> first | rfl | cases hcode

lemma sameResolution {e e' : NameResolutionEvidence} (hconfused : ¬ ResolutionsConfused e e')
    (h : nameResolutionText e = nameResolutionText e') : SameResolution e e' := by
  rw [ResolutionsConfused, not_or] at hconfused
  have hfields := (nameResolutionText_eq_iff.mp h).resolve_right hconfused.1
  obtain ⟨hname, hprocess⟩ := not_or.mp fun hor => hconfused.2 ⟨hfields, hor⟩
  simp only [nameResolutionFields, resolutionFields, cons_append, nil_append, cons.injEq] at hfields
  obtain ⟨hstarted, hcompleted, hkind, hmechanism, hquery, hcanonical, hsource, hresult, hfidelity,
    hcorrelation, hrelation, hpid, htgid, hkernelPid, hkernelTgid, huid, hticks, hcomm, hnetns,
    haddresses⟩ := hfields
  refine ⟨?_, (map_perm_map_iff addressText_injective).mp ?_⟩
  · simp only [hashedResolution, decimal_injective hstarted, decimal_injective hcompleted,
      queryKind_injective hkind, mechanism_injective hmechanism, hquery,
      eq_of_not_mixed hname hcanonical, hsource, optionalSigned_injective hresult,
      fidelity_injective hfidelity, fidelity_injective hcorrelation,
      nameRelation_injective hrelation, optionalSigned_injective hpid,
      optionalSigned_injective htgid, optionalSigned_injective hkernelPid,
      optionalSigned_injective hkernelTgid, optionalDecimal_injective huid,
      optionalDecimal_injective hticks, eq_of_not_mixed hprocess hcomm,
      optionalDecimal_injective hnetns]
  · exact (perm_insertionSort _ _).symm.trans
      ((List.Perm.of_eq haddresses).trans (perm_insertionSort _ _))

lemma ResolutionsConfused.text_eq {e e' : NameResolutionEvidence} (h : ResolutionsConfused e e') :
    nameResolutionText e = nameResolutionText e' ∧ ¬ SameResolution e e' := by
  rcases h with h | ⟨hfields, h⟩
  · refine ⟨nameResolutionText_eq_iff.mpr (.inr h), fun hsame => h.ne ?_⟩
    have hbase : ∀ e, resolutionFields (hashedResolution e) = resolutionFields e := fun _ => rfl
    rw [nameResolutionFields, nameResolutionFields, ← hbase e, ← hbase e', hsame.1,
      sortTexts_perm (hsame.2.map _)]
  · refine ⟨congrArg (intercalate _) hfields, fun hsame => ?_⟩
    rcases h with h | h
    · exact h.1 (congrArg (fun e => e.observation.canonicalName) hsame.1)
    · exact h.1 (congrArg (fun e => e.observation.process.comm) hsame.1)

/-- **What a hash tells.** When the digest tells the two texts apart, equal hashes are of equal
items exactly where the two are not confused: TLS sessions but for the path of the executable, name
resolutions but for the order of the addresses and the namespace of the process. -/
theorem evidence_hash_inj (sha : Sha256) (e e' : TlsSessionEvidence)
    (n n' : NameResolutionEvidence) (hsha : Distinguishes sha (tlsSessionText e) (tlsSessionText e'))
    (hsha' : Distinguishes sha (nameResolutionText n) (nameResolutionText n')) :
    ((tlsSessionEvidenceHash sha e = tlsSessionEvidenceHash sha e' →
      hashedSession e = hashedSession e') ↔ ¬ SessionsConfused e e') ∧
    ((nameResolutionEvidenceHash sha n = nameResolutionEvidenceHash sha n' →
      SameResolution n n') ↔ ¬ ResolutionsConfused n n') := by
  refine ⟨⟨fun h hconfused => ?_, fun h heq => ?_⟩, fun h hconfused => ?_, fun h heq => ?_⟩
  · refine hconfused.text_eq.2 (h ?_)
    rw [tlsSessionEvidenceHash_eq, tlsSessionEvidenceHash_eq, hconfused.text_eq.1]
  · rw [tlsSessionEvidenceHash_eq, tlsSessionEvidenceHash_eq] at heq
    exact hashedSession_eq h (sha256Hex_inj hsha heq)
  · exact hconfused.text_eq.2 (h (congrArg (sha256Hex sha) hconfused.text_eq.1))
  · exact sameResolution h (sha256Hex_inj hsha' heq)

/-- A session of a peer that chooses its subject and issuer. -/
def sessionOf (subject issuer : Text) (expected : Option Text) (path : Text) : TlsSessionEvidence where
  observation := { process.executablePath := path, expectedPeerName := expected, subject, issuer }

/-- One session with two paths: the hashes are equal, and nothing is confused. -/
theorem evidence_hash_inj_path :
    ¬ SessionsConfused (sessionOf "a|b" "c" none "/x") (sessionOf "a|b" "c" none "/y") := by
  have htext : tlsSessionText (sessionOf "a|b" "c" none "/x") =
      tlsSessionText (sessionOf "a|b" "c" none "/y") := rfl
  exact (evidence_hash_inj (fun _ _ => 0) (sessionOf "a|b" "c" none "/x")
    (sessionOf "a|b" "c" none "/y") {} {} (fun _ => htext) (fun _ => rfl)).1.mp fun _ => rfl

/-- A bar moves from the issuer to the subject, and a missing name is an empty one. -/
theorem evidence_hash_collisions :
    (∀ sha, tlsSessionEvidenceHash sha (sessionOf "a|b" "c" none []) =
        tlsSessionEvidenceHash sha (sessionOf "a" "b|c" (some []) [])) ∧
      (∀ sha, nameResolutionEvidenceHash sha { observation.canonicalName := some [] } =
        nameResolutionEvidenceHash sha {}) ∧
      hashedSession (sessionOf "a|b" "c" none []) ≠ hashedSession (sessionOf "a" "b|c" (some []) []) :=
  ⟨fun sha => congrArg (sha256Hex sha) (by decide +kernel), fun _ => rfl, by decide +kernel⟩

end NetaAgent.EvidenceHash
