import NetaAgent.Separated
import NetaAgent.Verdict

/-!
The trust of inbound connections: it rests on one exact session of the server side, and the
accepted identity is looked up under a key for the service and the client.
-/

namespace NetaAgent.Verdict

open Decimal Crypto TlsSession Separated Observation HistoryStore Rules List

/-! ### The evidence -/

def exactInbound (evidence : List TlsSessionEvidence) : List TlsSessionEvidence :=
  (evidence.filter isInbound).filter isExact

section Context

variable (m : Machine) {e e' : List TlsSessionEvidence}

lemma inboundTrustContext_none (h : exactInbound e = []) :
    inboundTrustContext m e =
      { tlsSessionObserved := e.filter isInbound ≠ []
        evidenceHash := tlsSessionEvidenceSetHash m.sha (e.filter isInbound) } := by
  unfold exactInbound at h
  simp only [inboundTrustContext, h]

lemma inboundTrustContext_many (h : 2 ≤ (exactInbound e).length) :
    inboundTrustContext m e =
      { tlsSessionObserved := e.filter isInbound ≠ []
        ambiguous := true
        evidenceHash := tlsSessionEvidenceSetHash m.sha (exactInbound e) } := by
  rcases hlist : exactInbound e with _ | ⟨a, _ | ⟨b, rest⟩⟩
  · simp [hlist] at h
  · simp [hlist] at h
  · unfold exactInbound at hlist
    simp only [inboundTrustContext, hlist]

lemma filter_isInbound_ne_nil (h : exactInbound e ≠ []) : e.filter isInbound ≠ [] := by
  intro hnil
  exact h (by rw [exactInbound, hnil, filter_nil])

lemma inboundTrustContext_congr (hne : exactInbound e ≠ [])
    (h : exactInbound e = exactInbound e') : inboundTrustContext m e = inboundTrustContext m e' := by
  have hobs := decide_eq_true (filter_isInbound_ne_nil hne)
  have hobs' := decide_eq_true (filter_isInbound_ne_nil (h ▸ hne))
  rcases hlist : exactInbound e with _ | ⟨a, _ | ⟨b, rest⟩⟩
  · exact absurd hlist hne
  · have hlist' := h ▸ hlist
    unfold exactInbound at hlist hlist'
    simp only [inboundTrustContext, hlist, hlist', hobs, hobs']
  · have hlen : 2 ≤ (exactInbound e).length := by simp [hlist]
    rw [inboundTrustContext_many m hlen, inboundTrustContext_many m (h ▸ hlen), h]
    simp only [hobs, hobs']

lemma inboundTrustContext_perm (h : e.Perm e') :
    inboundTrustContext m e = inboundTrustContext m e' := by
  have hrelevant : (e.filter isInbound).Perm (e'.filter isInbound) := h.filter _
  have hexact : (exactInbound e).Perm (exactInbound e') := hrelevant.filter _
  have hobs : (e.filter isInbound ≠ []) = (e'.filter isInbound ≠ []) := by
    rw [ne_eq, ne_eq, ← length_eq_zero_iff, ← length_eq_zero_iff, hrelevant.length_eq]
  rcases hlist : exactInbound e with _ | ⟨a, _ | ⟨b, rest⟩⟩
  · have hlist' : exactInbound e' = [] := (hlist ▸ hexact).symm.eq_nil
    rw [inboundTrustContext_none m hlist, inboundTrustContext_none m hlist',
      tlsSessionEvidenceSetHash_perm m.sha hrelevant]
    simp only [hobs]
  · have hlist' : exactInbound e' = [a] := singleton_perm.mp (hlist ▸ hexact) |>.symm
    exact inboundTrustContext_congr m (by simp [hlist]) (hlist.trans hlist'.symm)
  · have hlen : 2 ≤ (exactInbound e).length := by simp [hlist]
    rw [inboundTrustContext_many m hlen, inboundTrustContext_many m (hexact.length_eq ▸ hlen),
      tlsSessionEvidenceSetHash_perm m.sha hexact]
    simp only [hobs]

end Context

section Trust

variable (s : Settings) (accepted : Option Baseline) {context : InboundTrustContext}

lemma inboundTrust_ambiguous (h : context.ambiguous = true) :
    (inboundTrust s accepted context).1 = .unverified := by
  simp only [inboundTrust, h, if_true]
  split
  · rfl
  · rfl

/-- Without an exact item no subject is known, and whatever the rules require, the state is
unverified. -/
lemma inboundTrust_unset (hsubject : context.subject = []) (hresult : context.verifyResult = none) :
    (inboundTrust s accepted context).1 = .unverified := by
  have hfailed : verificationFailed context = false := by simp [verificationFailed, hresult]
  unfold inboundTrust
  simp only [hfailed, hsubject, Bool.false_eq_true, and_false, if_false, if_true]
  repeat (split; rfl)
  rfl

variable (m : Machine) {e e' : List TlsSessionEvidence}

lemma inboundTrust_of_no_exact (h : exactInbound e = []) :
    (inboundTrust s accepted (inboundTrustContext m e)).1 = .unverified := by
  rw [inboundTrustContext_none m h]
  exact inboundTrust_unset s accepted rfl rfl

lemma inboundTrust_of_many_exact (h : 2 ≤ (exactInbound e).length) :
    (inboundTrust s accepted (inboundTrustContext m e)).1 = .unverified := by
  rw [inboundTrustContext_many m h]
  exact inboundTrust_ambiguous s accepted rfl

lemma inboundTrust_congr (h : exactInbound e = exactInbound e') :
    (inboundTrust s accepted (inboundTrustContext m e)).1 =
      (inboundTrust s accepted (inboundTrustContext m e')).1 := by
  by_cases hne : exactInbound e = []
  · rw [inboundTrust_of_no_exact s accepted m hne, inboundTrust_of_no_exact s accepted m (h ▸ hne)]
  · rw [inboundTrustContext_congr m hne h]

end Trust

/-- **The inbound trust state**: a verdict rests on exactly one exact item of the server side, it
and its input do not depend on the order of the evidence, and all other items leave it as it is. -/
theorem inbound_trust_rests_on_one_exact_item (m : Machine) (accepted : Option Baseline)
    (metrics : AggregateMetrics) (rules : RuleSet) :
    (∀ e, (evaluateInbound m accepted metrics (inboundTrustContext m e) rules).trust ≠ .unverified →
      ∃ item, exactInbound e = [item]) ∧
    (∀ e e', e.Perm e' →
      (evaluateInbound m accepted metrics (inboundTrustContext m e) rules).trust =
        (evaluateInbound m accepted metrics (inboundTrustContext m e') rules).trust ∧
      (evaluateInbound m accepted metrics (inboundTrustContext m e) rules).inputHash =
        (evaluateInbound m accepted metrics (inboundTrustContext m e') rules).inputHash) ∧
    (∀ e e', exactInbound e = exactInbound e' →
      (evaluateInbound m accepted metrics (inboundTrustContext m e) rules).trust =
        (evaluateInbound m accepted metrics (inboundTrustContext m e') rules).trust) := by
  refine ⟨?_, ?_, ?_⟩
  · intro e h
    rcases hlist : exactInbound e with _ | ⟨a, _ | ⟨b, rest⟩⟩
    · exact absurd (inboundTrust_of_no_exact rules.toSettings accepted m hlist) h
    · exact ⟨a, rfl⟩
    · have hlen : 2 ≤ (exactInbound e).length := by simp [hlist]
      exact absurd (inboundTrust_of_many_exact rules.toSettings accepted m hlen) h
  · intro e e' hperm
    rw [inboundTrustContext_perm m hperm]
    exact ⟨rfl, rfl⟩
  · intro e e' h
    exact inboundTrust_congr rules.toSettings accepted m h

/-! ### The key of an accepted client -/

lemma inboundClientBaselineKey_of_ne_nil {m : Machine} {c : ConnectionSummary} {subject : Text}
    (h : inboundClientBaselineKey m c subject ≠ []) :
    processIdentityText c.process ≠ [] ∧ inboundClientBaselineKey m c subject =
        "inbound-client:" ++ sha256Hex m.sha (baselineKeyText c subject) := by
  unfold inboundClientBaselineKey at h ⊢
  split at h
  · exact absurd rfl h
  · split at h
    · exact absurd rfl h
    · next h1 h2 => exact ⟨h2, by rw [if_neg h1, if_neg h2]⟩

lemma processIdentityText_inj {p p' : ProcessIdentity} (hne : processIdentityText p ≠ [])
    (h : processIdentityText p = processIdentityText p') :
    p.executablePath = p'.executablePath ∧ (p.executablePath = [] → p.comm = p'.comm) := by
  unfold processIdentityText at h hne
  by_cases hp : p.executablePath = []
  · by_cases hp' : p'.executablePath = []
    · simp only [hp, hp', ne_eq, not_true, if_false] at h hne ⊢
      by_cases hc : p.comm = []
      · simp [hc] at hne
      · by_cases hc' : p'.comm = []
        · simp [hc, hc'] at h
        · simp only [hc, hc', not_false_iff, if_true] at h
          exact ⟨trivial, fun _ => append_cancel_left h⟩
    · simp only [hp, hp', ne_eq, not_true, not_false_iff, if_true, if_false] at h
      split at h
      · simp at h
      · simp at h
  · by_cases hp' : p'.executablePath = []
    · simp only [hp, hp', ne_eq, not_true, not_false_iff, if_true, if_false] at h
      split at h
      · simp at h
      · simp at h
    · simp only [hp, hp', ne_eq, not_false_iff, if_true] at h
      exact ⟨append_cancel_left h, fun hnil => absurd hnil hp⟩

/-- What stands between the bars of the key text. -/
def baselineKeyParts (c : ConnectionSummary) (subject : Text) : List Text :=
  ("uid=" ++ decimal c.process.uid) :: processIdentityText c.process ::
    match c.networkNamespaceInode with
    | some inode => ["netns=" ++ decimal inode, "subject=" ++ subject]
    | none => ["subject=" ++ subject]

lemma baselineKeyText_eq (c : ConnectionSummary) (subject : Text) :
    baselineKeyText c subject = intercalate ['|'] (baselineKeyParts c subject) := by
  unfold baselineKeyText baselineKeyParts
  cases c.networkNamespaceInode with
  | none | some => simp

lemma baselineKeyParts_inj {c c' : ConnectionSummary} {s s' : Text}
    (h : baselineKeyParts c s = baselineKeyParts c' s') :
    c.process.uid = c'.process.uid ∧
      processIdentityText c.process = processIdentityText c'.process ∧
      c.networkNamespaceInode = c'.networkNamespaceInode ∧ s = s' := by
  unfold baselineKeyParts at h
  rw [cons.injEq, cons.injEq] at h
  obtain ⟨huid, hprocess, htail⟩ := h
  refine ⟨decimal_inj (append_cancel_left huid), hprocess, ?_⟩
  rcases hn : c.networkNamespaceInode with _ | a <;>
    rcases hn' : c'.networkNamespaceInode with _ | b <;> rw [hn, hn'] at htail
  · exact ⟨rfl, append_cancel_left (cons.inj htail).1⟩
  · simp at htail
  · simp at htail
  · simp only [cons.injEq, and_true] at htail
    exact ⟨congrArg some (decimal_inj (append_cancel_left htail.1)), append_cancel_left htail.2⟩

/-- The same service and client. -/
def SameClient (c c' : ConnectionSummary) (s s' : Text) : Prop :=
  c.process.uid = c'.process.uid ∧ c.process.executablePath = c'.process.executablePath ∧
    (c.process.executablePath = [] → c.process.comm = c'.process.comm) ∧
    c.networkNamespaceInode = c'.networkNamespaceInode ∧ s = s'

lemma SameClient.parts_eq {c c' : ConnectionSummary} {s s' : Text} (h : SameClient c c' s s') :
    baselineKeyParts c s = baselineKeyParts c' s' := by
  obtain ⟨huid, hpath, hcomm, hnetns, rfl⟩ := h
  have hprocess : processIdentityText c.process = processIdentityText c'.process := by
    unfold processIdentityText
    rw [← hpath]
    by_cases hp : c.process.executablePath = []
    · rw [hcomm hp]
    · simp [hp]
  unfold baselineKeyParts
  rw [huid, hprocess, hnetns]

/-- **The key of an accepted client** tells the service and the client, unless a bar in what names
a process or a client stands where the other key has a new part. -/
theorem inboundClientBaselineKey_inj (m : Machine) {c c' : ConnectionSummary} {s s' : Text}
    (hsha : Distinguishes m.sha (baselineKeyText c s) (baselineKeyText c' s'))
    (hne : inboundClientBaselineKey m c s ≠ []) (hne' : inboundClientBaselineKey m c' s' ≠ []) :
    (inboundClientBaselineKey m c s = inboundClientBaselineKey m c' s' → SameClient c c' s s') ↔
      ¬ Recut '|' (baselineKeyParts c s) (baselineKeyParts c' s') := by
  obtain ⟨hprocess, hkey⟩ := inboundClientBaselineKey_of_ne_nil hne
  obtain ⟨-, hkey'⟩ := inboundClientBaselineKey_of_ne_nil hne'
  have hparts : baselineKeyText c s = baselineKeyText c' s' ↔
      baselineKeyParts c s = baselineKeyParts c' s' ∨
        Recut '|' (baselineKeyParts c s) (baselineKeyParts c' s') := by
    rw [baselineKeyText_eq, baselineKeyText_eq]
    exact intercalate_eq_iff (cons_ne_nil _ _) (cons_ne_nil _ _)
  constructor
  · intro h hrecut
    refine hrecut.ne (h ?_).parts_eq
    rw [hkey, hkey', hparts.mpr (.inr hrecut)]
  · intro hrecut h
    rw [hkey, hkey'] at h
    have htext := sha256Hex_inj hsha (append_cancel_left h)
    obtain ⟨huid, hidentity, hrest⟩ := baselineKeyParts_inj ((hparts.mp htext).resolve_right hrecut)
    obtain ⟨hpath, hcomm⟩ := processIdentityText_inj hprocess hidentity
    exact ⟨huid, hpath, hcomm, hrest⟩

def sampleService (path : String) (pid : ℤ) : ConnectionSummary :=
  { direction := .inbound
    process := { pid, uid := 33, executablePath := path.toList }
    networkNamespaceInode := some 7 }

/-- After a restart of a service with a bar in its path a client is found under the same key, and
the two keys are cut in one way. -/
theorem inboundClientBaselineKey_restarted :
    ¬ Recut '|' (baselineKeyParts (sampleService "/srv/a|b" 10) "CN=x")
      (baselineKeyParts (sampleService "/srv/a|b" 20) "CN=x") :=
  (inboundClientBaselineKey_inj sampleMachine (fun _ => rfl) (by decide) (by decide)).mp
    fun _ => ⟨rfl, rfl, fun _ => rfl, rfl, rfl⟩

/-- A bar in a path: two services and their clients have one key text, so one key under this and
every other digest. -/
theorem inboundClientBaselineKey_collision :
    baselineKeyText (sampleService "/a" 1) "CN=x|netns=7|subject=CN=y" =
      baselineKeyText (sampleService "/a|netns=7|subject=CN=x" 1) "CN=y" ∧
    inboundClientBaselineKey sampleMachine (sampleService "/a" 1)
        "CN=x|netns=7|subject=CN=y" =
      inboundClientBaselineKey sampleMachine (sampleService "/a|netns=7|subject=CN=x" 1)
        "CN=y" ∧
    inboundClientBaselineKey sampleMachine (sampleService "/a" 1)
        "CN=x|netns=7|subject=CN=y" ≠ [] ∧
    (sampleService "/a" 1).process.executablePath ≠
      (sampleService "/a|netns=7|subject=CN=x" 1).process.executablePath := by
  have htext : baselineKeyText (sampleService "/a" 1) "CN=x|netns=7|subject=CN=y" =
      baselineKeyText (sampleService "/a|netns=7|subject=CN=x" 1) "CN=y" := by
    decide
  refine ⟨htext, ?_, ?_, by decide⟩
  · simp only [inboundClientBaselineKey, htext]
    rfl
  · simp [inboundClientBaselineKey, sampleService, processIdentityText]

end NetaAgent.Verdict
