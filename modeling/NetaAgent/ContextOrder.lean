import NetaAgent.ContextRules
import Mathlib.Data.List.Dedup

/-!
The order of the evidence that the rules on a connection read.

Name resolutions are counted and searched as a whole. Of the TLS sessions only the first exact
outbound one is looked at, so the order matters as soon as two of them differ in what a rule asks.
-/

namespace NetaAgent.ContextRules

open Decimal Observation HistoryStore NameResolution TlsSession NumberText Rules Verdict List

variable (context : ConnectionRuleContext) (rule : RuleDefinition)

/-- Whether an item violates a rule on TLS sessions; without its parameters the rule throws. -/
def violates (baseline : Option Baseline) (item : TlsSessionEvidence) : Except Text Bool :=
  if rule.engineRuleId = "TLS-001" then do
    let authentication ← rule.boolean "require_peer_authentication"
    let verification ← rule.boolean "verification_failure_match"
    return authentication && !item.observation.peerAuthenticated ||
      verification && item.observation.verifyResult.any (· ≠ 0)
  else
    match baseline with
    | none => .ok false
    | some b => do
      let spki ← rule.boolean "compare_spki"
      let issuer ← rule.boolean "compare_issuer"
      return spki && differs b.acceptedSpkiSha256 item.observation.spkiSha256 ||
        issuer && differs b.acceptedIssuer item.observation.issuer

/-- A rule on TLS sessions that is evaluated on the connection. -/
structure Applies (context : ConnectionRuleContext) (rule : RuleDefinition) : Prop where
  enabled : rule.enabled = true
  included : excludesConnection rule.exclude context.connection
    (correlatedDomains context.nameResolution) = false
  engine : rule.engineRuleId = "TLS-001" ∨ rule.engineRuleId = "TLS-002"

/-- The rule says the same of all the exact outbound sessions. -/
def Uniform : Prop :=
  ∀ x ∈ context.tlsSessions, ∀ y ∈ context.tlsSessions, isExactOutbound x = true →
    isExactOutbound y = true → violates rule context.baseline x = violates rule context.baseline y

def SomeViolates : Prop :=
  ∃ x ∈ context.tlsSessions, isExactOutbound x = true ∧
    violates rule context.baseline x = .ok true

/-! ### Lists in another order -/

section Perm
variable {α : Type} {l l' : List α}

lemma perm_eq_nil_iff (h : l'.Perm l) : l' = [] ↔ l = [] := by
  rw [← length_eq_zero_iff, h.length_eq, length_eq_zero_iff]

end Perm

/-! ### The name resolutions -/

section Names
variable {context : ConnectionRuleContext} {names l : List NameResolutionEvidence}

lemma forwardAnswers_perm {correlated : NameResolutionEvidence → Bool} (h : names.Perm l) :
    (forwardAnswers correlated names).Perm (forwardAnswers correlated l) :=
  (h.filter _).flatMap_right _

lemma excludesConnection_perm {exclusion : RuleExclusion} {connection : ConnectionSummary}
    (h : names.Perm l) : excludesConnection exclusion connection (correlatedDomains names) =
      excludesConnection exclusion connection (correlatedDomains l) := by
  have hdomains : (correlatedDomains names).Perm (correlatedDomains l) := h.flatMap_right _
  simp only [excludesConnection, hdomains.any_eq]

lemma dnsContainsRemote_perm {tls : List TlsSessionEvidence}
    (h : names.Perm context.nameResolution) :
    dnsContainsRemote { context with tlsSessions := tls, nameResolution := names } =
      dnsContainsRemote context := by
  simp only [dnsContainsRemote, (forwardAnswers_perm h).any_eq,
    perm_eq_nil_iff (forwardAnswers_perm h)]

end Names

/-! ### The rules on TLS sessions -/

/-- What the rule says of the first exact outbound session. -/
def firstViolates (context : ConnectionRuleContext) : Option (Except Text Bool) :=
  (exactOutboundTls context.tlsSessions).map (violates rule context.baseline)

section Rules
variable {undefined : Conversion} {ratioAtLeast : ℕ → ℕ → Double → Bool} {rule : RuleDefinition}
  {context context' : ConnectionRuleContext}

lemma tlsValidation_eq (hid : rule.engineRuleId = "TLS-001") : ∃ summary interpretation,
    ∀ context, tlsValidation rule context = (firstViolates rule context).elim (.ok none)
      (Except.map fun b => matchIf b rule summary interpretation) := by
  refine ⟨?s, ?i, fun context => ?_⟩
  rotate_left 2
  unfold tlsValidation firstViolates
  cases exactOutboundTls context.tlsSessions with
  | none => rfl
  | some =>
    simp only [Option.map_some, Option.elim_some, violates, hid, if_true]
    cases rule.boolean "require_peer_authentication" with
    | error => rfl
    | ok => cases rule.boolean "verification_failure_match" <;> rfl

lemma tlsIdentityChange_eq (hid : rule.engineRuleId = "TLS-002") : ∃ summary interpretation,
    ∀ context, tlsIdentityChange rule context = (firstViolates rule context).elim (.ok none)
      (Except.map fun b => matchIf b rule summary interpretation) := by
  refine ⟨?s, ?i, fun context => ?_⟩
  rotate_left 2
  have hother : rule.engineRuleId ≠ "TLS-001" := by rw [hid]; decide
  unfold tlsIdentityChange firstViolates
  cases exactOutboundTls context.tlsSessions with
  | none => rfl
  | some =>
    rw [Option.map_some, Option.elim_some]
    unfold violates
    rw [if_neg hother]
    cases context.baseline with
    | none => rfl
    | some =>
      simp only
      cases rule.boolean "compare_spki" with
      | error => rfl
      | ok => cases rule.boolean "compare_issuer" <;> rfl

/-- A rule that applies answers with what it says of the first exact outbound session. -/
lemma evaluateOne_tls (h : Applies context rule) : ∃ summary interpretation,
    evaluateOne undefined ratioAtLeast rule context = (firstViolates rule context).elim (.ok none)
      (Except.map fun b => matchIf b rule summary interpretation) := by
  rcases h.engine with hid | hid
  · obtain ⟨summary, interpretation, heq⟩ := tlsValidation_eq hid
    refine ⟨summary, interpretation, ?_⟩
    rw [← heq, evaluateOne, if_neg (by simp [h.enabled]), if_neg (by simp [h.included]), hid]
    rfl
  · obtain ⟨summary, interpretation, heq⟩ := tlsIdentityChange_eq hid
    refine ⟨summary, interpretation, ?_⟩
    rw [← heq, evaluateOne, if_neg (by simp [h.enabled]), if_neg (by simp [h.included]), hid]
    rfl

lemma matches_iff (h : Applies context rule) :
    (∃ m, evaluateOne undefined ratioAtLeast rule context = .ok (some m)) ↔
      firstViolates rule context = some (.ok true) := by
  obtain ⟨summary, interpretation, heq⟩ := @evaluateOne_tls undefined ratioAtLeast rule context h
  rw [heq]
  rcases firstViolates rule context with _ | e | b
  · simp
  · simp [Except.map]
  · cases b <;> simp [Except.map, matchIf]

lemma ite_eq_ite {α : Type} {c : Prop} [Decidable c] {a a' b b' : α} (ha : c → a = a')
    (hb : ¬ c → b = b') : (if c then a else b) = if c then a' else b' := by
  by_cases hc : c
  · rw [if_pos hc, if_pos hc, ha hc]
  · rw [if_neg hc, if_neg hc, hb hc]

/-- **One rule on evidence in another order.** -/
lemma evaluateOne_reordered {tls : List TlsSessionEvidence} {names : List NameResolutionEvidence}
    (hnames : names.Perm context.nameResolution) (hfirst : Applies context rule →
      firstViolates rule { context with tlsSessions := tls, nameResolution := names } =
        firstViolates rule context) :
    evaluateOne undefined ratioAtLeast rule
        { context with tlsSessions := tls, nameResolution := names } =
      evaluateOne undefined ratioAtLeast rule context := by
  unfold evaluateOne
  rw [excludesConnection_perm hnames]
  refine ite_eq_ite (fun _ => rfl) fun henabled => ite_eq_ite (fun _ => rfl) fun hincluded => ?_
  have happlies := fun hid => hfirst ⟨by simpa using henabled, by simpa using hincluded, hid⟩
  -- the rules that read neither list, then those on names, then those on TLS sessions
  refine ite_eq_ite (fun _ => rfl) fun _ => ite_eq_ite (fun _ => rfl) fun _ =>
    ite_eq_ite (fun _ => rfl) fun _ => ite_eq_ite (fun _ => rfl) fun _ =>
    ite_eq_ite (fun _ => ?_) fun _ => ite_eq_ite (fun _ => ?_) fun _ =>
    ite_eq_ite (fun _ => ?_) fun _ => ite_eq_ite (fun hid => ?_) fun _ =>
    ite_eq_ite (fun hid => ?_) fun _ => rfl
  · simp only [repeatedDnsFailures, failedDnsCount, hnames.countP_eq]
    rfl
  · simp only [dnsMismatch, perm_eq_nil_iff hnames, dnsContainsRemote_perm hnames]
  · simp only [dnsChurn, distinctDnsAnswers, (forwardAnswers_perm hnames).dedup.length_eq]
    rfl
  · obtain ⟨summary, interpretation, heq⟩ := tlsValidation_eq hid
    rw [heq, heq, happlies (.inl hid)]
  · obtain ⟨summary, interpretation, heq⟩ := tlsIdentityChange_eq hid
    rw [heq, heq, happlies (.inr hid)]

lemma evaluateAll_congr {rules : List RuleDefinition}
    (h : ∀ rule ∈ rules, evaluateOne undefined ratioAtLeast rule context' =
      evaluateOne undefined ratioAtLeast rule context) :
    evaluateAll undefined ratioAtLeast context' rules =
      evaluateAll undefined ratioAtLeast context rules := by
  induction rules with
  | nil => rfl
  | cons rule rules ih =>
    rw [forall_mem_cons] at h
    rw [evaluateAll, evaluateAll, h.1, ih h.2]

/-! ### Uniform sessions -/

lemma firstViolates_iff (hu : Uniform context rule) :
    firstViolates rule context = some (.ok true) ↔ SomeViolates context rule := by
  constructor
  · intro h
    obtain ⟨x, hx, hviolates⟩ := Option.map_eq_some_iff.mp h
    exact ⟨x, mem_of_find?_eq_some hx, find?_some hx, hviolates⟩
  · rintro ⟨x, hx, hexact, hviolates⟩
    cases hy : exactOutboundTls context.tlsSessions with
    | none => exact absurd hexact (find?_eq_none.mp hy x hx)
    | some y =>
      rw [firstViolates, hy, Option.map_some,
        hu y (mem_of_find?_eq_some hy) x hx (find?_some hy) hexact, hviolates]

lemma ok_eq_ok {p q : Bool} (h : (.ok p : Except Text Bool) = .ok true ↔
    (.ok q : Except Text Bool) = .ok true) : (.ok p : Except Text Bool) = .ok q := by
  simp only [Except.ok.injEq] at h ⊢
  exact Bool.eq_iff_iff.mpr h

/-- What throws for one item throws for all, so items differ only in violating the rule or not. -/
lemma violates_eq {baseline : Option Baseline} {x y : TlsSessionEvidence}
    (h : violates rule baseline x = .ok true ↔ violates rule baseline y = .ok true) :
    violates rule baseline x = violates rule baseline y := by
  revert h
  unfold violates
  split_ifs
  · cases rule.boolean "require_peer_authentication" with
    | error => exact fun _ => rfl
    | ok =>
      cases rule.boolean "verification_failure_match" with
      | error => exact fun _ => rfl
      | ok => exact ok_eq_ok
  · cases baseline with
    | none => exact fun _ => rfl
    | some =>
      simp only
      cases rule.boolean "compare_spki" with
      | error => exact fun _ => rfl
      | ok =>
        cases rule.boolean "compare_issuer" with
        | error => exact fun _ => rfl
        | ok => exact ok_eq_ok

lemma uniform_of_firstViolates
    (h : ∀ tls, tls.Perm context.tlsSessions → SomeViolates context rule →
      firstViolates rule { context with tlsSessions := tls } = some (.ok true)) :
    Uniform context rule := by
  have hone : ∀ x ∈ context.tlsSessions, ∀ y ∈ context.tlsSessions, isExactOutbound x = true →
      isExactOutbound y = true → violates rule context.baseline x = .ok true →
        violates rule context.baseline y = .ok true := by
    intro x hx y hy hexact hexact' hviolates
    have hfirst := h _ (perm_cons_erase hy).symm ⟨x, hx, hexact, hviolates⟩
    have hfind : exactOutboundTls (y :: context.tlsSessions.erase y) = some y :=
      find?_cons_of_pos hexact'
    rw [firstViolates, hfind, Option.map_some] at hfirst
    exact Option.some.inj hfirst
  exact fun x hx y hy hexact hexact' =>
    violates_eq ⟨hone x hx y hy hexact hexact', hone y hy x hx hexact' hexact⟩

end Rules

/-- **The order of the evidence.** The order of the name resolutions never matters. That of the TLS
sessions does not matter either, and each rule on them that applies matches if and only if some exact
outbound session violates it, exactly if each such rule says the same of all these sessions. -/
theorem context_rules_order_free (undefined : Conversion) (ratioAtLeast : ℕ → ℕ → Double → Bool)
    (rules : RuleSet) (context : ConnectionRuleContext) :
    (∀ names, names.Perm context.nameResolution →
      evaluate undefined ratioAtLeast { context with nameResolution := names } rules =
        evaluate undefined ratioAtLeast context rules) ∧
    ((∀ tls, tls.Perm context.tlsSessions →
        evaluate undefined ratioAtLeast { context with tlsSessions := tls } rules =
          evaluate undefined ratioAtLeast context rules ∧
        ∀ rule ∈ rules.definitions, Applies context rule →
          ((∃ m, evaluateOne undefined ratioAtLeast rule { context with tlsSessions := tls } =
            .ok (some m)) ↔ SomeViolates context rule)) ↔
      ∀ rule ∈ rules.definitions, Applies context rule → Uniform context rule) := by
  have hmatches (tls : List TlsSessionEvidence) {rule : RuleDefinition}
      (h : Applies context rule) :=
    @matches_iff undefined ratioAtLeast rule { context with tlsSessions := tls }
      ⟨h.enabled, h.included, h.engine⟩
  refine ⟨fun names hnames => evaluateAll_congr fun rule _ =>
    evaluateOne_reordered hnames fun _ => rfl, fun h rule hrule happlies => ?_, fun hu tls htls => ?_⟩
  · refine uniform_of_firstViolates fun tls htls hsome => ?_
    rw [← hmatches tls happlies, (h tls htls).2 rule hrule happlies]
    exact hsome
  · have hone : ∀ rule ∈ rules.definitions, evaluateOne undefined ratioAtLeast rule
        { context with tlsSessions := tls } = evaluateOne undefined ratioAtLeast rule context :=
      fun rule hrule => evaluateOne_reordered (.refl _) fun happlies =>
        TextOrder.map_find?_perm htls (hu rule hrule happlies)
    refine ⟨evaluateAll_congr hone, fun rule hrule happlies => ?_⟩
    rw [hone rule hrule, matches_iff happlies, firstViolates_iff (hu rule hrule happlies)]

/-- A rule that asks for an authenticated peer, and a session of each kind. -/
def authenticationRules : RuleSet where
  id := []
  revision := 1
  version := []
  definitions := [{
    id := "TLS-001"
    engineRuleId := "TLS-001"
    name := []
    category := []
    booleanParameters := [("require_peer_authentication", true),
      ("verification_failure_match", false)] }]

def exactSession (authenticated : Bool) : TlsSessionEvidence where
  observation := { peerAuthenticated := authenticated }
  relation := .outboundTlsSession
  correlationFidelity := .exact

/-- The session that is not authenticated is reported only if it is the first one. -/
theorem context_rules_first_session :
    (evaluate (fun _ => 0) (fun _ _ _ => false)
      { tlsSessions := [exactSession true, exactSession false] } authenticationRules).toOption.map
        length = some 0 ∧
    (evaluate (fun _ => 0) (fun _ _ _ => false)
      { tlsSessions := [exactSession false, exactSession true] } authenticationRules).toOption.map
        length = some 1 := by
  decide +kernel

end NetaAgent.ContextRules
