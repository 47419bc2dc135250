import NetaAgent.EvaluatedRules
import NetaAgent.RuleConvergence

/-!
The integers of a rule document and of a rule control answer, as the agent converts them.

A number is accepted up to and including 2 ^ 64, which is what the largest unsigned integer rounds
to, and a time in milliseconds is multiplied without a check.
-/

namespace NetaAgent.Rules

open Decimal RuleJson Processes Verdict RuleConvergence

/-- The double is this number. -/
def Denotes (v : Double) (n : ℕ) : Prop := v.signed = (n * oneUnits : ℕ)

structure PeriodicOutboundPolicy where
  minimumConnections : ℕ
  windowNs : ℕ
  minimumIntervalNs : ℕ
  maximumIntervalNs : ℕ
  intervalToleranceRatio : Double
  minimumRegularFraction : Double
  recentConnectionLimit : ℕ

variable (undefined : Conversion)

def periodicPolicy (d : RuleDefinition) : Except Text PeriodicOutboundPolicy := do
  return {
    minimumConnections := toUint64 undefined (.finite (← d.numeric "minimum_connections"))
    windowNs := milliseconds undefined (← d.numeric "window_ms")
    minimumIntervalNs := milliseconds undefined (← d.numeric "minimum_interval_ms")
    maximumIntervalNs := milliseconds undefined (← d.numeric "maximum_interval_ms")
    intervalToleranceRatio := ← d.numeric "interval_tolerance_ratio"
    minimumRegularFraction := ← d.numeric "minimum_regular_fraction"
    recentConnectionLimit := toUint64 undefined (.finite (← d.numeric "recent_connection_limit")) }

/-- A number of a configuration: the parameter it comes from, and how it is converted. -/
structure Converted where
  parameter : Text
  convert : Double → ℕ
  value : ℕ

def whole (v : Double) : ℕ := toUint64 undefined (.finite v)

def PeriodicOutboundPolicy.numbers (p : PeriodicOutboundPolicy) : List Converted :=
  [⟨"minimum_connections", whole undefined, p.minimumConnections⟩,
    ⟨"window_ms", milliseconds undefined, p.windowNs⟩,
    ⟨"minimum_interval_ms", milliseconds undefined, p.minimumIntervalNs⟩,
    ⟨"maximum_interval_ms", milliseconds undefined, p.maximumIntervalNs⟩,
    ⟨"recent_connection_limit", whole undefined, p.recentConnectionLimit⟩]

def fanoutNumbers (c : ProcessFindingConfig) : List Converted :=
  [⟨"child_count", whole undefined, c.fanoutCount⟩,
    ⟨"window_ms", milliseconds undefined, c.fanoutWindowNs⟩]

def shortLivedNumbers (c : ProcessFindingConfig) : List Converted :=
  [⟨"child_count", whole undefined, c.shortLivedCount⟩,
    ⟨"max_lifetime_ms", milliseconds undefined, c.shortLivedMaxNs⟩,
    ⟨"window_ms", milliseconds undefined, c.shortLivedWindowNs⟩]

/-- The number is converted from the parameter of the rule. -/
def Converted.From (x : Converted) (d : RuleDefinition) : Prop :=
  ∃ v, d.numeric x.parameter = .ok v ∧ x.value = x.convert v

lemma numbers_of_periodicPolicy {undefined : Conversion} {d : RuleDefinition}
    {p : PeriodicOutboundPolicy} (h : periodicPolicy undefined d = .ok p) :
    ∀ x ∈ p.numbers undefined, x.From d := by
  obtain ⟨least, hleast, h⟩ := bind_eq_ok h
  obtain ⟨window, hwindow, h⟩ := bind_eq_ok h
  obtain ⟨shortest, hshortest, h⟩ := bind_eq_ok h
  obtain ⟨longest, hlongest, h⟩ := bind_eq_ok h
  obtain ⟨_, -, h⟩ := bind_eq_ok h
  obtain ⟨_, -, h⟩ := bind_eq_ok h
  obtain ⟨limit, hlimit, h⟩ := bind_eq_ok h
  cases h
  simp only [PeriodicOutboundPolicy.numbers, List.forall_mem_cons]
  exact ⟨⟨least, hleast, rfl⟩, ⟨window, hwindow, rfl⟩, ⟨shortest, hshortest, rfl⟩,
    ⟨longest, hlongest, rfl⟩, ⟨limit, hlimit, rfl⟩, List.forall_mem_nil _⟩

lemma numbers_of_configFromRules {undefined : Conversion} {rules : RuleSet}
    {c : ProcessFindingConfig} (h : configFromRules undefined rules = .ok c) :
    ∃ fanout shortLived, rules.rule "PROC-004" = .ok fanout ∧ rules.rule "PROC-005" = .ok shortLived ∧
      (∀ x ∈ fanoutNumbers undefined c, x.From fanout) ∧
      ∀ x ∈ shortLivedNumbers undefined c, x.From shortLived := by
  -- the rules on paths, shells and elevation come first
  iterate 8 obtain ⟨_, -, h⟩ := bind_eq_ok h
  obtain ⟨fanout, hfanout, h⟩ := bind_eq_ok h
  obtain ⟨count, hcount, h⟩ := bind_eq_ok h
  obtain ⟨window, hwindow, h⟩ := bind_eq_ok h
  obtain ⟨shortLived, hshort, h⟩ := bind_eq_ok h
  obtain ⟨count', hcount', h⟩ := bind_eq_ok h
  obtain ⟨lifetime, hlifetime, h⟩ := bind_eq_ok h
  obtain ⟨window', hwindow', h⟩ := bind_eq_ok h
  cases h
  refine ⟨fanout, shortLived, hfanout, hshort, ?_, ?_⟩
  · simp only [fanoutNumbers, List.forall_mem_cons]
    exact ⟨⟨count, hcount, rfl⟩, ⟨window, hwindow, rfl⟩, List.forall_mem_nil _⟩
  · simp only [shortLivedNumbers, List.forall_mem_cons]
    exact ⟨⟨count', hcount', rfl⟩, ⟨lifetime, hlifetime, rfl⟩, ⟨window', hwindow', rfl⟩, List.forall_mem_nil _⟩

/-- What `accepted` numbers are: not negative, whole, and at most 2 ^ 64. -/
lemma denotes_of_accepted {v : Double} (hsign : 0 ≤ v.signed) (hinteger : v.isInteger = true)
    (hbound : exceedsUint64 v = false) :
    ∃ n ≤ twoPow64, Denotes v n ∧ v.units = n * oneUnits ∧ (v.negative = true → n = 0) := by
  have hunits : v.units = v.units / oneUnits * oneUnits :=
    (Nat.div_mul_cancel (Nat.dvd_of_mod_eq_zero (of_decide_eq_true hinteger))).symm
  have hpos := oneUnits_pos
  refine ⟨v.units / oneUnits, ?_, ?_, hunits, ?_⟩
  all_goals cases hnegative : v.negative
  all_goals simp only [Denotes, Double.signed, hnegative, Bool.false_eq_true, if_false, if_true,
    exceedsUint64, Bool.not_false, Bool.not_true, Bool.true_and, Bool.false_and,
    decide_eq_false_iff_not, not_lt] at hsign hbound ⊢
  · exact Nat.div_le_of_le_mul (by rwa [Nat.mul_comm] at hbound)
  · simp [show v.units = 0 by omega]
  · exact_mod_cast hunits
  · simp [show v.units = 0 by omega]
  · exact fun h => absurd h (by simp)
  · simp [show v.units = 0 by omega]

section Accepted
variable {v : Double} {n : ℕ}

lemma toUint64_eq_iff (hunits : v.units = n * oneUnits) (hnegative : v.negative = true → n = 0)
    (undefined : Conversion) : toUint64 undefined (.finite v) = n ↔ n < twoPow64 := by
  have hpos := oneUnits_pos
  have hlt : v.units < twoPow64 * oneUnits ↔ n < twoPow64 := by
    rw [hunits]
    exact Nat.mul_lt_mul_right hpos
  simp only [toUint64]
  split
  · next h =>
    rw [hunits, Nat.mul_div_cancel _ hpos]
    refine ⟨fun _ => ?_, fun _ => rfl⟩
    rcases h with h | ⟨-, h⟩
    · exact hlt.mp (lt_of_lt_of_le h (Nat.le_mul_of_pos_left _ (by decide)))
    · exact hlt.mp h
  · next h =>
    -- the conversion is not defined, and gives some unsigned integer
    have hmod : undefined (.finite v) % twoPow64 < twoPow64 := Nat.mod_lt _ (by decide)
    refine ⟨fun heq => heq ▸ hmod, fun hn => absurd ?_ h⟩
    cases hv : v.negative with
    | false => exact .inr ⟨rfl, hlt.mpr hn⟩
    | true => exact .inl (by rw [hunits, hnegative hv]; simpa using hpos)

lemma milliseconds_eq_iff (hconverts : ∀ undefined : Conversion,
    toUint64 undefined (.finite v) = n ↔ n < twoPow64) (undefined : Conversion) :
    milliseconds undefined v = n * 1000000 ↔ n ≤ 18446744073709 := by
  have hmod : milliseconds undefined v < twoPow64 := Nat.mod_lt _ (by decide)
  constructor
  · intro h
    unfold twoPow64 at hmod
    omega
  · intro h
    have hlt : n < twoPow64 := by
      unfold twoPow64
      omega
    rw [milliseconds, (hconverts undefined).mpr hlt]
    exact Nat.mod_eq_of_lt (by unfold twoPow64; omega)

end Accepted

/-- The number is converted exactly if it is below 2 ^ 64, and a time of so many milliseconds is
exact up to 18446744073709. -/
def ExactBelow (v : Double) : Prop :=
  ∃ n ≤ twoPow64, Denotes v n ∧ (toUint64 undefined (.finite v) = n ↔ n < twoPow64) ∧
    (milliseconds undefined v = n * 1000000 ↔ n ≤ 18446744073709)

lemma exactBelow {v : Double} {bad : Bool} (hsign : bad = false → 0 ≤ v.signed)
    (h : ¬ (bad || !v.isInteger || exceedsUint64 v) = true) (undefined : Conversion) :
    ExactBelow undefined v := by
  simp only [Bool.or_eq_true, Bool.not_eq_true', not_or, Bool.not_eq_false, Bool.not_eq_true] at h
  obtain ⟨⟨hbad, hinteger⟩, hbound⟩ := h
  replace hsign := hsign hbad
  obtain ⟨n, hn, hdenotes, hunits, hnegative⟩ := denotes_of_accepted hsign hinteger hbound
  have hconverts := toUint64_eq_iff hunits hnegative
  exact ⟨n, hn, hdenotes, hconverts undefined, milliseconds_eq_iff hconverts undefined⟩

lemma exactBelow_of_positiveInteger {undefined : Conversion} {d : RuleDefinition} {name : Text}
    {n : ℕ} (h : positiveInteger undefined d name = .ok n) :
    ∃ v, d.numeric name = .ok v ∧ ExactBelow undefined v := by
  obtain ⟨v, hv, h⟩ := bind_eq_ok h
  split at h
  · cases h
  · next hchecks =>
    exact ⟨v, hv, exactBelow (fun h => (not_le.mp (of_decide_eq_false h)).le) hchecks undefined⟩

/-- Every integer parameter that an engine demands is exact below its bound. -/
lemma exactBelow_of_demanded {undefined : Conversion} {rules : RuleSet}
    (h : AdmittedSet undefined rules) {d : RuleDefinition} (hd : d ∈ rules.definitions) {name : Text}
    (hname : Demands d.engineRuleId (.positiveInteger name) = true) :
    ∃ v, d.numeric name = .ok v ∧ ExactBelow undefined v := by
  obtain ⟨n, hn, -⟩ := bind_eq_ok ((h.definitions d hd).checked rfl hname)
  exact exactBelow_of_positiveInteger hn

/-- The number is converted from a parameter of the rule that is exact below its bound. -/
def Converted.ExactFrom (x : Converted) (d : RuleDefinition) : Prop :=
  ∃ v, d.numeric x.parameter = .ok v ∧ x.value = x.convert v ∧ ExactBelow undefined v

lemma exactFrom_required {undefined : Conversion} {rules : RuleSet}
    (h : AdmittedSet undefined rules) {id : Text} (hid : id ∈ rm1DefaultIds) {d : RuleDefinition}
    (hrule : rules.rule id = .ok d) {numbers : List Converted} (hfrom : ∀ x ∈ numbers, x.From d)
    (hdemands : ∀ x ∈ numbers, Demands id (.positiveInteger x.parameter) = true) :
    ∀ x ∈ numbers, x.ExactFrom undefined d := by
  obtain ⟨d', hd, hengine, hrule'⟩ := h.rule_required hid
  cases hrule.symm.trans hrule'
  intro x hx
  obtain ⟨v, hv, hvalue⟩ := hfrom x hx
  obtain ⟨v', hv', hexact⟩ := exactBelow_of_demanded h hd (hengine ▸ hdemands x hx)
  cases hv.symm.trans hv'
  exact ⟨v, hv, hvalue, hexact⟩

/-- **The integers that are accepted.** Each integer parameter of a loaded rule, each number that
`requireU64` returns and the revision a coordinator asks for is converted to itself exactly if it
is not 2 ^ 64, and a time given in milliseconds does not wrap exactly up to 18446744073709; the
configurations hold these conversions. -/
theorem integer_parameters_exact {undefined : Conversion} {text source : Text} {rules : RuleSet}
    (hload : loadText undefined text source = .ok rules) :
    (∀ d ∈ rules.definitions, (∀ name, Demands d.engineRuleId (.positiveInteger name) = true →
        ∃ v, d.numeric name = .ok v ∧ ExactBelow undefined v) ∧
      ∀ p, periodicPolicy undefined d = .ok p → ∀ x ∈ p.numbers undefined, x.From d) ∧
    (∃ config fanout shortLived, configFromRules undefined rules = .ok config ∧
      rules.rule "PROC-004" = .ok fanout ∧ rules.rule "PROC-005" = .ok shortLived ∧
      (∀ x ∈ fanoutNumbers undefined config, x.ExactFrom undefined fanout) ∧
      ∀ x ∈ shortLivedNumbers undefined config, x.ExactFrom undefined shortLived) ∧
    (∀ object key n, requireU64 undefined object key = .ok n → ∃ value v, object.get key = .ok value ∧
      value.asNumber = .ok v ∧ n = toUint64 undefined (.finite v) ∧ ExactBelow undefined v) ∧
    ∀ control decision, readControl undefined control = .ok decision →
      ∃ value v, control.get "desiredRevision" = .ok value ∧ value.asNumber = .ok v ∧
        decision.desiredRevision = toUint64 undefined (.finite v) ∧ ExactBelow undefined v := by
  have hset := (loadText_ok hload).2
  refine ⟨fun d hd => ⟨fun name hname => exactBelow_of_demanded hset hd hname,
    fun p => numbers_of_periodicPolicy⟩, ?_, fun object key n h => ?_, fun control decision h => ?_⟩
  · obtain ⟨config, hconfig, -⟩ := configFromRules_usable hset (List.forall_mem_nil _)
    obtain ⟨fanout, shortLived, hfanout, hshort, hnumbers, hnumbers'⟩ :=
      numbers_of_configFromRules hconfig
    refine ⟨config, fanout, shortLived, hconfig, hfanout, hshort,
      exactFrom_required hset (by decide +kernel) hfanout hnumbers ?_,
      exactFrom_required hset (by decide +kernel) hshort hnumbers' ?_⟩
    · simp only [fanoutNumbers, List.forall_mem_cons]
      exact ⟨by decide +kernel, by decide +kernel, List.forall_mem_nil _⟩
    · simp only [shortLivedNumbers, List.forall_mem_cons]
      exact ⟨by decide +kernel, by decide +kernel, by decide +kernel, List.forall_mem_nil _⟩
  · obtain ⟨value, hvalue, h⟩ := bind_eq_ok h
    obtain ⟨v, hv, h⟩ := bind_eq_ok h
    split at h
    · cases h
    · next hchecks =>
      cases h
      exact ⟨value, v, hvalue, hv, rfl,
        exactBelow (fun h => not_lt.mp (of_decide_eq_false h)) hchecks undefined⟩
  · obtain ⟨value, hvalue, h⟩ := bind_eq_ok h
    obtain ⟨v, hv, h⟩ := bind_eq_ok h
    split at h
    · cases h
    · next hchecks =>
      obtain ⟨_, -, h⟩ := bind_eq_ok h
      obtain ⟨_, -, h⟩ := bind_eq_ok h
      dsimp only at h
      split at h
      · cases h
      · obtain ⟨_, -, h⟩ := bind_eq_ok h
        obtain ⟨_, -, h⟩ := bind_eq_ok h
        obtain ⟨_, -, h⟩ := bind_eq_ok h
        cases h
        have hsign (h : (!Double.zero.lt v) = false) : 0 ≤ v.signed :=
          (of_decide_eq_true (Bool.not_eq_false' .. ▸ h)).le
        exact ⟨value, v, hvalue, hv, rfl, exactBelow hsign hchecks undefined⟩

/-- The document with another time in its first rule that has one. -/
def withWindow (digits document : Text) : Text :=
  let i := (Search.find "\"window_ms\":" document).getD 0 + 12
  document.take i ++ digits ++ document.drop (i + 1)

def windowLoad (digits : Text) : Except Text RuleSet :=
  loadText sampleMachine.undefined (withWindow digits (sampleDocument ['"', 'a', '"'])) []

/-- One millisecond more than can be multiplied gives a window of 0.4 milliseconds; and 2 ^ 64 is
accepted. -/
theorem window_wraps :
    ((windowLoad "18446744073710").toOption.bind fun rules =>
      (configFromRules sampleMachine.undefined rules).toOption.map (·.fanoutWindowNs)) =
        some 448384 ∧
    (windowLoad "18446744073709551616").toOption.isSome = true := by
  unfold windowLoad sampleDocument documentHead documentTail
  repeat rw [flatMap_literal]
  decide +kernel

theorem integer_parameters_exact_sample :
    ∃ rules, windowLoad "18446744073709551616" = .ok rules ∧ ∀ d ∈ rules.definitions,
      d.engineRuleId = "PROC-004" → ∃ v, d.numeric "window_ms" = .ok v ∧
        ExactBelow sampleMachine.undefined v := by
  have hload : (windowLoad "18446744073709551616").toOption.isSome = true := by
    unfold windowLoad sampleDocument documentHead documentTail
    repeat rw [flatMap_literal]
    decide +kernel
  cases hrules : windowLoad "18446744073709551616" with
  | error e =>
    rw [hrules] at hload
    cases hload
  | ok rules =>
    exact ⟨rules, rfl, fun d hd hid => ((integer_parameters_exact hrules).1 d hd).1 _
      (by rw [hid]; decide +kernel)⟩

end NetaAgent.Rules
