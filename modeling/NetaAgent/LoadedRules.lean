import NetaAgent.Verdict

/-!
What the loader of rule sets has checked of what it returns: of every definition (`Loaded`,
`Admitted`) and of the set (`LoadedSet`, `AdmittedSet`).
-/

namespace NetaAgent.Verdict

open Decimal NumberText Rules RuleJson List

def parameterNames (d : RuleDefinition) : List Text :=
  d.numericParameters.map Prod.fst ++ d.booleanParameters.map Prod.fst ++
    d.stringParameters.map Prod.fst ++ d.stringListParameters.map Prod.fst

def severities : List Text := ["low", "medium", "high"]

structure Loaded (d : RuleDefinition) : Prop where
  engine : ∃ e ∈ engines, e.id = d.engineRuleId ∧ ∀ name ∈ parameterNames d, name ∈ e.parameters
  severity : d.severity ∈ severities
  lists : ∀ p ∈ d.stringListParameters, [] ∉ p.2
  exclusion : ∀ p ∈ exclusionLists d.exclude, [] ∉ p.2

variable {items : List JsonValue} {rules : RuleSet} {texts : List Text}

lemma stringItems_nonempty (h : stringItems items = .ok texts) : [] ∉ texts := by
  induction items generalizing texts with
  | nil =>
    cases h
    exact not_mem_nil
  | cons item items ih =>
    obtain ⟨text, -, h⟩ := bind_eq_ok h
    split at h
    · cases h
    next hne =>
    obtain ⟨rest, hrest, h⟩ := bind_eq_ok h
    cases h
    rw [mem_cons, not_or]
    exact ⟨Ne.symm hne, ih hrest⟩

variable {key : Text} {value : JsonValue}

lemma readExclusion_nonempty (h : readExclusion value key = .ok texts) : [] ∉ texts := by
  obtain ⟨item, -, h⟩ := bind_eq_ok h
  cases item with
  | none =>
    cases h
    exact not_mem_nil
  | some =>
    obtain ⟨items, -, h⟩ := bind_eq_ok h
    exact stringItems_nonempty h

lemma parseExclusion_nonempty {x : RuleExclusion}
    (h : parseExclusion value = .ok x) : ∀ p ∈ exclusionLists x, [] ∉ p.2 := by
  obtain ⟨_, -, h⟩ := bind_eq_ok h
  obtain ⟨_, h1, h⟩ := bind_eq_ok h
  obtain ⟨_, h2, h⟩ := bind_eq_ok h
  obtain ⟨_, h3, h⟩ := bind_eq_ok h
  obtain ⟨_, h4, h⟩ := bind_eq_ok h
  obtain ⟨_, h5, h⟩ := bind_eq_ok h
  obtain ⟨_, h6, h⟩ := bind_eq_ok h
  obtain ⟨_, h7, h⟩ := bind_eq_ok h
  obtain ⟨_, h8, h⟩ := bind_eq_ok h
  obtain ⟨_, h9, h⟩ := bind_eq_ok h
  obtain ⟨_, h10, h⟩ := bind_eq_ok h
  obtain ⟨_, h11, h⟩ := bind_eq_ok h
  dsimp only at h
  split at h
  · cases h
    simp only [exclusionLists, forall_mem_cons, not_mem_nil, false_imp_iff, implies_true, and_true]
    exact ⟨readExclusion_nonempty h1, readExclusion_nonempty h2, readExclusion_nonempty h3,
      readExclusion_nonempty h4, readExclusion_nonempty h5, readExclusion_nonempty h6,
      readExclusion_nonempty h7, readExclusion_nonempty h8, readExclusion_nonempty h9,
      readExclusion_nonempty h10, readExclusion_nonempty h11⟩
  · cases h

lemma mem_of_mem_emplace {α : Type} {value : α} {m m' : List (Text × α)}
    (h : emplace key value m = some m') {p : Text × α} (hp : p ∈ m') : p = (key, value) ∨ p ∈ m := by
  induction m generalizing m' with
  | nil =>
    cases h
    exact .inl (mem_singleton.mp hp)
  | cons e m ih =>
    obtain ⟨k, v⟩ := e
    unfold emplace at h
    split at h
    · cases h
    split at h
    · cases h
      exact mem_cons.mp hp
    · obtain ⟨rest, hrest, rfl⟩ := Option.map_eq_some_iff.mp h
      rcases mem_cons.mp hp with rfl | hp
      · exact .inr mem_cons_self
      · exact (ih hrest hp).imp_right (mem_cons_of_mem _)

lemma mem_of_mem_put {α : Type} {value : α} {m : List (Text × α)} {p : Text × α}
    (hp : p ∈ put key value m) : p = (key, value) ∨ p ∈ m := by
  unfold put at hp
  cases h : emplace key value m with
  | none =>
    rw [h] at hp
    exact .inr hp
  | some =>
    rw [h] at hp
    exact mem_of_mem_emplace h hp

variable {d d' d₁ : RuleDefinition}

lemma readParameters_nonempty {ps : List (Text × JsonValue)}
    (hd : ∀ p ∈ d.stringListParameters, [] ∉ p.2) (h : readParameters ps d = .ok d') :
    (∀ p ∈ d'.stringListParameters, [] ∉ p.2) ∧ d'.exclude = d.exclude := by
  induction ps generalizing d with
  | nil =>
    cases h
    exact ⟨hd, rfl⟩
  | cons p ps ih =>
    obtain ⟨key, v⟩ := p
    cases v with
    | null | object => cases h
    | boolean v =>
      exact ih (d := { d with booleanParameters := put key v d.booleanParameters }) hd h
    | number v =>
      exact ih (d := { d with numericParameters := put key v d.numericParameters }) hd h
    | string v =>
      exact ih (d := { d with stringParameters := put key v d.stringParameters }) hd h
    | array =>
      obtain ⟨texts, htexts, h⟩ := bind_eq_ok h
      refine ih (d := { d with stringListParameters := put key texts d.stringListParameters })
        (fun p hp => ?_) h
      rcases mem_of_mem_put hp with rfl | hp
      · exact stringItems_nonempty htexts
      · exact hd p hp

variable {schemaVersion : ℕ}

/-- The last step of `parse_definition`, once the parameters have been read. -/
lemma exclusion_nonempty {k : Option JsonValue → Except Text RuleDefinition}
    (hlists : ∀ p ∈ d₁.stringListParameters, [] ∉ p.2) (hexclude : d₁.exclude = {})
    (hnone : k none = .ok d₁)
    (hsome : ∀ e, k (some e) = do .ok { d₁ with exclude := ← parseExclusion e })
    (h : (if 2 ≤ schemaVersion then value.find "exclude" >>= k else .ok d₁) = .ok d) :
    (∀ p ∈ d.stringListParameters, [] ∉ p.2) ∧ ∀ p ∈ exclusionLists d.exclude, [] ∉ p.2 := by
  have hempty : ∀ p ∈ exclusionLists d₁.exclude, [] ∉ p.2 := by
    rw [hexclude]
    simp [exclusionLists]
  split at h
  · obtain ⟨exclusion, -, h⟩ := bind_eq_ok h
    cases exclusion with
    | none =>
      cases hnone.symm.trans h
      exact ⟨hlists, hempty⟩
    | some exclusion =>
      obtain ⟨x, hx, h⟩ := bind_eq_ok ((hsome exclusion).symm.trans h)
      cases h
      exact ⟨hlists, parseExclusion_nonempty hx⟩
  · cases h
    exact ⟨hlists, hempty⟩

lemma parseDefinition_nonempty
    (h : parseDefinition value schemaVersion = .ok d) :
    (∀ p ∈ d.stringListParameters, [] ∉ p.2) ∧ ∀ p ∈ exclusionLists d.exclude, [] ∉ p.2 := by
  obtain ⟨_, -, h⟩ := bind_eq_ok h
  obtain ⟨id, -, h⟩ := bind_eq_ok h
  obtain ⟨engine, -, h⟩ := bind_eq_ok h
  obtain ⟨name, -, h⟩ := bind_eq_ok h
  obtain ⟨category, -, h⟩ := bind_eq_ok h
  obtain ⟨severity, -, h⟩ := bind_eq_ok h
  obtain ⟨enabled, -, h⟩ := bind_eq_ok h
  dsimp only at h
  generalize (if canonicalId engine = [] then canonicalId id else canonicalId engine) = e at h
  split at h
  · obtain ⟨_, h, -⟩ := bind_eq_ok h
    cases h
  obtain ⟨parameters, -, h⟩ := bind_eq_ok h
  cases parameters with
  | none =>
    exact exclusion_nonempty (fun p hp => absurd hp not_mem_nil) rfl rfl (fun _ => rfl) h
  | some =>
    obtain ⟨members, -, h⟩ := bind_eq_ok h
    obtain ⟨d₁, hd₁, h⟩ := bind_eq_ok h
    obtain ⟨hlists, hexclude⟩ := readParameters_nonempty
      (fun p hp => absurd hp not_mem_nil) hd₁
    exact exclusion_nonempty hlists hexclude rfl (fun _ => rfl) h

lemma validateSeverity_ok (h : validateSeverity d = .ok ()) : d.severity ∈ severities := by
  unfold validateSeverity at h
  split at h
  next hseverity => simpa [severities] using hseverity
  · cases h

lemma ensureParameterKeys_ok {allowed : List Text}
    (h : ensureParameterKeys d allowed = .ok ()) : ∀ name ∈ parameterNames d, name ∈ allowed := by
  intro name hname
  unfold ensureParameterKeys at h
  dsimp only at h
  split at h
  · cases h
  next hnone =>
  have hallowed := find?_eq_none.mp hnone name hname
  simpa using hallowed

variable {undefined : Conversion} {set set' : Settings}

/-- A definition that is checked has its engine, which accepts its category and its parameters,
and changes the settings as its rule does. -/
lemma validateEngine_ok (h : validateEngine undefined d set = .ok set') :
    ∃ e ∈ engines, e.id = d.engineRuleId ∧ d.category = e.category ∧
      (∀ name ∈ parameterNames d, name ∈ e.parameters) ∧
      checkAll undefined d e.requirements = .ok () ∧ settingsOf undefined d set = .ok set' := by
  unfold validateEngine at h
  split at h
  · cases h
  next e he =>
  obtain ⟨_, hcategory, h⟩ := bind_eq_ok h
  obtain ⟨_, hkeys, h⟩ := bind_eq_ok h
  obtain ⟨_, hchecked, h⟩ := bind_eq_ok h
  refine ⟨e, mem_of_find?_eq_some he, ?_, ?_, ensureParameterKeys_ok hkeys, hchecked, h⟩
  · simpa using find?_some he
  · unfold requireCategory at hcategory
    split at hcategory
    · assumption
    · cases hcategory

/-- An id that is in its canonical form already: that of an engine, or a custom one. -/
def StableId (d : RuleDefinition) : Prop := d.id = d.engineRuleId ∨ "CST-" <+: d.id

lemma checkDefinition_ok {ids : List Text}
    (h : checkDefinition undefined schemaVersion ids d set = .ok set') :
    d.id ∉ ids ∧ d.severity ∈ severities ∧ StableId d ∧ validateEngine undefined d set = .ok set' := by
  unfold checkDefinition at h
  dsimp only at h
  split at h
  · obtain ⟨_, h, -⟩ := bind_eq_ok h
    cases h
  next hnew =>
  obtain ⟨_, hseverity, h⟩ := bind_eq_ok h
  split at h
  · obtain ⟨_, h, -⟩ := bind_eq_ok h
    cases h
  split at h
  · obtain ⟨_, h, -⟩ := bind_eq_ok h
    cases h
  split at h
  · obtain ⟨_, h, -⟩ := bind_eq_ok h
    cases h
  next hcustom =>
  refine ⟨by simpa using hnew, validateSeverity_ok hseverity, ?_, h⟩
  rwa [not_and_or, not_not, not_not] at hcustom

def settingsOfAll (undefined : Conversion) (definitions : List RuleDefinition) (set : Settings) :
    Except Text Settings :=
  definitions.foldlM (fun set d => settingsOf undefined d set) set

/-- What the loader has asked of a definition on behalf of its engine. -/
structure Admitted (undefined : Conversion) (d : RuleDefinition) : Prop where
  engine : ∃ e ∈ engines, e.id = d.engineRuleId ∧ d.category = e.category ∧
    checkAll undefined d e.requirements = .ok ()
  severity : d.severity ∈ severities
  id : StableId d

/-- The loop over the rules adds definitions under new ids, and the settings are those of the
rules. -/
lemma addRules_ok {definitions definitions' : List RuleDefinition}
    (h : addRules undefined schemaVersion items set definitions = .ok (set', definitions')) :
    ∃ added, definitions' = definitions ++ added ∧ (∀ d ∈ added, Loaded d ∧ Admitted undefined d) ∧
      ((definitions.map RuleDefinition.id).Nodup → (definitions'.map RuleDefinition.id).Nodup) ∧
      settingsOfAll undefined added set = .ok set' := by
  induction items generalizing set definitions with
  | nil =>
    cases h
    exact ⟨[], (append_nil _).symm, fun d hd => absurd hd not_mem_nil, id, rfl⟩
  | cons item items ih =>
    obtain ⟨d, hd, h⟩ := bind_eq_ok h
    obtain ⟨set₁, hset₁, h⟩ := bind_eq_ok h
    obtain ⟨hnew, hseverity, hid, hengine⟩ := checkDefinition_ok hset₁
    obtain ⟨e, he, heid, hcategory, hnames, hchecked, hsettings⟩ := validateEngine_ok hengine
    obtain ⟨hlists, hexclusion⟩ := parseDefinition_nonempty hd
    obtain ⟨added, rfl, hadded, hnodup, hall⟩ := ih h
    refine ⟨d :: added, by simp, ?_, fun hn => hnodup ?_, ?_⟩
    · rw [forall_mem_cons]
      exact ⟨⟨⟨⟨e, he, heid, hnames⟩, hseverity, hlists, hexclusion⟩,
        ⟨e, he, heid, hcategory, hchecked⟩, hseverity, hid⟩, hadded⟩
    · rw [map_append, nodup_append]
      refine ⟨hn, nodup_singleton _, ?_⟩
      rintro a ha b hb rfl
      exact hnew (mem_singleton.mp hb ▸ ha)
    · rw [settingsOfAll, foldlM_cons, hsettings]
      exact hall

structure LoadedSet (undefined : Conversion) (rules : RuleSet) : Prop where
  definitions : ∀ d ∈ rules.definitions, Loaded d
  nonempty : rules.definitions ≠ []
  settings : settingsOfAll undefined rules.definitions {} = .ok rules.toSettings

structure AdmittedSet (undefined : Conversion) (rules : RuleSet) : Prop where
  definitions : ∀ d ∈ rules.definitions, Admitted undefined d
  distinct : (rules.definitions.map RuleDefinition.id).Nodup
  required : ∀ id ∈ rm1DefaultIds, ∃ d ∈ rules.definitions, d.id = id

lemma parseRoot_ok {root : JsonValue} (h : parseRoot undefined root = .ok rules) :
    LoadedSet undefined rules ∧ AdmittedSet undefined rules := by
  obtain ⟨_, -, h⟩ := bind_eq_ok h
  obtain ⟨schemaVersion, -, h⟩ := bind_eq_ok h
  obtain ⟨id, -, h⟩ := bind_eq_ok h
  obtain ⟨revision, -, h⟩ := bind_eq_ok h
  obtain ⟨version, -, h⟩ := bind_eq_ok h
  dsimp only at h
  split at h
  · obtain ⟨_, h, -⟩ := bind_eq_ok h
    cases h
  split at h
  · obtain ⟨_, h, -⟩ := bind_eq_ok h
    cases h
  obtain ⟨_, -, h⟩ := bind_eq_ok h
  obtain ⟨items, -, h⟩ := bind_eq_ok h
  obtain ⟨⟨set, definitions⟩, hadded, h⟩ := bind_eq_ok h
  dsimp only at h
  split at h
  · cases h
  next hrequired =>
  split at h
  · cases h
  cases h
  obtain ⟨added, rfl, hall, hnodup, hsettings⟩ := addRules_ok hadded
  have hids : ∀ id ∈ rm1DefaultIds, ∃ d ∈ definitions, d.id = id := by
    intro id hid
    simpa using find?_eq_none.mp hrequired id hid
  refine ⟨⟨fun d hd => (hall d hd).1, ?_, hsettings⟩, fun d hd => (hall d hd).2,
    hnodup nodup_nil, hids⟩
  rintro (hempty : definitions = [])
  obtain ⟨d, hd, -⟩ := hids "PERF-001" mem_cons_self
  exact absurd (hempty ▸ hd) not_mem_nil

lemma loadText_ok {text source : Text} (h : loadText undefined text source = .ok rules) :
    LoadedSet undefined rules ∧ AdmittedSet undefined rules := by
  unfold loadText at h
  cases hparse : parse text with
  | error =>
    rw [hparse] at h
    cases h
  | ok root =>
    rw [hparse] at h
    dsimp only at h
    cases hroot : parseRoot undefined root with
    | error =>
      rw [hroot] at h
      cases h
    | ok =>
      rw [hroot] at h
      cases h
      exact parseRoot_ok hroot

/-! ### The parameters of a definition -/

section Parameters
variable {undefined : Conversion} {d : RuleDefinition} {id name : Text} {r : Requirement}

lemma checkAll_ok {rs : List Requirement} (h : checkAll undefined d rs = .ok ()) :
    ∀ r ∈ rs, r.check undefined d = .ok () := by
  induction rs with
  | nil => exact fun r hr => absurd hr not_mem_nil
  | cons r rs ih =>
    obtain ⟨_, hr, h⟩ := bind_eq_ok h
    exact forall_mem_cons.mpr ⟨hr, ih h⟩

def Demands (id : Text) (r : Requirement) : Bool :=
  engines.all fun e => decide (e.id = id → r ∈ e.requirements)

lemma Admitted.checked (h : Admitted undefined d) (hid : d.engineRuleId = id)
    (hr : Demands id r = true) : r.check undefined d = .ok () := by
  obtain ⟨e, he, heid, -, hchecked⟩ := h.engine
  have hmem := all_eq_true.mp hr e he
  exact checkAll_ok hchecked r (of_decide_eq_true hmem (heid.trans hid))

/-- The parameters that the evaluators read, with the engines that demand them. -/
def evaluatedParameters : List (Text × Requirement) :=
  [("NET-002", .positiveInteger "retransmission_threshold"),
    ("NET-003", .stringList "allowed_ports"),
    ("NET-004", .positiveInteger "maximum_prevalence"),
    ("NET-005", .positiveInteger "minimum_bytes_sent"),
    ("NET-005", .aboveOne "minimum_sent_to_received_ratio"),
    ("NET-005", .positiveInteger "received_bytes_floor"),
    ("DNS-001", .positiveInteger "minimum_failures"),
    ("DNS-002", .boolean "require_remote_ip_match"),
    ("DNS-003", .positiveInteger "maximum_distinct_answers"),
    ("TLS-001", .boolean "require_peer_authentication"),
    ("TLS-001", .boolean "verification_failure_match"),
    ("TLS-002", .boolean "compare_spki"),
    ("TLS-002", .boolean "compare_issuer"),
    ("ROUTE-001", .stringList "allowed_gateways"),
    ("ROUTE-001", .stringList "allowed_interfaces"),
    ("PROC-001", .stringList "path_prefixes"),
    ("PROC-001", .stringList "path_substrings"),
    ("PROC-002", .stringList "shell_names"),
    ("PROC-002", .stringList "expected_parent_names"),
    ("PROC-003", .stringList "expected_parent_names"),
    ("PROC-004", .positiveInteger "child_count"),
    ("PROC-004", .positiveInteger "window_ms"),
    ("PROC-005", .positiveInteger "child_count"),
    ("PROC-005", .positiveInteger "max_lifetime_ms"),
    ("PROC-005", .positiveInteger "window_ms")]

lemma demands_of_evaluated (h : (id, r) ∈ evaluatedParameters) : Demands id r = true := by
  have hall : (evaluatedParameters.all fun p => Demands p.1 p.2) = true := by decide +kernel
  exact all_eq_true.mp hall (id, r) h

variable (h : Admitted undefined d) (hid : d.engineRuleId = id)
include h hid

lemma Admitted.numeric (hr : (id, .positiveInteger name) ∈ evaluatedParameters ∨
      (id, .aboveOne name) ∈ evaluatedParameters) : Reads (d.numeric name) := by
  rcases hr with hr | hr
  · obtain ⟨_, hread, -⟩ := bind_eq_ok (h.checked hid (demands_of_evaluated hr))
    obtain ⟨value, hvalue, -⟩ := bind_eq_ok hread
    exact ⟨value, hvalue⟩
  · obtain ⟨value, hvalue, -⟩ := bind_eq_ok (h.checked hid (demands_of_evaluated hr))
    exact ⟨value, hvalue⟩

lemma Admitted.boolean (hr : (id, .boolean name) ∈ evaluatedParameters) : Reads (d.boolean name) := by
  obtain ⟨value, hvalue, -⟩ := bind_eq_ok (h.checked hid (demands_of_evaluated hr))
  exact ⟨value, hvalue⟩

lemma Admitted.stringList (hr : (id, .stringList name) ∈ evaluatedParameters) :
    Reads (d.stringList name) := by
  obtain ⟨value, hvalue, -⟩ := bind_eq_ok (h.checked hid (demands_of_evaluated hr))
  exact ⟨value, hvalue⟩

end Parameters

/-! ### Finding a definition by its id -/

section Ids
variable {undefined : Conversion} {rules : RuleSet} {d : RuleDefinition}

lemma engines_canonical : (engines.all fun e => decide (canonicalId e.id = e.id)) = true := by
  decide +kernel

lemma canonicalId_custom {id : Text} (h : "CST-" <+: id) : canonicalId id = id := by
  obtain ⟨rest, rfl⟩ := h
  have hneta : ¬ "NETA-".toList <+: "CST-".toList ++ rest := fun h => by
    have hc : 'N' = 'C' := (cons_prefix_cons.mp h).1
    exact absurd hc (by decide)
  have hcus : ¬ "CUS-".toList <+: "CST-".toList ++ rest := fun h => by
    have hc : 'U' = 'S' := (cons_prefix_cons.mp (cons_prefix_cons.mp h).2).1
    exact absurd hc (by decide)
  simp only [canonicalId, if_neg hneta, if_neg hcus]

lemma Admitted.canonicalId_id (h : Admitted undefined d) : canonicalId d.id = d.id := by
  rcases h.id with hid | hid
  · obtain ⟨e, he, heid, -⟩ := h.engine
    rw [hid, ← heid]
    exact of_decide_eq_true (all_eq_true.mp engines_canonical e he)
  · exact canonicalId_custom hid

/-- **A definition is found under its id.** -/
lemma AdmittedSet.rule_id (h : AdmittedSet undefined rules) (hd : d ∈ rules.definitions) :
    rules.rule d.id = .ok d := by
  unfold RuleSet.rule
  rw [(h.definitions d hd).canonicalId_id]
  cases hfind : rules.definitions.find? fun d' => d'.id = d.id with
  | none =>
    have hne := find?_eq_none.mp hfind d hd
    simp at hne
  | some d' =>
    have hid : d'.id = d.id := by simpa using find?_some hfind
    have hsame := inj_on_of_nodup_map h.distinct (mem_of_find?_eq_some hfind) hd hid
    rw [hsame]

lemma AdmittedSet.rule_required (h : AdmittedSet undefined rules) {id : Text}
    (hid : id ∈ rm1DefaultIds) :
    ∃ d ∈ rules.definitions, d.engineRuleId = id ∧ rules.rule id = .ok d := by
  obtain ⟨d, hd, rfl⟩ := h.required id hid
  have hcustom : ¬ "CST-" <+: d.id := by
    have hall : (rm1DefaultIds.all fun id => !decide ("CST-" <+: id)) = true := by
      decide +kernel
    simpa using all_eq_true.mp hall d.id hid
  exact ⟨d, hd, ((h.definitions d hd).id.resolve_right hcustom).symm, h.rule_id hd⟩

end Ids

end NetaAgent.Verdict
