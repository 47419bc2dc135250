import NetaAgent.RuleJson

/-!
Rule sets: their definitions, and the loader that reads and checks a rule document.
-/

namespace NetaAgent.Rules

open Decimal NumberText RuleJson

/-! ### The types -/

structure RuleExclusion where
  processNames : List Text := []
  executablePaths : List Text := []
  processPathPrefixes : List Text := []
  parentProcessNames : List Text := []
  users : List Text := []
  remoteHosts : List Text := []
  remoteIps : List Text := []
  remotePorts : List Text := []
  localPorts : List Text := []
  domains : List Text := []
  directions : List Text := []
  deriving DecidableEq

structure RuleDefinition where
  id : Text := []
  engineRuleId : Text := []
  name : Text := []
  category : Text := []
  severity : Text := []
  enabled : Bool := true
  exclude : RuleExclusion := {}
  numericParameters : List (Text × Double) := []
  booleanParameters : List (Text × Bool) := []
  stringParameters : List (Text × Text) := []
  stringListParameters : List (Text × List Text) := []
  deriving DecidableEq

def Reads {α : Type} (r : Except Text α) : Prop := ∃ a, r = .ok a

lemma Reads.bind {α β : Type} {r : Except Text α} {k : α → Except Text β} (hr : Reads r)
    (hk : ∀ a, r = .ok a → Reads (k a)) : Reads (r >>= k) := by
  obtain ⟨a, ha⟩ := hr
  obtain ⟨b, hb⟩ := hk a ha
  refine ⟨b, ?_⟩
  rw [ha]
  exact hb

/-- A parameter of a map, or the exception that it is missing. -/
def parameter {α : Type} (kind : Text) (parameters : List (Text × α)) (name : Text) : Except Text α :=
  match parameters.find? fun p => p.1 = name with
  | some p => .ok p.2
  | none => .error ("missing " ++ kind ++ " rule parameter: " ++ name)

namespace RuleDefinition

variable (d : RuleDefinition)

def numeric : Text → Except Text Double :=
  parameter "numeric" d.numericParameters

def boolean : Text → Except Text Bool :=
  parameter "boolean" d.booleanParameters

def stringList : Text → Except Text (List Text) :=
  parameter "string-list" d.stringListParameters

end RuleDefinition

def literal (t : Text) : Double :=
  match strtod t with
  | .finite d => d
  | _ => .zero

def legacyRuleSetVersion : Text := "neta-rules/0.1.0"
def previousRuleSetVersion : Text := "neta-rules/0.2.0"
def ruleSetVersion : Text := "neta-rules/0.6.0"

/-- What the evaluation of verdicts reads of a rule set, with the defaults. -/
structure Settings where
  performanceEnabled : Bool := true
  rttRatio : Double := literal "2.0"
  rttvarRatio : Double := literal "2.0"
  retransmissionThreshold : ℕ := 2
  rttWeight : Double := literal "0.50"
  rttvarWeight : Double := literal "0.20"
  retransmissionWeight : Double := literal "0.30"
  degradedThreshold : Double := literal "0.50"
  outboundTlsIdentity : Bool := true
  outboundRequireChainValid : Bool := true
  outboundRequireHostnameValid : Bool := true
  outboundCompareSpki : Bool := true
  inboundAuthenticatedIdentity : Bool := true
  inboundRequireExactEvidence : Bool := true
  inboundRequirePeerCertificate : Bool := true
  inboundRequirePeerAuthentication : Bool := true
  inboundVerificationFailureSuspicious : Bool := true
  inboundCompareSpki : Bool := true
  inboundCompareIssuer : Bool := true
  deriving DecidableEq

structure RuleSet extends Settings where
  id : Text := "neta-default"
  revision : ℕ := 6
  schemaVersion : ℕ := 2
  version : Text := ruleSetVersion
  definitions : List RuleDefinition := []

/-! ### Reading a document -/

/-- `NETA-` is dropped, and `CUS-` becomes `CST-`. -/
def canonicalId (id : Text) : Text :=
  let id := if "NETA-" <+: id then id.drop 5 else id
  if "CUS-" <+: id then "CST-" ++ id.drop 4 else id

/-- `RuleSet::rule`. -/
def RuleSet.rule (rules : RuleSet) (ruleId : Text) : Except Text RuleDefinition :=
  match rules.definitions.find? fun d => d.id = canonicalId ruleId with
  | some d => .ok d
  | none => .error ("rule is not present in rule set: " ++ canonicalId ruleId)

def rm1DefaultIds : List Text :=
  ["PERF-001", "PROC-001", "PROC-002", "PROC-003", "PROC-004",
    "PROC-005", "TRUST-001", "TRUST-002"]

variable (undefined : Conversion) (object : JsonValue) (key : Text) (values : List Text) (schemaVersion : ℕ)

def requireString : Except Text Text := do
  (← object.get key).asString

def exceedsUint64 (d : Double) : Bool := !d.negative && twoPow64 * oneUnits < d.units

def requireU64 : Except Text ℕ := do
  let value ← (← object.get key).asNumber
  if value.lt .zero || !value.isInteger || exceedsUint64 value then
    .error (key ++ " must be a non-negative integer")
  else .ok (toUint64 undefined (.finite value))

def optionalBool (fallback : Bool) : Except Text Bool := do
  match ← object.find key with
  | some value => value.asBoolean
  | none => .ok fallback

def optionalString : Except Text Text := do
  match ← object.find key with
  | some value => value.asString
  | none => .ok []

def ensureKeys (allowed : List Text) (context : Text) : Except Text Unit := do
  match (← object.asObject).find? fun m => !allowed.contains m.1 with
  | some m => .error (context ++ " contains unsupported field: " ++ m.1)
  | none => .ok ()

def ensureParameterKeys (d : RuleDefinition) (allowed : List Text) : Except Text Unit :=
  let keys := d.numericParameters.map Prod.fst ++ d.booleanParameters.map Prod.fst ++
    d.stringParameters.map Prod.fst ++ d.stringListParameters.map Prod.fst
  match keys.find? fun key => !allowed.contains key with
  | some key => .error (d.id ++ " contains unsupported parameter: " ++ key)
  | none => .ok ()

/-- The elements of a list of strings, none of them empty. -/
def stringItems : List JsonValue → Except Text (List Text)
  | [] => .ok []
  | item :: items => do
    let text ← item.asString
    if text = [] then .error "string-list values may not be empty"
    else .ok (text :: (← stringItems items))

def stringArray (value : JsonValue) : Except Text (List Text) := do
  stringItems (← value.asArray)

def readExclusion (value : JsonValue) (key : Text) : Except Text (List Text) := do
  match ← value.find key with
  | some item => stringArray item
  | none => .ok []

def exclusionNormalized (value : Text) : Text :=
  value.map fun c => if c = '\\' then '/' else c.toLower

def exclusionContains (candidate : Text) : Bool :=
  candidate ≠ [] && values.any fun v => exclusionNormalized v = exclusionNormalized candidate

def exclusionPrefix (candidate : Text) : Bool :=
  candidate ≠ [] && values.any fun v =>
    exclusionNormalized v ≠ [] && exclusionNormalized v <+: exclusionNormalized candidate

def isDirection (direction : Text) : Bool :=
  let normalized := exclusionNormalized direction
  normalized = "inbound" || normalized = "outbound" || normalized = "unknown"

def exclusionKeys : List Text :=
  ["process_names", "executable_paths", "process_path_prefixes",
    "parent_process_names", "users", "remote_hosts", "remote_ips",
    "remote_ports", "local_ports", "domains", "directions"]

def parseExclusion (value : JsonValue) : Except Text RuleExclusion := do
  ensureKeys value exclusionKeys "rule exclusion"
  let out : RuleExclusion :=
    { processNames := ← readExclusion value "process_names"
      executablePaths := ← readExclusion value "executable_paths"
      processPathPrefixes := ← readExclusion value "process_path_prefixes"
      parentProcessNames := ← readExclusion value "parent_process_names"
      users := ← readExclusion value "users"
      remoteHosts := ← readExclusion value "remote_hosts"
      remoteIps := ← readExclusion value "remote_ips"
      remotePorts := ← readExclusion value "remote_ports"
      localPorts := ← readExclusion value "local_ports"
      domains := ← readExclusion value "domains"
      directions := ← readExclusion value "directions" }
  if out.directions.all isDirection then .ok out
  else .error "exclude.directions accepts inbound, outbound, or unknown"

/-- `emplace` into a map of parameters, which keeps what is there. -/
def put {α : Type} (value : α) (m : List (Text × α)) : List (Text × α) :=
  (emplace key value m).getD m

def readParameters : List (Text × JsonValue) → RuleDefinition → Except Text RuleDefinition
  | [], d => .ok d
  | (key, p) :: ps, d =>
    match p with
    | .number v => readParameters ps { d with numericParameters := put key v d.numericParameters }
    | .boolean v => readParameters ps { d with booleanParameters := put key v d.booleanParameters }
    | .string v => readParameters ps { d with stringParameters := put key v d.stringParameters }
    | .array items => do
      let v ← stringItems items
      readParameters ps { d with stringListParameters := put key v d.stringListParameters }
    | _ => .error ("unsupported parameter type for " ++ key)

def ruleKeys : List Text :=
  if schemaVersion = 1 then
    ["id", "name", "category", "severity", "enabled",
      "parameters"]
  else
    ["id", "engine_rule_id", "name", "category", "severity",
      "enabled", "parameters", "exclude"]

def parseDefinition (value : JsonValue) (schemaVersion : ℕ) : Except Text RuleDefinition := do
  ensureKeys value (ruleKeys schemaVersion) "rule"
  let id := canonicalId (← requireString value "id")
  let engine := canonicalId (← optionalString value "engine_rule_id")
  let d : RuleDefinition :=
    { id := id
      engineRuleId := if engine = [] then id else engine
      name := ← requireString value "name"
      category := ← requireString value "category"
      severity := ← optionalString value "severity"
      enabled := ← optionalBool value "enabled" true }
  if d.id = [] ∨ d.engineRuleId = [] ∨ d.name = [] ∨ d.category = [] then
    .error "rule id, engine_rule_id, name, and category must be non-empty"
  let d ← match ← value.find "parameters" with
    | some parameters => do readParameters (← parameters.asObject) d
    | none => .ok d
  if 2 ≤ schemaVersion then
    match ← value.find "exclude" with
    | some exclusion => .ok { d with exclude := ← parseExclusion exclusion }
    | none => .ok d
  else .ok d

/-! ### Checking a rule -/

def requireCategory (d : RuleDefinition) (expected : Text) : Except Text Unit :=
  if d.category = expected then .ok ()
  else .error (d.id ++ " must use " ++ expected ++ " category")

def positiveInteger (d : RuleDefinition) (name : Text) : Except Text ℕ := do
  let value ← d.numeric name
  if value.le .zero || !value.isInteger || exceedsUint64 value then
    .error (d.id ++ " parameter " ++ name ++ " must be a positive integer")
  else .ok (toUint64 undefined (.finite value))

def fraction (d : RuleDefinition) (name : Text) : Except Text Unit := do
  let value ← d.numeric name
  if value.lt .zero || Double.one.lt value then
    .error (d.id ++ " parameter " ++ name ++ " must be between 0 and 1")
  else .ok ()

def validateSeverity (d : RuleDefinition) : Except Text Unit :=
  if d.severity = "low" ∨ d.severity = "medium" ∨ d.severity = "high" then .ok ()
  else .error (d.id ++ " severity must be low, medium, or high")

inductive Requirement where
  | positiveInteger (name : Text)
  | fraction (name : Text)
  | boolean (name : Text)
  | stringList (name : Text)
  | aboveOne (name : Text)
  /-- The parameters that must be positive, and those that must not be negative. -/
  | performance (positive nonnegative : List Text) (threshold : Text)
  deriving DecidableEq

/-- The first of the parameters for which `bad` holds ends the test. -/
def anyParameter (d : RuleDefinition) (bad : Double → Bool) : List Text → Except Text Bool
  | [] => .ok false
  | name :: names => do
    if bad (← d.numeric name) then .ok true else anyParameter d bad names

def Requirement.check (d : RuleDefinition) : Requirement → Except Text Unit
  | .positiveInteger name => do let _ ← Rules.positiveInteger undefined d name
  | .fraction name => Rules.fraction d name
  | .boolean name => do let _ ← d.boolean name
  | .stringList name => do let _ ← d.stringList name
  | .aboveOne name => do
    if (← d.numeric name).le .one then
      .error (d.id ++ " " ++ name ++ " must be greater than 1")
    else .ok ()
  | .performance positive nonnegative threshold => do
    let invalid : Except Text Unit :=
      .error (d.id ++ " has invalid performance ratios/weights/threshold")
    if ← anyParameter d (fun v => v.le .zero) positive then invalid
    else if ← anyParameter d (fun v => v.lt .zero) nonnegative then invalid
    else if ← anyParameter d (fun v => v.le .zero) [threshold] then invalid
    else .ok ()

def checkAll (undefined : Conversion) (d : RuleDefinition) : List Requirement → Except Text Unit
  | [] => .ok ()
  | r :: rs => do
    r.check undefined d
    checkAll undefined d rs

structure Engine where
  id : Text
  category : Text
  parameters : List Text
  requirements : List Requirement

/-- An engine all of whose parameters are read in the same way. -/
def uniformEngine (id category : String) (require : Text → Requirement) (parameters : List Text) :
    Engine :=
  ⟨id.toList, category.toList, parameters, parameters.map require⟩

/-- The branches of `validate_engine`. -/
def engines : List Engine :=
  [⟨"PERF-001", "performance",
      ["rtt_ratio", "rttvar_ratio", "retransmission_threshold",
        "rtt_weight", "rttvar_weight", "retransmission_weight",
        "degraded_threshold"],
      [.positiveInteger "retransmission_threshold",
        .performance ["rtt_ratio", "rttvar_ratio"]
          ["rtt_weight", "rttvar_weight", "retransmission_weight"]
          "degraded_threshold"]⟩,
    uniformEngine "TRUST-001" "trust" .boolean
      ["require_chain_valid", "require_hostname_valid", "compare_spki"],
    uniformEngine "TRUST-002" "trust" .boolean
      ["require_exact_evidence", "require_peer_certificate",
        "require_peer_authentication", "verification_failure_suspicious",
        "compare_spki", "compare_issuer"],
    uniformEngine "PROC-001" "process" .stringList ["path_prefixes", "path_substrings"],
    uniformEngine "PROC-002" "process" .stringList
      ["shell_names", "expected_parent_names"],
    uniformEngine "PROC-003" "process" .stringList ["expected_parent_names"],
    uniformEngine "PROC-004" "process" .positiveInteger ["child_count", "window_ms"],
    uniformEngine "PROC-005" "process" .positiveInteger
      ["child_count", "max_lifetime_ms", "window_ms"],
    ⟨"BEH-001", "behavior",
      ["minimum_connections", "window_ms", "minimum_interval_ms",
        "maximum_interval_ms", "interval_tolerance_ratio",
        "minimum_regular_fraction", "recent_connection_limit"],
      [.positiveInteger "minimum_connections", .positiveInteger "window_ms",
        .positiveInteger "minimum_interval_ms", .positiveInteger "maximum_interval_ms",
        .positiveInteger "recent_connection_limit",
        .fraction "interval_tolerance_ratio", .fraction "minimum_regular_fraction"]⟩,
    uniformEngine "NET-001" "network" .positiveInteger ["minimum_bytes_received"],
    uniformEngine "NET-002" "network" .positiveInteger ["retransmission_threshold"],
    uniformEngine "NET-003" "network" .stringList ["allowed_ports"],
    uniformEngine "NET-004" "network" .positiveInteger ["maximum_prevalence"],
    ⟨"NET-005", "network",
      ["minimum_bytes_sent", "minimum_sent_to_received_ratio",
        "received_bytes_floor"],
      [.positiveInteger "minimum_bytes_sent",
        .aboveOne "minimum_sent_to_received_ratio",
        .positiveInteger "received_bytes_floor"]⟩,
    uniformEngine "DNS-001" "dns" .positiveInteger ["minimum_failures"],
    uniformEngine "DNS-002" "dns" .boolean ["require_remote_ip_match"],
    uniformEngine "DNS-003" "dns" .positiveInteger ["maximum_distinct_answers"],
    uniformEngine "TLS-001" "tls" .boolean
      ["require_peer_authentication", "verification_failure_match"],
    uniformEngine "TLS-002" "tls" .boolean ["compare_spki", "compare_issuer"],
    uniformEngine "ROUTE-001" "route" .stringList
      ["allowed_gateways", "allowed_interfaces"]]

/-- The settings that a default rule gives; a custom rule on the same engine gives none. -/
def settingsOf (d : RuleDefinition) (set : Settings) : Except Text Settings :=
  if d.id ≠ d.engineRuleId then .ok set
  else if d.id = "PERF-001" then do
    .ok { set with
      performanceEnabled := d.enabled
      rttRatio := ← d.numeric "rtt_ratio"
      rttvarRatio := ← d.numeric "rttvar_ratio"
      retransmissionThreshold := ← positiveInteger undefined d "retransmission_threshold"
      rttWeight := ← d.numeric "rtt_weight"
      rttvarWeight := ← d.numeric "rttvar_weight"
      retransmissionWeight := ← d.numeric "retransmission_weight"
      degradedThreshold := ← d.numeric "degraded_threshold" }
  else if d.id = "TRUST-001" then do
    .ok { set with
      outboundTlsIdentity := d.enabled
      outboundRequireChainValid := ← d.boolean "require_chain_valid"
      outboundRequireHostnameValid := ← d.boolean "require_hostname_valid"
      outboundCompareSpki := ← d.boolean "compare_spki" }
  else if d.id = "TRUST-002" then do
    .ok { set with
      inboundAuthenticatedIdentity := d.enabled
      inboundRequireExactEvidence := ← d.boolean "require_exact_evidence"
      inboundRequirePeerCertificate := ← d.boolean "require_peer_certificate"
      inboundRequirePeerAuthentication := ← d.boolean "require_peer_authentication"
      inboundVerificationFailureSuspicious := ← d.boolean "verification_failure_suspicious"
      inboundCompareSpki := ← d.boolean "compare_spki"
      inboundCompareIssuer := ← d.boolean "compare_issuer" }
  else .ok set

def isSupportedCustomEngine (id : Text) : Bool := engines.any fun e => e.id = id

def validateEngine (d : RuleDefinition) (set : Settings) : Except Text Settings :=
  match engines.find? fun e => e.id = d.engineRuleId with
  | none => .error ("unsupported engine_rule_id: " ++ d.engineRuleId)
  | some e => do
    requireCategory d e.category
    ensureParameterKeys d e.parameters
    checkAll undefined d e.requirements
    settingsOf undefined d set

/-! ### The loader -/

def checkDefinition (ids : List Text)
    (d : RuleDefinition) (set : Settings) : Except Text Settings := do
  if ids.contains d.id then .error ("duplicate rule id: " ++ d.id)
  validateSeverity d
  if schemaVersion = 1 ∧ d.engineRuleId ≠ d.id then
    .error "schema v1 does not support a distinct engine_rule_id"
  if d.id ≠ d.engineRuleId ∧ isSupportedCustomEngine d.engineRuleId = false then
    .error ("unsupported custom trusted engine: " ++ d.engineRuleId)
  if d.id ≠ d.engineRuleId ∧ ¬ "CST-" <+: d.id then
    .error "custom centrally managed rule ids must start with CST-"
  validateEngine undefined d set

/-- The loop over the rules, with the settings and the definitions so far. -/
def addRules (undefined : Conversion) (schemaVersion : ℕ) :
    List JsonValue → Settings → List RuleDefinition → Except Text (Settings × List RuleDefinition)
  | [], set, definitions => .ok (set, definitions)
  | item :: items, set, definitions => do
    let d ← parseDefinition item schemaVersion
    let set ← checkDefinition undefined schemaVersion (definitions.map RuleDefinition.id) d set
    addRules undefined schemaVersion items set (definitions ++ [d])

def rootKeys : List Text :=
  ["schema_version", "id", "revision", "version", "rules"]

def parseRoot (root : JsonValue) : Except Text RuleSet := do
  ensureKeys root rootKeys "rule set"
  let schemaVersion ← requireU64 undefined root "schema_version"
  let id ← requireString root "id"
  let revision ← requireU64 undefined root "revision"
  let version ← requireString root "version"
  if schemaVersion ≠ 1 ∧ schemaVersion ≠ 2 then .error "unsupported rule schema version"
  if id = [] ∨ revision = 0 ∨ version = [] then
    .error "rule set id/version must be non-empty and revision must be positive"
  let (set, definitions) ← addRules undefined schemaVersion (← (← root.get "rules").asArray) {} []
  let ids := definitions.map RuleDefinition.id
  match rm1DefaultIds.find? fun required => !ids.contains required with
  | some required => .error ("rule set is missing required default rule: " ++ required)
  | none =>
    if schemaVersion = 1 ∧ ids.any (fun id => !rm1DefaultIds.contains id) then
      .error "schema v1 permits only the RM1 default rule catalog"
    else .ok { toSettings := set, id, revision, schemaVersion, version, definitions }

def loadText (text source : Text) : Except Text RuleSet :=
  let result :=
    match parse text with
    | .ok root => parseRoot undefined root
    | .error e => .error (e.message text)
  result.mapError fun e => "rule set validation failed for " ++ source ++ ": " ++ e

def defaultDocument : Text :=
  ("\x7b\"schema_version\":2,\"id\":\"neta-default\",\"revision\":6," ++
    "\"version\":\"neta-rules/0.6.0\",\"rules\":[\n" ++
    "\x7b\"id\":\"PERF-001\",\"engine_rule_id\":\"PERF-001\"," ++
    "\"name\":\"Network path degradation\",\"category\":\"performance\",\"severity\":\"medium\"," ++
    "\"enabled\":true,\"parameters\":\x7b\"rtt_ratio\":2.0,\"rttvar_ratio\":2.0," ++
    "\"retransmission_threshold\":2,\"rtt_weight\":0.5,\"rttvar_weight\":0.2," ++
    "\"retransmission_weight\":0.3,\"degraded_threshold\":0.5\x7d\x7d,\n" ++
    "\x7b\"id\":\"TRUST-001\",\"engine_rule_id\":\"TRUST-001\"," ++
    "\"name\":\"Outbound TLS identity\",\"category\":\"trust\",\"severity\":\"high\"," ++
    "\"enabled\":true,\"parameters\":\x7b\"require_chain_valid\":true," ++
    "\"require_hostname_valid\":true,\"compare_spki\":true\x7d\x7d,\n" ++
    "\x7b\"id\":\"TRUST-002\",\"engine_rule_id\":\"TRUST-002\"," ++
    "\"name\":\"Inbound authenticated TLS identity\",\"category\":\"trust\"," ++
    "\"severity\":\"high\",\"enabled\":true,\"parameters\":\x7b\"require_exact_evidence\":true," ++
    "\"require_peer_certificate\":true,\"require_peer_authentication\":true," ++
    "\"verification_failure_suspicious\":true,\"compare_spki\":true," ++
    "\"compare_issuer\":true\x7d\x7d,\n" ++
    "\x7b\"id\":\"PROC-001\",\"engine_rule_id\":\"PROC-001\"," ++
    "\"name\":\"Execution from transient path\",\"category\":\"process\",\"severity\":\"medium\"," ++
    "\"enabled\":true,\"parameters\":\x7b\"path_prefixes\":[\"/tmp/\",\"/var/tmp/\"," ++
    "\"/dev/shm/\"],\"path_substrings\":[\"/appdata/local/temp/\",\"/windows/temp/\"]\x7d\x7d,\n" ++
    "\x7b\"id\":\"PROC-002\",\"engine_rule_id\":\"PROC-002\"," ++
    "\"name\":\"Shell from unexpected parent\",\"category\":\"process\",\"severity\":\"medium\"," ++
    "\"enabled\":true,\"parameters\":\x7b\"shell_names\":[\"sh\",\"bash\",\"dash\",\"zsh\"," ++
    "\"ksh\",\"fish\",\"powershell\",\"powershell.exe\",\"pwsh\",\"pwsh.exe\",\"cmd\"," ++
    "\"cmd.exe\"],\"expected_parent_names\":[\"sh\",\"bash\",\"dash\",\"zsh\",\"ksh\",\"fish\"," ++
    "\"powershell\",\"powershell.exe\",\"pwsh\",\"pwsh.exe\",\"cmd\",\"cmd.exe\",\"sshd\"," ++
    "\"sudo\",\"su\",\"login\",\"systemd\",\"init\",\"tmux\",\"screen\"," ++
    "\"gnome-terminal-server\",\"konsole\",\"windowsterminal.exe\",\"wt.exe\",\"conhost.exe\"," ++
    "\"explorer.exe\",\"winlogon.exe\"]\x7d\x7d,\n" ++
    "\x7b\"id\":\"PROC-003\",\"engine_rule_id\":\"PROC-003\",\"name\":\"Unexpected elevation\"," ++
    "\"category\":\"process\",\"severity\":\"medium\",\"enabled\":true," ++
    "\"parameters\":\x7b\"expected_parent_names\":[\"sudo\",\"su\",\"pkexec\",\"doas\"," ++
    "\"consent.exe\"]\x7d\x7d,\n" ++
    "\x7b\"id\":\"PROC-004\",\"engine_rule_id\":\"PROC-004\"," ++
    "\"name\":\"Rapid child process fanout\",\"category\":\"process\",\"severity\":\"medium\"," ++
    "\"enabled\":true,\"parameters\":\x7b\"child_count\":6,\"window_ms\":10000\x7d\x7d,\n" ++
    "\x7b\"id\":\"PROC-005\",\"engine_rule_id\":\"PROC-005\"," ++
    "\"name\":\"Short-lived process burst\",\"category\":\"process\",\"severity\":\"medium\"," ++
    "\"enabled\":true,\"parameters\":\x7b\"child_count\":6,\"max_lifetime_ms\":2000," ++
    "\"window_ms\":15000\x7d\x7d,\n" ++
    "\x7b\"id\":\"BEH-001\",\"engine_rule_id\":\"BEH-001\"," ++
    "\"name\":\"Periodic outbound connection pattern\",\"category\":\"behavior\"," ++
    "\"severity\":\"medium\",\"enabled\":true,\"parameters\":\x7b\"minimum_connections\":8," ++
    "\"window_ms\":90000,\"minimum_interval_ms\":3000,\"maximum_interval_ms\":15000," ++
    "\"interval_tolerance_ratio\":0.2,\"minimum_regular_fraction\":0.8," ++
    "\"recent_connection_limit\":512\x7d\x7d,\n" ++
    "\x7b\"id\":\"NET-001\",\"engine_rule_id\":\"NET-001\",\"name\":\"Large ingress transfer\"," ++
    "\"category\":\"network\",\"severity\":\"low\",\"enabled\":true," ++
    "\"parameters\":\x7b\"minimum_bytes_received\":268435456\x7d\x7d,\n" ++
    "\x7b\"id\":\"NET-002\",\"engine_rule_id\":\"NET-002\",\"name\":\"TCP retransmission spike\"," ++
    "\"category\":\"network\",\"severity\":\"medium\",\"enabled\":true," ++
    "\"parameters\":\x7b\"retransmission_threshold\":5\x7d\x7d,\n" ++
    "\x7b\"id\":\"NET-003\",\"engine_rule_id\":\"NET-003\"," ++
    "\"name\":\"Unusual outbound destination port\",\"category\":\"network\"," ++
    "\"severity\":\"low\",\"enabled\":false,\"parameters\":\x7b\"allowed_ports\":[\"22\",\"25\"," ++
    "\"53\",\"80\",\"110\",\"123\",\"143\",\"443\",\"465\",\"587\",\"853\",\"993\",\"995\"," ++
    "\"3389\"]\x7d\x7d,\n" ++
    "\x7b\"id\":\"NET-004\",\"engine_rule_id\":\"NET-004\"," ++
    "\"name\":\"Rare outbound destination\",\"category\":\"network\",\"severity\":\"medium\"," ++
    "\"enabled\":false,\"parameters\":\x7b\"maximum_prevalence\":2\x7d\x7d,\n" ++
    "\x7b\"id\":\"NET-005\",\"engine_rule_id\":\"NET-005\"," ++
    "\"name\":\"High outbound transfer asymmetry\",\"category\":\"network\",\"severity\":\"low\"," ++
    "\"enabled\":true,\"parameters\":\x7b\"minimum_bytes_sent\":33554432," ++
    "\"minimum_sent_to_received_ratio\":8.0,\"received_bytes_floor\":65536\x7d\x7d,\n" ++
    "\x7b\"id\":\"DNS-001\",\"engine_rule_id\":\"DNS-001\"," ++
    "\"name\":\"Repeated DNS resolution failures\",\"category\":\"dns\",\"severity\":\"medium\"," ++
    "\"enabled\":true,\"parameters\":\x7b\"minimum_failures\":3\x7d\x7d,\n" ++
    "\x7b\"id\":\"DNS-002\",\"engine_rule_id\":\"DNS-002\"," ++
    "\"name\":\"DNS answer and connection mismatch\",\"category\":\"dns\"," ++
    "\"severity\":\"medium\",\"enabled\":true," ++
    "\"parameters\":\x7b\"require_remote_ip_match\":true\x7d\x7d,\n" ++
    "\x7b\"id\":\"DNS-003\",\"engine_rule_id\":\"DNS-003\",\"name\":\"DNS answer churn\"," ++
    "\"category\":\"dns\",\"severity\":\"low\",\"enabled\":false," ++
    "\"parameters\":\x7b\"maximum_distinct_answers\":12\x7d\x7d,\n" ++
    "\x7b\"id\":\"TLS-001\",\"engine_rule_id\":\"TLS-001\"," ++
    "\"name\":\"Application TLS validation failure\",\"category\":\"tls\",\"severity\":\"high\"," ++
    "\"enabled\":true,\"parameters\":\x7b\"require_peer_authentication\":true," ++
    "\"verification_failure_match\":true\x7d\x7d,\n" ++
    "\x7b\"id\":\"TLS-002\",\"engine_rule_id\":\"TLS-002\",\"name\":\"TLS peer identity change\"," ++
    "\"category\":\"tls\",\"severity\":\"high\",\"enabled\":true," ++
    "\"parameters\":\x7b\"compare_spki\":true,\"compare_issuer\":true\x7d\x7d,\n" ++
    "\x7b\"id\":\"ROUTE-001\",\"engine_rule_id\":\"ROUTE-001\"," ++
    "\"name\":\"Unexpected route gateway or interface\",\"category\":\"route\"," ++
    "\"severity\":\"medium\",\"enabled\":false,\"parameters\":\x7b\"allowed_gateways\":[]," ++
    "\"allowed_interfaces\":[]\x7d\x7d]\x7d").toList

def builtIn : Except Text RuleSet :=
  loadText undefined defaultDocument "built-in default rules"

end NetaAgent.Rules
