import NetaAgent.ProcessGraph
import NetaAgent.RuleSetLoader
import NetaAgent.Search
import NetaAgent.SqlTriple

/-!
`ProcessFindingEngine`: the findings on a process when it starts, and on its parent when many
children start or end within a window.

The engine throws where a rule lacks a parameter or has an unknown severity (`Usable` says that
none does). What it has counted so far stays when it throws, so its calls are programs with
memory, without a statement. Every finding is about a node of the snapshot it was made from.
-/

namespace NetaAgent.Processes

open Decimal Rules Sql List Triple

inductive ProcessFindingSeverity where
  | low
  | medium
  | high
  deriving DecidableEq

inductive ProcessFindingKind where
  | execFromTransientPath
  | shellFromUnexpectedParent
  | unexpectedElevation
  | rapidChildFanout
  | shortLivedProcessBurst
  deriving DecidableEq

structure ProcessFinding where
  kind : ProcessFindingKind
  severity : ProcessFindingSeverity
  ruleId : Text
  rulesetVersion : Text
  observedAtNs : ℕ
  process : ProcessInstanceKey
  parent : Option ProcessInstanceKey
  processImage : Text
  parentImage : Text
  commandLine : Text
  summary : Text
  interpretation : Text

/-- The exclusions of the configuration are never filled in. -/
structure ProcessFindingConfig where
  rulesetVersion : Text
  transientPathEnabled : Bool
  transientPathSeverity : Text
  transientPathPrefixes : List Text
  transientPathSubstrings : List Text
  unexpectedShellEnabled : Bool
  unexpectedShellSeverity : Text
  shellNames : List Text
  expectedShellParentNames : List Text
  unexpectedElevationEnabled : Bool
  unexpectedElevationSeverity : Text
  expectedElevationParentNames : List Text
  fanoutEnabled : Bool
  fanoutSeverity : Text
  fanoutCount : ℕ
  fanoutWindowNs : ℕ
  shortLivedEnabled : Bool
  shortLivedSeverity : Text
  shortLivedCount : ℕ
  shortLivedMaxNs : ℕ
  shortLivedWindowNs : ℕ

/-! ### Texts -/

def lowerNormalized (value : Text) : Text := exclusionNormalized value

def afterLastSlash (value : Text) : Text := (value.reverse.takeWhile (· ≠ '/')).reverse

def leafName (node : ProcessNode) : Text :=
  afterLastSlash (lowerNormalized (if node.comm = [] then node.executablePath else node.comm))

def normalizedValues (values : List Text) : List Text := values.map lowerNormalized

def containsName (names : List Text) (node : ProcessNode) : Bool := names.contains (leafName node)

def pathMatches (raw : Text) (prefixes substrings : List Text) : Bool :=
  let path := lowerNormalized raw
  path ≠ [] && (prefixes.any (fun p => p <+: path) ||
    substrings.any fun needle => (Search.find needle path).isSome)

def severityFromString (severity : Text) : Except Text ProcessFindingSeverity :=
  let normalized := lowerNormalized severity
  if normalized = "low" then .ok .low
  else if normalized = "medium" then .ok .medium
  else if normalized = "high" then .ok .high
  else .error ("unsupported process finding severity: " ++ severity)

/-! ### The configuration -/

variable (kind : ProcessFindingKind) (nodes : List ProcessNode) (undefined : Conversion)

/-- `static_cast<std::uint64_t>(…) * kNanosecondsPerMillisecond`. -/
def milliseconds (value : Double) : ℕ :=
  toUint64 undefined (.finite value) * 1000000 % twoPow64

def configFromRules (rules : RuleSet) : Except Text ProcessFindingConfig := do
  let transient ← rules.rule "PROC-001"
  let prefixes ← transient.stringList "path_prefixes"
  let substrings ← transient.stringList "path_substrings"
  let shell ← rules.rule "PROC-002"
  let shellNames ← shell.stringList "shell_names"
  let shellParents ← shell.stringList "expected_parent_names"
  let elevation ← rules.rule "PROC-003"
  let elevationParents ← elevation.stringList "expected_parent_names"
  let fanout ← rules.rule "PROC-004"
  let fanoutCount ← fanout.numeric "child_count"
  let fanoutWindow ← fanout.numeric "window_ms"
  let shortLived ← rules.rule "PROC-005"
  let shortCount ← shortLived.numeric "child_count"
  let shortMax ← shortLived.numeric "max_lifetime_ms"
  let shortWindow ← shortLived.numeric "window_ms"
  return {
    rulesetVersion := rules.version
    transientPathEnabled := transient.enabled
    transientPathSeverity := transient.severity
    transientPathPrefixes := normalizedValues prefixes
    transientPathSubstrings := normalizedValues substrings
    unexpectedShellEnabled := shell.enabled
    unexpectedShellSeverity := shell.severity
    shellNames := normalizedValues shellNames
    expectedShellParentNames := normalizedValues shellParents
    unexpectedElevationEnabled := elevation.enabled
    unexpectedElevationSeverity := elevation.severity
    expectedElevationParentNames := normalizedValues elevationParents
    fanoutEnabled := fanout.enabled
    fanoutSeverity := fanout.severity
    fanoutCount := toUint64 undefined (.finite fanoutCount)
    fanoutWindowNs := milliseconds undefined fanoutWindow
    shortLivedEnabled := shortLived.enabled
    shortLivedSeverity := shortLived.severity
    shortLivedCount := toUint64 undefined (.finite shortCount)
    shortLivedMaxNs := milliseconds undefined shortMax
    shortLivedWindowNs := milliseconds undefined shortWindow }

/-! ### Findings on a process -/

def makeFinding (ruleId severity rulesetVersion : Text)
    (node : ProcessNode) (parent : Option ProcessNode) (summary interpretation : String) :
    Except Text ProcessFinding := do
  return {
    kind
    severity := ← severityFromString severity
    ruleId
    rulesetVersion
    observedAtNs := node.startedAtNs
    process := node.key
    parent := node.parent
    processImage := node.executablePath
    parentImage := parent.elim [] ProcessNode.executablePath
    commandLine := node.commandLine
    summary := summary.toList
    interpretation := interpretation.toList }

def detect (condition : Bool) (finding : Except Text ProcessFinding) :
    Except Text (List ProcessFinding) :=
  if condition then finding.map fun f => [f] else .ok []

def shellSpawned (shells parents : List Text) (node : ProcessNode) (parent : Option ProcessNode) :
    Bool :=
  containsName shells node && parent.any fun p => !containsName parents p

/-- An elevated child of a parent that is not elevated and not expected. -/
def elevationGained (parents : List Text) (node : ProcessNode) (parent : Option ProcessNode) :
    Bool :=
  node.elevated = some true && parent.any fun p => p.elevated = some false && !containsName parents p

def customFinding (rulesetVersion : Text) (node : ProcessNode) (parent : Option ProcessNode)
    (rule : RuleDefinition) : Except Text (List ProcessFinding) :=
  if rule.enabled = false then .ok []
  else if rule.engineRuleId = "PROC-001" then do
    let prefixes ← rule.stringList "path_prefixes"
    let substrings ← rule.stringList "path_substrings"
    detect (pathMatches node.executablePath (normalizedValues prefixes)
        (normalizedValues substrings))
      (makeFinding .execFromTransientPath rule.id rule.severity rulesetVersion node parent
        "Executable matched a custom transient-path rule."
        "A centrally managed custom transient-path detection matched this process.")
  else if rule.engineRuleId = "PROC-002" then do
    let shells ← rule.stringList "shell_names"
    let parents ← rule.stringList "expected_parent_names"
    detect (shellSpawned (normalizedValues shells) (normalizedValues parents) node parent)
      (makeFinding .shellFromUnexpectedParent rule.id rule.severity rulesetVersion node parent
        "A shell matched a custom unexpected-parent rule."
        "A centrally managed custom shell parent-child detection matched this process.")
  else if rule.engineRuleId = "PROC-003" then do
    let expected ← rule.stringList "expected_parent_names"
    detect (elevationGained (normalizedValues expected) node parent)
      (makeFinding .unexpectedElevation rule.id rule.severity rulesetVersion node parent
        "A privilege transition matched a custom elevation rule."
        "A centrally managed custom privilege-boundary detection matched this process.")
  else .ok []

def customFindings (rulesetVersion : Text) (node : ProcessNode) (parent : Option ProcessNode) :
    List RuleDefinition → Except Text (List ProcessFinding)
  | [] => .ok []
  | rule :: rules => do
    let found ← customFinding rulesetVersion node parent rule
    return found ++ (← customFindings rulesetVersion node parent rules)

def evaluateNode (config : ProcessFindingConfig) (custom : List RuleDefinition)
    (node : ProcessNode) (nodes : List ProcessNode) : Except Text (List ProcessFinding) := do
  let parent := node.parent.bind (findProcessNode nodes)
  let transient ← detect (config.transientPathEnabled && pathMatches node.executablePath
      config.transientPathPrefixes config.transientPathSubstrings)
    (makeFinding .execFromTransientPath "PROC-001" config.transientPathSeverity
      config.rulesetVersion node parent
      "Executable started from a transient filesystem location."
      ("Execution from a transient location is compatible with staged or temporary tooling; " ++
        "malicious intent is not established."))
  let shell ← detect (config.unexpectedShellEnabled && shellSpawned config.shellNames
      config.expectedShellParentNames node parent)
    (makeFinding .shellFromUnexpectedParent "PROC-002" config.unexpectedShellSeverity
      config.rulesetVersion node parent
      ("A shell was spawned by a process not classified as an expected interactive shell " ++
        "parent.")
      ("This parent-child relationship resembles shell-spawn behavior worth investigation; " ++
        "exploitation is not established."))
  let elevation ← detect (config.unexpectedElevationEnabled && elevationGained
      config.expectedElevationParentNames node parent)
    (makeFinding .unexpectedElevation "PROC-003" config.unexpectedElevationSeverity
      config.rulesetVersion node parent
      "A child process is elevated while its observed parent is not elevated."
      ("A privilege-boundary transition was observed. It may be legitimate administrative " ++
        "activity; malicious intent is not established."))
  return transient ++ shell ++ elevation ++
    (← customFindings config.rulesetVersion node parent custom)

/-! ### The engine -/

/-- The maps give nothing, or an empty window, for a key that they do not have. -/
structure Engine where
  config : ProcessFindingConfig
  customProcessRules : List RuleDefinition
  starts : ProcessInstanceKey → Option ℕ := fun _ => none
  childStarts : ProcessInstanceKey → List ℕ := fun _ => []
  shortExits : ProcessInstanceKey → List ℕ := fun _ => []
  customChildStarts : Text → ProcessInstanceKey → List ℕ := fun _ _ => []
  customShortExits : Text → ProcessInstanceKey → List ℕ := fun _ _ => []

def Engine.build (rules : RuleSet) : Except Text Engine := do
  return {
    config := ← configFromRules undefined rules
    customProcessRules := rules.definitions.filter fun d =>
      d.id ≠ d.engineRuleId && d.category = "process" }

abbrev EngineM := SqlM Engine Text

def ofExcept {α : Type} : Except Text α → EngineM α
  | .ok a => pure a
  | .error e => throwing e

/-- `evaluate_snapshot`, over the nodes that are left. -/
def evaluateNodes (config : ProcessFindingConfig) (custom : List RuleDefinition)
    (nodes : List ProcessNode) : List ProcessNode → Except Text (List ProcessFinding)
  | [] => .ok []
  | node :: rest => do
    let found ← evaluateNode config custom node nodes
    return found ++ (← evaluateNodes config custom nodes rest)

def Engine.evaluateSnapshot (e : Engine) (nodes : List ProcessNode) :
    Except Text (List ProcessFinding) :=
  evaluateNodes e.config e.customProcessRules nodes nodes

def trimBefore (values : List ℕ) (now window : ℕ) : List ℕ :=
  values.dropWhile (· < now - window)

def slide (values : List ℕ) (now window : ℕ) : List ℕ := trimBefore values now window ++ [now]

def hasCustomShortLived (rules : List RuleDefinition) : Bool :=
  rules.any fun rule => rule.enabled && rule.engineRuleId = "PROC-005"

/-- A finding about the parent, made at the time of the event. -/
def aboutParent (ruleId severity rulesetVersion : Text)
    (event : ProcessExecEvent) (nodes : List ProcessNode) (parent : ProcessInstanceKey)
    (summary interpretation : String) : Except Text (List ProcessFinding) :=
  match findProcessNode nodes parent with
  | none => .ok []
  | some node =>
    (makeFinding kind ruleId severity rulesetVersion node
      (node.parent.bind (findProcessNode nodes)) summary interpretation).map
      fun f => [{ f with observedAtNs := event.timestampNs }]

/-- The finding, when the window holds as many entries as the rule counts. -/
def whenReached (window : List ℕ) (count : ℕ) (findings : Except Text (List ProcessFinding)) :
    EngineM (List ProcessFinding) :=
  if window.length = count then ofExcept findings else pure []

section Observing
variable (undefined : Conversion) (event : ProcessExecEvent) (nodes : List ProcessNode)
  (duration : ℕ) (parent : ProcessInstanceKey) (rule : RuleDefinition) (node : ProcessNode)

def fanout : EngineM (List ProcessFinding) := do
  let s ← state
  if s.config.fanoutEnabled = false then return []
  else
    let window := slide (s.childStarts parent) event.timestampNs s.config.fanoutWindowNs
    assign fun s => { s with childStarts := Function.update s.childStarts parent window }
    whenReached window s.config.fanoutCount
      (aboutParent .rapidChildFanout "PROC-004" s.config.fanoutSeverity
        s.config.rulesetVersion event nodes parent
        "A process spawned many child processes within a short window."
        ("Rapid child-process fan-out can resemble scripted or automated execution; malicious " ++
          "intent is not established."))

def customFanout : EngineM (List ProcessFinding) := do
  let s ← state
  if rule.enabled = false ∨ rule.engineRuleId ≠ "PROC-004" then return []
  else
    let windowMs ← ofExcept (rule.numeric "window_ms")
    let count ← ofExcept (rule.numeric "child_count")
    let window := slide (s.customChildStarts rule.id parent) event.timestampNs
      (milliseconds undefined windowMs)
    assign fun s => { s with
      customChildStarts := Function.update s.customChildStarts rule.id
        (Function.update (s.customChildStarts rule.id) parent window) }
    whenReached window (toUint64 undefined (.finite count))
      (aboutParent .rapidChildFanout rule.id rule.severity s.config.rulesetVersion event nodes
        parent "A process matched a custom rapid child fan-out rule."
        "A centrally managed custom fan-out detection matched this process.")

def burst : EngineM (List ProcessFinding) := do
  let s ← state
  if s.config.shortLivedEnabled = false ∨ s.config.shortLivedMaxNs < duration then return []
  else
    let window := slide (s.shortExits parent) event.timestampNs s.config.shortLivedWindowNs
    assign fun s => { s with shortExits := Function.update s.shortExits parent window }
    whenReached window s.config.shortLivedCount
      (aboutParent .shortLivedProcessBurst "PROC-005" s.config.shortLivedSeverity
        s.config.rulesetVersion event nodes parent
        "A process produced a burst of short-lived child processes."
        ("A short-lived process burst can resemble scripted execution or repeated helper " ++
          "invocation; malicious intent is not established."))

def customBurst : EngineM (List ProcessFinding) := do
  let s ← state
  if rule.enabled = false ∨ rule.engineRuleId ≠ "PROC-005" then return []
  else
    let maxLifetime ← ofExcept (rule.numeric "max_lifetime_ms")
    if milliseconds undefined maxLifetime < duration then return []
    else
      let windowMs ← ofExcept (rule.numeric "window_ms")
      let count ← ofExcept (rule.numeric "child_count")
      let window := slide (s.customShortExits rule.id parent) event.timestampNs
        (milliseconds undefined windowMs)
      assign fun s => { s with
        customShortExits := Function.update s.customShortExits rule.id
          (Function.update (s.customShortExits rule.id) parent window) }
      whenReached window (toUint64 undefined (.finite count))
        (aboutParent .shortLivedProcessBurst rule.id rule.severity s.config.rulesetVersion event
          nodes parent "A process matched a custom short-lived child burst rule."
          "A centrally managed custom short-lived-process detection matched this process.")

def eachRule (f : RuleDefinition → EngineM (List ProcessFinding)) :
    List RuleDefinition → EngineM (List ProcessFinding)
  | [] => pure []
  | rule :: rules => do
    let found ← f rule
    return found ++ (← eachRule f rules)

def observeStart : EngineM (List ProcessFinding) := do
  let s ← state
  if s.config.shortLivedEnabled || hasCustomShortLived s.customProcessRules then
    assign fun s => { s with
      starts := Function.update s.starts node.key (some event.timestampNs) }
  let static ← ofExcept (evaluateNode s.config s.customProcessRules node nodes)
  match node.parent with
  | none => return static
  | some parent =>
    let children ← fanout event nodes parent
    let custom ← eachRule (customFanout undefined event nodes parent) s.customProcessRules
    return static ++ children ++ custom

def observeExit : EngineM (List ProcessFinding) := do
  let s ← state
  match s.starts node.key with
  | none => return []
  | some started =>
    let duration := event.timestampNs - started
    assign fun s => { s with starts := Function.update s.starts node.key none }
    match node.parent with
    | none => return []
    | some parent =>
      let exits ← burst event nodes duration parent
      let custom ← eachRule (customBurst undefined event nodes duration parent)
        s.customProcessRules
      return exits ++ custom

/-- `ProcessFindingEngine::observe`, on the snapshot of the graph. -/
def observe : EngineM (List ProcessFinding) :=
  match nodeForEvent event nodes with
  | none => pure []
  | some node =>
    match event.type with
    | .start => observeStart undefined event nodes node
    | .exit => observeExit undefined event nodes node

end Observing

/-! ### What the rules must have -/

/-- The severity of the rule and the parameters that its engine reads. -/
structure UsableRule (d : RuleDefinition) : Prop where
  severity : Reads (severityFromString d.severity)
  transient : d.engineRuleId = "PROC-001" →
    Reads (d.stringList "path_prefixes") ∧ Reads (d.stringList "path_substrings")
  shell : d.engineRuleId = "PROC-002" →
    Reads (d.stringList "shell_names") ∧ Reads (d.stringList "expected_parent_names")
  elevation : d.engineRuleId = "PROC-003" →
    Reads (d.stringList "expected_parent_names")
  fanout : d.engineRuleId = "PROC-004" →
    Reads (d.numeric "window_ms") ∧ Reads (d.numeric "child_count")
  burst : d.engineRuleId = "PROC-005" →
    Reads (d.numeric "max_lifetime_ms") ∧ Reads (d.numeric "window_ms") ∧
      Reads (d.numeric "child_count")

structure Usable (config : ProcessFindingConfig) (custom : List RuleDefinition) : Prop where
  transient : Reads (severityFromString config.transientPathSeverity)
  shell : Reads (severityFromString config.unexpectedShellSeverity)
  elevation : Reads (severityFromString config.unexpectedElevationSeverity)
  fanout : Reads (severityFromString config.fanoutSeverity)
  burst : Reads (severityFromString config.shortLivedSeverity)
  rules : ∀ d ∈ custom, UsableRule d

def About (f : ProcessFinding) : Prop := ∃ n ∈ nodes, n.key = f.process

/-- The findings, if any are made, are about the nodes, and they are made if `usable` holds. -/
def Makes (usable : Prop) (r : Except Text (List ProcessFinding)) : Prop :=
  (∀ fs, r = .ok fs → ∀ f ∈ fs, About nodes f) ∧ (usable → Reads r)

section Findings
variable {nodes : List ProcessNode} {node : ProcessNode} {parent : Option ProcessNode}
  {usable : Prop} {kind : ProcessFindingKind} {ruleId severity version : Text}
  {summary interpretation : String}

lemma makes_bind {α : Type} {r : Except Text α} {k : α → Except Text (List ProcessFinding)}
    (hr : usable → Reads r) (hk : ∀ a, Makes nodes usable (k a)) :
    Makes nodes usable (r >>= k) := by
  cases r with
  | error e =>
    refine ⟨fun fs h => (by cases h), fun hu => ?_⟩
    obtain ⟨a, ha⟩ := hr hu
    cases ha
  | ok a => exact hk a

variable {fs gs : List ProcessFinding}

lemma makes_ok (h : ∀ f ∈ fs, About nodes f) : Makes nodes usable (.ok fs) :=
  ⟨fun _ heq => Except.ok.inj heq ▸ h, fun _ => ⟨fs, rfl⟩⟩

lemma makes_then {r : Except Text (List ProcessFinding)}
    {k : List ProcessFinding → Except Text (List ProcessFinding)} (h : Makes nodes usable r)
    (hk : ∀ fs, (∀ f ∈ fs, About nodes f) → Makes nodes usable (k fs)) :
    Makes nodes usable (r >>= k) := by
  cases r with
  | error e => exact ⟨fun fs h => (by cases h), fun hu => (h.2 hu).elim fun a ha => by cases ha⟩
  | ok fs => exact hk fs (h.1 fs rfl)

lemma makes_nil : Makes nodes usable (.ok []) := makes_ok fun _ hf => absurd hf not_mem_nil

lemma about_append (h : ∀ f ∈ fs, About nodes f)
    (h' : ∀ f ∈ gs, About nodes f) : ∀ f ∈ fs ++ gs, About nodes f := forall_mem_append.mpr ⟨h, h'⟩

/-- What `make_finding` returns is about its node. -/
lemma makeFinding_process {f : ProcessFinding}
    (h : makeFinding kind ruleId severity version node parent summary interpretation = .ok f) :
    f.process = node.key := by
  obtain ⟨_, -, h⟩ := bind_eq_ok h
  cases h
  rfl

lemma makeFinding_error {e : Text}
    (h : makeFinding kind ruleId severity version node parent summary interpretation = .error e) :
    ¬ Reads (severityFromString severity) := by
  rintro ⟨s, hs⟩
  unfold makeFinding at h
  rw [hs] at h
  cases h

section

variable (hnode : node ∈ nodes)
include hnode

lemma makes_finding (hs : usable → Reads (severityFromString severity))
    {g : ProcessFinding → ProcessFinding} (hg : ∀ f, (g f).process = f.process) :
    Makes nodes usable ((makeFinding kind ruleId severity version node parent summary
      interpretation).map fun f => [g f]) := by
  cases hf : makeFinding kind ruleId severity version node parent summary interpretation with
  | error e => exact ⟨fun fs h => (by cases h), fun hu => absurd (hs hu) (makeFinding_error hf)⟩
  | ok f =>
    refine makes_ok fun f' hf' => ?_
    rw [mem_singleton.mp hf']
    exact ⟨node, hnode, ((hg f).trans (makeFinding_process hf)).symm⟩

lemma makes_detect (hs : usable → Reads (severityFromString severity))
    (condition : Bool) : Makes nodes usable (detect condition
      (makeFinding kind ruleId severity version node parent summary interpretation)) := by
  unfold detect
  split
  · exact makes_finding hnode hs fun _ => rfl
  · exact makes_nil

lemma makes_customFinding {rule : RuleDefinition}
    (hrule : usable → UsableRule rule) :
    Makes nodes usable (customFinding version node parent rule) := by
  unfold customFinding
  split
  · exact makes_nil
  split
  · next he =>
    exact makes_bind (fun hu => ((hrule hu).transient he).1) fun _ =>
      makes_bind (fun hu => ((hrule hu).transient he).2) fun _ =>
        makes_detect hnode (fun hu => (hrule hu).severity) _
  split
  · next he =>
    exact makes_bind (fun hu => ((hrule hu).shell he).1) fun _ =>
      makes_bind (fun hu => ((hrule hu).shell he).2) fun _ =>
        makes_detect hnode (fun hu => (hrule hu).severity) _
  split
  · next he =>
    exact makes_bind (fun hu => (hrule hu).elevation he) fun _ =>
      makes_detect hnode (fun hu => (hrule hu).severity) _
  · exact makes_nil

lemma makes_customFindings {rules : List RuleDefinition}
    (hrules : usable → ∀ d ∈ rules, UsableRule d) :
    Makes nodes usable (customFindings version node parent rules) := by
  induction rules with
  | nil => exact makes_nil
  | cons rule rules ih =>
    refine makes_then (makes_customFinding hnode fun hu => hrules hu rule mem_cons_self)
      fun fs hfs => ?_
    refine makes_then (ih fun hu d hd => hrules hu d (mem_cons_of_mem rule hd))
      fun gs hgs => ?_
    exact makes_ok (about_append hfs hgs)

end

lemma makes_aboutParent (event : ProcessExecEvent) (key : ProcessInstanceKey)
    (hs : usable → Reads (severityFromString severity)) : Makes nodes usable
      (aboutParent kind ruleId severity version event nodes key summary interpretation) := by
  unfold aboutParent
  cases hn : findProcessNode nodes key with
  | none => exact makes_nil
  | some n => exact makes_finding (mem_of_findProcessNode hn) hs fun _ => rfl

end Findings

section Evaluation
variable {nodes : List ProcessNode} {node : ProcessNode} {config : ProcessFindingConfig}
  {custom : List RuleDefinition}

/-- **The findings on a process** are about it, and they are made where the rules are usable. -/
lemma makes_evaluateNode (hnode : node ∈ nodes) :
    Makes nodes (Usable config custom) (evaluateNode config custom node nodes) := by
  refine makes_then (makes_detect hnode (fun hu => hu.transient) _) fun transient htransient => ?_
  refine makes_then (makes_detect hnode (fun hu => hu.shell) _) fun shell hshell => ?_
  refine makes_then (makes_detect hnode (fun hu => hu.elevation) _) fun elevation helevation => ?_
  refine makes_then (makes_customFindings hnode fun hu => hu.rules) fun others hothers => ?_
  exact makes_ok (about_append (about_append (about_append htransient hshell) helevation) hothers)

lemma makes_evaluateNodes {rest : List ProcessNode} (hrest : ∀ n ∈ rest, n ∈ nodes) :
    Makes nodes (Usable config custom) (evaluateNodes config custom nodes rest) := by
  induction rest with
  | nil => exact makes_nil
  | cons n rest ih =>
    refine makes_then (makes_evaluateNode (hrest n mem_cons_self)) fun fs hfs => ?_
    refine makes_then (ih fun m hm => hrest m (mem_cons_of_mem n hm)) fun gs hgs => ?_
    exact makes_ok (about_append hfs hgs)

/-! ### What a call of the engine does -/

def HasRules (config : ProcessFindingConfig) (custom : List RuleDefinition) (e : Engine) : Prop :=
  e.config = config ∧ e.customProcessRules = custom

/-- The program keeps the rules, makes findings about the nodes, and throws only where the rules
are not usable. -/
def Observes (config : ProcessFindingConfig) (custom : List RuleDefinition)
    (nodes : List ProcessNode) (m : EngineM (List ProcessFinding)) : Prop :=
  Triple (fun _ => True) (HasRules config custom) m
    (fun fs e => HasRules config custom e ∧ ∀ f ∈ fs, About nodes f)
    fun _ _ => ¬ Usable config custom

variable {event : ProcessExecEvent} {undefined : Conversion}

lemma observes_pure {fs : List ProcessFinding} (h : ∀ f ∈ fs, About nodes f) :
    Observes config custom nodes (pure fs) := pure fun _ hd => ⟨hd, h⟩

lemma observes_nil : Observes config custom nodes (pure []) :=
  observes_pure fun _ hf => absurd hf not_mem_nil

variable {r : Except Text (List ProcessFinding)}

lemma observes_ofExcept
    (h : Makes nodes (Usable config custom) r) : Observes config custom nodes (ofExcept r) := by
  cases r with
  | ok fs => exact observes_pure (h.1 fs rfl)
  | error e =>
    refine throwing fun _ _ hu => ?_
    obtain ⟨fs, hfs⟩ := h.2 hu
    cases hfs

lemma observes_parameter {α : Type} {r : Except Text α} {k : α → EngineM (List ProcessFinding)}
    (hr : Usable config custom → Reads r) (hk : ∀ a, Observes config custom nodes (k a)) :
    Observes config custom nodes (ofExcept r >>= k) := by
  cases r with
  | ok a =>
    refine bind (Q := fun _ => HasRules config custom) (pure fun _ hd => hd) fun b => ?_
    exact hk b
  | error e =>
    refine bind (Q := fun _ => HasRules config custom) (throwing fun _ _ hu => ?_) hk
    obtain ⟨a, ha⟩ := hr hu
    cases ha

lemma observes_state {k : Engine → EngineM (List ProcessFinding)}
    (hk : ∀ s, HasRules config custom s → Observes config custom nodes (k s)) :
    Observes config custom nodes (state >>= k) :=
  bind (Q := fun s d => HasRules config custom s ∧ HasRules config custom d)
    (state fun _ hd => ⟨hd, hd⟩) fun s => start fun _ hd => (hk s hd.1).here hd.2

variable {m : EngineM (List ProcessFinding)}

lemma observes_assign {f : Engine → Engine}
    (hf : ∀ s, (f s).config = s.config ∧ (f s).customProcessRules = s.customProcessRules)
    (hm : Observes config custom nodes m) :
    Observes config custom nodes (assign f >>= fun _ => m) :=
  bind (Q := fun _ => HasRules config custom)
    (assign fun d hd => ⟨(hf d).1.trans hd.1, (hf d).2.trans hd.2⟩) fun _ => hm

lemma observes_bind {k : List ProcessFinding → EngineM (List ProcessFinding)}
    (hm : Observes config custom nodes m)
    (hk : ∀ fs, (∀ f ∈ fs, About nodes f) → Observes config custom nodes (k fs)) :
    Observes config custom nodes (m >>= k) :=
  bind hm fun fs => start fun _ hd => (hk fs hd.2).here hd.1

lemma observes_whenReached {window : List ℕ} {count : ℕ}
    (h : Makes nodes (Usable config custom) r) :
    Observes config custom nodes (whenReached window count r) := by
  unfold whenReached
  split
  · exact observes_ofExcept h
  · exact observes_nil

variable (duration : ℕ) (parent : ProcessInstanceKey)

lemma observes_fanout : Observes config custom nodes (fanout event nodes parent) := by
  refine observes_state fun s hs => ?_
  split
  · exact observes_nil
  · refine observes_assign (fun _ => ⟨rfl, rfl⟩) (observes_whenReached ?_)
    rw [hs.1]
    exact makes_aboutParent event parent fun hu => hu.fanout

lemma observes_burst : Observes config custom nodes (burst event nodes duration parent) := by
  refine observes_state fun s hs => ?_
  split
  · exact observes_nil
  · refine observes_assign (fun _ => ⟨rfl, rfl⟩) (observes_whenReached ?_)
    rw [hs.1]
    exact makes_aboutParent event parent fun hu => hu.burst

lemma observes_customFanout {rule : RuleDefinition} (hrule : rule ∈ custom) :
    Observes config custom nodes (customFanout undefined event nodes parent rule) := by
  refine observes_state fun s hs => ?_
  split
  · exact observes_nil
  · next hengine =>
    rw [not_or, not_not] at hengine
    refine observes_parameter (fun hu => ((hu.rules rule hrule).fanout hengine.2).1) fun _ => ?_
    refine observes_parameter (fun hu => ((hu.rules rule hrule).fanout hengine.2).2) fun _ => ?_
    refine observes_assign (fun _ => ⟨rfl, rfl⟩) (observes_whenReached ?_)
    exact makes_aboutParent event parent fun hu => (hu.rules rule hrule).severity

lemma observes_customBurst {rule : RuleDefinition} (hrule : rule ∈ custom) :
    Observes config custom nodes (customBurst undefined event nodes duration parent rule) := by
  refine observes_state fun s hs => ?_
  split
  · exact observes_nil
  · next hengine =>
    rw [not_or, not_not] at hengine
    refine observes_parameter (fun hu => ((hu.rules rule hrule).burst hengine.2).1) fun _ => ?_
    split
    · exact observes_nil
    refine observes_parameter (fun hu => ((hu.rules rule hrule).burst hengine.2).2.1) fun _ => ?_
    refine observes_parameter (fun hu => ((hu.rules rule hrule).burst hengine.2).2.2) fun _ => ?_
    refine observes_assign (fun _ => ⟨rfl, rfl⟩) (observes_whenReached ?_)
    exact makes_aboutParent event parent fun hu => (hu.rules rule hrule).severity

lemma observes_eachRule {f : RuleDefinition → EngineM (List ProcessFinding)}
    {rules : List RuleDefinition} (h : ∀ rule ∈ rules, Observes config custom nodes (f rule)) :
    Observes config custom nodes (eachRule f rules) := by
  induction rules with
  | nil => exact observes_nil
  | cons rule rules ih =>
    refine observes_bind (h rule mem_cons_self) fun fs hfs => ?_
    refine observes_bind (ih fun r hr => h r (mem_cons_of_mem rule hr)) fun gs hgs => ?_
    exact observes_pure (about_append hfs hgs)

lemma observes_observeStart (hnode : node ∈ nodes) :
    Observes config custom nodes (observeStart undefined event nodes node) := by
  refine observes_state fun s hs => ?_
  have hrest : Observes config custom nodes (do
      let static ← ofExcept (evaluateNode s.config s.customProcessRules node nodes)
      match node.parent with
      | none => return static
      | some parent =>
        let children ← fanout event nodes parent
        let custom ← eachRule (customFanout undefined event nodes parent) s.customProcessRules
        return static ++ children ++ custom) := by
    rw [hs.1, hs.2]
    refine observes_bind (observes_ofExcept (makes_evaluateNode hnode)) fun static hstatic => ?_
    split
    · exact observes_pure hstatic
    · next parent _ =>
      refine observes_bind (observes_fanout parent) fun children hchildren => ?_
      refine observes_bind (observes_eachRule fun rule hrule => observes_customFanout parent hrule)
        fun others hothers => ?_
      exact observes_pure (about_append (about_append hstatic hchildren) hothers)
  by_cases hshort : (s.config.shortLivedEnabled || hasCustomShortLived s.customProcessRules) = true
  · simp only [hshort, if_true]
    exact observes_assign (fun _ => ⟨rfl, rfl⟩) hrest
  · simp only [hshort]
    exact hrest

lemma observes_observeExit :
    Observes config custom nodes (observeExit undefined event nodes node) := by
  refine observes_state fun s hs => ?_
  split
  · exact observes_nil
  · refine observes_assign (fun _ => ⟨rfl, rfl⟩) ?_
    split
    · exact observes_nil
    · next started _ parent _ =>
      rw [hs.2]
      refine observes_bind (observes_burst _ parent) fun exits hexits => ?_
      refine observes_bind (observes_eachRule fun rule hrule =>
        observes_customBurst _ parent hrule) fun others hothers => ?_
      exact observes_pure (about_append hexits hothers)

/-- **What `observe` does**: its findings are about nodes of the snapshot, its rules stay, and it
throws only where they are not usable. -/
theorem observes_observe : Observes config custom nodes (observe undefined event nodes) := by
  unfold observe
  cases hn : nodeForEvent event nodes with
  | none => exact observes_nil
  | some n =>
    simp only
    split
    · exact observes_observeStart (mem_of_nodeForEvent hn)
    · exact observes_observeExit

/-- The engine observes the events one after the other, each on its own snapshot. -/
def observeAll (undefined : Conversion) :
    List (ProcessExecEvent × List ProcessNode) → EngineM (List (List ProcessFinding))
  | [] => pure []
  | call :: calls => do
    let found ← observe undefined call.1 call.2
    return found :: (← observeAll undefined calls)

end Evaluation

end NetaAgent.Processes
