import NetaAgent.RuleCanonical
import NetaAgent.RuleConvergence

/-!
What the service does with the coordinator's answer to `AgentHello` and `Heartbeat`.

The answer carries two controls: an upgrade instruction and the rules that the endpoint should run.
The instruction is accepted inside the call that sends the message, so an instruction that is
rejected throws away the whole answer: the rules are not looked at, and an upgrade that is stored
already is not launched.
-/

namespace NetaAgent.FleetService

open Decimal RuleJson Upgrade Verdict RuleConvergence Except List

/-- The files of the state directory that the answer is about. -/
structure Node where
  upgrade : Files
  /-- `installed-build.conf`. -/
  conf : Option Text
  rules : RuleFiles

/-- The agent, and what its environment decides while an answer is handled. -/
structure ServiceEnv where
  machine : Machine
  stateDir : Text
  compiled : BuildIdentity
  accept : Env
  convergence : ConvergenceEnv
  launch : LaunchEnv

inductive Message where
  | agentHello
  | heartbeat

inductive Line where
  | out (text : Text)
  | err (text : Text)
  deriving DecidableEq

/-- What was printed, and which detached workers were launched. -/
structure Handled where
  lines : List Line
  ruleWorker : Bool
  upgradeWorker : Bool

def Handled.workers (h : Handled) : Bool × Bool := (h.ruleWorker, h.upgradeWorker)

section
variable (env : ServiceEnv) (node : Node)

def acceptUpgradeResponse (response : Text) : Except Text Text × Node :=
  let r := acceptUpgradeFromCoordinatorResponse env.accept
    (currentBuildIdentity env.compiled node.conf) node.upgrade response
  (r.1.map fun _ => response, { node with upgrade := r.2 })

/-- `send_agent_hello` and `send_heartbeat`, with what `send_payload` returns or throws. -/
def send (reply : Except Text Text) : Except Text Text × Node :=
  match reply with
  | .error e => (.error e, node)
  | .ok response => acceptUpgradeResponse env node response

def acceptRuleControl (response : Text) : Bool × List Line × Node :=
  let r := acceptRuleControlFromCoordinatorResponse env.machine env.stateDir env.convergence
    node.rules response
  let node := { node with rules := r.2 }
  match r.1 with
  | .ok true =>
    (true, [.out "Fleet service: detached rule-update worker launched".toList], node)
  | .ok false => (false, [], node)
  | .error e =>
    (false, [.err ("Fleet service rule convergence failed; observation continues: ".toList ++ e)],
      node)

def maybeLaunchUpgrade : Bool × List Line :=
  match launchUpgradeWorkerIfNeeded env.launch node.upgrade with
  | .ok true => (true, [.out "Fleet service: detached upgrade worker launched".toList])
  | .ok false => (false, [])
  | .error e =>
    (false, [.err ("Fleet service upgrade launch failed; observation continues: ".toList ++ e)])

def accepted : Message → Text
  | .agentHello => "Fleet service: AgentHello accepted".toList
  | .heartbeat => "Fleet service: heartbeat accepted".toList

def failed : Message → Text
  | .agentHello => "Fleet service AgentHello failed; observation continues: ".toList
  | .heartbeat => "Fleet service heartbeat failed; observation continues: ".toList

/-- The `try` block of the callbacks `started` and `periodic`, with its handler. -/
def exchange (message : Message) (node : Node) (reply : Except Text Text) : Handled × Node :=
  match send env node reply with
  | (.error e, node) => (⟨[.err (failed message ++ e)], false, false⟩, node)
  | (.ok response, node) =>
    let rules := acceptRuleControl env node response
    let launch := maybeLaunchUpgrade env rules.2.2
    (⟨.out (accepted message) :: (rules.2.1 ++ launch.2), rules.1, launch.1⟩, rules.2.2)

end

/-! ### When a worker is launched -/

section
variable {env : ServiceEnv} {node : Node}

/-- The answer asks for a bundle that is not the active one, or for the active one again, no worker
was launched for it in the last ten minutes, and one can be launched. -/
def RuleWorkDue (env : ServiceEnv) (f : RuleFiles) (response : Text) : Prop :=
  ∃ decision active,
    parseRuleControlResponse env.machine.undefined response = .ok decision ∧
    decision.present = true ∧
    activeRuleBundleState env.machine env.stateDir env.convergence.activeUnreadable f = .ok active ∧
    (activeSha active ≠ decision.desiredSha256 ∨ decision.refreshRequested = true) ∧
    markerRecent env.convergence f decision.desiredSha256 = false ∧
    env.convergence.write = .done ∧ env.convergence.launch = none

/-- An upgrade is stored that has not failed and that no activation record claims, and its worker
can be launched. -/
def UpgradeWorkDue (env : ServiceEnv) (f : Files) : Prop :=
  ∃ s, load env.launch.unreadable f = .ok (some s) ∧ s.state ≠ .failed ∧
    unclaimed env.launch.activationUnreadable f s.instruction.upgradeId = .ok true ∧
    env.launch.starts = true

variable {c : ConvergenceEnv} {f : RuleFiles}

lemma converge_iff {decision : RuleControlDecision} {active : ActiveRuleBundleState} :
    (converge c decision active f).1 = .ok true ↔
      (activeSha active ≠ decision.desiredSha256 ∨ decision.refreshRequested = true) ∧
        markerRecent c f decision.desiredSha256 = false ∧ c.write = .done ∧ c.launch = none := by
  unfold converge
  by_cases hdrift : activeSha active = decision.desiredSha256
  · cases hrefresh : decision.refreshRequested with
    | false => simp [hdrift]
    | true => simp [hdrift, launchWorker_iff]
  · simp [hdrift, launchWorker_iff]

lemma ruleControl_iff {response : Text} :
    (acceptRuleControl env node response).1 = true ↔ RuleWorkDue env node.rules response := by
  have hlaunched : (acceptRuleControl env node response).1 = true ↔
      (acceptRuleControlFromCoordinatorResponse env.machine env.stateDir env.convergence node.rules
        response).1 = .ok true := by
    unfold acceptRuleControl
    dsimp only
    split
    · next h => simp [h]
    · next h => simp [h]
    · next h => simp [h]
  rw [hlaunched]
  unfold acceptRuleControlFromCoordinatorResponse RuleWorkDue
  cases hdecision : parseRuleControlResponse env.machine.undefined response with
  | error => simp
  | ok decision =>
    cases hpresent : decision.present with
    | false => simp [hpresent]
    | true =>
      cases hactive : activeRuleBundleState env.machine env.stateDir
          env.convergence.activeUnreadable node.rules with
      | error => simp [hpresent]
      | ok => simp [hpresent, converge_iff]

lemma launch_iff : (maybeLaunchUpgrade env node).1 = true ↔ UpgradeWorkDue env node.upgrade := by
  have hlaunched : (maybeLaunchUpgrade env node).1 = true ↔
      launchUpgradeWorkerIfNeeded env.launch node.upgrade = .ok true := by
    unfold maybeLaunchUpgrade
    split
    · next h => simp [h]
    · next h => simp [h]
    · next h => simp [h]
  rw [hlaunched]
  unfold launchUpgradeWorkerIfNeeded pendingInstruction UpgradeWorkDue
  cases hload : load env.launch.unreadable node.upgrade with
  | error => simp [Except.map, bind, Except.bind]
  | ok loaded =>
    cases loaded with
    | none => simp [Except.map, bind, Except.bind, pure, Except.pure]
    | some state =>
      by_cases hfailed : state.state = .failed
      · simp [Except.map, bind, Except.bind, pure, Except.pure, hfailed]
      · cases hfree : unclaimed env.launch.activationUnreadable node.upgrade
            state.instruction.upgradeId with
        | error => simp [Except.map, bind, Except.bind, hfailed, hfree]
        | ok => simp [Except.map, bind, Except.bind, pure, Except.pure, hfailed, hfree]

end

/-! ### Answers that differ in the upgrade member -/

/-- A member of the answer; nothing if the answer is no JSON object. -/
def member (response key : Text) : Option (Option JsonValue) :=
  (parseRoot response >>= fun root => root.find key).toOption

/-- The two answers differ in nothing but their upgrade members. -/
def SameButUpgrade (response response' : Text) : Prop :=
  ∀ key, key ≠ "upgrade".toList → member response key = member response' key

lemma parseRuleControlResponse_ok_iff {undefined : Conversion} {response : Text}
    {decision : RuleControlDecision} :
    parseRuleControlResponse undefined response = .ok decision ↔
      ∃ control, member response "rules".toList = some control ∧
        control.elim (.ok {}) (readControl undefined) = .ok decision := by
  unfold parseRuleControlResponse member
  generalize "rules".toList = key
  cases hroot : parseRoot response with
  | error => simp [bind, Except.bind, Except.toOption]
  | ok root =>
    cases hfind : root.find key with
    | error => simp [bind, Except.bind, Except.toOption, hfind]
    | ok control =>
      cases control with
      | none => simp [bind, Except.bind, Except.toOption, hfind, pure, Except.pure]
      | some => simp [bind, Except.bind, Except.toOption, hfind]

lemma SameButUpgrade.ruleWorkDue {env : ServiceEnv} {f : RuleFiles} {response response' : Text}
    (h : SameButUpgrade response response') :
    RuleWorkDue env f response ↔ RuleWorkDue env f response' := by
  have hrules : member response "rules".toList = member response' "rules".toList :=
    h _ (by decide +kernel)
  unfold RuleWorkDue
  simp only [parseRuleControlResponse_ok_iff, hrules]

section
variable {env : ServiceEnv} {node : Node} {response : Text}

lemma maybeLaunchUpgrade_acceptRuleControl (env : ServiceEnv) (node : Node) (response : Text) :
    maybeLaunchUpgrade env (acceptRuleControl env node response).2.2 = maybeLaunchUpgrade env node := by
  have hupgrade : (acceptRuleControl env node response).2.2.upgrade = node.upgrade := by
    unfold acceptRuleControl
    dsimp only
    split
    · rfl
    · rfl
    · rfl
  unfold maybeLaunchUpgrade
  rw [hupgrade]

variable (message : Message)

lemma workers_of_no_upgrade
    (h : parseUpgradeInstructionResponse response = .ok none) :
    (exchange env message node (.ok response)).1.workers =
      ((acceptRuleControl env node response).1, (maybeLaunchUpgrade env node).1) := by
  have hsend : send env node (.ok response) = (.ok response, node) := by
    simp only [send, acceptUpgradeResponse, acceptUpgradeFromCoordinatorResponse, h]
    rfl
  unfold exchange Handled.workers
  rw [hsend]
  dsimp only
  rw [maybeLaunchUpgrade_acceptRuleControl]

lemma workers_of_due (h : parseUpgradeInstructionResponse response = .ok none)
    (hrules : RuleWorkDue env node.rules response) (hupgrade : UpgradeWorkDue env node.upgrade) :
    (exchange env message node (.ok response)).1.workers = (true, true) := by
  rw [workers_of_no_upgrade message h, ruleControl_iff.mpr hrules, launch_iff.mpr hupgrade]

lemma handled_of_rejected {e : Text}
    (h : (acceptUpgradeFromCoordinatorResponse env.accept
      (currentBuildIdentity env.compiled node.conf) node.upgrade response).1 = .error e) :
    (exchange env message node (.ok response)).1 = ⟨[.err (failed message ++ e)], false, false⟩ := by
  have hsend : (send env node (.ok response)).1 = .error e := by
    simp only [send, acceptUpgradeResponse, h]
    rfl
  unfold exchange
  rcases hr : send env node (.ok response) with ⟨r, node'⟩
  rw [hr] at hsend
  cases hsend
  rfl

end

/-- **A rejected upgrade.** For two answers to the same message that differ only in their upgrade
members, one without an upgrade and one with an upgrade that is rejected, the same workers are
launched exactly if neither a rule-update worker nor a worker for a stored upgrade is due. -/
theorem rejected_upgrade_same_workers (env : ServiceEnv) (message : Message) (node : Node)
    (response response' e : Text) (hsame : SameButUpgrade response response')
    (hnone : parseUpgradeInstructionResponse response = .ok none)
    (hrejected : (acceptUpgradeFromCoordinatorResponse env.accept
      (currentBuildIdentity env.compiled node.conf) node.upgrade response').1 = .error e) :
    (exchange env message node (.ok response)).1.workers =
        (exchange env message node (.ok response')).1.workers ↔
      ¬ RuleWorkDue env node.rules response' ∧ ¬ UpgradeWorkDue env node.upgrade := by
  rw [workers_of_no_upgrade message hnone, handled_of_rejected message hrejected, Handled.workers,
    Prod.mk.injEq, ← hsame.ruleWorkDue, ← ruleControl_iff, ← launch_iff, Bool.not_eq_true,
    Bool.not_eq_true]

/-! ### An answer with an empty instruction -/

/-- The lines of an answer that asks for another bundle, up to what follows the rule control. -/
def ruleControlLines : List String :=
  ["\x7b\"rules\":\x7b\"desiredRevision\":2,\"fetchRequired\":true,\"desiredSha256\":\"",
    "aaaaaaaaaaaaaaaaaaaaaaaaaaaaaaaaaaaaaaaaaaaaaaaaaaaaaaaaaaaaaaaa\"\x7d"]

def withoutUpgrade : Text := (ruleControlLines ++ ["\x7d"]).flatMap String.toList

def emptyUpgrade : Text :=
  (ruleControlLines ++ [",\"upgrade\":\x7b\x7d\x7d"]).flatMap String.toList

/-- The value with one more member, if it is an object. -/
def addMember (name : Text) (value : JsonValue) : JsonValue → JsonValue
  | .object ms => .object (ms ++ [(name, value)])
  | v => v

lemma find_addMember {name key : Text} (h : key ≠ name) (value root : JsonValue) :
    (addMember name value root).find key = root.find key := by
  cases root with
  | object =>
    simp [addMember, JsonValue.find, JsonValue.asObject, bind, Except.bind, List.find?_append,
      Ne.symm h]
  | null | boolean | number | string | array => rfl

set_option maxRecDepth 100000 in
lemma parse_emptyUpgrade : (parse emptyUpgrade).toOption =
    (parse withoutUpgrade).toOption.map (addMember "upgrade".toList (.object [])) := by
  unfold emptyUpgrade withoutUpgrade ruleControlLines
  simp only [cons_append, nil_append]
  repeat rw [flatMap_literal]
  with_unfolding_all rfl

lemma member_eq (response key : Text) : member response key =
    (parse response).toOption.bind fun root => (root.find key).toOption := by
  unfold member parseRoot
  cases parse response with
  | error | ok => rfl

lemma sameButUpgrade_emptyUpgrade : SameButUpgrade withoutUpgrade emptyUpgrade := by
  intro key hkey
  rw [member_eq, member_eq, parse_emptyUpgrade]
  cases (parse withoutUpgrade).toOption with
  | none => rfl
  | some => rw [Option.map_some, Option.bind_some, Option.bind_some, find_addMember hkey]

def obliging : ServiceEnv where
  machine := sampleMachine
  stateDir := ['/', 's']
  compiled := sampleBuild
  accept := sampleEnv
  convergence := ⟨.linux, none, false, false, 0, .done, 0, true, none⟩
  launch := ⟨none, none, true⟩

/-- Another bundle is active; whether a worker was launched lately and whether an upgrade is stored
is open. -/
def drifted (marker : Option Marker) (current : Option Text) : Node where
  upgrade := ⟨current, none⟩
  conf := none
  rules := ⟨some (sampleDocument ['"', 'a', '"']), marker⟩

def sampleBundle (loaded : Rules.RuleSet) : ActiveRuleBundleState :=
  ⟨activePath ['/', 's'], loaded.revision, loaded.version,
    Crypto.sha256Hex sampleMachine.sha (sampleDocument ['"', 'a', '"']), loaded.definitions.length,
    true⟩

/-- The sample document is a bundle, and not the one under the hash of the answer. -/
lemma loads_sampleDocument : ∃ loaded, Rules.loadText sampleMachine.undefined
    (sampleDocument ['"', 'a', '"']) (activePath ['/', 's']) = .ok loaded ∧
      activeSha (sampleBundle loaded) ≠ replicate 64 'a' := by
  have hloads : (Rules.loadText sampleMachine.undefined (sampleDocument ['"', 'a', '"'])
      (activePath ['/', 's'])).toOption.isSome = true ∧
      Crypto.sha256Hex sampleMachine.sha (sampleDocument ['"', 'a', '"']) =
        (replicate 32 ['d', '7']).flatten := by
    unfold sampleDocument documentHead documentTail
    repeat rw [flatMap_literal]
    decide +kernel
  cases hload : Rules.loadText sampleMachine.undefined (sampleDocument ['"', 'a', '"'])
      (activePath ['/', 's']) with
  | error =>
    rw [hload] at hloads
    cases hloads.1
  | ok loaded =>
    refine ⟨loaded, rfl, ?_⟩
    unfold activeSha sampleBundle
    dsimp only
    rw [hloads.2]
    decide +kernel

def missingId : Text := "upgrade instruction missing upgrade_id".toList

lemma parsed_answers :
    parseRuleControlResponse sampleMachine.undefined withoutUpgrade =
      .ok ⟨true, true, false, 2, replicate 64 'a'⟩ ∧
    parseUpgradeInstructionResponse withoutUpgrade = .ok none ∧
    parseUpgradeInstructionResponse emptyUpgrade = .error missingId := by
  unfold emptyUpgrade withoutUpgrade ruleControlLines
  simp only [cons_append, nil_append]
  repeat rw [flatMap_literal]
  decide +kernel

lemma ruleWorkDue_drifted (current : Option Text) :
    RuleWorkDue obliging (drifted none current).rules withoutUpgrade := by
  obtain ⟨loaded, hloaded, hdrifted⟩ := loads_sampleDocument
  have hactive : activeRuleBundleState obliging.machine obliging.stateDir
      obliging.convergence.activeUnreadable (drifted none current).rules =
        .ok (sampleBundle loaded) := by
    change stateFromText sampleMachine (activePath ['/', 's']) (sampleDocument ['"', 'a', '"']) true = _
    unfold stateFromText
    rw [hloaded]
    rfl
  exact ⟨_, sampleBundle loaded, parsed_answers.1, rfl, hactive, .inl hdrifted, rfl, rfl, rfl⟩

lemma rejected_emptyUpgrade (build : BuildIdentity) (f : Files) :
    (acceptUpgradeFromCoordinatorResponse sampleEnv build f emptyUpgrade).1 = .error missingId := by
  simp only [acceptUpgradeFromCoordinatorResponse, parsed_answers.2.2]

/-- The worker for the bundle was launched lately, and no upgrade is stored: it makes no difference
that the upgrade is rejected. -/
theorem rejected_upgrade_same_workers_settled :
    (exchange obliging .heartbeat (drifted (some ⟨List.replicate 64 'a', 0⟩) none)
        (.ok withoutUpgrade)).1.workers =
      (exchange obliging .heartbeat (drifted (some ⟨List.replicate 64 'a', 0⟩) none)
        (.ok emptyUpgrade)).1.workers := by
  refine (rejected_upgrade_same_workers obliging .heartbeat _ withoutUpgrade emptyUpgrade missingId
    sameButUpgrade_emptyUpgrade parsed_answers.2.1 (rejected_emptyUpgrade _ _)).mpr ⟨?_, ?_⟩
  · rw [← sameButUpgrade_emptyUpgrade.ruleWorkDue]
    rintro ⟨decision, active, hdecision, -, -, -, hmarker, -⟩
    cases hdecision.symm.trans parsed_answers.1
    exact absurd hmarker (by decide +kernel)
  · rw [← launch_iff]
    decide +kernel

/-- A stored upgrade and a bundle to fetch: without the empty instruction both workers are launched,
with it none. -/
theorem rejected_upgrade_drops_controls :
    SameButUpgrade withoutUpgrade emptyUpgrade ∧
      parseUpgradeInstructionResponse withoutUpgrade = .ok none ∧
      (exchange obliging .heartbeat
        (drifted none (some (stateJson ⟨sampleInstruction, .received, [], []⟩)))
        (.ok withoutUpgrade)).1.workers = (true, true) ∧
      (exchange obliging .heartbeat
        (drifted none (some (stateJson ⟨sampleInstruction, .received, [], []⟩)))
        (.ok emptyUpgrade)).1 =
          ⟨[.err (failed .heartbeat ++ missingId)], false, false⟩ := by
  refine ⟨sameButUpgrade_emptyUpgrade, parsed_answers.2.1,
    workers_of_due _ parsed_answers.2.1 (ruleWorkDue_drifted _) (launch_iff.mp ?_),
    handled_of_rejected _ (rejected_emptyUpgrade _ _)⟩
  decide +kernel

end NetaAgent.FleetService
