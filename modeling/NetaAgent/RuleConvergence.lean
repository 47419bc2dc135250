import NetaAgent.UpgradeResponse
import NetaAgent.Verdict

/-!
The rules member of the coordinator's answer: `accept_rule_control_from_coordinator_response`.

The answer names the bundle that the endpoint should run. If the active one is another, or if the
operator asked for it to be fetched again, a detached worker is launched; a marker file keeps a
second one from being launched within ten minutes.
-/

namespace NetaAgent.RuleConvergence

open Decimal Crypto RuleJson Rules Upgrade Verdict

structure RuleControlDecision where
  present : Bool := false
  fetchRequired : Bool := false
  refreshRequested : Bool := false
  desiredRevision : ℕ := 0
  desiredSha256 : Text := []
  deriving DecidableEq

variable (undefined : Conversion)

/-- The members of `rules`. -/
def readControl (control : JsonValue) : Except Text RuleControlDecision := do
  let revision ← (← control.get "desiredRevision").asNumber
  if !Double.zero.lt revision || !revision.isInteger || exceedsUint64 revision then
    .error "heartbeat desired rule revision is invalid"
  else
    let desiredSha256 := lower (← (← control.get "desiredSha256").asString)
    if !isHex desiredSha256 64 then .error "heartbeat desired rule SHA-256 is invalid"
    else
      let fetchRequired ← (← control.get "fetchRequired").asBoolean
      let refreshRequested ← optionalBool control "refreshRequested" false
      return { present := true, fetchRequired, refreshRequested
               desiredRevision := toUint64 undefined (.finite revision), desiredSha256 }

def parseRoot (responseBody : Text) : Except Text JsonValue :=
  (parse responseBody).mapError (Failure.message responseBody)

def parseRuleControlResponse (responseBody : Text) : Except Text RuleControlDecision := do
  match ← (← parseRoot responseBody).find "rules" with
  | none => return {}
  | some control => readControl undefined control

/-! ### The files -/

/-- `convergence.pending` and when it was written, in nanoseconds of the file clock. -/
structure Marker where
  content : Text
  modified : ℤ
  deriving DecidableEq

/-- `rules/active.json` and the marker. -/
structure RuleFiles where
  active : Option Text
  marker : Option Marker
  deriving DecidableEq

/-- What the file system, the clock and the launcher decide during a call. -/
structure ConvergenceEnv where
  platform : Platform
  activeUnreadable : Option Text
  markerUnreadable : Bool
  /-- `last_write_time` fails. -/
  ageUnknown : Bool
  now : ℤ
  write : Write
  /-- When the marker is written. -/
  written : ℤ
  /-- The marker can be removed. -/
  removes : Bool
  /-- What the launcher throws. -/
  launch : Option Text

structure ActiveRuleBundleState where
  path : Text
  revision : ℕ
  version : Text
  sha256 : Text
  ruleCount : ℕ
  centrallyManaged : Bool

variable (m : Machine) (stateDir : Text) (env : ConvergenceEnv) (unreadable : Option Text) (f : RuleFiles)

/-- The path of `active.json`. -/
def activePath : Text := stateDir ++ "/rules/active.json"

def stateFromText (path text : Text) (centrallyManaged : Bool) :
    Except Text ActiveRuleBundleState := do
  let loaded ← loadText m.undefined text path
  return ⟨path, loaded.revision, loaded.version, sha256Hex m.sha text, loaded.definitions.length,
    centrallyManaged⟩

def activeRuleBundleState : Except Text ActiveRuleBundleState :=
  match f.active, unreadable with
  | some _, some e => .error e
  | some text, none => stateFromText m (activePath stateDir) text true
  | none, _ => do
    let builtIn ← builtIn m.undefined
    return ⟨[], builtIn.revision, builtIn.version, ruleSetHash m builtIn, builtIn.definitions.length,
      false⟩

/-- A hash in lower case, without its label. -/
def plainSha (sha : Text) : Text :=
  let sha := lower sha
  if "sha256:" <+: sha then sha.drop 7 else sha

/-- The hash of the active bundle. -/
def activeSha (active : ActiveRuleBundleState) : Text := plainSha active.sha256

/-- The first line of the marker; nothing if it cannot be opened. -/
def readMarker (marker : Marker) : Text :=
  if env.markerUnreadable then []
  else
    let value := marker.content.takeWhile (· ≠ '\n')
    lower (if value.getLast? = some '\r' then value.dropLast else value)

def markerLifetime : ℤ := 600000000000

def markerRecent (desiredSha256 : Text) : Bool :=
  match f.marker with
  | none => false
  | some marker =>
    readMarker env marker = desiredSha256 && !env.ageUnknown &&
      env.now - marker.modified < markerLifetime

def removeMarker : RuleFiles :=
  if env.removes then { f with marker := none } else f

/-- Windows removes the marker when the first replacement fails, and the second may fail too. -/
def writeMarker (sha256 : Text) (f : RuleFiles) : Except Text Unit × RuleFiles :=
  match env.write, env.platform with
  | .done, _ => (.ok (), { f with marker := some ⟨sha256 ++ ['\n'], env.written⟩ })
  | .kept e, _ => (.error e, f)
  | .lost e, .linux => (.error e, f)
  | .lost e, .windows => (.error e, { f with marker := none })

/-! ### The decision -/

def launchWorker (desiredSha256 : Text) (f : RuleFiles) : Except Text Bool × RuleFiles :=
  if markerRecent env f desiredSha256 then (.ok false, f)
  else
    match writeMarker env desiredSha256 f with
    | (.error e, f) => (.error e, f)
    | (.ok (), f) =>
      match env.launch with
      | some e => (.error e, removeMarker env f)
      | none => (.ok true, f)

def converge (decision : RuleControlDecision)
    (active : ActiveRuleBundleState) (f : RuleFiles) : Except Text Bool × RuleFiles :=
  let drift : Bool := activeSha active ≠ decision.desiredSha256
  if !drift && !decision.refreshRequested then (.ok false, removeMarker env f)
  else if !drift && !decision.fetchRequired && !decision.refreshRequested then (.ok false, f)
  else launchWorker env decision.desiredSha256 f

/-- `accept_rule_control_from_coordinator_response`. -/
def acceptRuleControlFromCoordinatorResponse (responseBody : Text) : Except Text Bool × RuleFiles :=
  match parseRuleControlResponse m.undefined responseBody with
  | .error e => (.error e, f)
  | .ok decision =>
    if !decision.present then (.ok false, f)
    else
      match activeRuleBundleState m stateDir env.activeUnreadable f with
      | .error e => (.error e, f)
      | .ok active => converge env decision active f

/-! ### Drift -/

/-- The hash of the active bundle, whether or not the bundle can be loaded: that of the file, or
that of the built-in rules. -/
def bundleSha : Text :=
  plainSha (f.active.elim ((builtIn m.undefined).toOption.elim [] (ruleSetHash m)) (sha256Hex m.sha))

/-- The worker would be launched, if the launcher does not throw. -/
def Launches (responseBody : Text) : Prop :=
  (acceptRuleControlFromCoordinatorResponse m stateDir { env with launch := none } f
    responseBody).1 = .ok true

/-- The active bundle can be loaded: the file is read and accepted by the loader, or there is none
and the built-in rules are. -/
def Loads : Prop :=
  match f.active with
  | some text => unreadable = none ∧
      ∃ rules, loadText m.undefined text (activePath stateDir) = .ok rules
  | none => ∃ rules, builtIn m.undefined = .ok rules

lemma activeRuleBundleState_cases :
    (∃ active, activeRuleBundleState m stateDir unreadable f = .ok active ∧
      Loads m stateDir unreadable f ∧ activeSha active = bundleSha m f) ∨
    (∃ e, activeRuleBundleState m stateDir unreadable f = .error e) ∧
      ¬ Loads m stateDir unreadable f := by
  obtain ⟨content, marker⟩ := f
  unfold Loads activeRuleBundleState bundleSha
  -- the built-in document is not to be evaluated
  generalize builtIn m.undefined = loaded
  cases content with
  | none =>
    cases loaded with
    | error e => exact .inr ⟨⟨e, rfl⟩, by simp⟩
    | ok rules => exact .inl ⟨_, rfl, ⟨rules, rfl⟩, rfl⟩
  | some text =>
    cases unreadable with
    | some e => exact .inr ⟨⟨e, rfl⟩, by simp⟩
    | none =>
      simp only [true_and, stateFromText]
      generalize loadText m.undefined text (activePath stateDir) = loaded
      cases loaded with
      | error e => exact .inr ⟨⟨e, rfl⟩, by simp⟩
      | ok rules => exact .inl ⟨_, rfl, ⟨rules, rfl⟩, rfl⟩

lemma launchWorker_iff {c : ConvergenceEnv} {f : RuleFiles} {sha : Text} : (launchWorker c sha f).1 = .ok true ↔
      markerRecent c f sha = false ∧ c.write = .done ∧ c.launch = none := by
  unfold launchWorker
  cases hrecent : markerRecent c f sha with
  | true => simp
  | false =>
    unfold writeMarker
    cases hwrite : c.write with
    | done => cases hlaunch : c.launch <;> simp
    | kept => simp
    | lost => cases hplatform : c.platform <;> simp

/-- **A worker for another bundle.** When the coordinator wants a bundle other than the active one,
a worker is launched exactly if the active one can be loaded, no marker for the wanted one is recent,
and the marker can be written. -/
theorem drift_launches_worker {m : Machine} {responseBody : Text} {decision : RuleControlDecision}
    (hdecision : parseRuleControlResponse m.undefined responseBody = .ok decision)
    (hpresent : decision.present = true) (stateDir : Text) (env : ConvergenceEnv) (f : RuleFiles)
    (hdrift : bundleSha m f ≠ decision.desiredSha256) :
    Launches m stateDir env f responseBody ↔ Loads m stateDir env.activeUnreadable f ∧
      markerRecent env f decision.desiredSha256 = false ∧ env.write = .done := by
  have hlaunch : ∀ sha, (launchWorker { env with launch := none } sha f).1 = .ok true ↔
      markerRecent env f sha = false ∧ env.write = .done := fun sha => by
    rw [launchWorker_iff, and_iff_left rfl]
    rfl
  rw [← hlaunch]
  unfold Launches acceptRuleControlFromCoordinatorResponse
  simp only [hdecision, hpresent, Bool.not_true, Bool.false_eq_true, if_false]
  rcases activeRuleBundleState_cases m stateDir env.activeUnreadable f with
    ⟨active, hactive, hloads, hsha⟩ | ⟨⟨e, hactive⟩, hloads⟩
  · simp [hactive, hloads, converge, hsha, hdrift]
  · simp [hactive, hloads]

def sampleAnswer : Text :=
  ("\x7b\"rules\":\x7b\"desiredRevision\":2,\"fetchRequired\":true,\"desiredSha256\":\"" ++
    "aaaaaaaaaaaaaaaaaaaaaaaaaaaaaaaaaaaaaaaaaaaaaaaaaaaaaaaaaaaaaaaa\"\x7d\x7d").toList

def steadyEnv : ConvergenceEnv where
  platform := .linux
  activeUnreadable := none
  markerUnreadable := false
  ageUnknown := false
  now := 0
  write := .done
  written := 0
  removes := true
  launch := none

def sampleDecision : RuleControlDecision where
  present := true
  fetchRequired := true
  desiredRevision := 2
  desiredSha256 := List.replicate 64 'a'

lemma parse_sampleAnswer :
    parseRuleControlResponse sampleMachine.undefined sampleAnswer = .ok sampleDecision := by
  decide +kernel

theorem drift_launches_worker_corrupt :
    Launches sampleMachine [] steadyEnv ⟨some ['x'], none⟩ sampleAnswer ↔
      Loads sampleMachine [] none ⟨some ['x'], none⟩ ∧
        markerRecent steadyEnv ⟨some ['x'], none⟩ sampleDecision.desiredSha256 = false ∧
        steadyEnv.write = .done :=
  drift_launches_worker parse_sampleAnswer rfl [] steadyEnv ⟨some ['x'], none⟩ (by decide +kernel)

/-- A file that is cut off keeps the agent from launching a worker. -/
theorem corrupt_bundle_blocks_worker :
    parseRuleControlResponse sampleMachine.undefined sampleAnswer = .ok sampleDecision ∧
      bundleSha sampleMachine ⟨some ['x'], none⟩ ≠ sampleDecision.desiredSha256 ∧
      markerRecent steadyEnv ⟨some ['x'], none⟩ sampleDecision.desiredSha256 = false ∧
      ¬ Launches sampleMachine [] steadyEnv ⟨some ['x'], none⟩ sampleAnswer := by
  refine ⟨parse_sampleAnswer, by decide +kernel, rfl, ?_⟩
  unfold Launches acceptRuleControlFromCoordinatorResponse
  rw [parse_sampleAnswer]
  decide +kernel

end NetaAgent.RuleConvergence
