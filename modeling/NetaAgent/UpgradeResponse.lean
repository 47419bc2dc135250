import NetaAgent.UpgradeActivation

/-!
The upgrade member of the coordinator's answer to `AgentHello` and `Heartbeat`.

`object_member_object` does not parse the answer: it looks for the quoted key, wherever it stands,
and takes the braces after the next colon, counting brackets outside strings.
-/

namespace NetaAgent.Upgrade

open Decimal Search UpgradeJson

def objectSpan : (inString escaped : Bool) → (depth : ℕ) → Text → Option Text
  | _, _, _, [] => none
  | true, true, n, c :: r => (objectSpan true false n r).map (c :: ·)
  | true, false, n, c :: r =>
    if c = '\\' then (objectSpan true true n r).map (c :: ·)
    else if c = '"' then (objectSpan false false n r).map (c :: ·)
    else (objectSpan true false n r).map (c :: ·)
  | false, _, n, c :: r =>
    if c = '"' then (objectSpan true false n r).map (c :: ·)
    else if c = '\x7b' then (objectSpan false false (n + 1) r).map (c :: ·)
    else if c = '\x7d' then
      if n = 1 then some [c] else (objectSpan false false (n - 1) r).map (c :: ·)
    else (objectSpan false false n r).map (c :: ·)

def objectValue (key t : Text) : Except Text (Option Text) :=
  let v := skipSpace t
  if "null" <+: v then .ok none
  else if v.head? ≠ some '\x7b' then .error (key ++ " must be a JSON object")
  else
    match objectSpan false false 0 v with
    | some object => .ok (some object)
    | none => .error ("unterminated JSON object member: " ++ key)

/-- The loop over the places of the key. Each turn consumes one, so the length of the text is enough
fuel. -/
def objectLoop (key : Text) : ℕ → Text → Except Text (Option Text)
  | 0, _ => .ok none
  | fuel + 1, t =>
    match after ('"' :: (key ++ ['"'])) t with
    | none => .ok none
    | some r =>
      if (skipSpace r).head? = some ':' then objectValue key (skipSpace r).tail
      else objectLoop key fuel r

def objectMemberObject (object key : Text) : Except Text (Option Text) :=
  objectLoop key (object.length + 1) object

/-- The fields of an instruction, from the text of its object. -/
def readInstruction (object : Text) : Except Text UpgradeInstruction := do
  let upgradeId ← requireMember object "upgrade_id"
  let version ← requireMember object "version"
  let buildId ← requireMember object "build_id"
  let gitCommit ← requireMember object "git_commit"
  let os ← requireMember object "os"
  let arch ← requireMember object "arch"
  let artifactName ← requireMember object "artifact_name"
  let downloadUrl ← requireMember object "download_url"
  let sha256 ← normalizeSha256 (← requireMember object "sha256")
  return { upgradeId, version, buildId, gitCommit := lower gitCommit, os := lower os
           arch := lower arch, artifactName, downloadUrl, sha256 }

def parseUpgradeInstructionResponse (responseBody : Text) :
    Except Text (Option UpgradeInstruction) := do
  match ← objectMemberObject responseBody "upgrade" with
  | none => return none
  | some object => return some (← readInstruction object)

/-- `accept_upgrade_from_coordinator_response`. -/
def acceptUpgradeFromCoordinatorResponse (env : Env) (build : BuildIdentity) (f : Files)
    (responseBody : Text) : Except Text (Option UpgradeState) × Files :=
  match parseUpgradeInstructionResponse responseBody with
  | .error e => (.error e, f)
  | .ok none => (.ok none, f)
  | .ok (some i) =>
    let r := accept env i build f
    (r.1.map some, r.2)

end NetaAgent.Upgrade
