import NetaAgent.UpgradeStore

/-!
The activation record and its own reader.

`member_string` looks for the first text that is the quoted key, wherever it stands, and decodes
the string after the next colon. It lets control bytes through, and refuses the same escapes as
the reader of the state file.
-/

namespace NetaAgent.Upgrade

open Decimal Search UpgradeJson NapEnvelope List Except

inductive UpgradeActivationState where
  | installing | localHealthy | failed | rolledBack
  deriving DecidableEq

def UpgradeActivationState.toText : UpgradeActivationState → Text
  | installing => "INSTALLING"
  | localHealthy => "LOCAL_HEALTHY"
  | failed => "FAILED"
  | rolledBack => "ROLLED_BACK"

def upgradeActivationStateFromString (value : Text) : Except Text UpgradeActivationState :=
  if value = "INSTALLING" then .ok .installing
  else if value = "LOCAL_HEALTHY" then .ok .localHealthy
  else if value = "FAILED" then .ok .failed
  else if value = "ROLLED_BACK" then .ok .rolledBack
  else .error ("unknown upgrade activation state: " ++ value)

structure UpgradeActivationRecord where
  upgradeId : Text
  state : UpgradeActivationState
  installRoot : Text
  previousTarget : Text
  activeTarget : Text
  failureCode : Text
  failureMessage : Text
  deriving DecidableEq

variable (r : UpgradeActivationRecord)

def activationMembers : List (Text × Text) :=
  [("upgrade_id", r.upgradeId),
    ("state", r.state.toText),
    ("install_root", r.installRoot),
    ("previous_target", r.previousTarget),
    ("active_target", r.activeTarget),
    ("failure_code", r.failureCode),
    ("failure_message", r.failureMessage)]

def activationJson : Text := objectText (activationMembers r)

/-! ### The reader -/

def memberBody : Text → Except Text Text
  | [] => .error "unterminated JSON string in upgrade activation state"
  | c :: r =>
    if c = '"' then .ok []
    else if c = '\\' then
      match r with
      | [] => .error "unterminated JSON string in upgrade activation state"
      | e :: r =>
        match unescapeChar e with
        | none => .error "unsupported JSON escape in upgrade activation state"
        | some d => (memberBody r).map (d :: ·)
    else (memberBody r).map (c :: ·)

/-- What follows a quoted key: the string after the next colon, or nothing. -/
def memberAfter (t : Text) : Except Text Text :=
  match find [':'] t with
  | none => .ok []
  | some c =>
    match skipSpace (t.drop (c + 1)) with
    | [] => .ok []
    | q :: r => if q = '"' then memberBody r else .ok []

def memberString (text key : Text) : Except Text Text :=
  let needle := '"' :: (key ++ ['"'])
  match find needle text with
  | none => .ok []
  | some pos => memberAfter (text.drop (pos + needle.length))

def activationFromJson (text : Text) : Except Text UpgradeActivationRecord := do
  let upgradeId ← memberString text "upgrade_id"
  let state ← memberString text "state" >>= upgradeActivationStateFromString
  let installRoot ← memberString text "install_root"
  let previousTarget ← memberString text "previous_target"
  let activeTarget ← memberString text "active_target"
  let failureCode ← memberString text "failure_code"
  let failureMessage ← memberString text "failure_message"
  if upgradeId = [] then .error "upgrade activation record missing upgrade_id"
  else .ok ⟨upgradeId, state, installRoot, previousTarget, activeTarget, failureCode, failureMessage⟩

variable (compiled : BuildIdentity) (unreadable : Option Text) (f : Files) (conf : Option Text)

/-- `UpgradeActivationStore::load`. -/
def loadActivation : Except Text (Option UpgradeActivationRecord) :=
  match f.activation with
  | none => .ok none
  | some text => (activationFromJson text).map some

lemma memberString_eq (text key : Text) : memberString text key =
    match after ('"' :: (key ++ ['"'])) text with
    | none => .ok []
    | some t => memberAfter t := by
  rw [← drop_find, memberString]
  cases find ('"' :: (key ++ ['"'])) text <;> rfl

/-! ### Reading a written record -/

/-- An identifier that the search for a key passes over. -/
def PlainId (id : Text) : Prop := '"' ∉ jsonEscape id ∧ jsonEscape id ≠ "state"

instance (id : Text) : Decidable (PlainId id) := inferInstanceAs (Decidable (_ ∧ _))

variable (s : UpgradeActivationState)

lemma upgradeActivationStateFromString_toText :
    upgradeActivationStateFromString s.toText = .ok s := by
  cases s <;> rfl

variable {t v x : Text}

lemma memberBody_of_stringBody {r : Text} (h : stringBody t = .ok (v, r)) :
    memberBody t = .ok v := by
  fun_induction stringBody t generalizing v with
  | case2 => cases h; simp [memberBody.eq_def]
  | case5 e t d hd hq ih =>
    obtain ⟨⟨v', r'⟩, hp, hv⟩ := map_eq_ok h
    cases hv
    simp [memberBody, hd, ih hp, Except.map]
  | case1 | case3 | case4 | case6 => cases h
  | case7 c t hq hb hc ih =>
    obtain ⟨⟨v', r'⟩, hp, hv⟩ := map_eq_ok h
    cases hv
    rw [memberBody.eq_def]
    simp [hq, hb, ih hp, Except.map]

/-- The two readers refuse the same escapes. -/
lemma memberBody_of_refused (h : stringBody t = .error unsupportedEscape) :
    memberBody t = .error "unsupported JSON escape in upgrade activation state" := by
  fun_induction stringBody t with
  | case2 => cases h
  | case4 e r hd => simp [memberBody, hd]
  | case5 e r d hd _ ih =>
    cases hr : stringBody r with
    | ok => rw [hr] at h; cases h
    | error => rw [hr] at h ih; simp [memberBody, hd, ih h, Except.map]
  | case1 | case3 | case6 => exact absurd (Except.error.inj h) (by decide)
  | case7 c r hq hb _ ih =>
    cases hr : stringBody r with
    | ok => rw [hr] at h; cases h
    | error =>
      rw [hr] at h ih
      rw [memberBody.eq_def]
      simp [hq, hb, ih h, Except.map]

lemma memberBody_jsonEscape (hv : ReadableText v) (r : Text) :
    memberBody (jsonEscape v ++ '"' :: r) = .ok v :=
  memberBody_of_stringBody (r := r) (by rw [stringBody_jsonEscape, if_pos hv])

lemma memberBody_written {r : Text} (h : memberBody (jsonEscape v ++ '"' :: r) = .ok x) :
    x = v := by
  by_cases hv : ReadableText v
  · rw [memberBody_jsonEscape hv] at h
    exact (ok.inj h).symm
  · rw [memberBody_of_refused (by rw [stringBody_jsonEscape, if_neg hv])] at h
    cases h

lemma readableText_toText : ReadableText s.toText := by
  cases s <;> decide

lemma eq_of_quoted {pat a r : Text} (hpat : '"' ∉ pat) (ha : '"' ∉ a)
    (h : pat ++ ['"'] <+: a ++ '"' :: r) : a = pat := by
  induction pat generalizing a with
  | nil =>
    cases a with
    | nil => rfl
    | cons c =>
      have hc : '"' = c := (cons_prefix_cons.mp h).1
      exact absurd (hc ▸ mem_cons_self) ha
  | cons p pat ih =>
    cases a with
    | nil =>
      have hp : p = '"' := (cons_prefix_cons.mp h).1
      exact absurd (hp ▸ mem_cons_self) hpat
    | cons =>
      obtain ⟨rfl, htail⟩ := cons_prefix_cons.mp h
      rw [ih (fun hm => hpat (mem_cons_of_mem _ hm)) (fun hm => ha (mem_cons_of_mem _ hm))
        htail]

lemma activationJson_eq : ∃ rest, activationJson r =
    "\x7b\n  " ++ '"' :: ("upgrade_id" ++ '"' :: (": " ++ '"' ::
      (jsonEscape r.upgradeId ++ '"' :: (",\n  " ++ '"' :: ("state\"" ++
        (": \"" ++ (jsonEscape r.state.toText ++ '"' :: rest))))))) := by
  refine ⟨',' :: membersText ((activationMembers r).drop 2), ?_⟩
  simp [activationJson, objectText, activationMembers, membersText, memberText]

/-- After a key that was written, the string that was written next to it is decoded. -/
lemma memberAfter_eq (v r : Text) :
    memberAfter (": \"" ++ (jsonEscape v ++ '"' :: r)) = memberBody (jsonEscape v ++ '"' :: r) := by
  have hfind : find [':'] (": \"" ++ (jsonEscape v ++ '"' :: r)) = some 0 := by
    simp [find]
  have hskip : skipSpace ((": \"" ++ (jsonEscape v ++ '"' :: r)).drop (0 + 1)) =
      '"' :: (jsonEscape v ++ '"' :: r) := by
    simp [skipSpace, isSpace]
  simp only [memberAfter, hfind, hskip, if_true]

variable {r r' : UpgradeActivationRecord}

lemma memberString_upgradeId
    (h : memberString (activationJson r) "upgrade_id" = .ok x) : x = r.upgradeId := by
  have hr : activationJson r = "\x7b\n  " ++ '"' :: (("upgrade_id" ++ ['"']) ++
      (": \"" ++ (jsonEscape r.upgradeId ++ '"' ::
        (',' :: membersText ((activationMembers r).drop 1))))) := by
    simp [activationJson, objectText, activationMembers, membersText, memberText]
  rw [memberString_eq, hr, after_append (by decide), after_self] at h
  dsimp only at h
  rw [memberAfter_eq] at h
  exact memberBody_written h

/-- The state of a written record is found, if its identifier does not look like the key. -/
lemma memberString_state (hid : PlainId r.upgradeId) :
    memberString (activationJson r) "state".toList = .ok r.state.toText := by
  obtain ⟨rest, hr⟩ := activationJson_eq r
  have hid' : ¬ "state".toList ++ ['"'] <+: jsonEscape r.upgradeId ++ '"' ::
      (",\n  " ++ '"' :: ("state\"" ++ (": \"" ++ (jsonEscape r.state.toText ++ '"' :: rest)))) :=
    fun h => hid.2 (eq_of_quoted (by decide) hid.1 h)
  rw [memberString_eq, hr, after_append (by decide), after_cons_ne (by simp),
    after_append (by decide), after_cons_ne (by simp), after_append (by decide), after_cons_ne hid',
    after_append hid.1, after_cons_ne (by simp), after_append (by decide)]
  have hself := after_self '"' "state\""
    (": \"" ++ (jsonEscape r.state.toText ++ '"' :: rest))
  rw [show "state" ++ ['"'] = "state\"" from rfl, hself]
  dsimp only
  rw [memberAfter_eq]
  exact memberBody_jsonEscape (readableText_toText r.state) rest

lemma activationFromJson_ok {t : Text} (h : activationFromJson t = .ok r') :
    memberString t "upgrade_id" = .ok r'.upgradeId ∧
      (memberString t "state" >>= upgradeActivationStateFromString) = .ok r'.state := by
  obtain ⟨_, hid, h⟩ := bind_eq_ok h
  obtain ⟨_, hstate, h⟩ := bind_eq_ok h
  obtain ⟨_, -, h⟩ := bind_eq_ok h
  obtain ⟨_, -, h⟩ := bind_eq_ok h
  obtain ⟨_, -, h⟩ := bind_eq_ok h
  obtain ⟨_, -, h⟩ := bind_eq_ok h
  obtain ⟨_, -, h⟩ := bind_eq_ok h
  split_ifs at h
  cases h
  exact ⟨hid, hstate⟩

lemma activationFromJson_state (hid : PlainId r.upgradeId)
    (h : activationFromJson (activationJson r) = .ok r') : r'.state = r.state := by
  obtain ⟨text, htext, hstate⟩ := bind_eq_ok (activationFromJson_ok h).2
  rw [memberString_state hid] at htext
  cases htext
  rw [upgradeActivationStateFromString_toText] at hstate
  exact (ok.inj hstate).symm

lemma activationFromJson_upgradeId
    (h : activationFromJson (activationJson r) = .ok r') : r'.upgradeId = r.upgradeId :=
  memberString_upgradeId (activationFromJson_ok h).1

lemma activationJson_inj {a b : UpgradeActivationRecord} (h : activationJson a = activationJson b) :
    a = b := by
  have hm : activationMembers a = activationMembers b := membersText_inj rfl (cons.inj h).2
  obtain ⟨_, sa, _, _, _, _, _⟩ := a
  obtain ⟨_, sb, _, _, _, _, _⟩ := b
  simp only [activationMembers, cons.injEq, Prod.mk.injEq, true_and, and_true] at hm
  obtain ⟨rfl, hstate, rfl, rfl, rfl, rfl, rfl⟩ := hm
  have hs := congrArg upgradeActivationStateFromString hstate
  rw [upgradeActivationStateFromString_toText, upgradeActivationStateFromString_toText] at hs
  rw [ok.inj hs]

lemma plainKey_activationMembers (r : UpgradeActivationRecord) :
    ∀ m ∈ activationMembers r, PlainKey m.1 := by
  have hkeys : ∀ k ∈ (activationMembers r).map Prod.fst, PlainKey k := by
    simp only [activationMembers, map_cons, map_nil]
    decide
  exact fun m hm => hkeys m.1 (mem_map_of_mem hm)

lemma toText_terminal :
    (s.toText = "FAILED" ∨ s.toText = "ROLLED_BACK") ↔ (s = .failed ∨ s = .rolledBack) := by
  cases s <;> decide

/-- The check of `accept` reads a written record with the reader of the state file. -/
lemma activationIsTerminalFor_written {f : Files}
    (hf : f.activation = some (activationJson r)) (hid : ReadableText r.upgradeId) (id : Text) :
    activationIsTerminalFor false f id = true ↔
      r.upgradeId = id ∧ (r.state = .failed ∨ r.state = .rolledBack) := by
  have hk := plainKey_activationMembers r
  have h1 : objectMemberString (activationJson r) "upgrade_id" = .ok (some r.upgradeId) :=
    objectMemberString_ok hk rfl hid
  have h2 : objectMemberString (activationJson r) "state" = .ok (some r.state.toText) :=
    objectMemberString_ok hk rfl (readableText_toText r.state)
  rw [← toText_terminal r.state]
  unfold activationIsTerminalFor
  rw [hf]
  dsimp only
  rw [h1, h2]
  simp only [Bool.false_eq_true, if_false, Bool.and_eq_true, Bool.or_eq_true, decide_eq_true_eq]

/-! ### The launcher -/

/-- What the environment decides about a launch: whether a file can be opened, and whether the
updater is there and its process starts. -/
structure LaunchEnv where
  unreadable : Option Text
  activationUnreadable : Option Text
  starts : Bool

/-- The instruction that is to be worked on, if there is one and its state is not `FAILED`. -/
def pendingInstruction : Except Text (Option UpgradeInstruction) :=
  (load unreadable f).map fun loaded =>
    match loaded with
    | none => none
    | some s => if s.state = .failed then none else some s.instruction

/-- Whether no activation record stands against a worker for the identifier. -/
def unclaimed (upgradeId : Text) : Except Text Bool :=
  match f.activation, unreadable with
  | none, _ => .ok true
  | some _, some e => .error e
  | some _, none =>
    (loadActivation f).map fun loaded =>
      match loaded with
      | none => true
      | some r => r.upgradeId ≠ upgradeId

/-- `launch_upgrade_worker_if_needed`. -/
def launchUpgradeWorkerIfNeeded (env : LaunchEnv) (f : Files) : Except Text Bool := do
  match ← pendingInstruction env.unreadable f with
  | none => pure false
  | some i =>
    let free ← unclaimed env.activationUnreadable f i.upgradeId
    pure (free && env.starts)

lemma unclaimed_written {u : Option Text} {f : Files}
    (hf : f.activation = some (activationJson r)) : unclaimed u f r.upgradeId ≠ .ok true := by
  cases u with
  | some => simp [unclaimed, hf]
  | none =>
    simp only [unclaimed, hf, loadActivation]
    cases hr : activationFromJson (activationJson r) with
    | error => simp [Except.map]
    | ok => simp [Except.map, activationFromJson_upgradeId hr]

/-! ### The installed build -/

def lines (t : Text) : List Text := t.splitOn '\n'

def writeInstalledBuild (i : UpgradeInstruction) : Text :=
  "artifact_sha256=" ++ i.sha256 ++ "\nupgrade_id=" ++ i.upgradeId ++
    "\nversion=" ++ i.version ++ "\nbuild_id=" ++ i.buildId ++
    "\ngit_commit=" ++ i.gitCommit ++ "\n"

/-- The value of the first line with the key, which may end in a carriage return. -/
def installedBuildValue (key : Text) : Text :=
  let start := key ++ ['=']
  let chomp (l : Text) : Text := if l.getLast? = some '\r' then l.dropLast else l
  match ((lines (conf.getD [])).map chomp).find? (start.isPrefixOf ·) with
  | none => []
  | some l => l.drop start.length

/-- The hash of the running build; a hash that does not normalize counts as none. -/
def installedArtifactSha : Text :=
  let start := "artifact_sha256=".toList
  match (lines (conf.getD [])).find? (start.isPrefixOf ·) with
  | none => []
  | some l => ((normalizeSha256 (l.drop start.length)).toOption).getD []

/-- `current_build_identity`: the identity compiled into the agent, with the hash of the file. -/
def currentBuildIdentity : BuildIdentity :=
  { compiled with
    gitCommit := lower compiled.gitCommit
    os := lower compiled.os
    arch := lower compiled.arch
    artifactSha256 := installedArtifactSha conf }

lemma comparable_currentBuildIdentity : (currentBuildIdentity compiled conf).Comparable := by
  simp only [BuildIdentity.Comparable, currentBuildIdentity, installedArtifactSha]
  split
  · exact .inl rfl
  · rename_i l _
    cases hn : normalizeSha256 (l.drop "artifact_sha256=".toList.length) with
    | error => exact .inl rfl
    | ok => exact .inr (normalizeSha256_of_isHex (isHex_of_normalizeSha256 hn))

end NetaAgent.Upgrade
