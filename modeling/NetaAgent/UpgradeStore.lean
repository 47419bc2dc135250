import NetaAgent.Run
import NetaAgent.UpgradeInstruction
import NetaAgent.UpgradeJson

/-!
The durable upgrade state: the instruction in `current.json`, when it may be replaced, and how a
download moves it.
-/

namespace NetaAgent.Upgrade

open Decimal UpgradeJson UpgradeInstruction

/-! ### The state file -/

inductive UpgradeLocalState where
  | received | downloading | verified | failed
  deriving DecidableEq

def UpgradeLocalState.toText : UpgradeLocalState → Text
  | received => "RECEIVED"
  | downloading => "DOWNLOADING"
  | verified => "VERIFIED"
  | failed => "FAILED"

def upgradeLocalStateFromString (value : Text) : Except Text UpgradeLocalState :=
  if value = "RECEIVED" then .ok .received
  else if value = "DOWNLOADING" then .ok .downloading
  else if value = "VERIFIED" then .ok .verified
  else if value = "FAILED" then .ok .failed
  else .error ("unknown local upgrade state: " ++ value)

structure UpgradeState where
  instruction : UpgradeInstruction
  state : UpgradeLocalState
  downloadPath : Text
  lastError : Text
  deriving DecidableEq

def stateMembers (s : UpgradeState) : List (Text × Text) :=
  [("upgrade_id", s.instruction.upgradeId),
    ("version", s.instruction.version),
    ("build_id", s.instruction.buildId),
    ("git_commit", s.instruction.gitCommit),
    ("os", s.instruction.os),
    ("arch", s.instruction.arch),
    ("artifact_name", s.instruction.artifactName),
    ("download_url", s.instruction.downloadUrl),
    ("sha256", s.instruction.sha256),
    ("state", s.state.toText),
    ("download_path", s.downloadPath),
    ("last_error", s.lastError)]

def stateJson (s : UpgradeState) : Text := objectText (stateMembers s)

def stateFromJson (text : Text) : Except Text UpgradeState := do
  let upgradeId ← requireMember text "upgrade_id"
  let version ← requireMember text "version"
  let buildId ← requireMember text "build_id"
  let gitCommit ← requireMember text "git_commit"
  let os ← requireMember text "os"
  let arch ← requireMember text "arch"
  let artifactName ← requireMember text "artifact_name"
  let downloadUrl ← requireMember text "download_url"
  let sha256 ← requireMember text "sha256"
  let state ← (requireMember text "state") >>= upgradeLocalStateFromString
  let downloadPath ← objectMemberString text "download_path"
  let lastError ← objectMemberString text "last_error"
  return ⟨⟨upgradeId, version, buildId, gitCommit, os, arch, artifactName, downloadUrl, sha256⟩,
    state, downloadPath.getD [], lastError.getD []⟩

/-! ### Reading the state back -/

lemma plainKey_stateMembers (s : UpgradeState) : ∀ m ∈ stateMembers s, PlainKey m.1 := by
  have hkeys : ∀ k ∈ (stateMembers s).map Prod.fst, PlainKey k := by
    simp only [stateMembers, List.map_cons, List.map_nil]
    decide
  exact fun m hm => hkeys m.1 (List.mem_map_of_mem hm)

variable {ms : List (Text × Text)} {v x id key : Text}

/-- A value that the reader returns for a written member is the one that was written, and it is
one that the reader takes. -/
lemma objectMemberString_written (hk : ∀ m ∈ ms, PlainKey m.1)
    {x : Option Text} (hv : ms.lookup key = some v)
    (h : objectMemberString (objectText ms) key = .ok x) : x = some v ∧ ReadableText v := by
  simp only [objectMemberString_objectText hk, readMember, hv, readValue] at h
  split_ifs at h with hr
  cases h
  exact ⟨rfl, hr⟩

lemma requireMember_written (hk : ∀ m ∈ ms, PlainKey m.1) (hv : ms.lookup key = some v)
    (h : requireMember (objectText ms) key = .ok x) : x = v ∧ ReadableText v := by
  obtain ⟨y, hy, h⟩ := bind_eq_ok h
  obtain ⟨rfl, hr⟩ := objectMemberString_written hk hv hy
  cases v with
  | nil => cases h
  | cons => cases h; exact ⟨rfl, hr⟩

lemma upgradeLocalStateFromString_toText (s : UpgradeLocalState) :
    upgradeLocalStateFromString s.toText = .ok s := by
  cases s <;> rfl

variable {a b s s' old : UpgradeState}

/-- The texts of an instruction, all of them required. -/
def UpgradeInstruction.texts (i : UpgradeInstruction) : List Text :=
  [i.upgradeId, i.version, i.buildId, i.gitCommit, i.os, i.arch, i.artifactName, i.downloadUrl,
    i.sha256]

/-- What is loaded from a written state file is the state that was written, and all its texts are
ones that the reader takes. -/
lemma stateFromJson_written (h : stateFromJson (stateJson s) = .ok s') :
    s' = s ∧ (∀ t ∈ s.instruction.texts, ReadableText t) ∧ ReadableText s.downloadPath ∧
      ReadableText s.lastError := by
  have hk := plainKey_stateMembers s
  have hreq {key v x : Text} (hv : (stateMembers s).lookup key = some v)
      (hx : requireMember (stateJson s) key = .ok x) : x = v ∧ ReadableText v :=
    requireMember_written hk hv hx
  obtain ⟨_, h1, h⟩ := bind_eq_ok h
  obtain ⟨_, h2, h⟩ := bind_eq_ok h
  obtain ⟨_, h3, h⟩ := bind_eq_ok h
  obtain ⟨_, h4, h⟩ := bind_eq_ok h
  obtain ⟨_, h5, h⟩ := bind_eq_ok h
  obtain ⟨_, h6, h⟩ := bind_eq_ok h
  obtain ⟨_, h7, h⟩ := bind_eq_ok h
  obtain ⟨_, h8, h⟩ := bind_eq_ok h
  obtain ⟨_, h9, h⟩ := bind_eq_ok h
  obtain ⟨_, hstate, h⟩ := bind_eq_ok h
  obtain ⟨text, h10, hstate⟩ := bind_eq_ok hstate
  obtain ⟨_, h11, h⟩ := bind_eq_ok h
  obtain ⟨_, h12, h⟩ := bind_eq_ok h
  cases h
  obtain ⟨rfl, -⟩ := hreq rfl h10
  rw [upgradeLocalStateFromString_toText] at hstate
  cases hstate
  refine ⟨?_, ?_, (objectMemberString_written hk rfl h11).2,
    (objectMemberString_written hk rfl h12).2⟩
  · rw [(hreq rfl h1).1, (hreq rfl h2).1, (hreq rfl h3).1, (hreq rfl h4).1, (hreq rfl h5).1,
      (hreq rfl h6).1, (hreq rfl h7).1, (hreq rfl h8).1, (hreq rfl h9).1,
      (objectMemberString_written hk rfl h11).1, (objectMemberString_written hk rfl h12).1]
    rfl
  · simpa [texts] using ⟨(hreq rfl h1).2, (hreq rfl h2).2, (hreq rfl h3).2,
      (hreq rfl h4).2, (hreq rfl h5).2, (hreq rfl h6).2, (hreq rfl h7).2, (hreq rfl h8).2,
      (hreq rfl h9).2⟩

/-- The state that is loaded is the one that was written. It may not load at all: a control byte
in an error text is enough. -/
theorem stateFromJson_stateJson (h : stateFromJson (stateJson s) = .ok s') : s' = s :=
  (stateFromJson_written h).1

/-! ### The two files and their operations -/

inductive Platform where
  | linux | windows
  deriving DecidableEq

/-- `current.json` and `activation.json`. -/
structure Files where
  current : Option Text
  activation : Option Text
  deriving DecidableEq

/-- How a call of `atomic_write` ends. Windows removes the file when the first replacement fails,
and the second may fail too. -/
inductive Write where
  | done
  | kept (error : Text)
  | lost (error : Text)
  deriving DecidableEq

variable (p : Platform)

def atomicWrite (w : Write) (content : Text) (old : Option Text) : Except Text Unit × Option Text :=
  match w, p with
  | .done, _ => (.ok (), some content)
  | .kept e, _ => (.error e, old)
  | .lost e, .linux => (.error e, old)
  | .lost e, .windows => (.error e, none)

/-- `UpgradeStateStore::load`; `unreadable` is the error of a file that cannot be opened. -/
def load (unreadable : Option Text) (f : Files) : Except Text (Option UpgradeState) :=
  match f.current, unreadable with
  | none, _ => .ok none
  | some _, some e => .error e
  | some text, none => (stateFromJson text).map some

def save (w : Write) (s : UpgradeState) (f : Files) : Except Text Unit × Files :=
  let r := atomicWrite p w (stateJson s) f.current
  (r.1, { f with current := r.2 })

/-- Any error while the record is read counts as no terminal record. -/
def activationIsTerminalFor (unreadable : Bool) (f : Files) (upgradeId : Text) : Bool :=
  match f.activation with
  | none => false
  | some text =>
    if unreadable then false
    else
      match objectMemberString text "upgrade_id", objectMemberString text "state" with
      | .ok (some id), .ok (some state) =>
        id = upgradeId && (state = "FAILED" || state = "ROLLED_BACK")
      | _, _ => false

structure Env where
  platform : Platform
  unreadable : Option Text
  activationUnreadable : Bool
  write : Write

def changedTarget : Text :=
  "coordinator repeated upgrade_id with changed immutable target fields"

/-- What `accept` does with an instruction that nothing stored stands in the way of. -/
def store (env : Env) (i : UpgradeInstruction) (build : BuildIdentity) (f : Files) :
    Except Text UpgradeState × Files :=
  match validateUpgradeInstruction i build with
  | .error e => (.error e, f)
  | .ok () =>
    let s : UpgradeState := ⟨i, .received, [], []⟩
    let r := save env.platform env.write s f
    (r.1.map fun _ => s, r.2)

/-- Whether the stored state lets another instruction take its place. -/
def replaceable (env : Env) (old : UpgradeState) (build : BuildIdentity) (f : Files) :
    Except Text Bool := do
  let oldTargetIsRunning ← instructionMatchesBuild old.instruction build
  let oldActivationIsTerminal :=
    activationIsTerminalFor env.activationUnreadable f old.instruction.upgradeId
  return old.state = .failed || oldTargetIsRunning || oldActivationIsTerminal

def accept (env : Env) (i : UpgradeInstruction) (build : BuildIdentity) (f : Files) :
    Except Text UpgradeState × Files :=
  match load env.unreadable f with
  | .error e => (.error e, f)
  | .ok none => store env i build f
  | .ok (some old) =>
    if old.instruction.upgradeId = i.upgradeId then
      match sameInstruction old.instruction i with
      | .error e => (.error e, f)
      | .ok false => (.error changedTarget, f)
      | .ok true => (.ok old, f)
    else
      match replaceable env old build f with
      | .error e => (.error e, f)
      | .ok false => (.error "another local upgrade is already active", f)
      | .ok true => store env i build f

/-- What the file system and the network decide during a download: the write of `DOWNLOADING`,
the path or the error of `download_and_verify`, the write of `VERIFIED`, and the write of
`FAILED`. -/
structure DownloadEnv where
  platform : Platform
  unreadable : Option Text
  downloading : Write
  fetched : Except Text Text
  verified : Write
  failed : Write

def UpgradeState.beginDownload (s : UpgradeState) : UpgradeState :=
  { s with state := .downloading, lastError := [] }

def UpgradeState.finishDownload (s : UpgradeState) (path : Text) : UpgradeState :=
  { s with downloadPath := path, state := .verified }

def UpgradeState.failWith (s : UpgradeState) (e : Text) : UpgradeState :=
  { s with state := .failed, lastError := e.take 1000 }

/-- The handler of the download: the error is kept, at most 1000 bytes of it. -/
def failDownload (env : DownloadEnv) (s : UpgradeState) (e : Text) (f : Files) :
    Except Text UpgradeState × Files :=
  let r := save env.platform env.failed (s.failWith e) f
  match r.1 with
  | .error e' => (.error e', r.2)
  | .ok () => (.error e, r.2)

def downloadPendingUpgrade (env : DownloadEnv) (f : Files) : Except Text UpgradeState × Files :=
  match load env.unreadable f with
  | .error e => (.error e, f)
  | .ok none => (.error "no pending upgrade instruction", f)
  | .ok (some s) =>
    if s.state = .verified then (.ok s, f)
    else if s.state = .failed then
      (.error ("pending upgrade is in FAILED state: " ++ s.lastError), f)
    else
      let s := s.beginDownload
      let r := save env.platform env.downloading s f
      match r.1, env.fetched with
      | .error e, _ => (.error e, r.2)
      | .ok (), .error e => failDownload env s e r.2
      | .ok (), .ok path =>
        let s := s.finishDownload path
        let r' := save env.platform env.verified s r.2
        match r'.1 with
        | .error e => failDownload env s e r'.2
        | .ok () => (.ok s, r'.2)

/-! ### What a call can do to the files -/

lemma toText_inj {a b : UpgradeLocalState} (h : a.toText = b.toText) : a = b := by
  have := congrArg upgradeLocalStateFromString h
  rw [upgradeLocalStateFromString_toText, upgradeLocalStateFromString_toText] at this
  exact Except.ok.inj this

lemma stateJson_inj (h : stateJson a = stateJson b) : a = b := by
  have hm : stateMembers a = stateMembers b := membersText_inj rfl (List.cons.inj h).2
  obtain ⟨⟨_, _, _, _, _, _, _, _, _⟩, _, _, _⟩ := a
  obtain ⟨⟨_, _, _, _, _, _, _, _, _⟩, _, _, _⟩ := b
  simp only [stateMembers, List.cons.injEq, Prod.mk.injEq, true_and, and_true] at hm
  obtain ⟨rfl, rfl, rfl, rfl, rfl, rfl, rfl, rfl, rfl, hstate, rfl, rfl⟩ := hm
  rw [toText_inj hstate]

def Files.Holds (f : Files) (s : UpgradeState) : Prop := f.current = some (stateJson s)

instance (f : Files) (s : UpgradeState) : Decidable (f.Holds s) :=
  inferInstanceAs (Decidable (_ = _))

variable {f f' : Files}

lemma Files.Holds.unique (ha : f.Holds a) (hb : f.Holds b) : a = b :=
  stateJson_inj (Option.some.inj (ha.symm.trans hb))

variable {u : Option Text}

lemma load_holds (hs : f.Holds s) (h : load u f = .ok (some s')) : s' = s := by
  rw [Files.Holds] at hs
  cases u with
  | some => simp [load, hs] at h
  | none =>
    simp only [load, hs] at h
    cases hj : stateFromJson (stateJson s) with
    | error => rw [hj] at h; cases h
    | ok =>
      rw [hj] at h
      cases h
      exact stateFromJson_stateJson hj

lemma load_holds_ne_none (hs : f.Holds s) : load u f ≠ .ok none := by
  rw [Files.Holds] at hs
  cases u with
  | some => simp [load, hs]
  | none => cases hj : stateFromJson (stateJson s) <;> simp [load, hs, hj, Except.map]

lemma save_cases (w : Write) (s : UpgradeState) (f : Files) :
    (save p w s f).2.current = f.current ∨ (save p w s f).2.current = none ∨
      (save p w s f).2.Holds s := by
  cases w with
  | done => exact .inr (.inr rfl)
  | kept => exact .inl rfl
  | lost =>
    cases p with
    | linux => exact .inl rfl
    | windows => exact .inr (.inl rfl)

/-! ### States that load -/

/-- Every text comes back, and none that is required is empty. -/
structure Loadable (s : UpgradeState) : Prop where
  instruction : ∀ t ∈ s.instruction.texts, ReadableText t ∧ t ≠ []
  downloadPath : ReadableText s.downloadPath
  lastError : ReadableText s.lastError

lemma objectMemberString_ok (hk : ∀ m ∈ ms, PlainKey m.1)
    (hv : ms.lookup key = some v) (hr : ReadableText v) :
    objectMemberString (objectText ms) key = .ok (some v) := by
  simp only [objectMemberString_objectText hk, readMember, hv, readValue, if_pos hr]

lemma requireMember_ok (hk : ∀ m ∈ ms, PlainKey m.1)
    (hv : ms.lookup key = some v) (hr : ReadableText v) (hne : v ≠ []) :
    requireMember (objectText ms) key = .ok v := by
  rw [requireMember, objectMemberString_ok hk hv hr]
  cases v with
  | nil => exact absurd rfl hne
  | cons => rfl

lemma stateFromJson_loadable (h : Loadable s) : stateFromJson (stateJson s) = .ok s := by
  have hk := plainKey_stateMembers s
  have hreq {key v : Text} (hv : (stateMembers s).lookup key = some v)
      (hm : v ∈ s.instruction.texts) : requireMember (stateJson s) key = .ok v :=
    requireMember_ok hk hv (h.instruction v hm).1 (h.instruction v hm).2
  have h1 := @hreq "upgrade_id" _ rfl (by simp [texts])
  have h2 := @hreq "version" _ rfl (by simp [texts])
  have h3 := @hreq "build_id" _ rfl (by simp [texts])
  have h4 := @hreq "git_commit" _ rfl (by simp [texts])
  have h5 := @hreq "os" _ rfl (by simp [texts])
  have h6 := @hreq "arch" _ rfl (by simp [texts])
  have h7 := @hreq "artifact_name" _ rfl (by simp [texts])
  have h8 := @hreq "download_url" _ rfl (by simp [texts])
  have h9 := @hreq "sha256" _ rfl (by simp [texts])
  have h10 : requireMember (stateJson s) "state" = .ok s.state.toText :=
    requireMember_ok hk rfl (by cases s.state <;> decide) (by cases s.state <;> decide)
  have h11 : objectMemberString (stateJson s) "download_path" = .ok (some s.downloadPath) :=
    objectMemberString_ok hk rfl h.downloadPath
  have h12 : objectMemberString (stateJson s) "last_error" = .ok (some s.lastError) :=
    objectMemberString_ok hk rfl h.lastError
  unfold stateFromJson
  rw [h1, h2, h3, h4, h5, h6, h7, h8, h9, h10, h11, h12]
  simp only [bind, Except.bind, upgradeLocalStateFromString_toText]
  rfl

lemma load_loadable (hs : f.Holds s) (h : Loadable s) : load none f = .ok (some s) := by
  rw [Files.Holds] at hs
  simp only [load, hs, stateFromJson_loadable h]
  rfl

/-- The instruction may take the place of whatever the file holds. -/
def MayStore (env : Env) (i : UpgradeInstruction) (build : BuildIdentity) (f : Files) : Prop :=
  ∀ old, f.Holds old → old.instruction.upgradeId ≠ i.upgradeId ∧
    replaceable env old build f = .ok true

lemma store_cases (env : Env) (i : UpgradeInstruction) (build : BuildIdentity) (f : Files) :
    (store env i build f).2.current = f.current ∨ (store env i build f).2.current = none ∨
      ((store env i build f).2.Holds ⟨i, .received, [], []⟩ ∧
        validateUpgradeInstruction i build = .ok ()) := by
  unfold store
  cases hv : validateUpgradeInstruction i build with
  | error => exact .inl rfl
  | ok =>
    rcases save_cases env.platform env.write ⟨i, .received, [], []⟩ f with h | h | h
    · exact .inl h
    · exact .inr (.inl h)
    · exact .inr (.inr ⟨h, rfl⟩)

lemma accept_cases (env : Env) (i : UpgradeInstruction) (build : BuildIdentity) (f : Files) :
    (accept env i build f).2.current = f.current ∨ (accept env i build f).2.current = none ∨
      ((accept env i build f).2.Holds ⟨i, .received, [], []⟩ ∧
        validateUpgradeInstruction i build = .ok () ∧ MayStore env i build f) := by
  have hstore (hmay : MayStore env i build f) :
      (store env i build f).2.current = f.current ∨ (store env i build f).2.current = none ∨
        ((store env i build f).2.Holds ⟨i, .received, [], []⟩ ∧
          validateUpgradeInstruction i build = .ok () ∧ MayStore env i build f) := by
    rcases store_cases env i build f with h | h | ⟨h, hv⟩
    · exact .inl h
    · exact .inr (.inl h)
    · exact .inr (.inr ⟨h, hv, hmay⟩)
  unfold accept
  cases hl : load env.unreadable f with
  | error => exact .inl rfl
  | ok loaded =>
    cases loaded with
    | none => exact hstore fun old hold => absurd hl (load_holds_ne_none hold)
    | some old =>
      by_cases hid : old.instruction.upgradeId = i.upgradeId
      · -- a repeated identifier never writes
        simp only [if_pos hid]
        split <;> exact .inl rfl
      · simp only [if_neg hid]
        split
        · exact .inl rfl
        · exact .inl rfl
        · rename_i hr
          refine hstore fun old' hold => ?_
          obtain rfl := load_holds hold hl
          exact ⟨hid, hr⟩

/-- A download rewrites the state it loaded, and never its instruction. -/
def Rewrites (u : Option Text) (f f' : Files) : Prop :=
  f'.current = f.current ∨ f'.current = none ∨
    ∃ s s', load u f = .ok (some s) ∧ s'.instruction = s.instruction ∧ f'.Holds s'

lemma rewrites_save (h : Rewrites u f f')
    (hl : load u f = .ok (some s)) (hs : s'.instruction = s.instruction) (p : Platform) (w : Write) :
    Rewrites u f (save p w s' f').2 := by
  rcases save_cases p w s' f' with hc | hc | hc
  · unfold Rewrites Files.Holds at *
    rw [hc]
    exact h
  · exact .inr (.inl hc)
  · exact .inr (.inr ⟨s, s', hl, hs, hc⟩)

lemma rewrites_failDownload {env : DownloadEnv}
    (h : Rewrites env.unreadable f f') (hl : load env.unreadable f = .ok (some s))
    (hs : s'.instruction = s.instruction) (e : Text) :
    Rewrites env.unreadable f (failDownload env s' e f').2 := by
  have hfail : (s'.failWith e).instruction = s.instruction := hs
  have hsave := rewrites_save h hl hfail env.platform env.failed
  unfold failDownload
  dsimp only
  split <;> exact hsave

lemma downloadPendingUpgrade_rewrites (env : DownloadEnv) (f : Files) :
    Rewrites env.unreadable f (downloadPendingUpgrade env f).2 := by
  have hsame : Rewrites env.unreadable f f := .inl rfl
  unfold downloadPendingUpgrade
  cases hl : load env.unreadable f with
  | error => exact hsame
  | ok loaded =>
    cases loaded with
    | none => exact hsame
    | some s =>
      simp only
      split_ifs with hverified hfailed
      · exact hsame
      · exact hsame
      · have hbegin : s.beginDownload.instruction = s.instruction := rfl
        have h1 := rewrites_save hsame hl hbegin env.platform env.downloading
        split
        · exact h1
        · exact rewrites_failDownload h1 hl hbegin _
        · rename_i path _ _
          have hfinish : (s.beginDownload.finishDownload path).instruction = s.instruction := rfl
          have h2 := rewrites_save h1 hl hfinish env.platform env.verified
          split
          · exact rewrites_failDownload h2 hl hfinish _
          · exact h2

/-! ### Runs -/

inductive Call where
  | accept (env : Env) (i : UpgradeInstruction) (build : BuildIdentity)
  | download (env : DownloadEnv)
  /-- The activation record becomes any text, or goes. -/
  | activation (content : Option Text)

def step (f : Files) : Call → Files
  | .accept env i build => (accept env i build f).2
  | .download env => (downloadPendingUpgrade env f).2
  | .activation content => { f with activation := content }

/-- The file holds only what an accepted call of `w` validated. -/
def Validated (w : List Call) (f : Files) : Prop :=
  f.current = none ∨ ∃ s env build, f.Holds s ∧ Call.accept env s.instruction build ∈ w ∧
    validateUpgradeInstruction s.instruction build = .ok ()

lemma Validated.of_current {w : List Call} (h : Validated w f)
    (hc : f'.current = f.current) : Validated w f' := by
  unfold Validated Files.Holds at *
  rw [hc]
  exact h

lemma step_validated {w : List Call} {c : Call} (h : Validated w f) (hc : c ∈ w) :
    Validated w (step f c) := by
  cases c with
  | accept env i build =>
    rcases accept_cases env i build f with hs | hs | ⟨hs, hv, -⟩
    · exact h.of_current hs
    · exact .inl hs
    · exact .inr ⟨_, env, build, hs, hc, hv⟩
  | download env =>
    rcases downloadPendingUpgrade_rewrites env f with hs | hs | ⟨s, s', hl, hi, hs⟩
    · exact h.of_current hs
    · exact .inl hs
    · rcases h with h | ⟨s₀, env₀, build, hs₀, hmem, hv⟩
      · simp [load, h] at hl
      · obtain rfl := load_holds hs₀ hl
        exact .inr ⟨s', env₀, build, hs, hi ▸ hmem, hi ▸ hv⟩
  | activation => exact h.of_current rfl

/-- The call replaces the stored state by one with another identifier only from a state that
lets go: failed, running already, or with a terminal activation record. -/
def ReplacesOnlyFinished (f : Files) (c : Call) : Prop :=
  ∀ old new, f.Holds old → (step f c).Holds new →
    new.instruction.upgradeId ≠ old.instruction.upgradeId →
    ∃ env build, c = .accept env new.instruction build ∧
      (old.state = .failed ∨ instructionMatchesBuild old.instruction build = .ok true ∨
        activationIsTerminalFor false f old.instruction.upgradeId = true)

/-- An accepted identifier with another target is refused, and nothing is written. -/
def RefusesChangedTarget (f : Files) (c : Call) : Prop :=
  ∀ env i build old, c = .accept env i build → f.Holds old →
    i.upgradeId = old.instruction.upgradeId → ¬ SameTarget old.instruction i →
    (∃ e, (accept env i build f).1 = .error e) ∧ (accept env i build f).2 = f

lemma activationIsTerminalFor_readable {u : Bool}
    (h : activationIsTerminalFor u f id = true) : activationIsTerminalFor false f id = true := by
  cases u with
  | false => exact h
  | true => cases ha : f.activation <;> simp [activationIsTerminalFor, ha] at h

lemma replaceable_true {env : Env} {build : BuildIdentity}
    (h : replaceable env old build f = .ok true) :
    old.state = .failed ∨ instructionMatchesBuild old.instruction build = .ok true ∨
      activationIsTerminalFor false f old.instruction.upgradeId = true := by
  obtain ⟨running, hrun, h⟩ := bind_eq_ok h
  have h := Except.ok.inj h
  simp only [Bool.or_eq_true, decide_eq_true_eq] at h
  rcases h with (h | rfl) | h
  · exact .inl h
  · exact .inr (.inl hrun)
  · exact .inr (.inr (activationIsTerminalFor_readable h))

lemma step_replacesOnlyFinished (f : Files) (c : Call) : ReplacesOnlyFinished f c := by
  intro old new hold hnew hne
  -- a call that leaves the text alone, or takes it away, has not replaced anything
  have hsame : (step f c).current ≠ f.current := fun hc =>
    hne (by rw [Files.Holds.unique hnew (hc.trans hold)])
  have hnone : (step f c).current ≠ none := fun hc => by
    rw [Files.Holds, hc] at hnew
    cases hnew
  cases c with
  | accept env i build =>
    rcases accept_cases env i build f with hs | hs | ⟨hs, -, hmay⟩
    · exact absurd hs hsame
    · exact absurd hs hnone
    · obtain rfl := Files.Holds.unique hnew hs
      exact ⟨env, build, rfl, replaceable_true (hmay old hold).2⟩
  | download env =>
    rcases downloadPendingUpgrade_rewrites env f with hs | hs | ⟨s, s', hl, hi, hs⟩
    · exact absurd hs hsame
    · exact absurd hs hnone
    · obtain rfl := Files.Holds.unique hnew hs
      obtain rfl := load_holds hold hl
      exact absurd (by rw [hi]) hne
  | activation => exact absurd rfl hsame

lemma step_refusesChangedTarget (f : Files) (c : Call) : RefusesChangedTarget f c := by
  rintro env i build old - hold hid hchanged
  unfold accept
  cases hl : load env.unreadable f with
  | error e => exact ⟨⟨e, rfl⟩, rfl⟩
  | ok loaded =>
    cases loaded with
    | none => exact absurd hl (load_holds_ne_none hold)
    | some =>
      obtain rfl := load_holds hold hl
      simp only [if_pos hid.symm]
      split
      · exact ⟨⟨_, rfl⟩, rfl⟩
      · exact ⟨⟨_, rfl⟩, rfl⟩
      · rename_i hsame
        exact absurd (sameInstruction_true hsame) hchanged

/-- **The stored instruction.** Along every run that starts without a state file, it gives way to
another identifier only when it is finished, a repeated identifier with another target is refused
and writes nothing, and what is stored has passed the validation of an accepted call. -/
theorem stored_instruction_guarded (activation : Option Text) (w : List Call) :
    Run.Along step (fun f c => ReplacesOnlyFinished f c ∧ RefusesChangedTarget f c)
        ⟨none, activation⟩ w ∧
      ∀ s, (Run.run step ⟨none, activation⟩ w).Holds s →
        ∃ env build, Call.accept env s.instruction build ∈ w ∧
          validateUpgradeInstruction s.instruction build = .ok () := by
  have hlabels : Run.Along step (fun _ c => c ∈ w) ⟨none, activation⟩ w :=
    Run.along_of_mem fun _ h => h
  refine ⟨Run.along_of_inv (I := fun _ => True) (fun f c _ _ => ⟨trivial,
    step_replacesOnlyFinished f c, step_refusesChangedTarget f c⟩) trivial hlabels, ?_⟩
  intro s hs
  have hv : Validated w (Run.run step ⟨none, activation⟩ w) :=
    Run.inv_run (fun _ _ h hc => step_validated h hc) (.inl rfl) hlabels
  rcases hv with hnone | ⟨s', env, build, hs', hmem, hvalid⟩
  · rw [Files.Holds, hnone] at hs
    cases hs
  · obtain rfl := Files.Holds.unique hs hs'
    exact ⟨env, build, hmem, hvalid⟩

/-! ### Small runs -/

def sampleBuild : BuildIdentity :=
  ⟨"1.0", "b1", List.replicate 40 'b', "linux", "x64", []⟩

def sampleInstruction : UpgradeInstruction :=
  ⟨"00000000-0000-0000-0000-000000000001", "2.0", "b2", List.replicate 40 'a',
    "linux", "x64", "agent.tgz", "https://github.com/agent.tgz",
    List.replicate 64 '0'⟩

def sampleEnv : Env := ⟨.linux, none, false, .done⟩

/-- The hash of a repeated instruction may carry a `sha256:` in front: the comparison takes it
off, as it takes off white space. -/
theorem repeated_hash_spelled_otherwise :
    let f := Run.run step ⟨none, none⟩ [.accept sampleEnv sampleInstruction sampleBuild]
    let i := { sampleInstruction with sha256 := "sha256:" ++ sampleInstruction.sha256 }
    f.Holds ⟨sampleInstruction, .received, [], []⟩ ∧
      lower i.sha256 ≠ lower sampleInstruction.sha256 ∧
      (accept sampleEnv i sampleBuild f).1 = .ok ⟨sampleInstruction, .received, [], []⟩ := by
  decide +kernel

/-- A failed download makes room for another instruction. -/
theorem stored_instruction_guarded_replaced :
    let second := { sampleInstruction with
      upgradeId := "00000000-0000-0000-0000-000000000002" }
    let w := [Call.accept sampleEnv sampleInstruction sampleBuild,
      .download ⟨.linux, none, .done, .error "offline", .done, .done⟩,
      .accept sampleEnv second sampleBuild]
    ∃ env build, Call.accept env second build ∈ w ∧
      validateUpgradeInstruction second build = .ok () := by
  intro second w
  exact (stored_instruction_guarded none w).2 ⟨second, .received, [], []⟩ (by decide +kernel)

end NetaAgent.Upgrade
