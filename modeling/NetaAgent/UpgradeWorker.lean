import NetaAgent.UpgradeDisk

/-!
`run_upgrade_worker` as a process on the disk: the download, the extraction of a version, the
switch to it, and the handler that rolls the switch back.

Progress reports to the coordinator have no effect on the disk and their errors are ignored, so
they are not operations here. What unpacking an archive gives is left open.
-/

namespace NetaAgent.UpgradeWorker

open Decimal Upgrade UpgradeJson NetaAgent.Process

structure Options where
  platform : Platform
  stateDir : Text
  installRoot : Text
  maxBytes : ℕ

/-- What is outside the agent: the digest, and what an archive unpacks to. -/
structure World where
  sha : Crypto.Sha256
  unpack : Text → Tree

/-! ### Reading and writing the two records -/

variable (o : Options) (world : World) (i : UpgradeInstruction) (r : UpgradeActivationRecord)

def saveActivation : Worker Unit :=
  atomicWrite o.platform .activation (activationJson r)

def saveState (s : UpgradeState) : Worker Unit := atomicWrite o.platform .current (stateJson s)

def loadState : Worker (Option UpgradeState) := look (.read .current) fun s => load none s.files

/-! ### The download -/

def downloadPath : Text :=
  o.stateDir ++ "/upgrade/downloads/" ++ i.upgradeId ++ "/" ++ i.artifactName

def sizeLimit : Text := "upgrade artifact exceeds configured size limit"

/-- `verify_file` against a hash that is normalized already. -/
def verifyFile (path expected : Text) : Worker Unit :=
  look .verify fun s =>
    match s.downloads path with
    | none => .error ("cannot open downloaded upgrade artifact: " ++ path)
    | some bytes =>
      if o.maxBytes < bytes.length then .error sizeLimit
      else if Crypto.sha256Hex world.sha bytes ≠ expected then
        .error "downloaded upgrade artifact SHA-256 mismatch"
      else .ok ()

def Disk.setDownload (s : Disk) (path : Text) (content : Option Text) : Disk :=
  { s with downloads := Function.update s.downloads path content }

/-- The rename of the verified part file, with the second try of Windows. -/
def finishPart (part final body : Text) : Worker Unit := do
  let rename (s : Disk) : Disk := (s.setDownload final (some body)).setDownload part none
  match ← reporting .download rename, o.platform with
  | none, _ => pure ()
  | some e, .linux => throwing e
  | some _, .windows =>
    attempt .download fun s => s.setDownload final none
    effect .download fun _ => rename

/-- Whether the file is there already and verifies; one that does not is removed. -/
def reuseDownload (final expected : Text) : Worker Bool := do
  match ← look .download fun s => .ok (s.downloads final) with
  | none => pure false
  | some _ =>
    (do verifyFile o world final expected; pure true : Worker Bool).handle fun _ => do
      effect .download fun _ s => s.setDownload final none
      pure false

/-- The artifact is fetched into a part file, verified there and renamed. -/
def fetchArtifact (final expected : Text) : Worker Unit := do
  let part := final ++ ".part"
  let body ← Proc.act .download fun d s =>
    (match d.fails with | some e => .error e | none => .ok d.fetched, s)
  effect .download fun _ s => s.setDownload part (some body)
  (do verifyFile o world part expected; finishPart o part final body : Worker Unit).handle fun e => do
    effect .download fun _ s => s.setDownload part none
    throwing e

def downloadAndVerify : Worker Text := do
  Proc.lift (validateArtifactName i.artifactName)
  let _ ← Proc.lift (parseTrustedHttpsUrl i.downloadUrl)
  let expected ← Proc.lift (normalizeSha256 i.sha256)
  effect .download fun _ s => s
  match ← reuseDownload o world (downloadPath o i) expected with
  | true => pure (downloadPath o i)
  | false => do
    fetchArtifact o world (downloadPath o i) expected
    pure (downloadPath o i)

def downloadPending : Worker UpgradeState := do
  match ← loadState with
  | none => throwing "no pending upgrade instruction"
  | some s =>
    if s.state = .verified then pure s
    else if s.state = .failed then
      throwing ("pending upgrade is in FAILED state: " ++ s.lastError)
    else do
      let s := s.beginDownload
      saveState o s
      let path ← (downloadAndVerify o world s.instruction).handle fun e => do
        saveState o (s.failWith e)
        throwing e
      let s := s.finishDownload path
      (saveState o s).handle fun e => do
        saveState o (s.failWith e)
        throwing e
      pure s

/-! ### The version directory -/

def safeToken (value : Text) : Bool :=
  value ≠ [] && value.length ≤ 128 &&
    value.all fun c => c.isAlphanum || c = '.' || c = '_' || c = '-'

def Disk.setVersion (s : Disk) (name : Text) (t : Option Tree) : Disk :=
  { s with versions := Function.update s.versions name t }

def stagingName : Text := ".staging-" ++ i.upgradeId

/-- An operation that is not atomic: it first leaves anything, and then either throws and leaves
anything again, or is complete. -/
def gradual (l : Op) (torn : Tree → Disk → Disk) (whole : Disk → Disk) : Worker Unit := do
  Proc.act l fun d s => (.ok (), torn d.left s)
  Proc.act l fun d s =>
    match d.fails with
    | some e => (.error e, torn d.left s)
    | none => (.ok (), whole s)

/-- `remove_all` of a version directory; of one that does not exist it does nothing. -/
def removeVersion (name : Text) : Worker Unit :=
  gradual .versions
    (fun left s => if s.versions name = none then s else s.setVersion name (some left))
    fun s => s.setVersion name none

def suffixAllowed : Bool :=
  match o.platform with
  | .windows => ".zip" <:+ i.artifactName
  | .linux => ".tar.gz" <:+ i.artifactName || ".tgz" <:+ i.artifactName

def suffixError : Text :=
  match o.platform with
  | .windows => "Windows upgrade package must be a .zip archive"
  | .linux => "Linux upgrade package must be a .tar.gz archive"

def getVersion (name : Text) : Worker (Option Tree) := look .versions fun s => .ok (s.versions name)

/-- `tar` on the downloaded file, as it is at that moment. -/
def unpackInto (staging path : Text) : Worker Unit := do
  match ← look .unpack fun s => .ok (s.downloads path) with
  | none => throwing "failed to extract upgrade package"
  | some bytes =>
    gradual .unpack (fun left s => s.setVersion staging (some left))
      fun s => s.setVersion staging (some (world.unpack bytes))

/-- The package root becomes the version directory: by a rename, or else by a copy into it. What
the rename leaves of the staging directory is removed next and read by nobody. -/
def installPackage (staging name : Text) (root : Tree) : Worker Unit := do
  match ← reporting .moveVersion fun s =>
      (s.setVersion staging none).setVersion name (some root) with
  | none => pure ()
  | some _ =>
    effect .copyVersion fun _ s => s.setVersion name (some [])
    gradual .copyVersion (fun left s => s.setVersion name (some left))
      fun s => s.setVersion name (some root)

/-- The version directory is built from the archive, in a staging directory of its own. -/
def buildVersion (s : UpgradeState) : Worker Unit := do
  let name := s.instruction.buildId
  let staging := stagingName s.instruction
  effect .versions fun _ s => s
  removeVersion staging
  effect .versions fun _ s => s.setVersion staging (some [])
  if ¬ suffixAllowed o s.instruction then throwing (suffixError o)
  else do
    unpackInto world staging s.downloadPath
    let unpacked ← getVersion staging
    let root ← Proc.lift (packageRoot o.platform (unpacked.getD []))
    installPackage staging name root
    removeVersion staging

def extractVersion (s : UpgradeState) : Worker Unit := do
  if ¬ safeToken s.instruction.buildId then
    throwing "upgrade build_id is unsafe for versioned installation"
  else do
    let expected ← Proc.lift (normalizeSha256 s.instruction.sha256)
    verifyFile o world s.downloadPath expected
    match ← getVersion s.instruction.buildId with
    | some t => do
      -- a directory with this name is taken as it is
      let _ ← Proc.lift (findPackagedAgent o.platform t)
      pure ()
    | none => do
      buildVersion o world s
      let built ← getVersion s.instruction.buildId
      let _ ← Proc.lift (findPackagedAgent o.platform (built.getD []))
      pure ()

/-! ### The switch -/

def targetPath : Text :=
  o.installRoot ++ "/versions/" ++ i.buildId

def linkTarget : Text := "versions/" ++ i.buildId

def stopService : Worker Unit :=
  match o.platform with
  | .linux => attempt .stop fun s => { s with service := false }
  | .windows => effect .stop fun _ s => { s with service := false }

def startService : Worker Unit := effect .start fun _ s => { s with service := true }

/-- The old target, if there is one, is kept under `previous`; the rename's error is ignored. -/
def keepLink (old : Text) : Worker Unit :=
  if old = [] then pure ()
  else do
    effect .keepPrevious fun _ s => s
    attempt .keepPrevious fun s => { s with previous := .link old }

/-- Linux: the links are made aside and renamed into place. -/
def activateLinux : Worker Text := do
  let old ← Proc.act .switch fun d s =>
    (.ok (match s.current with | .link t => if d.holds then t else [] | _ => []), s)
  keepLink old
  effect .switch fun _ s => s
  effect .switch fun _ s => { s with current := .link (linkTarget i) }
  pure old

def keepDirectory (present : Bool) : Worker Unit :=
  if present then
    effect .keepPrevious fun _ s => { s with previous := s.current, current := .missing }
  else pure ()

/-- Windows: the current directory moves aside and the version is copied into its place. -/
def activateWindows : Worker Text := do
  gradual .removePrevious
    (fun left s => if s.previous = .missing then s else { s with previous := .dir left })
    fun s => { s with previous := .missing }
  let present ← look .keepPrevious fun s => .ok (decide (s.current ≠ .missing))
  keepDirectory present
  let tree ← look .switch fun s => .ok (s.versions i.buildId)
  gradual .switch (fun left s => { s with current := .dir left })
    fun s => { s with current := .dir (tree.getD []) }
  pure (if present then o.installRoot ++ "\\current" else [])

def activateVersion : Worker Text :=
  match o.platform with
  | .linux => activateLinux i
  | .windows => activateWindows o i

def rollbackVersion : Worker Unit :=
  match o.platform with
  | .linux =>
    if r.previousTarget = [] then throwing "no previous Linux version available"
    else do
      effect .rollback fun _ s => s
      effect .rollback fun _ s => { s with current := .link r.previousTarget }
  | .windows => do
    let present ← look .rollback fun s => .ok (decide (s.previous ≠ .missing))
    if ¬ present then throwing "no previous Windows version available"
    else do
      gradual .rollback
        (fun left s => if s.current = .missing then s else { s with current := .dir left })
        fun s => { s with current := .missing }
      effect .rollback fun _ s => { s with current := s.previous, previous := .missing }

/-! ### Health -/

def fileName (path : Text) : Text := (path.reverse.takeWhile fun c => c ≠ '/' && c ≠ '\\').reverse

def agentBytes (p : Platform) (t : Tree) : List Text :=
  (t.filter fun f => f.1.getLast? = some (agentName p)).map Prod.snd

/-- The part of `check_upgrade_health` that the disk decides. -/
def checkUpgradeHealth (s : Disk) (expected : UpgradeInstruction) : Bool :=
  match loadActivation s.files with
  | .ok (some r) =>
    let value := installedBuildValue s.conf
    let name := fileName r.activeTarget
    r.upgradeId = expected.upgradeId && (r.state = .installing || r.state = .localHealthy) &&
      value "upgrade_id" = expected.upgradeId && value "version" = expected.version &&
      value "build_id" = expected.buildId && value "git_commit" = expected.gitCommit &&
      value "artifact_sha256" = expected.sha256 && name = expected.buildId &&
      match s.versions name with
      | none => false
      | some t =>
        (findPackagedAgent o.platform t).isOk &&
          match o.platform, s.current with
          | .linux, .link target => target = linkTarget expected
          | .windows, .dir t' => agentBytes .windows t = agentBytes .windows t'
          | _, _ => false
  | _ => false

/-- `wait_for_health`. The decision says whether the service is seen running with its identity
files before the timeout. -/
def waitForHealth (expected : UpgradeInstruction) : Worker Unit :=
  .act .health fun d s =>
    (if d.holds && checkUpgradeHealth o s expected then .ok ()
      else .error "new agent did not become locally healthy before timeout", s)

/-! ### The worker -/

def bounded (value : Text) (max : ℕ) : Text := value.take max

def failureMessageMax : ℕ := 1000

/-- The handler's attempt to go back to the version before. -/
def rollBack : Worker UpgradeActivationRecord := do
  stopService o
  rollbackVersion o r
  startService
  pure { r with state := .rolledBack, failureCode := "ROLLED_BACK_AFTER_FAILURE" }

def rollbackFailed (error rollback : Text) : UpgradeActivationRecord :=
  { r with
    failureCode := "ROLLBACK_FAILED"
    failureMessage := bounded (error ++ "; rollback: " ++ rollback) failureMessageMax }

/-- The handler inside the handler: the switch is undone, or the record says that it could not
be. A save that throws after the switch was undone finds the record marked as rolled back. -/
def undo (error : Text) : Worker Unit := do
  let report (r : UpgradeActivationRecord) (e : Text) : Worker Unit :=
    saveActivation o (rollbackFailed r error e)
  let back ← (some <$> rollBack o r).handle fun e => do
    report r e
    pure none
  match back with
  | none => pure ()
  | some r' => (saveActivation o r').handle (report r')

def failedRecord (error : Text) : UpgradeActivationRecord :=
  { r with
    state := .failed
    failureCode := "HEALTH_OR_ACTIVATION_FAILED"
    failureMessage := bounded error failureMessageMax }

/-- The `catch` of the worker: it rethrows what it caught, unless a save throws first. -/
def recover {α : Type} (attempted : Bool) (error : Text) : Worker α := Proc.relabel .back do
  saveActivation o (failedRecord r error)
  (if attempted then undo o (failedRecord r error) error else pure ())
  throwing error

def verifiedState (s : UpgradeState) : Worker UpgradeState :=
  if s.state = .verified then pure s else downloadPending o world

def prepare (s : UpgradeState) (r : UpgradeActivationRecord) : Worker UpgradeState := do
  let s ← verifiedState o world s
  saveActivation o r
  extractVersion o world s
  pure s

def settle : Worker Unit := do
  atomicWrite o.platform .conf (writeInstalledBuild i)
  saveActivation o r
  startService
  waitForHealth o i
  saveActivation o { r with state := .localHealthy, failureCode := [], failureMessage := [] }

def newRecord (s : UpgradeState) : UpgradeActivationRecord :=
  ⟨s.instruction.upgradeId, .installing, o.installRoot, [], [], [], []⟩

/-- The `try` is cut where what its handler finds changes: the active target is known once the
version is there, the switch counts as begun once the service is stopped, and the previous target
is known once the switch is made. -/
def runUpgradeWorker : Worker Unit := do
  match ← loadState with
  | none => throwing "no pending upgrade instruction"
  | some s =>
    let s' ← (prepare o world s (newRecord o s)).handle (recover o (newRecord o s) false)
    let r := { newRecord o s with activeTarget := targetPath o s'.instruction }
    (stopService o).handle (recover o r false)
    let previous ← (activateVersion o s'.instruction).handle (recover o r true)
    let r := { r with previousTarget := previous }
    (settle o s'.instruction r).handle (recover o r true)

/-! ### The two commands -/

/-- `snapshot_installed_metadata`. -/
def snapshotInstalledMetadata : Worker Unit := do
  effect .snapshot fun _ s => s
  effect .snapshot fun _ s => { s with backup := none }
  effect .snapshot fun _ s => { s with absent := false }
  effect .snapshot fun _ s =>
    match s.conf with
    | some text => { s with backup := some text }
    | none => { s with absent := true }

/-- `restore_metadata_after_rollback`. -/
def restoreMetadataAfterRollback : Worker Unit :=
  effect .restore fun _ s =>
    match s.backup with
    | some text => { s with conf := some text }
    | none => if s.absent then { s with conf := none } else s

/-- The `catch` of the updater: its own errors are only printed. -/
def restoreIfRolledBack : Worker Unit :=
  (do
    let record ← look (.read .activation) fun s => loadActivation s.files
    match record with
    | some r => if r.state = .rolledBack then restoreMetadataAfterRollback else pure ()
    | none => pure () : Worker Unit).handle fun _ => pure ()

/-- `reconcile_linux_systemd_units`, which Windows does not have. -/
def reconcile : Worker Unit :=
  match o.platform with
  | .linux => effect .snapshot fun _ s => s
  | .windows => pure ()

/-- `neta-agent-updater apply`: on Linux the units are reconciled first, and then the timeout is
checked; both may throw before anything is saved. -/
def apply : Worker Unit :=
  (do
    reconcile o
    effect .snapshot fun _ s => s
    snapshotInstalledMetadata
    runUpgradeWorker o world : Worker Unit).handle fun e => do
      restoreIfRolledBack
      throwing e

/-- `neta-agent fleet upgrade-run`. -/
def upgradeRun : Worker Unit := do
  effect .snapshot fun _ s => s
  runUpgradeWorker o world

end NetaAgent.UpgradeWorker
