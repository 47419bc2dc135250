import NetaAgent.FileOperations
import NetaAgent.LineFile
import NetaAgent.UpgradeActivation

/-!
Enrolment: the agent makes a key, has it certified by the coordinator, and writes the identity
files one after the other, the key first.

`enroll` is a program over the files of the state directory with one operation for every call that
can fail. The key is also what it refuses to overwrite, so from the moment the key is in place until
the configuration is, the directory holds no identity that loads and admits no second attempt.
-/

namespace NetaAgent.Enrollment

open Decimal Search Upgrade NetaAgent.Process FileOperations LineFile List Proc

/-! ### The coordinator's answer -/

/-- The rest of a JSON string, up to its closing quote. -/
def readString : Text → Except Text Text
  | [] => .error "unterminated JSON string in coordinator response"
  | ['\\'] => .error "unterminated JSON string in coordinator response"
  | '\\' :: e :: r =>
    match UpgradeJson.unescapeChar e with
    | none => .error "unsupported JSON escape in coordinator response"
    | some c => (readString r).map (c :: ·)
  | c :: r => if c = '"' then .ok [] else (readString r).map (c :: ·)

/-- The string after the first occurrence of the key and the next colon; empty if there is none. -/
def jsonStringValue (text key : Text) : Except Text Text :=
  match (after ('"' :: key ++ ['"']) text).bind (after [':']) with
  | none => .ok []
  | some r =>
    match r.dropWhile isSpace with
    | '"' :: r => readString r
    | _ => .ok []

structure EnrollmentOptions where
  coordinator : Text
  fleetId : Text := "fleet-dev"
  fleetCa : Text
  token : Text
  stateDir : Text

structure FleetIdentity where
  coordinator : Text
  fleetId : Text
  agentId : Text
  certificateSha256 : Text
  stateDir : Text
  deriving DecidableEq

/-- The identity and the certificate chain of an answer. -/
def enrollmentAnswer (o : EnrollmentOptions) (body : Text) : Except Text (FleetIdentity × Text) := do
  let fleetId ← jsonStringValue body "fleetId"
  let agentId ← jsonStringValue body "agentId"
  let certificateSha256 ← jsonStringValue body "certificateSha256"
  let chain ← jsonStringValue body "agentCertificateChainPem"
  if agentId = [] ∨ certificateSha256 = [] ∨ chain = [] then
    .error "coordinator enrollment response is incomplete"
  else if fleetId ≠ o.fleetId then
    .error "coordinator enrollment response fleet mismatch"
  else .ok (⟨o.coordinator, fleetId, agentId, certificateSha256, o.stateDir⟩, chain)

/-! ### The configuration -/

def configLine (key value : Text) : Text := key ++ '=' :: value

variable (i : FleetIdentity) (stateDir : Text)

def identityLines : List Text :=
  [configLine "coordinator" i.coordinator, configLine "fleet_id" i.fleetId,
    configLine "agent_id" i.agentId,
    configLine "certificate_sha256" i.certificateSha256]

def identityConfig : Text := (identityLines i).flatMap (· ++ ['\n'])

def configValue (text key : Text) : Text := valueFor id text key

inductive IdentityFile where
  | agentKey
  | certificate
  | fleetCa
  | identityConf
  | sequence
  deriving DecidableEq

def IdentityFile.name : IdentityFile → Text
  | .agentKey => "agent.key"
  | .certificate => "agent.crt"
  | .fleetCa => "fleet-ca.crt"
  | .identityConf => "identity.conf"
  | .sequence => "sequence"

def loadIdentity (files : IdentityFile → Option Text) : Except Text FleetIdentity :=
  match files .identityConf with
  | none => .error ("cannot open " ++ stateDir ++ '/' :: IdentityFile.identityConf.name)
  | some config =>
    let identity : FleetIdentity :=
      ⟨configValue config "coordinator", configValue config "fleet_id",
        configValue config "agent_id", configValue config "certificate_sha256",
        stateDir⟩
    if identity.coordinator = [] ∨ identity.fleetId = [] ∨ identity.agentId = [] ∨
        identity.certificateSha256 = [] then
      .error "fleet identity configuration is incomplete"
    else .ok identity

def requireIdentityFiles (files : IdentityFile → Option Text) : Except Text Unit :=
  match [IdentityFile.identityConf, .certificate, .agentKey, .fleetCa].find?
      fun f => (files f).isNone with
  | some f => .error ("fleet identity file missing: " ++ f.name)
  | none => (loadIdentity stateDir files).map fun _ => ()

/-! ### Enrolment -/

inductive Op where
  | fleetCaExists
  | keyExists
  | createDirectories
  | protect
  | generateKey
  | post
  | verify
  | write (f : IdentityFile) (call : WriteCall)
  | readFleetCa
  deriving DecidableEq

structure Reply where
  found : Bool := false
  keyPem : Text := []
  status : ℕ := 0
  body : Text := []
  fleetCa : Text := []

abbrev Enroll := Program IdentityFile Reply Op

def writeFile (f : IdentityFile) (content : Text) : Enroll Unit := do
  writeTemporary (.write f .write) f content
  (effect (.write f .permissions) id).handle fun _ => do
    effect (.write f .removeTemporary) fun s => s.put (.temporary f) none
    .fail ("chmod failed for " ++ stateDir ++ '/' :: f.name ++ ".tmp")
  effect (.write f .rename) (Disk.replaced f)

def writeIdentity (keyPem chain : Text) (identity : FleetIdentity) : Enroll FleetIdentity := do
  writeFile identity.stateDir .agentKey keyPem
  writeFile identity.stateDir .certificate chain
  let reply ← ask .readFleetCa
  writeFile identity.stateDir .fleetCa reply.fleetCa
  writeFile identity.stateDir .identityConf (identityConfig identity)
  writeFile identity.stateDir .sequence "0\n"
  return identity

/-- From the free state directory to the written identity. -/
def requestIdentity (o : EnrollmentOptions) : Enroll FleetIdentity := do
  effect .createDirectories id
  effect .protect id
  let key ← ask .generateKey
  let response ← ask .post
  if response.status ≠ 201 then
    .fail ("enrollment failed with HTTP " ++ decimal response.status ++ ": " ++
      response.body)
  else
    let answer ← .lift (enrollmentAnswer o response.body)
    effect .verify id
    writeIdentity key.keyPem answer.2 answer.1

def checkOptions (o : EnrollmentOptions) : Except Text Unit :=
  if o.coordinator = [] then .error "--coordinator is required"
  else if o.fleetCa = [] then .error "--fleet-ca is required"
  else if o.token = [] then .error "--token is required"
  else .ok ()

def enroll (o : EnrollmentOptions) : Enroll FleetIdentity := do
  .lift (checkOptions o)
  let ca ← ask .fleetCaExists
  if ¬ ca.found then .fail "Fleet CA file does not exist"
  else
    let enrolled ← look .keyExists fun s => (shown s .agentKey).isSome
    if enrolled then .fail ("fleet identity already exists in " ++ o.stateDir)
    else requestIdentity o

/-! ### The identity is read back -/

def identityEntries : List (Text × Text) :=
  [("coordinator", i.coordinator), ("fleet_id", i.fleetId),
    ("agent_id", i.agentId), ("certificate_sha256", i.certificateSha256)]

lemma identityConfig_eq : identityConfig i = fileText (identityEntries i) := rfl

lemma keys_identityEntries : Keys (identityEntries i) := by
  have hkeys : ∀ k ∈ (identityEntries i).map Prod.fst, '=' ∉ k ∧ '\n' ∉ k := by
    simp only [identityEntries, map_cons, map_nil]
    decide +kernel
  refine ⟨fun p hp => hkeys p.1 (mem_map_of_mem hp), ?_⟩
  simp only [identityEntries, map_cons, map_nil]
  decide +kernel

lemma configValues_iff : (configValue (identityConfig i) "coordinator" = i.coordinator ∧
      configValue (identityConfig i) "fleet_id" = i.fleetId ∧
      configValue (identityConfig i) "agent_id" = i.agentId ∧
      configValue (identityConfig i) "certificate_sha256" = i.certificateSha256) ↔
    ∀ v ∈ [i.coordinator, i.fleetId, i.agentId, i.certificateSha256], '\n' ∉ v := by
  have h := values_iff cutsEnd_id (keys_identityEntries i)
  rw [← identityConfig_eq] at h
  simp only [identityEntries, configValue, id_eq, and_true, forall_mem_cons,
    not_mem_nil, false_implies, implies_true] at h ⊢
  exact h

structure FleetIdentity.Legible (i : FleetIdentity) : Prop where
  fleetId : i.fleetId ≠ []
  singleLines : ∀ v ∈ [i.coordinator, i.fleetId, i.agentId, i.certificateSha256], '\n' ∉ v

lemma FleetIdentity.legible_iff : (i.fleetId ≠ [] ∧
      ∀ v ∈ [i.coordinator, i.fleetId, i.agentId, i.certificateSha256], '\n' ∉ v) ↔ i.Legible :=
  ⟨fun h => ⟨h.1, h.2⟩, fun h => ⟨h.1, h.2⟩⟩

instance (i : FleetIdentity) : Decidable i.Legible := decidable_of_iff _ i.legible_iff

lemma requireIdentityFiles_isOk {stateDir : Text} {files : IdentityFile → Option Text}
    {i : FleetIdentity} (hi : i.Legible) (hcoordinator : i.coordinator ≠ [])
    (hagent : i.agentId ≠ []) (hcertificate : i.certificateSha256 ≠ [])
    (hconf : files .identityConf = some (identityConfig i)) (hkey : (files .agentKey).isSome)
    (hchain : (files .certificate).isSome) (hca : (files .fleetCa).isSome) :
    (requireIdentityFiles stateDir files).isOk = true := by
  obtain ⟨h1, h2, h3, h4⟩ := (configValues_iff i).mpr hi.singleLines
  have hload : loadIdentity stateDir files =
      .ok ⟨i.coordinator, i.fleetId, i.agentId, i.certificateSha256, stateDir⟩ := by
    simp only [loadIdentity, hconf, h1, h2, h3, h4, hcoordinator, hi.fleetId, hagent,
      hcertificate, or_self, if_false]
  have hthere : [IdentityFile.identityConf, .certificate, .agentKey, .fleetCa].find?
      (fun f => (files f).isNone) = none := by
    rw [find?_eq_none]
    rw [Option.isSome_iff_ne_none] at hkey hchain hca
    simp [hconf, hkey, hchain, hca]
  simp only [requireIdentityFiles, hthere, hload]
  rfl

variable {o : EnrollmentOptions}

lemma enrollmentAnswer_ok {body : Text} {r : FleetIdentity × Text}
    (h : enrollmentAnswer o body = .ok r) :
    r.1.coordinator = o.coordinator ∧ r.1.agentId ≠ [] ∧ r.1.certificateSha256 ≠ [] ∧
      r.1.stateDir = o.stateDir := by
  simp only [enrollmentAnswer] at h
  obtain ⟨fleetId, -, h⟩ := bind_eq_ok h
  obtain ⟨agentId, -, h⟩ := bind_eq_ok h
  obtain ⟨certificate, -, h⟩ := bind_eq_ok h
  obtain ⟨chain, -, h⟩ := bind_eq_ok h
  split at h
  · cases h
  · next hcomplete =>
    split at h
    · cases h
    · cases h
      rw [not_or, not_or] at hcomplete
      exact ⟨rfl, hcomplete.1, hcomplete.2.1, rfl⟩

/-! ### What is left behind -/

/-- `enroll` refuses a directory with a key. -/
def refused (files : IdentityFile → Option Text) : Bool := (files .agentKey).isSome

/-- The identity is complete, or the next enrolment is not refused on account of this one. -/
def Recoverable (before after : IdentityFile → Option Text) : Prop :=
  (requireIdentityFiles stateDir after).isOk = true ∨
    (refused after = true → refused before = true)

/-- The key is in place and the configuration is not when this operation is next. -/
def Op.between : Op → Bool
  | .write .certificate _ => true
  | .readFleetCa => true
  | .write .fleetCa _ => true
  | .write .identityConf _ => true
  | _ => false

def LegibleAnswer (o : EnrollmentOptions) (body : Text) : Prop :=
  ∀ r ∈ (enrollmentAnswer o body).toOption, r.1.Legible

instance (o : EnrollmentOptions) (body : Text) : Decidable (LegibleAnswer o body) :=
  inferInstanceAs (Decidable (∀ r ∈ (enrollmentAnswer o body).toOption, r.1.Legible))

/-- What is written after the key does not fail, with an error or without, and the coordinator's
answer is legible. -/
def Settled (o : EnrollmentOptions) (l : Op) (_ : Disk IdentityFile) (d : Decision Reply) : Prop :=
  (l.between = true → d.fails = none ∧ d.left = none) ∧ (l = .post → LegibleAnswer o d.answer.body)

instance (o : EnrollmentOptions) (l : Op) (s : Disk IdentityFile) (d : Decision Reply) :
    Decidable (Settled o l s d) :=
  inferInstanceAs (Decidable (_ ∧ _))

lemma between_steady {l : Op} (h : l.between = true) : ¬ MayFail (Settled o) l :=
  not_mayFail fun _ _ hd => (hd.1 h).1

section
variable {ok : Op → Disk IdentityFile → Decision Reply → Prop}
  {I : Option Op → Disk IdentityFile → Prop} {s : Disk IdentityFile} {f : IdentityFile}

lemma safe_writeFile {stateDir content : Text} {Q : Except Text Unit → Disk IdentityFile → Prop}
    (hnone : ∀ t, I none t) (hI : ∀ c t, shown t = shown s → I (some (.write f c)) t)
    (hok : ∀ t c, (¬ MayLose ok (.write f .write) → c = content) →
      shown t = Function.update (shown s) f (some c) → Q (.ok ()) t)
    (herr : ∀ e t, (∃ c, MayFail ok (.write f c)) → shown t = shown s → Q (.error e) t) :
    Safe ok I Q (writeFile stateDir f content) s := by
  refine safe_bind (safe_writeTemporary hnone (hI _ s rfl) (fun t c hc ht htemp => ?_)
    fun e t he ht => herr e t ⟨_, he⟩ ht)
  refine safe_bind (safe_handle (safe_effect hnone (hI _ t ht) ?_ fun _ he => ?_))
  · refine safe_replace hnone (hI _ t ht) htemp (fun u hu => ?_) fun e he => herr e t ⟨_, he⟩ ht
    rw [ht] at hu
    exact hok u c hc hu
  · refine safe_bind (safe_effect hnone (hI _ t ht) ?_ fun e he => herr e t ⟨_, he⟩ ht)
    exact And.intro (hnone _) (herr _ _ ⟨_, he⟩ ht)

end

section
variable {o : EnrollmentOptions} {before : IdentityFile → Option Text} {s : Disk IdentityFile}

/-- A later enrolment would find a directory it can work with. -/
def Left (o : EnrollmentOptions) (before : IdentityFile → Option Text) (t : Disk IdentityFile) :
    Prop := Recoverable o.stateDir before (shown t)

variable {t : Disk IdentityFile}

lemma recoverable_same (h : shown t = before) : Left o before t := .inr fun ht => h ▸ ht

lemma point_same (h : shown t = before) (l : Op) :
    Point Op.between (Left o before) (some l) t := point_of (recoverable_same h) l

lemma safe_writeBetween {content stateDir : Text} {f : IdentityFile}
    {Q : Except Text Unit → Disk IdentityFile → Prop} (hf : ∀ c, (Op.write f c).between = true)
    (hok : ∀ t, shown t = Function.update (shown s) f (some content) → Q (.ok ()) t) :
    Safe (Settled o) (Point Op.between (Left o before)) Q (writeFile stateDir f content) s := by
  refine safe_writeFile point_none (fun c t _ => point_between (hf c) t) (fun t c hc ht => ?_)
    fun e t hfail _ => ?_
  · exact hok t (hc (not_mayLose fun _ _ hd _ => (hd.1 (hf .write)).2) ▸ ht)
  · obtain ⟨c, hc⟩ := hfail
    exact absurd hc (between_steady (hf c))

lemma safe_writeIdentity {keyPem chain : Text} {i : FleetIdentity} (hs : shown s = before)
    (hcomplete : ∀ files : IdentityFile → Option Text, files .identityConf = some (identityConfig i) →
      (files .agentKey).isSome → (files .certificate).isSome → (files .fleetCa).isSome →
        (requireIdentityFiles o.stateDir files).isOk = true) :
    Safe (Settled o) (Point Op.between (Left o before)) (fun _ => Left o before)
      (writeIdentity keyPem chain i) s := by
  refine safe_bind (safe_writeFile point_none (fun _ t ht => point_same (ht.trans hs) _)
    (fun t key _ ht => ?_) fun _ t _ ht => recoverable_same (ht.trans hs))
  refine safe_bind (safe_writeBetween (fun _ => rfl) fun u hu => ?_)
  refine safe_bind (safe_ask point_none (point_between rfl u) (fun d _ => ?_)
    fun _ hfail => absurd hfail (between_steady rfl))
  refine safe_bind (safe_writeBetween (fun _ => rfl) fun v hv => ?_)
  refine safe_bind (safe_writeBetween (fun _ => rfl) fun x hx => ?_)
  -- From here on the four files are there.
  have hfiles : ∀ y, shown y = shown x → (requireIdentityFiles o.stateDir (shown y)).isOk = true := by
    intro y hy
    rw [hy]
    refine hcomplete (shown x) ?_ ?_ ?_ ?_ <;> rw [hx, hv, hu, ht] <;> rfl
  refine safe_bind (safe_writeFile point_none (fun _ y hy _ => .inl (hfiles y hy))
    (fun y sequence _ hy => ?_) fun _ y _ hy => .inl (hfiles y hy))
  refine And.intro trivial (.inl (hcomplete (shown y) ?_ ?_ ?_ ?_)) <;>
    rw [hy, hx, hv, hu, ht] <;> rfl

lemma safe_requestIdentity (hs : shown s = before) (hcoordinator : o.coordinator ≠ []) :
    Safe (Settled o) (Point Op.between (Left o before)) (fun _ => Left o before)
      (requestIdentity o) s := by
  refine safe_bind (safe_effect point_none (point_same hs _) ?_ fun _ _ => recoverable_same hs)
  refine safe_bind (safe_effect point_none (point_same hs _) ?_ fun _ _ => recoverable_same hs)
  refine safe_bind (safe_ask point_none (point_same hs _) (fun key _ => ?_)
    fun _ _ => recoverable_same hs)
  refine safe_bind (safe_ask point_none (point_same hs _) (fun d hd => ?_)
    fun _ _ => recoverable_same hs)
  by_cases hstatus : d.answer.status ≠ 201
  · simp only [Before, if_pos hstatus]
    exact And.intro trivial (recoverable_same hs)
  simp only [Before, if_neg hstatus]
  cases hanswer : enrollmentAnswer o d.answer.body with
  | error e => exact And.intro trivial (recoverable_same hs)
  | ok r =>
    obtain ⟨hc, hagent, hcertificate, -⟩ := enrollmentAnswer_ok hanswer
    have hlegible : r.1.Legible := hd.2 rfl r (by rw [hanswer]; rfl)
    refine safe_bind (safe_lift trivial ?_)
    refine safe_bind (safe_effect point_none (point_same hs _) ?_
      fun _ _ => recoverable_same hs)
    exact safe_writeIdentity hs fun files hconf hkey hchain hca =>
      requireIdentityFiles_isOk hlegible (hc ▸ hcoordinator) hagent hcertificate hconf hkey hchain hca

lemma checkOptions_coordinator (h : checkOptions o = .ok ()) : o.coordinator ≠ [] := by
  intro hempty
  rw [checkOptions, if_pos hempty] at h
  cases h

lemma safe_enroll (hs : shown s = before) :
    Safe (Settled o) (Point Op.between (Left o before)) (fun _ => Left o before)
      (enroll o) s := by
  unfold enroll
  cases hoptions : checkOptions o with
  | error e => exact And.intro trivial (recoverable_same hs)
  | ok u =>
    refine safe_bind (safe_lift trivial ?_)
    refine safe_bind (safe_ask point_none (point_same hs _) (fun ca _ => ?_)
      fun _ _ => recoverable_same hs)
    by_cases hca : ¬ ca.answer.found = true
    · simp only [Before, if_pos hca]
      exact And.intro trivial (recoverable_same hs)
    simp only [Before, if_neg hca]
    refine safe_bind (safe_look point_none (point_same hs _) ?_ fun _ _ => recoverable_same hs)
    by_cases hkey : (shown s .agentKey).isSome = true
    · simp only [Before, if_pos hkey]
      exact And.intro trivial (recoverable_same hs)
    · simp only [Before, if_neg hkey]
      exact safe_requestIdentity hs (checkOptions_coordinator hoptions)

end

/-- **An enrolment that fails can be repeated, or has succeeded.** Wherever it fails or is
interrupted, the identity files are complete or a later enrolment is not refused on account of the
files left, provided that what is written between the key and the configuration does not fail, that
the process is not stopped there, and that the coordinator's answer has no line breaks in it. -/
theorem enrollment_recoverable (o : EnrollmentOptions) (s : Disk IdentityFile)
    (w : List (Decision Reply))
    (hw : Run.Along Proc.advance (Proc.Allowed (Settled o)) (enroll o, s) w)
    (hstop : ∀ l, (Run.run Proc.advance (enroll o, s) w).1.label = some l → l.between = false) :
    Recoverable o.stateDir (shown s) (shown (Run.run Proc.advance (enroll o, s) w).2) :=
  safe_stopped (P := fun t => Recoverable o.stateDir (shown s) (shown t)) (safe_enroll rfl) hw
    (fun l hl _ ht => ht (hstop l hl)) fun _ _ ht => ht

/-! A run in which every operation succeeds, for as long as it lasts. -/

def sampleOptions : EnrollmentOptions :=
  { coordinator := "https://c", fleetCa := "ca", token := "t",
    stateDir := "identity" }

def sampleReply : Reply :=
  { found := true, keyPem := "key", status := 201, fleetCa := "ca",
    body := ("\x7b\"fleetId\":\"fleet-dev\",\"agentId\":\"a\",\"certificateSha256\":\"h\"," ++
      "\"agentCertificateChainPem\":\"chain\"\x7d").toList }

def succeeds : Decision Reply := { fails := none, left := none, answer := sampleReply }

def throws : Decision Reply := { succeeds with fails := some "error" }

def emptyDisk : Disk IdentityFile := fun _ => none

def filesAfter (w : List (Decision Reply)) : IdentityFile → Option Text :=
  shown (Run.run advance (enroll sampleOptions, emptyDisk) w).2

/-- The process dies before it writes the sequence number. -/
theorem enrollment_recoverable_sequence :
    refused (filesAfter (List.replicate 20 succeeds)) = true ∧
      Recoverable sampleOptions.stateDir (shown emptyDisk)
        (filesAfter (List.replicate 20 succeeds)) :=
  ⟨by decide +kernel, enrollment_recoverable sampleOptions emptyDisk (replicate 20 succeeds)
    (by decide +kernel) (fun l hl => by
      rw [show (Run.run advance (enroll sampleOptions, emptyDisk)
        (replicate 20 succeeds)).1.label = some (.write .sequence .write) by
          decide +kernel] at hl
      cases hl
      rfl)⟩

/-- After the run the identity does not load, and the next enrolment is refused. -/
def Stuck (w : List (Decision Reply)) : Prop :=
  (loadIdentity sampleOptions.stateDir (filesAfter w)).isOk = false ∧
    (requireIdentityFiles sampleOptions.stateDir (filesAfter w)).isOk = false ∧
    (Run.run advance (enroll sampleOptions,
        (Run.run advance (enroll sampleOptions, emptyDisk) w).2)
      [succeeds, succeeds]).1.result =
        some (.error "fleet identity already exists in identity")

/-- The process dies after it has renamed the key, or the certificate cannot be written. -/
theorem enrollment_stuck :
    refused (shown emptyDisk) = false ∧ Stuck (List.replicate 10 succeeds) ∧
      Stuck (List.replicate 10 succeeds ++ [throws]) := by
  unfold Stuck
  decide +kernel

end NetaAgent.Enrollment
