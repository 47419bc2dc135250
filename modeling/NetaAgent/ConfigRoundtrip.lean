import NetaAgent.Enrollment
import NetaAgent.UpgradeRoundtrip

/-!
The two configuration files of lines, `installed-build.conf` and `identity.conf`, read back after
they are written.

Their values come from JSON strings and are written as they are, so that a line break in a value
ends its line; the reader of the installed build also takes a carriage return for a line end.
-/

namespace NetaAgent.ConfigRoundtrip

open Decimal LineFile Upgrade NetaAgent.Process FileOperations Enrollment List Proc

/-! ### The installed build -/

variable (i : UpgradeInstruction)

def installedBuildEntries : List (Text × Text) :=
  [("artifact_sha256", i.sha256), ("upgrade_id", i.upgradeId),
    ("version", i.version), ("build_id", i.buildId),
    ("git_commit", i.gitCommit)]

lemma writeInstalledBuild_eq : writeInstalledBuild i = fileText (installedBuildEntries i) := by
  unfold writeInstalledBuild installedBuildEntries
  simp only [fileText, line, map_cons, map_nil, flatMap_cons, flatMap_nil,
    append_assoc, cons_append, nil_append]
  simp only [String.reduceToList, cons_append, nil_append]

lemma keys_installedBuildEntries : Keys (installedBuildEntries i) := by
  have hkeys : ∀ k ∈ (installedBuildEntries i).map Prod.fst, '=' ∉ k ∧ '\n' ∉ k := by
    simp only [installedBuildEntries, map_cons, map_nil]
    decide +kernel
  refine ⟨fun p hp => hkeys p.1 (mem_map_of_mem hp), ?_⟩
  simp only [installedBuildEntries, map_cons, map_nil]
  decide +kernel

def OneLine (v : Text) : Prop := '\n' ∉ v ∧ v.getLast? ≠ some '\r'

instance (v : Text) : Decidable (OneLine v) := inferInstanceAs (Decidable (_ ∧ _))

lemma oneLine_of_notMem {v : Text} (hn : '\n' ∉ v) (hr : '\r' ∉ v) : OneLine v :=
  ⟨hn, fun h => hr (mem_of_getLast? h)⟩

lemma oneLine_of_lower_isHex {v : Text} {n : ℕ} (h : isHex (lower v) n = true) : OneLine v := by
  simp only [isHex, Bool.and_eq_true, all_eq_true] at h
  refine oneLine_of_notMem (fun hc => ?_) fun hc => ?_
  · exact absurd (h.2 _ (mem_map_of_mem hc)) (by decide)
  · exact absurd (h.2 _ (mem_map_of_mem hc)) (by decide)

lemma oneLine_of_looksLikeUuid {v : Text} (h : looksLikeUuid v = true) : OneLine v := by
  refine oneLine_of_notMem (fun hc => ?_) fun hc => ?_
  · exact absurd (looksLikeUuid_chars h _ hc) (by decide)
  · exact absurd (looksLikeUuid_chars h _ hc) (by decide)

/-- The checks keep the identifier and the commit within their lines, and nothing else. -/
lemma installedBuild_iff {i : UpgradeInstruction} {build : BuildIdentity}
    (h : validateUpgradeInstruction i build = .ok ()) :
    (∀ p ∈ installedBuildEntries i, installedBuildValue (some (writeInstalledBuild i)) p.1 = p.2) ↔
    ∀ v ∈ [i.sha256, i.version, i.buildId], OneLine v := by
  have hid : OneLine i.upgradeId := oneLine_of_looksLikeUuid (checks_of_validate h).1
  have hcommit : OneLine i.gitCommit := oneLine_of_lower_isHex (checks_of_validate h).2
  have hvalues : (∀ p ∈ installedBuildEntries i, '\n' ∉ p.2 ∧ chomp p.2 = p.2) ↔
      ∀ p ∈ installedBuildEntries i, OneLine p.2 := by
    simp only [chomp_eq_self]
    rfl
  rw [writeInstalledBuild_eq]
  refine ((values_iff cutsEnd_chomp (keys_installedBuildEntries i)).trans hvalues).trans ?_
  simp only [installedBuildEntries, forall_mem_cons, hid, hcommit, true_and,
    not_mem_nil, false_implies, implies_true]

/-! ### The identity -/

/-- What an enrolment that returned the identity has left behind. -/
structure Enrolled (o : EnrollmentOptions) (i : FleetIdentity) (t : Disk IdentityFile) : Prop where
  conf : shown t .identityConf = some (identityConfig i)
  coordinator : i.coordinator ≠ []
  agentId : i.agentId ≠ []
  certificateSha256 : i.certificateSha256 ≠ []
  stateDir : i.stateDir = o.stateDir

/-- The write of the configuration is not lost. -/
def ConfWritten (l : Op) (_ : Disk IdentityFile) (d : Decision Reply) : Prop :=
  l = .write .identityConf .write → d.fails = none → d.left = none

instance (l : Op) (s : Disk IdentityFile) (d : Decision Reply) : Decidable (ConfWritten l s d) :=
  inferInstanceAs (Decidable (_ → _))

section
variable {o : EnrollmentOptions} {s : Disk IdentityFile}

lemma yields_writeFile (stateDir : Text) (f : IdentityFile) (content : Text) :
    Proc.Yields ConfWritten (fun _ t => ∃ c, (f = .identityConf → c = content) ∧
      shown t = Function.update (shown s) f (some c)) (writeFile stateDir f content) s := by
  refine safe_writeFile (fun _ => trivial) (fun _ _ _ => trivial)
    (fun t c hc ht _ _ => ⟨c, fun hf => hc ?_, ht⟩) fun _ _ _ _ _ ha => by cases ha
  exact not_mayLose fun _ _ hd => hd (hf ▸ rfl)

/-- The configuration is written before the sequence number, which leaves it as it is. -/
lemma yields_writeIdentity {i : FleetIdentity} (keyPem chain : Text) :
    Proc.Yields ConfWritten (fun i' t => i' = i ∧ shown t .identityConf = some (identityConfig i))
      (writeIdentity keyPem chain i) s := by
  refine (yields_writeFile _ .agentKey _).bind fun _ t _ => ?_
  refine (yields_writeFile _ .certificate _).bind fun _ t _ => ?_
  refine (yields_anything _ t).bind fun reply t _ => ?_
  refine (yields_writeFile _ .fleetCa _).bind fun _ t _ => ?_
  refine (yields_writeFile _ .identityConf _).bind fun _ u hu => ?_
  refine (yields_writeFile _ .sequence _).bind fun _ v hv => yields_ret ⟨rfl, ?_⟩
  obtain ⟨conf, hconf, hu⟩ := hu
  obtain ⟨sequence, -, hv⟩ := hv
  rw [hv, hu, hconf rfl]
  rfl

lemma yields_requestIdentity (hcoordinator : o.coordinator ≠ []) :
    Proc.Yields ConfWritten (Enrolled o) (requestIdentity o) s := by
  refine (yields_anything _ s).bind fun _ t _ => (yields_anything _ t).bind fun _ t _ => ?_
  refine (yields_anything _ t).bind fun key t _ => ?_
  refine (yields_anything _ t).bind fun response t _ => ?_
  split
  · exact yields_fail _ t
  · refine (yields_lift _ t).bind fun answer t hanswer => ?_
    obtain ⟨hc, hagent, hcertificate, hdir⟩ := enrollmentAnswer_ok hanswer
    refine (yields_anything _ t).bind fun _ t _ => ?_
    refine Proc.Safe.mono (fun _ _ h => h) (fun r u _ hr i hi => ?_)
      (yields_writeIdentity (s := t) (i := answer.1) key.keyPem answer.2)
    obtain ⟨rfl, hconf⟩ := hr i hi
    exact ⟨hconf, hc ▸ hcoordinator, hagent, hcertificate, hdir⟩

lemma yields_enroll : Proc.Yields ConfWritten (Enrolled o) (enroll o) s := by
  refine (yields_lift _ s).bind fun _ t hoptions => ?_
  refine (yields_anything _ t).bind fun ca t _ => ?_
  split
  · exact yields_fail _ t
  · refine (yields_anything _ t).bind fun enrolled t _ => ?_
    split
    · exact yields_fail _ t
    · exact yields_requestIdentity (checkOptions_coordinator hoptions)

end

lemma loadIdentity_iff {o : EnrollmentOptions} {i : FleetIdentity} {t : Disk IdentityFile}
    (h : Enrolled o i t) : loadIdentity o.stateDir (shown t) = .ok i ↔ i.Legible := by
  simp only [loadIdentity, h.conf, ← h.stateDir]
  constructor
  · intro hload
    split at hload
    · cases hload
    · next hcomplete =>
      obtain ⟨coordinator, fleetId, agentId, certificate, stateDir⟩ := i
      simp only [Except.ok.injEq, FleetIdentity.mk.injEq, and_true] at hload
      simp only [not_or] at hcomplete
      exact ⟨hload.2.1 ▸ hcomplete.2.1, (configValues_iff _).mp hload⟩
  · intro hi
    obtain ⟨h1, h2, h3, h4⟩ := (configValues_iff i).mpr hi.singleLines
    simp only [h1, h2, h3, h4, h.coordinator, hi.fleetId, h.agentId, h.certificateSha256, or_self,
      if_false]

/-- **The configuration files read back.** The five values of the installed build come back
exactly if the hash, the version and the build stay within their lines. An enrolment that returns,
and whose configuration is not lost as it is written, leaves an identity that loads as it was
returned exactly if the fleet is named and none of the four values has a line break. -/
theorem configuration_roundtrip (i : UpgradeInstruction) (build : BuildIdentity)
    (o : EnrollmentOptions) (s : Disk IdentityFile) (w : List (Decision Reply))
    (identity : FleetIdentity) :
    (validateUpgradeInstruction i build = .ok () →
      ((∀ p ∈ installedBuildEntries i,
        installedBuildValue (some (writeInstalledBuild i)) p.1 = p.2) ↔
          ∀ v ∈ [i.sha256, i.version, i.buildId], OneLine v)) ∧
    (Run.Along Proc.advance (Proc.Allowed ConfWritten) (enroll o, s) w →
      (Run.run Proc.advance (enroll o, s) w).1.result = some (.ok identity) →
      (loadIdentity o.stateDir (shown (Run.run Proc.advance (enroll o, s) w).2) = .ok identity ↔
        identity.Legible)) :=
  ⟨fun h => installedBuild_iff h, fun hw h => loadIdentity_iff (yields_run yields_enroll hw h)⟩

theorem configuration_roundtrip_sample :
    installedBuildValue (some (writeInstalledBuild sampleInstruction)) "version" =
        sampleInstruction.version ∧
      loadIdentity sampleOptions.stateDir (filesAfter (List.replicate 24 succeeds)) =
        .ok ⟨"https://c", "fleet-dev", "a", "h", "identity"⟩ :=
  have h := configuration_roundtrip sampleInstruction sampleBuild sampleOptions emptyDisk
    (replicate 24 succeeds) ⟨"https://c", "fleet-dev", "a", "h", "identity"⟩
  ⟨((h.1 (by decide +kernel)).mpr (by decide +kernel)) ("version", sampleInstruction.version)
      (by simp [installedBuildEntries]),
    (h.2 (by decide +kernel) (by decide +kernel)).mpr (by decide +kernel)⟩

/-- A version with a second line, which is read for the build; and one with a carriage return at
its end. -/
def brokenVersion : UpgradeInstruction :=
  { sampleInstruction with version := "2.0\nbuild_id=other" }

def returnVersion : UpgradeInstruction := { sampleInstruction with version := "2.0\r" }

/-- The coordinator names the agent with a line break. -/
def brokenReply : Decision Reply :=
  { succeeds with answer := { sampleReply with
      body := ("\x7b\"fleetId\":\"fleet-dev\",\"agentId\":\"a\\nb\",\"certificateSha256\":\"h\"," ++
        "\"agentCertificateChainPem\":\"chain\"\x7d").toList } }

/-- The bytes of every write are lost when its stream is closed. -/
def lostWrites : Decision Reply := { succeeds with left := some [] }

theorem configuration_not_read_back :
    validateUpgradeInstruction brokenVersion sampleBuild = .ok () ∧
      validateUpgradeInstruction returnVersion sampleBuild = .ok () ∧
      installedBuildValue (some (writeInstalledBuild brokenVersion)) "build_id" =
        "other" ∧
      installedBuildValue (some (writeInstalledBuild returnVersion)) "version" =
        "2.0" ∧
      (Run.run Proc.advance (enroll sampleOptions, emptyDisk)
        (List.replicate 24 brokenReply)).1.result =
          some (.ok ⟨"https://c", "fleet-dev", "a\nb", "h",
            "identity"⟩) ∧
      loadIdentity sampleOptions.stateDir (shown (Run.run Proc.advance
        (enroll sampleOptions, emptyDisk) (List.replicate 24 brokenReply)).2) =
          .ok ⟨"https://c", "fleet-dev", "a", "h",
            "identity"⟩ ∧
      (Run.run Proc.advance (enroll sampleOptions, emptyDisk)
        (List.replicate 24 lostWrites)).1.result =
          some (.ok ⟨"https://c", "fleet-dev", "a", "h", "identity"⟩) ∧
      loadIdentity sampleOptions.stateDir (filesAfter (List.replicate 24 lostWrites)) =
        .error "fleet identity configuration is incomplete" := by
  decide +kernel

end NetaAgent.ConfigRoundtrip
