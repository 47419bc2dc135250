import NetaAgent.UpgradeRecords

/-!
What a crash of the upgrade worker leaves.

Two files decide whether the agent can still be upgraded: the launcher starts a worker again unless
the activation record has the identifier of the stored instruction, and a new instruction is
accepted once the stored one has failed, is running, or has a record that says it is over. Between
the two lies one case: a record that still says `INSTALLING` or `LOCAL_HEALTHY`, with no worker left
to change it. The crashes that leave the agent stuck are exactly the ones that leave this case.
-/

namespace NetaAgent.UpgradeWorker

open Decimal Upgrade UpgradeJson NetaAgent.Process
open UpgradeInstruction

variable (o : Options) (world : World)

/-! ### The two gates -/

variable (compiled : BuildIdentity) (s : Disk)

/-- The build that runs, by the identity compiled into it and the files. -/
def Disk.build (compiled : BuildIdentity) : BuildIdentity :=
  currentBuildIdentity compiled s.conf

lemma Disk.comparable_build (compiled : BuildIdentity) : (s.build compiled).Comparable :=
  comparable_currentBuildIdentity compiled s.conf

def Admits : Prop :=
  ∀ i, (∀ st, load none s.files = .ok (some st) → st.instruction.upgradeId ≠ i.upgradeId) →
    validateUpgradeInstruction i (s.build compiled) = .ok () →
    (accept ⟨o.platform, none, false, .done⟩ i (s.build compiled) s.files).1 =
      .ok ⟨i, .received, [], []⟩

/-- With no worker running: the launcher starts one, or the stored target runs already, or every
valid instruction with a new identifier is accepted. -/
def Upgradable : Prop :=
  launchUpgradeWorkerIfNeeded ⟨none, none, true⟩ s.files = .ok true ∨
    (∃ st, load none s.files = .ok (some st) ∧
      instructionMatchesBuild st.instruction (s.build compiled) = .ok true) ∨
    Admits o compiled s

/-- The stored instruction has not failed and does not run, and its record says that a worker is
at it or has finished. -/
def Blocked : Prop :=
  ∃ st r, s.files.Holds st ∧ st.state ≠ .failed ∧
    instructionMatchesBuild st.instruction (s.build compiled) = .ok false ∧
    s.files.activation = some (activationJson r) ∧ r.upgradeId = st.instruction.upgradeId ∧
    (r.state = .installing ∨ r.state = .localHealthy)

/-! ### Files that are in order -/

/-- The files hold what the agent has written: a state of the instruction that loads, and a record
that is of the instruction or loads. Either may be missing. -/
structure InOrder (i : UpgradeInstruction) (f : Files) : Prop where
  current : f.current = none ∨ ∃ st, f.Holds st ∧ st.instruction = i ∧ Loadable st
  activation : f.activation = none ∨ ∃ r, f.activation = some (activationJson r) ∧
    ReadableText r.upgradeId ∧
    (r.upgradeId = i.upgradeId ∨ (activationFromJson (activationJson r)).isOk = true)

variable {i : UpgradeInstruction} {f f' : Files}

lemma InOrder.writes (hid : ReadableText i.upgradeId) {N : Prop}
    (h : InOrder i f) (hw : Writes i Loadable N f f') : InOrder i f' := by
  cases hw with
  | same => exact h
  | state hi hK => exact ⟨.inr ⟨_, rfl, hi, hK⟩, h.activation⟩
  | noState => exact ⟨.inl rfl, h.activation⟩
  | record hr => exact ⟨h.current, .inr ⟨_, rfl, hr ▸ hid, .inl hr⟩⟩
  | noRecord => exact ⟨h.current, .inl rfl⟩

lemma InOrder.stored (h : InOrder i f) : Stored i Loadable f := by
  intro st hst
  rcases h.current with hnone | ⟨st', hholds, hi, hload⟩
  · simp [load, hnone] at hst
  · obtain rfl := load_holds hholds hst
    exact ⟨hi, hload⟩

variable {st : UpgradeState}

lemma InOrder.loads (h : InOrder i f)
    (hst : f.Holds st) : st.instruction = i ∧ load none f = .ok (some st) := by
  rcases h.current with hnone | ⟨st', hholds, hi, hload⟩
  · rw [Files.Holds, hnone] at hst
    cases hst
  · obtain rfl := Files.Holds.unique hst hholds
    exact ⟨hi, load_loadable hst hload⟩

/-! ### What the gates say -/

variable {compiled : BuildIdentity} {s : Disk}

lemma admits_of_load_none (h : s.files.current = none) : Admits o compiled s := by
  intro i _ hvalid
  simp only [accept, load, h, store, hvalid]
  rfl

lemma admits_of_replaceable (hload : load none s.files = .ok (some st))
    (h : replaceable ⟨o.platform, none, false, .done⟩ st (s.build compiled) s.files = .ok true) :
    Admits o compiled s := by
  intro i hnew hvalid
  simp only [accept, hload, if_neg (hnew st hload), h, store, hvalid]
  rfl

lemma replaceable_eq {env : Env} {build : BuildIdentity} {v : Bool}
    (h : instructionMatchesBuild st.instruction build = .ok v) :
    replaceable env st build f = .ok (decide (st.state = .failed) || v ||
      activationIsTerminalFor env.activationUnreadable f st.instruction.upgradeId) := by
  rw [replaceable, h]
  rfl

lemma launches_eq (hload : load none s.files = .ok (some st)) (hstate : st.state ≠ .failed) :
    launchUpgradeWorkerIfNeeded ⟨none, none, true⟩ s.files =
      unclaimed none s.files st.instruction.upgradeId := by
  simp only [launchUpgradeWorkerIfNeeded, pendingInstruction, hload, Except.map, if_neg hstate, bind,
    Except.bind, pure, Except.pure, Bool.and_true]
  cases unclaimed none s.files st.instruction.upgradeId <;> rfl

lemma unclaimed_other {r : UpgradeActivationRecord} {id : Text}
    (hf : f.activation = some (activationJson r)) (hne : r.upgradeId ≠ id)
    (hok : (activationFromJson (activationJson r)).isOk = true) : unclaimed none f id = .ok true := by
  cases hr : activationFromJson (activationJson r) with
  | error e => rw [hr] at hok; cases hok
  | ok r' =>
    have hne' : r'.upgradeId ≠ id := by rwa [activationFromJson_upgradeId hr]
    simp [unclaimed, hf, loadActivation, hr, Except.map, hne']

lemma not_upgradable_of_blocked
    (hs : InOrder i s.files) (hid : ReadableText i.upgradeId) (h : Blocked compiled s) :
    ¬ Upgradable o compiled s := by
  obtain ⟨st, r, hholds, hstate, hmatch, hact, hr, hrun⟩ := h
  obtain ⟨rfl, hload⟩ := hs.loads hholds
  rintro (hlaunch | ⟨st', hload', hmatch'⟩ | hadmits)
  · -- the record has the identifier
    rw [launches_eq hload hstate, ← hr] at hlaunch
    exact unclaimed_written hact hlaunch
  · obtain rfl := load_holds hholds hload'
    rw [hmatch] at hmatch'
    cases hmatch'
  · -- and does not say that the upgrade is over
    obtain ⟨i', hne, hvalid⟩ := exists_valid_instruction (s.comparable_build compiled)
      st.instruction.upgradeId
    have hnew : ∀ st', load none s.files = .ok (some st') →
        st'.instruction.upgradeId ≠ i'.upgradeId := fun st' hst' => by
      obtain rfl := load_holds hholds hst'
      exact hne.symm
    have hterminal : activationIsTerminalFor false s.files st.instruction.upgradeId = false := by
      rw [Bool.eq_false_iff, Ne, activationIsTerminalFor_written hact (hr ▸ hid)]
      rintro ⟨-, hfailed | hback⟩
      · rcases hrun with h | h <;> rw [h] at hfailed <;> cases hfailed
      · rcases hrun with h | h <;> rw [h] at hback <;> cases hback
    have haccept := hadmits i' hnew hvalid
    simp only [accept, hload, if_neg hne.symm, replaceable_eq hmatch, hterminal, hstate] at haccept
    cases haccept

lemma upgradable_of_not_blocked
    (hs : InOrder i s.files) {hash : Text} (hsha : normalizeSha256 i.sha256 = .ok hash)
    (h : ¬ Blocked compiled s) : Upgradable o compiled s := by
  rcases hs.current with hnone | ⟨st, hholds, rfl, -⟩
  · exact .inr (.inr (admits_of_load_none o hnone))
  have hload := (hs.loads hholds).2
  obtain ⟨running, hmatch⟩ := instructionMatchesBuild_total hsha (s.comparable_build compiled)
  have hadmits (hr : (decide (st.state = .failed) || running ||
      activationIsTerminalFor false s.files st.instruction.upgradeId) = true) :
      Upgradable o compiled s :=
    .inr (.inr (admits_of_replaceable o hload (by rw [replaceable_eq hmatch, hr])))
  by_cases hstate : st.state = .failed
  · exact hadmits (by simp [hstate])
  cases running with
  | true => exact .inr (.inl ⟨st, hload, hmatch⟩)
  | false =>
    -- what is left is decided by the record
    rcases hs.activation with hnone | ⟨r, hact, hid, hr⟩
    · exact .inl (by rw [launches_eq hload hstate]; simp [unclaimed, hnone])
    by_cases hsame : r.upgradeId = st.instruction.upgradeId
    · refine hadmits ?_
      rw [(activationIsTerminalFor_written hact hid _).mpr ⟨hsame, ?_⟩, Bool.or_true]
      cases hrs : r.state with
      | installing => exact absurd ⟨st, r, hholds, hstate, hmatch, hact, hsame, .inl hrs⟩ h
      | localHealthy => exact absurd ⟨st, r, hholds, hstate, hmatch, hact, hsame, .inr hrs⟩ h
      | failed => exact .inl rfl
      | rolledBack => exact .inr rfl
    · have hfree := unclaimed_other hact hsame (hr.resolve_left hsame)
      exact .inl (by rw [launches_eq hload hstate, hfree])

/-! ### Errors that can be read back -/

/-- The errors of the environment are texts that the state file gives back. -/
def Legible (_ : Op) (_ : Disk) (d : Decision) : Prop := ∀ e ∈ d.fails, ReadableText e

instance (l : Op) (s : Disk) (d : Decision) : Decidable (Legible l s d) :=
  inferInstanceAs (Decidable (∀ e ∈ d.fails, ReadableText e))

def ThrowsLegibly {α : Type} (p : Worker α) : Prop :=
  ∀ s, Proc.Steps Legible (fun _ _ => True) (fun x _ => ∀ e, x = .error e → ReadableText e) p s

section
variable {α β : Type}

lemma throwsLegibly_ret (a : α) : ThrowsLegibly (pure a : Worker α) := fun _ _ h => by cases h

lemma throwsLegibly_lift {r : Except Text α} (h : ∀ e, r = .error e → ReadableText e) :
    ThrowsLegibly (Proc.lift r) := fun _ => Proc.steps_lift h

lemma throwsLegibly_effect {l : Op} {f : Decision → Disk → Disk} : ThrowsLegibly (effect l f) :=
  fun _ => steps_effect trivial (fun _ => trivial) fun _ e hd he => hd e he

lemma throwsLegibly_look {l : Op} {f : Disk → Except Text α}
    (h : ∀ s e, f s = .error e → ReadableText e) : ThrowsLegibly (look l f) := fun s => by
  refine Proc.steps_act fun d hd => ⟨trivial, fun e he => ?_⟩
  cases hfails : d.fails with
  | none => rw [hfails] at he; exact h s e he
  | some e' => rw [hfails] at he; cases he; exact hd e hfails

lemma ThrowsLegibly.bind {p : Worker α} {f : α → Worker β} (hp : ThrowsLegibly p)
    (hf : ∀ a, ThrowsLegibly (f a)) : ThrowsLegibly (p >>= f) :=
  fun s => (hp s).bind (fun a s _ => hf a s) fun _ _ h e he => h e (by cases he; rfl)

lemma ThrowsLegibly.handle {p : Worker α} {f : Text → Worker α} (hp : ThrowsLegibly p)
    (hf : ∀ e, ReadableText e → ThrowsLegibly (f e)) : ThrowsLegibly (p.handle f) :=
  fun s => (hp s).handle (fun _ _ _ _ he => by cases he) fun e s h => hf e (h e rfl) s

lemma readableText_append {a b : Text} (ha : ReadableText a) (hb : ReadableText b) :
    ReadableText (a ++ b) := fun c hc => (List.mem_append.mp hc).elim (ha c) (hb c)

lemma throwsLegibly_verifyFile {path : Text} (hpath : ReadableText path) (expected : Text) :
    ThrowsLegibly (verifyFile o world path expected) := by
  refine throwsLegibly_look fun s e he => ?_
  cases hb : s.downloads path with
  | none =>
    rw [hb] at he
    cases he
    exact readableText_append (by decide) hpath
  | some bytes =>
    rw [hb] at he
    dsimp only at he
    split_ifs at he
    · cases he; decide
    · cases he; decide

lemma throwsLegibly_finishPart (part final body : Text) :
    ThrowsLegibly (finishPart o part final body) := by
  intro s
  refine Proc.Steps.bind (Q := fun x _ => ∃ r, x = .ok r ∧ ∀ e ∈ r, ReadableText e)
    (Proc.steps_act fun d hd => ⟨trivial, d.fails, rfl, hd⟩) (fun r s₁ hr => ?_)
    fun _ _ h => absurd h (by simp)
  obtain ⟨_, hr, hlegible⟩ := hr
  cases hr
  cases r with
  | none => exact fun _ h => by cases h
  | some e =>
    cases hp : o.platform with
    | linux => exact fun _ h => by cases h; exact hlegible e rfl
    | windows =>
      refine Proc.Steps.bind (Q := fun x _ => x = .ok ()) (Proc.steps_act fun _ _ => ⟨trivial, rfl⟩)
        (fun _ s₂ _ => throwsLegibly_effect s₂) fun _ _ h => absurd h (by simp)

/-- The errors of a download are fixed texts, errors of the environment, or name a path. -/
lemma throwsLegibly_downloadAndVerify {i : UpgradeInstruction}
    (hpath : ReadableText (downloadPath o i)) : ThrowsLegibly (downloadAndVerify o world i) := by
  have hpart : ReadableText (downloadPath o i ++ ".part") := readableText_append hpath (by decide)
  have hname : ∀ e, validateArtifactName i.artifactName = .error e → ReadableText e := fun e he => by
    unfold validateArtifactName at he
    split_ifs at he
    cases he
    decide
  have hurl : ∀ e, parseTrustedHttpsUrl i.downloadUrl = .error e → ReadableText e := fun e he => by
    simp only [parseTrustedHttpsUrl] at he
    split_ifs at he <;> cases he <;> decide
  have hsha : ∀ e, normalizeSha256 i.sha256 = .error e → ReadableText e := fun e he => by
    simp only [normalizeSha256] at he
    split_ifs at he <;> cases he <;> decide
  have hthrow {α : Type} {e : Text} (he : ReadableText e) : ThrowsLegibly (throwing e : Worker α) :=
    fun _ _ h => by cases h; exact he
  have hreuse (expected : Text) :
      ThrowsLegibly (reuseDownload o world (downloadPath o i) expected) := by
    refine (throwsLegibly_look fun _ _ h => by cases h).bind fun existing => ?_
    cases existing with
    | none => exact throwsLegibly_ret _
    | some _ =>
      exact ((throwsLegibly_verifyFile o world hpath expected).bind fun _ =>
        throwsLegibly_ret _).handle fun _ _ => throwsLegibly_effect.bind fun _ => throwsLegibly_ret _
  have hfetch (expected : Text) :
      ThrowsLegibly (fetchArtifact o world (downloadPath o i) expected) := by
    refine ThrowsLegibly.bind (fun s => Proc.steps_act fun d hd => ⟨trivial, fun e he => ?_⟩)
      fun _ => throwsLegibly_effect.bind fun _ =>
        ((throwsLegibly_verifyFile o world hpart expected).bind fun _ =>
          throwsLegibly_finishPart o _ _ _).handle fun _ he =>
          throwsLegibly_effect.bind fun _ => hthrow he
    cases hf : d.fails with
    | none => rw [hf] at he; cases he
    | some e' => rw [hf] at he; cases he; exact hd e hf
  refine (throwsLegibly_lift hname).bind fun _ => (throwsLegibly_lift hurl).bind fun _ =>
    (throwsLegibly_lift hsha).bind fun expected => throwsLegibly_effect.bind fun _ =>
    (hreuse expected).bind fun reused => ?_
  cases reused with
  | true => exact throwsLegibly_ret _
  | false => exact (hfetch expected).bind fun _ => throwsLegibly_ret _

end

/-! ### Crashes -/

lemma governed_legible (hdir : ReadableText o.stateDir)
    (hi : ∀ t ∈ i.texts, ReadableText t ∧ t ≠ []) :
    Governed o world i ReadableText Loadable True Legible := by
  have hpath : ReadableText (downloadPath o i) :=
    readableText_append (readableText_append (readableText_append (readableText_append hdir
      (by decide)) (hi _ (by simp [texts])).1) (by decide))
      (hi _ (by simp [texts])).1
  exact {
    clear := fun _ _ _ _ => trivial
    clearBack := fun _ _ _ _ => trivial
    fails := fun _ _ _ e hd he => hd e he
    throws := throwsLegibly_downloadAndVerify o world hpath
    begin := fun _ _ h => ⟨h.instruction, h.downloadPath, fun _ hc => by cases hc⟩
    finish := fun _ _ h => ⟨h.instruction, hpath, h.lastError⟩
    fail := fun _ _ h he =>
      ⟨h.instruction, h.downloadPath, fun c hc => he c (List.mem_of_mem_take hc)⟩ }

/-- **Crashes of the worker.** Whenever a worker for a valid instruction with legible texts stops,
after any number of its operations, the agent can be upgraded unless the stored instruction has
neither failed nor is running and its record still says `INSTALLING` or `LOCAL_HEALTHY`; and then
it cannot. -/
theorem crash_upgradable_iff {i : UpgradeInstruction} {build : BuildIdentity}
    (hvalid : validateUpgradeInstruction i build = .ok ())
    (hi : ∀ t ∈ i.texts, ReadableText t ∧ t ≠ []) (hdir : ReadableText o.stateDir) {s : Disk}
    (hs : InOrder i s.files) {w : List Decision}
    (hw : Run.Along Proc.advance (Proc.Allowed Legible) (runUpgradeWorker o world, s) w)
    (compiled : BuildIdentity) :
    Upgradable o compiled (Run.run Proc.advance (runUpgradeWorker o world, s) w).2 ↔
      ¬ Blocked compiled (Run.run Proc.advance (runUpgradeWorker o world, s) w).2 := by
  have hid : ReadableText i.upgradeId := (hi _ (by simp [texts])).1
  obtain ⟨hash, hsha⟩ := normalizes_of_validateUpgradeInstruction hvalid
  have hcrash : InOrder i (Run.run Proc.advance (runUpgradeWorker o world, s) w).2.files :=
    Proc.steps_run (P := fun s => InOrder i s.files)
      (steps_runUpgradeWorker o world (governed_legible o world hdir hi) hs.stored)
      (fun _ _ h hstep => h.writes hid hstep) hs hw
  exact ⟨fun hup hblocked => not_upgradable_of_blocked o hcrash hid hblocked hup,
    upgradable_of_not_blocked o hcrash hsha⟩

/-! ### Small runs -/

def verifiedSample : UpgradeState := ⟨sampleInstruction, .verified, "/d", []⟩

def installingSample : UpgradeActivationRecord :=
  ⟨sampleInstruction.upgradeId, .installing, "/i", [], [], [], []⟩

lemma legible_sampleInstruction : ∀ t ∈ sampleInstruction.texts, ReadableText t ∧ t ≠ [] := by
  decide

lemma inOrder_sample (hcurrent : f.Holds verifiedSample)
    (hactivation : f.activation = none ∨ f.activation = some (activationJson installingSample)) :
    InOrder sampleInstruction f where
  current := .inr ⟨verifiedSample, hcurrent, rfl, legible_sampleInstruction, by decide, by decide⟩
  activation := hactivation.imp id fun h => ⟨installingSample, h, by decide, .inl rfl⟩

/-- A worker that stops right after it has saved `INSTALLING` leaves an agent that starts no worker
and refuses every other instruction. -/
theorem crash_while_installing :
    let s := sampleDisk .linux (.link "versions/b1") .missing
    let c := Run.run Proc.advance (runUpgradeWorker (sampleOptions .linux) sampleWorld, s)
      (List.replicate 3 works)
    launchUpgradeWorkerIfNeeded ⟨none, none, true⟩ s.files = .ok true ∧
      c.1.result = none ∧ ¬ Upgradable (sampleOptions .linux) sampleBuild c.2 := by
  intro s c
  have hrun : c.2.files =
        ⟨some (stateJson verifiedSample), some (activationJson installingSample)⟩ ∧
      c.2.conf = none ∧ c.1.result = none := by
    decide +kernel
  obtain ⟨hfiles, hconf, hresult⟩ := hrun
  have hother : instructionMatchesBuild sampleInstruction (c.2.build sampleBuild) = .ok false := by
    rw [Disk.build, hconf]
    decide
  have hcurrent : c.2.files.Holds verifiedSample := by rw [Files.Holds, hfiles]
  have hactivation : c.2.files.activation = some (activationJson installingSample) := by rw [hfiles]
  have hblocked : Blocked sampleBuild c.2 :=
    ⟨verifiedSample, installingSample, hcurrent, by decide, hother, hactivation, rfl, .inl rfl⟩
  exact ⟨by decide +kernel, hresult, not_upgradable_of_blocked _
    (inOrder_sample hcurrent (.inr hactivation)) (by decide) hblocked⟩

/-- One whose check of the archive fails has saved `FAILED`, and the agent can be upgraded. -/
theorem crash_upgradable_iff_failed :
    Upgradable (sampleOptions .linux) sampleBuild
      (Run.run Proc.advance (runUpgradeWorker (sampleOptions .linux) sampleWorld,
        sampleDisk .linux (.link "versions/b1") .missing)
        (List.replicate 3 works ++ breaks [] :: List.replicate 2 works)).2 := by
  have hvalid : validateUpgradeInstruction sampleInstruction sampleBuild = .ok () := by
    decide +kernel
  have hw : Run.Along Proc.advance (Proc.Allowed Legible)
      (runUpgradeWorker (sampleOptions .linux) sampleWorld,
        sampleDisk .linux (.link "versions/b1") .missing)
      (List.replicate 3 works ++ breaks [] :: List.replicate 2 works) := by
    decide +kernel
  have hfailed : (Run.run Proc.advance (runUpgradeWorker (sampleOptions .linux) sampleWorld,
      sampleDisk .linux (.link "versions/b1") .missing)
      (List.replicate 3 works ++ breaks [] :: List.replicate 2 works)).2.files.activation =
      some (activationJson (failedRecord installingSample "error")) := by
    decide +kernel
  have hs : InOrder sampleInstruction
      (sampleDisk .linux (.link "versions/b1") .missing).files :=
    inOrder_sample (by rfl) (.inl rfl)
  refine (crash_upgradable_iff (sampleOptions .linux) sampleWorld hvalid legible_sampleInstruction
    (by decide) hs hw sampleBuild).mpr ?_
  rintro ⟨st, r, -, -, -, hact, -, hrun⟩
  rw [hfailed] at hact
  obtain rfl := activationJson_inj (Option.some.inj hact)
  rcases hrun with h | h <;> cases h

end NetaAgent.UpgradeWorker
