import NetaAgent.UpgradeRollback

/-!
`installed-build.conf` through a failed upgrade.

The worker overwrites the file before it knows whether the new version is healthy. The updater
keeps a copy before it starts the worker and puts it back when it reads a record that is rolled
back; the agent's own command does neither.
-/

namespace NetaAgent.UpgradeWorker

open Decimal Upgrade NetaAgent.Process Proc Safe

variable (o : Options) (world : World)

/-! ### What the whole worker leaves alone -/

/-- The condition looks neither at the records nor at what the switch writes. -/
structure Detached (P : Disk → Prop) : Prop extends Unrecorded P where
  entries : ∀ s c p v, P s → P { s with current := c, previous := p, service := v }

section
variable {P : Disk → Prop}

section
variable (he : ∀ s c p v, P s → P { s with current := c, previous := p, service := v })
include he

lemma keeps_stopService : Keeps P (stopService o) := by
  unfold stopService
  cases o.platform with
  | linux => exact keeps_attempt fun s h => he s _ _ _ h
  | windows => exact keeps_effect fun _ s h => he s _ _ _ h

lemma keeps_startService : Keeps P startService := keeps_effect fun _ s h => he s _ _ _ h

lemma keeps_activateVersion (i : UpgradeInstruction) : Keeps P (activateVersion o i) := by
  unfold activateVersion
  cases o.platform with
  | linux =>
    refine (keeps_act fun _ _ h => h).bind fun old => Keeps.bind ?_ fun _ =>
      (keeps_effect fun _ _ h => h).bind fun _ =>
      (keeps_effect fun _ s h => he s _ _ _ h).bind fun _ => keeps_ret _
    unfold keepLink
    split_ifs
    · exact keeps_ret _
    · exact (keeps_effect fun _ _ h => h).bind fun _ =>
        keeps_attempt fun s h => he s _ _ _ h
  | windows =>
    refine (keeps_gradual (fun _ s h => by split_ifs; exacts [h, he s _ _ _ h])
      fun s h => he s _ _ _ h).bind fun _ => keeps_look.bind fun present =>
      Keeps.bind ?_ fun _ => keeps_look.bind fun _ =>
      (keeps_gradual (fun _ s h => he s _ _ _ h) fun s h => he s _ _ _ h).bind
      fun _ => keeps_ret _
    unfold keepDirectory
    split_ifs
    · exact keeps_effect fun _ s h => he s _ _ _ h
    · exact keeps_ret _

variable (r : UpgradeActivationRecord)

lemma keeps_rollbackVersion : Keeps P (rollbackVersion o r) := by
  unfold rollbackVersion
  cases o.platform with
  | linux =>
    dsimp only
    split_ifs
    · exact keeps_fail _
    · exact (keeps_effect fun _ _ h => h).bind fun _ =>
        keeps_effect fun _ s h => he s _ _ _ h
  | windows =>
    refine keeps_look.bind fun present => ?_
    split_ifs
    · exact (keeps_gradual (fun _ s h => by split_ifs; exacts [h, he s _ _ _ h])
        fun s h => he s _ _ _ h).bind fun _ => keeps_effect fun _ s h => he s _ _ _ h
    · exact keeps_fail _

lemma keeps_rollBack : Keeps P (rollBack o r) :=
  (keeps_stopService o he).bind fun _ => (keeps_rollbackVersion o he r).bind fun _ =>
    (keeps_startService he).bind fun _ => keeps_ret _

end

variable (hP : Detached P)
include hP

variable (r : UpgradeActivationRecord)

lemma Detached.undo (error : Text) : Keeps P (undo o r error) := by
  have hsave := hP.toUnrecorded.saveActivation o
  refine Keeps.bind (((keeps_rollBack o hP.entries r).bind fun _ => keeps_ret _).handle
    fun e => (hsave _).bind fun _ => keeps_ret _) fun back => ?_
  cases back with
  | none => exact keeps_ret _
  | some => exact (hsave _).handle fun e => hsave _

lemma Detached.recover {α : Type} (attempted : Bool) (error : Text) :
    Keeps P (recover o r attempted error : Worker α) := by
  refine ((hP.toUnrecorded.saveActivation o _).bind fun _ => Keeps.bind ?_ fun _ =>
    keeps_fail error).relabel _
  split_ifs
  · exact hP.undo o _ error
  · exact keeps_ret _

end

section
variable {ok : Op → Disk → Decision → Prop} {P : Disk → Prop}

/-- The worker keeps the condition if the write of `installed-build.conf` does. -/
lemma Detached.runUpgradeWorker (hP : Detached P)
    (hversion : ∀ name t s, P s → P (s.setVersion name t))
    (hconf : ∀ i s, P s → Safe ok (fun _ => P) (fun _ => P)
      (atomicWrite o.platform .conf (writeInstalledBuild i)) s) {s : Disk} (hs : P s) :
    Safe ok (fun _ => P) (fun _ => P) (runUpgradeWorker o world) s := by
  have hsettle : ∀ i r s, P s → Safe ok (fun _ => P) (fun _ => P) (settle o i r) s :=
    fun i r s hs => (hconf i s hs).bind (fun _ s _ h =>
      (((hP.toUnrecorded.saveActivation o r).bind fun _ => (keeps_startService hP.entries).bind fun _ =>
        (keeps_act fun _ _ h => h).bind fun _ => hP.toUnrecorded.saveActivation o _)).safe h)
      fun _ _ _ h => h
  have hload : Keeps P loadState := keeps_look
  refine (hload.safe hs).bind (fun loaded s₁ _ h₁ => ?_) fun _ _ _ h => h
  cases loaded with
  | none => exact ⟨h₁, h₁⟩
  | some st =>
    have hind : Independent P := ⟨hP.toUnrecorded, hversion⟩
    refine (((hind.prepare o world st _).handle fun error =>
      hP.recover o _ false error).safe h₁).bind (fun st' s₂ _ h₂ => ?_) fun _ _ _ h => h
    have hstop := keeps_stopService o hP.entries
    refine ((hstop.handle fun error => hP.recover o _ false error).safe h₂).bind
      (fun _ s₃ _ h₃ => ?_) fun _ _ _ h => h
    have hswitch := keeps_activateVersion o hP.entries st'.instruction
    refine ((hswitch.handle fun error => hP.recover o _ true error).safe h₃).bind
      (fun previous s₄ _ h₄ => ?_) fun _ _ _ h => h
    exact (hsettle _ _ s₄ h₄).handle (fun _ _ _ h => h)
      fun error s _ h => (hP.recover o _ true error).safe h

end

/-! ### What success leaves in the record -/

section
variable {α : Type} {ok : Op → Disk → Decision → Prop}

lemma safe_anything (p : Worker α) (s : Disk) : Safe ok anywhere (fun _ _ => True) p s := by
  induction p generalizing s with
  | ret | fail => exact ⟨trivial, trivial⟩
  | step l effect next ih => exact ⟨trivial, fun d _ => ih d s (effect d s)⟩

lemma safe_recover_throws (r : UpgradeActivationRecord) (attempted : Bool) (error : Text) (s : Disk) :
    Safe ok anywhere (fun x _ => ∀ a, x ≠ .ok a) (recover o r attempted error : Worker α) s :=
  relabel ((safe_anything _ s).bind
    (fun _ s _ _ => (safe_anything _ s).bind (fun _ _ _ _ => ⟨trivial, fun _ h => by cases h⟩) (by simp)) (by simp))

lemma safe_atomicWrite_content (p : Platform) (f : File) (content : Text) (s : Disk) :
    Safe ok anywhere (fun x s => x = .ok () → s.get f = some content)
      (atomicWrite p f content) s := by
  have hset (s : Disk) : (s.set (some content) f).get f = some content := by cases f <;> rfl
  refine (safe_anything _ s).bind (fun _ s₁ _ _ => ?_) (by simp)
  refine bind (Q := fun x s => x = .ok none → s.get f = some content)
    (safe_act trivial fun d _ => ⟨trivial, fun hd => ?_⟩) (fun r s₂ _ h => ?_) (by simp)
  · have hd : d.fails = none := Except.ok.inj hd
    simpa only [hd, if_true] using hset s₁
  · cases r with
    | none => exact ⟨trivial, fun _ => h rfl⟩
    | some e =>
      cases p with
      | linux => exact ⟨trivial, fun hx => by cases hx⟩
      | windows =>
        refine (safe_anything _ s₂).bind (fun _ s₃ _ _ => ?_) (by simp)
        refine safe_act trivial fun d _ => ⟨trivial, fun hx => ?_⟩
        cases hd : d.fails with
        | none => simpa only [hd] using hset s₃
        | some => rw [hd] at hx; cases hx

/-- A worker that returns has recorded the new version as healthy. -/
def Healthy (x : Except Text Unit) (s : Disk) : Prop :=
  x = .ok () → ∃ r, s.files.activation = some (activationJson r) ∧ r.state = .localHealthy

lemma safe_runUpgradeWorker_healthy (s : Disk) :
    Safe ok anywhere Healthy (runUpgradeWorker o world) s := by
  refine (safe_anything _ s).bind (fun loaded s₁ _ _ => ?_) fun _ _ _ _ h => by cases h
  cases loaded with
  | none => exact ⟨trivial, fun h => by cases h⟩
  | some =>
    refine (safe_anything _ s₁).bind (fun st' s₂ _ _ => ?_) fun _ _ _ _ h => by cases h
    refine (safe_anything _ s₂).bind (fun _ s₃ _ _ => ?_) fun _ _ _ _ h => by cases h
    refine (safe_anything _ s₃).bind (fun previous s₄ _ _ => ?_) fun _ _ _ _ h => by cases h
    refine handle (Q := Healthy) ?_ (fun _ _ _ h => h) fun error s _ _ =>
      (safe_recover_throws o _ true error s).mono (fun _ _ h => h) fun x _ _ h hx => absurd hx (h ())
    -- the last operation is the save of the healthy record
    refine (safe_anything _ s₄).bind (fun _ s₅ _ _ => ?_) fun _ _ _ _ h => by cases h
    refine (safe_anything _ s₅).bind (fun _ s₆ _ _ => ?_) fun _ _ _ _ h => by cases h
    refine (safe_anything _ s₆).bind (fun _ s₇ _ _ => ?_) fun _ _ _ _ h => by cases h
    refine (safe_anything _ s₇).bind (fun _ s₈ _ _ => ?_) fun _ _ _ _ h => by cases h
    exact (safe_atomicWrite_content o.platform .activation _ s₈).mono (fun _ _ h => h)
      fun _ _ _ h hx => ⟨_, h hx, rfl⟩

end

/-! ### The two commands -/

inductive Command where
  | apply | upgradeRun

def Command.process : Command → Worker Unit
  | .apply => UpgradeWorker.apply o world
  | .upgradeRun => UpgradeWorker.upgradeRun o world

/-- The activation record is there and says that the upgrade was rolled back. -/
def RolledBack (s : Disk) : Prop :=
  ∃ r, s.files.activation = some (activationJson r) ∧ r.state = .rolledBack ∧ PlainId r.upgradeId

/-- For the updater: everything up to the end of its snapshot succeeds, and the record it reads
afterwards loads; the restore succeeds. For the agent's command: the write of the file does not
take effect. -/
def Restorable : Command → Op → Disk → Decision → Prop
  | .apply, .snapshot, _, d => d.fails = none
  | .apply, .restore, _, d => d.fails = none
  | .apply, .read .activation, s, d => d.fails = none ∧ (loadActivation s.files).isOk = true
  | .upgradeRun, .replace .conf, _, d => d.fails ≠ none
  | .upgradeRun, .clear .conf, _, d => d.holds = false
  | .upgradeRun, .replaceAgain .conf, _, d => d.fails ≠ none
  | _, _, _, _ => True

instance : ∀ c l s d, Decidable (Restorable c l s d)
  | .apply, l, s, d =>
    match l with
    | .snapshot => inferInstanceAs (Decidable (d.fails = none))
    | .restore => inferInstanceAs (Decidable (d.fails = none))
    | .read .activation =>
      inferInstanceAs (Decidable (d.fails = none ∧ (loadActivation s.files).isOk = true))
    | .read .current | .read .conf | .prepare _ | .replace _ | .clear _ | .replaceAgain _
    | .download | .verify | .versions | .unpack | .moveVersion | .copyVersion | .stop | .start
    | .removePrevious | .keepPrevious | .switch | .rollback | .health | .back _ => .isTrue trivial
  | .upgradeRun, l, _, d =>
    match l with
    | .replace .conf => inferInstanceAs (Decidable (d.fails ≠ none))
    | .clear .conf => inferInstanceAs (Decidable (d.holds = false))
    | .replaceAgain .conf => inferInstanceAs (Decidable (d.fails ≠ none))
    | .replace .current | .replace .activation | .clear .current | .clear .activation
    | .replaceAgain .current | .replaceAgain .activation | .read _ | .prepare _ | .snapshot
    | .restore | .download | .verify | .versions | .unpack | .moveVersion | .copyVersion | .stop
    | .start | .removePrevious | .keepPrevious | .switch | .rollback | .health
    | .back _ => .isTrue trivial

variable (c : Option Text)

/-- The copy that the updater keeps is of this content. -/
def Snapshot (s : Disk) : Prop := s.backup = c ∧ (c = none → s.absent = true)

lemma detached_snapshot : Detached (Snapshot c) :=
  ⟨⟨fun f _ _ _ h => by cases f <;> exact h, fun _ _ _ h => h⟩, fun _ _ _ _ h => h⟩

lemma detached_conf : Detached fun s => s.conf = c :=
  ⟨⟨fun f _ _ hf h => by cases f; exacts [h, h, absurd rfl hf], fun _ _ _ h => h⟩,
    fun _ _ _ _ h => h⟩

variable {s : Disk}

lemma not_rolledBack_of_healthy {r : UpgradeActivationRecord}
    (hr : s.files.activation = some (activationJson r)) (hstate : r.state = .localHealthy) :
    ¬ RolledBack s := by
  rintro ⟨r', hr', hstate', -⟩
  rw [hr] at hr'
  obtain rfl := activationJson_inj (Option.some.inj hr')
  rw [hstate] at hstate'
  cases hstate'

def Restored (s : Disk) : Prop := RolledBack s → s.conf = c

lemma safe_snapshot (hs : s.conf = c) :
    Safe (Restorable .apply) anywhere (fun x s => x = .ok () ∧ Snapshot c s)
      snapshotInstalledMetadata s := by
  have hok : ∀ s d, Restorable .apply .snapshot s d → d.fails = none := fun _ _ h => h
  refine next (P := fun s => s.conf = c) (safe_effect hok fun _ => ⟨rfl, hs⟩)
    fun s₁ h₁ => ?_
  refine next (P := fun s => s.conf = c ∧ s.backup = none)
    (safe_effect hok fun _ => ⟨rfl, h₁, rfl⟩) fun s₂ h₂ => ?_
  refine next (P := fun s => s.conf = c ∧ s.backup = none)
    (safe_effect hok fun _ => ⟨rfl, h₂⟩) fun s₃ h₃ => ?_
  obtain ⟨hconf, hbackup⟩ := h₃
  refine safe_effect hok fun _ => ⟨rfl, ?_⟩
  cases c with
  | none => simpa only [hconf] using ⟨hbackup, fun _ => rfl⟩
  | some => simpa only [hconf] using ⟨rfl, fun h => by cases h⟩

variable {c : Option Text}

lemma safe_restoreIfRolledBack (hs : Snapshot c s) :
    Safe (Restorable .apply) anywhere (fun _ => Restored c) restoreIfRolledBack s := by
  refine handle (Q := fun x s => (∃ u, x = .ok u) ∧ Restored c s) ?_ (fun _ _ _ h => h.2)
    fun _ _ _ h => absurd h.1 (by simp)
  refine bind
    (Q := fun x s => (∃ u, x = .ok u ∧ loadActivation s.files = .ok u) ∧ Snapshot c s)
    (safe_act trivial fun d hd => ⟨trivial, ?_⟩) (fun record s₁ _ h₁ => ?_)
    fun _ _ _ h => absurd h.1 (by simp)
  · obtain ⟨hfails, hload⟩ : d.fails = none ∧ (loadActivation s.files).isOk = true := hd
    cases hl : loadActivation s.files with
    | error => rw [hl] at hload; cases hload
    | ok u =>
      simp only [hfails, hl]
      exact ⟨⟨u, rfl, rfl⟩, hs⟩
  obtain ⟨⟨u, hu, hl⟩, hsnap⟩ := h₁
  cases hu
  cases record with
  | none =>
    refine ⟨trivial, ⟨_, rfl⟩, ?_⟩
    rintro ⟨r, hr, -, -⟩
    simp only [loadActivation, hr] at hl
    obtain ⟨_, -, h⟩ := map_eq_ok hl
    cases h
  | some r =>
    by_cases hstate : r.state = .rolledBack
    · simp only [if_pos hstate]
      refine safe_act trivial fun d hd => ⟨trivial, ?_⟩
      have hd : d.fails = none := hd
      obtain ⟨hbackup, habsent⟩ := hsnap
      cases c with
      | some =>
        simp only [hd, hbackup]
        exact ⟨⟨(), trivial⟩, fun _ => rfl⟩
      | none =>
        simp only [hd, hbackup, habsent rfl, if_true]
        exact ⟨⟨(), trivial⟩, fun _ => rfl⟩
    · -- a record that is rolled back would have been read as such
      simp only [if_neg hstate]
      refine ⟨trivial, ⟨_, rfl⟩, ?_⟩
      rintro ⟨r', hr', hstate', hid⟩
      simp only [loadActivation, hr'] at hl
      obtain ⟨r'', hr'', h⟩ := map_eq_ok hl
      cases h
      exact absurd ((activationFromJson_state hid hr'').trans hstate') hstate

lemma safe_apply (hs : s.conf = c) :
    Safe (Restorable .apply) anywhere (fun _ => Restored c) (apply o world) s := by
  have hok : ∀ s d, Restorable .apply .snapshot s d → d.fails = none := fun _ _ h => h
  refine handle
    (Q := fun x s => match x with | .ok _ => ¬ RolledBack s | .error _ => Snapshot c s) ?_
    (fun _ _ _ h hr => absurd hr h) fun error s _ h => ?_
  · have hreconcile : Safe (Restorable .apply) anywhere (fun x s => x = .ok () ∧ s.conf = c)
        (reconcile o) s := by
      unfold reconcile
      cases o.platform with
      | linux => exact safe_effect hok fun _ => ⟨rfl, hs⟩
      | windows => exact ⟨trivial, rfl, hs⟩
    refine hreconcile.next fun s₁ h₁ => ?_
    refine next (P := fun s => s.conf = c) (safe_effect hok fun _ => ⟨rfl, h₁⟩)
      fun s₂ h₂ => ?_
    refine (safe_snapshot c h₂).next fun s₃ h₃ => ?_
    have hconf : ∀ i s, Snapshot c s → Safe (Restorable .apply) (fun _ => Snapshot c)
        (fun _ => Snapshot c) (atomicWrite o.platform .conf (writeInstalledBuild i)) s :=
      fun i s h => (keeps_atomicWrite fun _ _ h => h).safe h
    refine (((detached_snapshot c).runUpgradeWorker o world (fun _ _ _ h => h) hconf h₃).and
      (safe_runUpgradeWorker_healthy o world s₃)).mono (fun _ _ _ => trivial) fun x s _ h => ?_
    cases x with
    | error => exact h.1
    | ok =>
      obtain ⟨r, hr, hstate⟩ := h.2 rfl
      exact not_rolledBack_of_healthy hr hstate
  · exact (safe_restoreIfRolledBack h).bind (fun _ _ _ h => ⟨trivial, h⟩) fun _ _ _ h => h

lemma safe_upgradeRun (hs : s.conf = c) :
    Safe (Restorable .upgradeRun) anywhere (fun _ s => s.conf = c)
      (upgradeRun o world) s := by
  have hconf : ∀ i s, s.conf = c → Safe (Restorable .upgradeRun) (fun _ s => s.conf = c)
      (fun _ s => s.conf = c) (atomicWrite o.platform .conf (writeInstalledBuild i)) s := by
    intro i s hs
    have hprepare : Keeps (fun s : Disk => s.conf = c) (effect (.prepare .conf) fun _ s => s) :=
      keeps_effect fun _ _ h => h
    refine (hprepare.safe hs).bind (fun _ s₁ _ h₁ => ?_) fun _ _ _ h => h
    refine bind (Q := fun _ s => s.conf = c)
      (safe_act h₁ fun d hd => ?_) (fun r s₂ _ h₂ => ?_) fun _ _ _ h => h
    · have hd : d.fails ≠ none := hd
      simpa only [if_neg hd, and_self] using h₁
    · cases r with
      | none => exact ⟨h₂, h₂⟩
      | some e =>
        cases o.platform with
        | linux => exact ⟨h₂, h₂⟩
        | windows =>
          refine bind (Q := fun _ s => s.conf = c) (safe_act h₂ fun d hd => ?_)
            (fun _ s₃ _ h₃ => safe_act h₃ fun d hd => ?_) fun _ _ _ h => h
          · have hd : d.holds = false := hd
            simpa only [hd, Bool.false_eq_true, if_false, and_self] using h₂
          · have hd : d.fails ≠ none := hd
            cases hf : d.fails with
            | none => exact absurd hf hd
            | some => simpa only [hf, and_self] using h₃
  have htimeout : Keeps (fun s : Disk => s.conf = c) (effect .snapshot fun _ s => s) :=
    keeps_effect fun _ _ h => h
  have hworker (s : Disk) (h : s.conf = c) :=
    (detached_conf c).runUpgradeWorker o world (fun _ _ _ h => h) hconf h
  exact ((htimeout.safe hs).bind (fun _ s _ h => hworker s h) fun _ _ _ h => h).mono
    (fun _ _ _ => trivial) fun _ _ _ h => h

/-- **The metadata of a rolled back upgrade.** In every run that meets the condition of its
command, the file has the content it had before, when the command ends with a record that is
rolled back. -/
theorem metadata_restored (cmd : Command) (s : Disk) {w : List Decision}
    (hw : Run.Along Proc.advance (Proc.Allowed (Restorable cmd)) (cmd.process o world, s) w)
    {x : Except Text Unit}
    (hend : (Run.run Proc.advance (cmd.process o world, s) w).1.result = some x)
    (hback : RolledBack (Run.run Proc.advance (cmd.process o world, s) w).2) :
    (Run.run Proc.advance (cmd.process o world, s) w).2.conf = s.conf := by
  cases cmd with
  | apply => exact (safe_run (safe_apply o world rfl) hw).2 x hend hback
  | upgradeRun => exact (safe_run (safe_upgradeRun o world rfl) hw).2 x hend

def oldConf : Text := "version=1.0\n"

def metadataDisk : Disk :=
  { sampleDisk .linux (.link "versions/b1") .missing with conf := some oldConf }

abbrev commandRun (cmd : Command) (w : List Decision) : Worker Unit × Disk :=
  Run.run advance (cmd.process (sampleOptions .linux) sampleWorld, metadataDisk) w

/-- The record of an upgrade whose new version did not start. -/
def rolledBackRecord : UpgradeActivationRecord :=
  ⟨sampleInstruction.upgradeId, .rolledBack, "/i", "versions/b1",
    "/i/versions/b2", "ROLLED_BACK_AFTER_FAILURE", "error"⟩

def onceBroken (before rest : ℕ) : List Decision :=
  List.replicate before works ++ breaks [] :: List.replicate rest works

/-- The updater: the new version does not start, and the old content is back. -/
theorem metadata_restored_apply :
    (Run.run Proc.advance (Command.apply.process (sampleOptions .linux) sampleWorld, metadataDisk)
      (onceBroken 21 11)).2.conf = metadataDisk.conf := by
  have hw : Run.Along advance (Allowed (Restorable .apply))
      (Command.apply.process (sampleOptions .linux) sampleWorld, metadataDisk) (onceBroken 21 11) := by
    decide +kernel
  have hrun : (commandRun .apply (onceBroken 21 11)).1.result = some (.error "error") ∧
      (commandRun .apply (onceBroken 21 11)).2.files.activation =
        some (activationJson rolledBackRecord) := by
    decide +kernel
  obtain ⟨hend, hback⟩ := hrun
  have hrolled : RolledBack (commandRun .apply (onceBroken 21 11)).2 :=
    ⟨rolledBackRecord, hback, rfl, by decide +kernel⟩
  exact metadata_restored (sampleOptions .linux) sampleWorld .apply metadataDisk hw hend hrolled

/-- The agent's command: the same failure, and the file speaks of the version that was given up. -/
theorem metadata_not_restored :
    let c := commandRun .upgradeRun (onceBroken 16 9)
    c.1.result = some (.error "error") ∧
      c.2.files.activation = some (activationJson rolledBackRecord) ∧
      metadataDisk.conf = some oldConf ∧ c.2.conf = some (writeInstalledBuild sampleInstruction) := by
  decide +kernel

end NetaAgent.UpgradeWorker
