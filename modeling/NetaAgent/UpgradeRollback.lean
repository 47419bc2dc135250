import NetaAgent.UpgradeWorker

/-!
What a failed upgrade leaves running.

The handler goes back to the version before from data that the switch itself produces: the target
of the old link on Linux, the directory moved aside on Windows. So a failure after these are there
is undone, and a failure before is not.
-/

namespace NetaAgent.UpgradeWorker

open Decimal Upgrade NetaAgent.Process Proc Safe

variable (o : Options) (world : World)

/-! ### What the parts leave alone -/

variable (e : Entry)

def Serving (s : Disk) : Prop := s.current = e ∧ s.service = true

section
variable {P : Disk → Prop}

/-- The condition looks at nothing that a download or a save of a record writes. -/
structure Unrecorded (P : Disk → Prop) : Prop where
  set : ∀ f c s, f ≠ .conf → P s → P (s.set c f)
  setDownload : ∀ path c s, P s → P (s.setDownload path c)

structure Independent (P : Disk → Prop) : Prop extends Unrecorded P where
  setVersion : ∀ name t s, P s → P (s.setVersion name t)

lemma keeps_gradual {l : Op} {torn : Tree → Disk → Disk} {whole : Disk → Disk}
    (ht : ∀ left s, P s → P (torn left s)) (hw : ∀ s, P s → P (whole s)) :
    Keeps P (gradual l torn whole) := by
  refine (keeps_act fun d s hs => ht d.left s hs).bind fun _ => keeps_act fun d s hs => ?_
  cases hd : d.fails with
  | none => simpa only [hd] using hw s hs
  | some => simpa only [hd] using ht d.left s hs

section
variable (hd : ∀ path c s, P s → P (s.setDownload path c))
include hd

lemma keeps_finishPart (part final body : Text) : Keeps P (finishPart o part final body) := by
  have hrename (s : Disk) (hs : P s) :
      P ((s.setDownload final (some body)).setDownload part none) := hd _ _ _ (hd _ _ _ hs)
  refine (keeps_reporting hrename).bind fun r => ?_
  cases r with
  | none => exact keeps_ret ()
  | some e =>
    cases hp : o.platform with
    | linux => exact keeps_fail e
    | windows =>
      exact (keeps_attempt (hd _ _)).bind fun _ => keeps_effect fun _ => hrename

lemma keeps_reuseDownload (final expected : Text) :
    Keeps P (reuseDownload o world final expected) := by
  refine keeps_look.bind fun existing => ?_
  cases existing with
  | none => exact keeps_ret _
  | some _ =>
    exact (keeps_look.bind fun _ => keeps_ret _).handle fun _ =>
      (keeps_effect fun _ => hd _ _).bind fun _ => keeps_ret _

lemma keeps_fetchArtifact (final expected : Text) :
    Keeps P (fetchArtifact o world final expected) := by
  refine (keeps_act fun _ _ hs => hs).bind fun body =>
    (keeps_effect fun _ => hd _ _).bind fun _ => ?_
  exact (keeps_look.bind fun _ => keeps_finishPart o hd _ _ _).handle fun e =>
    (keeps_effect fun _ => hd _ _).bind fun _ => keeps_fail e

lemma keeps_downloadAndVerify (i : UpgradeInstruction) :
    Keeps P (downloadAndVerify o world i) := by
  refine (keeps_lift _).bind fun _ => (keeps_lift _).bind fun _ =>
    (keeps_lift _).bind fun expected => (keeps_effect fun _ _ hs => hs).bind fun _ =>
    (keeps_reuseDownload o world hd _ _).bind fun reused => ?_
  cases reused with
  | true => exact keeps_ret _
  | false => exact (keeps_fetchArtifact o world hd _ _).bind fun _ => keeps_ret _

end

section
variable (hv : ∀ name t s, P s → P (s.setVersion name t))
include hv

lemma keeps_removeVersion (name : Text) : Keeps P (removeVersion name) :=
  keeps_gradual (fun left s hs => by split_ifs; exacts [hs, hv _ _ s hs]) (hv _ _)

lemma keeps_unpackInto (staging path : Text) : Keeps P (unpackInto world staging path) := by
  refine keeps_look.bind fun bytes => ?_
  cases bytes with
  | none => exact keeps_fail _
  | some => exact keeps_gradual (fun _ => hv _ _) (hv _ _)

lemma keeps_installPackage (staging name : Text) (root : Tree) :
    Keeps P (installPackage staging name root) := by
  refine (keeps_reporting fun s hs => hv _ _ _ (hv _ _ s hs)).bind fun r => ?_
  cases r with
  | none => exact keeps_ret _
  | some _ =>
    exact (keeps_effect fun _ => hv _ _).bind fun _ =>
      keeps_gradual (fun _ => hv _ _) (hv _ _)

lemma keeps_buildVersion (s : UpgradeState) : Keeps P (buildVersion o world s) := by
  refine (keeps_effect fun _ _ hs => hs).bind fun _ => (keeps_removeVersion hv _).bind fun _ =>
    (keeps_effect fun _ => hv _ _).bind fun _ => ?_
  split_ifs
  · exact (keeps_unpackInto world hv _ _).bind fun _ => keeps_look.bind fun _ =>
      (keeps_lift _).bind fun _ => (keeps_installPackage hv _ _ _).bind fun _ =>
      keeps_removeVersion hv _
  · exact keeps_fail _

lemma keeps_extractVersion (s : UpgradeState) : Keeps P (extractVersion o world s) := by
  unfold extractVersion
  split_ifs
  · refine (keeps_lift _).bind fun _ => keeps_look.bind fun _ => keeps_look.bind fun t => ?_
    cases t with
    | some => exact (keeps_lift _).bind fun _ => keeps_ret _
    | none =>
      exact (keeps_buildVersion o world hv s).bind fun _ => keeps_look.bind fun _ =>
        (keeps_lift _).bind fun _ => keeps_ret _
  · exact keeps_fail _

end

variable (hP : Unrecorded P)
include hP

lemma Unrecorded.saveActivation (r : UpgradeActivationRecord) :
    Keeps P (saveActivation o r) := keeps_atomicWrite fun c s => hP.set _ c s (by decide)

lemma Unrecorded.saveState (s : UpgradeState) : Keeps P (saveState o s) :=
  keeps_atomicWrite fun c s => hP.set _ c s (by decide)

lemma Unrecorded.downloadPending : Keeps P (downloadPending o world) := by
  refine keeps_look.bind fun loaded => ?_
  cases loaded with
  | none => exact keeps_fail _
  | some =>
    dsimp only
    split_ifs
    · exact keeps_ret _
    · exact keeps_fail _
    · refine (hP.saveState o _).bind fun _ => Keeps.bind ?_ fun path => Keeps.bind ?_
        fun _ => keeps_ret _
      · exact (keeps_downloadAndVerify o world hP.setDownload _).handle fun e =>
          (hP.saveState o _).bind fun _ => keeps_fail e
      · exact (hP.saveState o _).handle fun e => (hP.saveState o _).bind fun _ => keeps_fail e

end

section
variable {P : Disk → Prop} (hP : Independent P)
include hP

lemma Independent.prepare (s : UpgradeState) (r : UpgradeActivationRecord) :
    Keeps P (prepare o world s r) := by
  refine Keeps.bind ?_ fun s => (hP.toUnrecorded.saveActivation o r).bind fun _ =>
    (keeps_extractVersion o world hP.setVersion s).bind fun _ => keeps_ret _
  unfold verifiedState
  split_ifs
  · exact keeps_ret _
  · exact hP.toUnrecorded.downloadPending o world

end

lemma independent_serving : Independent (Serving e) :=
  ⟨⟨fun f _ _ _ h => by cases f <;> exact h, fun _ _ _ h => h⟩, fun _ _ _ h => h⟩

/-! ### The handler -/

variable (r : UpgradeActivationRecord)

def Undoable (s : Disk) : Prop :=
  match o.platform with
  | .linux => r.previousTarget ≠ [] ∧ e = .link r.previousTarget
  | .windows => e ≠ .missing ∧ s.previous = e

/-- No operation of the handler fails, and of the switch only the last part on Windows may: the
copy, made when the old directory is safe. -/
def Recoverable : Op → Disk → Decision → Prop
  | .back _, _, d => d.fails = none
  | .keepPrevious, _, d => d.fails = none
  | .removePrevious, _, d => d.fails = none
  | .switch, _, d => o.platform = .linux → d.fails = none ∧ d.holds = true
  | _, _, _ => True

instance : ∀ l s d, Decidable (Recoverable o l s d)
  | .back _, _, d => inferInstanceAs (Decidable (d.fails = none))
  | .keepPrevious, _, d => inferInstanceAs (Decidable (d.fails = none))
  | .removePrevious, _, d => inferInstanceAs (Decidable (d.fails = none))
  | .switch, _, _ => inferInstanceAs (Decidable (_ → _ ∧ _))
  | .read _, _, _ | .prepare _, _, _ | .replace _, _, _ | .clear _, _, _ | .replaceAgain _, _, _
  | .download, _, _ | .verify, _, _ | .versions, _, _ | .unpack, _, _ | .moveVersion, _, _
  | .copyVersion, _, _ | .stop, _, _ | .start, _, _ | .rollback, _, _ | .health, _, _
  | .snapshot, _, _ | .restore, _, _ => .isTrue trivial

section
variable {e : Entry} {ok : Op → Disk → Decision → Prop} {P : Disk → Prop} {l : Op}

abbrev anywhere : Option Op → Disk → Prop := fun _ _ => True

variable {Q : Except Text Unit → Disk → Prop} {s : Disk}

lemma safe_effect {f : Decision → Disk → Disk}
    (hok : ∀ s d, ok l s d → d.fails = none) (h : ∀ d, Q (.ok ()) (f d s)) :
    Safe ok anywhere Q (effect l f) s :=
  safe_act trivial fun d hd => ⟨trivial, by simpa only [hok s d hd] using h d⟩

lemma safe_atomicWrite {p : Platform} {f : File} {content : Text}
    (hprepare : ∀ s d, ok (.prepare f) s d → d.fails = none)
    (hreplace : ∀ s d, ok (.replace f) s d → d.fails = none)
    (hP : ∀ c s, P s → P (s.set c f)) (hs : P s) :
    Safe ok anywhere (fun r s => r = .ok () ∧ P s) (atomicWrite p f content) s := by
  refine next (P := P) (safe_effect hprepare fun _ => ⟨rfl, hs⟩) fun s h => ?_
  refine next (a := none) (P := P) (safe_act trivial fun d hd => ⟨trivial, ?_⟩)
    fun s hs => ⟨trivial, rfl, hs⟩
  simpa only [hreplace s d hd, if_true] using ⟨trivial, hP _ s h⟩

lemma safe_gradual {torn : Tree → Disk → Disk}
    {whole : Disk → Disk} (hok : ∀ s d, ok l s d → d.fails = none)
    (h : ∀ left, Q (.ok ()) (whole (torn left s))) :
    Safe ok anywhere Q (gradual l torn whole) s := by
  refine next (a := ()) (P := fun s' => ∃ left, s' = torn left s)
    (safe_act trivial fun d _ => ⟨trivial, rfl, d.left, rfl⟩) ?_
  rintro _ ⟨left, rfl⟩
  exact safe_act trivial fun d hd => ⟨trivial, by simpa only [hok _ d hd] using h left⟩

variable (hok : ∀ l s d, ok l s d → d.fails = none)
include hok

lemma safe_stopService (s : Disk) : Safe ok anywhere
    (fun x s' => x = .ok () ∧ s'.current = s.current ∧ s'.previous = s.previous) (stopService o) s := by
  unfold stopService
  cases o.platform with
  | linux =>
    refine safe_act trivial fun d _ => ⟨trivial, rfl, ?_⟩
    dsimp only
    split_ifs <;> exact ⟨rfl, rfl⟩
  | windows => exact safe_effect (hok _) fun _ => ⟨rfl, rfl, rfl⟩

variable {r : UpgradeActivationRecord}

lemma safe_rollbackVersion (hs : Undoable o e r s) :
    Safe ok anywhere (fun x s' => x = .ok () ∧ s'.current = e) (rollbackVersion o r) s := by
  unfold Undoable at hs
  unfold rollbackVersion
  cases hp : o.platform with
  | linux =>
    rw [hp] at hs
    obtain ⟨hne, rfl⟩ := hs
    simp only [if_neg hne]
    refine bind (Q := fun x _ => x = .ok ()) (safe_effect (hok _) fun _ => rfl)
      (fun _ s _ _ => safe_effect (hok _) fun _ => ⟨rfl, rfl⟩) fun _ _ _ h => absurd h (by simp)
  | windows =>
    rw [hp] at hs
    obtain ⟨hne, hprev⟩ := hs
    refine next (a := true) (P := fun s' => s'.previous = e)
      (safe_act trivial fun d hd => ⟨trivial, ?_⟩) fun s' hprev' => ?_
    · simp only [hok _ _ d hd, hprev, ne_eq, hne, not_false_eq_true, decide_true, and_self]
    · simp only [not_true_eq_false, if_false]
      -- the new directory is removed, whatever is left of it, and the old one moved back
      refine next (P := fun s' => s'.previous = e)
        (safe_gradual (hok _) fun left => ⟨rfl, ?_⟩)
        fun s h => safe_effect (hok _) fun _ => ⟨rfl, h⟩
      dsimp only
      split_ifs <;> exact hprev'

lemma safe_rollBack (hs : Undoable o e r s) :
    Safe ok anywhere (fun x s' => (∃ r', x = .ok r') ∧ Serving e s') (rollBack o r) s := by
  refine (safe_stopService o hok s).next fun s₁ h₁ => ?_
  have hs₁ : Undoable o e r s₁ := by
    unfold Undoable at hs ⊢
    rw [h₁.2]
    exact hs
  refine (safe_rollbackVersion o hok hs₁).next fun s₂ h₂ => ?_
  exact next (P := Serving e) (safe_effect (hok _) fun _ => ⟨rfl, h₂, rfl⟩)
    fun s h => ⟨trivial, ⟨_, rfl⟩, h⟩

lemma safe_saveActivation {P : Disk → Prop} (hP : Unrecorded P) (r : UpgradeActivationRecord)
    (hs : P s) : Safe ok anywhere (fun x s => x = .ok () ∧ P s) (saveActivation o r) s :=
  safe_atomicWrite (hok _) (hok _) (fun c s => hP.set _ c s (by decide)) hs

lemma safe_undo (error : Text) (hs : Undoable o e r s) :
    Safe ok anywhere (fun x s => x = .ok () ∧ Serving e s) (undo o r error) s := by
  have hback : Safe ok anywhere (fun x s => (∃ r', x = .ok (some r')) ∧ Serving e s)
      (some <$> rollBack o r) s :=
    (safe_rollBack o hok hs).bind (fun r' s _ h => ⟨trivial, ⟨r', rfl⟩, h.2⟩)
      fun _ _ _ h => absurd h.1 (by simp)
  refine bind (Q := fun x s => (∃ r', x = .ok (some r')) ∧ Serving e s)
    (hback.handle (fun _ _ _ h => h) fun _ _ _ h => absurd h.1 (by simp)) (fun back s _ h => ?_)
    fun _ _ _ h => absurd h.1 (by simp)
  obtain ⟨⟨r', hr'⟩, hserving⟩ := h
  cases hr'
  exact (safe_saveActivation o hok (independent_serving e).toUnrecorded r' hserving).handle
    (fun _ _ _ h => h) fun _ _ _ h => absurd h.1 (by simp)

end

/-! ### The switch and the whole worker -/

/-- The entry stands for a version: a link on Linux, a directory on Windows. -/
def Installed : Prop :=
  match o.platform with
  | .linux => ∃ t, t ≠ [] ∧ e = .link t
  | .windows => e ≠ .missing

variable {e : Entry}

lemma independent_undoable : Independent (Undoable o e r) := by
  unfold Undoable
  cases o.platform with
  | linux => exact ⟨⟨fun _ _ _ _ h => h, fun _ _ _ h => h⟩, fun _ _ _ h => h⟩
  | windows =>
    exact ⟨⟨fun f _ _ _ h => by cases f <;> exact h, fun _ _ _ h => h⟩, fun _ _ _ h => h⟩

lemma Unrecorded.recover {α : Type} {P : Disk → Prop} (hP : Unrecorded P)
    (r : UpgradeActivationRecord) (error : Text) :
    Keeps P (recover o r false error : Worker α) := ((hP.saveActivation o _).bind fun _ =>
    (keeps_ret ()).bind fun _ => keeps_fail error).relabel _

variable {s : Disk}

lemma safe_recover {α : Type} {r : UpgradeActivationRecord} (error : Text)
    (hs : Undoable o e r s) : Safe (Recoverable o) anywhere
      (fun x s => (∃ e', x = .error e') ∧ Serving e s) (recover o r true error : Worker α) s := by
  have hs : Undoable o e (failedRecord r error) s := hs
  have hback : ∀ l s d, Recoverable o (.back l) s d → d.fails = none := fun _ _ _ h => h
  refine relabel ((safe_saveActivation o hback (independent_undoable o _).toUnrecorded _
    hs).next fun s₁ h₁ => ?_)
  simp only [if_true]
  exact (safe_undo o hback error h₁).next fun s₂ h₂ => ⟨trivial, ⟨_, rfl⟩, h₂⟩

/-- The data that the handler needs is there when the switch is made, and also when it failed in
the one place where it may. -/
def Switched (e : Entry) (r : UpgradeActivationRecord) (x : Except Text Text) (s : Disk) : Prop :=
  match x with
  | .ok previous => Undoable o e { r with previousTarget := previous } s
  | .error _ => Undoable o e r s

lemma safe_activateLinux (hp : o.platform = .linux) {t : Text} (ht : t ≠ [])
    (i : UpgradeInstruction) (r : UpgradeActivationRecord) (hs : s.current = .link t) :
    Safe (Recoverable o) anywhere (Switched o (.link t) r) (activateLinux i) s := by
  have hswitch : ∀ s d, Recoverable o .switch s d → d.fails = none := fun _ _ h => (h hp).1
  refine bind (Q := fun x _ => x = .ok t)
    (safe_act trivial fun d hd => ⟨trivial, ?_⟩) (fun old s₁ _ h₁ => ?_)
    fun _ _ _ h => absurd h (by simp)
  · simp only [hs, (hd hp).2, if_true]
  · cases h₁
    have hkeep : Safe (Recoverable o) anywhere (fun x _ => x = .ok ()) (keepLink t) s₁ := by
      simp only [keepLink, if_neg ht]
      exact bind (Q := fun x _ => x = .ok ())
        (safe_effect (fun _ _ h => h) fun _ => rfl)
        (fun _ _ _ _ => safe_act trivial fun _ _ => ⟨trivial, rfl⟩)
        fun _ _ _ h => absurd h (by simp)
    refine hkeep.bind (fun _ s₂ _ _ => ?_) fun _ _ _ h => absurd h (by simp)
    refine bind (Q := fun x _ => x = .ok ()) (safe_effect hswitch fun _ => rfl)
      (fun _ s₃ _ _ => ?_) fun _ _ _ h => absurd h (by simp)
    refine bind (Q := fun x _ => x = .ok ()) (safe_effect hswitch fun _ => rfl)
      (fun _ s₄ _ _ => ⟨trivial, ?_⟩) fun _ _ _ h => absurd h (by simp)
    simp only [Switched, Undoable, hp]
    exact ⟨ht, trivial⟩

lemma safe_activateWindows (hp : o.platform = .windows) (he : e ≠ .missing)
    (i : UpgradeInstruction) (r : UpgradeActivationRecord) (hs : s.current = e) :
    Safe (Recoverable o) anywhere (Switched o e r) (activateWindows o i) s := by
  have hundo : ∀ r s, s.previous = e → Undoable o e r s := fun r s h => by
    simp only [Undoable, hp]
    exact ⟨he, h⟩
  -- the old copy goes, and the current directory takes its place
  refine next (P := fun s' => s'.current = e)
    (safe_gradual (fun _ _ h => h) fun left => ⟨rfl, ?_⟩) fun s₁ h₁ => ?_
  · dsimp only
    split_ifs <;> exact hs
  refine next (a := true) (P := fun s' => s'.current = e)
    (safe_act trivial fun d hd => ⟨trivial, ?_⟩) fun s₂ hcur => ?_
  · have hd : d.fails = none := hd
    simp only [hd, h₁, ne_eq, he, not_false_eq_true, decide_true, and_self]
  refine next (P := fun s' => s'.previous = e)
    (safe_effect (fun _ _ h => h) fun _ => ⟨rfl, hcur⟩) fun s₃ h₃ => ?_
  -- from here the old directory is safe, whether the copy fails or not
  have hcopy : ∀ tree : Option Tree, Keeps (fun s => s.previous = e)
      (gradual .switch (fun left s => { s with current := .dir left })
        fun s => { s with current := .dir (tree.getD []) }) :=
    fun _ => keeps_gradual (fun _ _ h => h) fun _ h => h
  have hrest := (keeps_look (l := .switch) (f := fun s => .ok (s.versions i.buildId))).bind
    fun tree => (hcopy tree).bind fun _ => keeps_ret
      (if true then o.installRoot ++ "\\current" else [])
  exact (hrest.safe h₃).mono (fun _ _ _ => trivial) fun x s _ h => by
    cases x with
    | ok => exact hundo _ s h
    | error _ => exact hundo _ s h

lemma safe_activateVersion (he : Installed o e) (i : UpgradeInstruction)
    (r : UpgradeActivationRecord) (hs : s.current = e) :
    Safe (Recoverable o) anywhere (Switched o e r) (activateVersion o i) s := by
  unfold Installed at he
  unfold activateVersion
  cases hp : o.platform with
  | linux =>
    rw [hp] at he
    obtain ⟨t, ht, rfl⟩ := he
    exact safe_activateLinux o hp ht i r hs
  | windows =>
    rw [hp] at he
    exact safe_activateWindows o hp he i r hs

lemma Unrecorded.settle {P : Disk → Prop} (hP : Unrecorded P)
    (hconf : ∀ c s, P s → P (s.set c .conf)) (hstart : ∀ s, P s → P { s with service := true })
    (i : UpgradeInstruction) (r : UpgradeActivationRecord) : Keeps P (settle o i r) := by
  have hservice : Keeps P startService := keeps_effect fun _ => hstart
  have hhealth : Keeps P (waitForHealth o i) := keeps_act fun _ _ h => h
  exact (keeps_atomicWrite hconf).bind fun _ => (hP.saveActivation o _).bind fun _ =>
    hservice.bind fun _ => hhealth.bind fun _ => hP.saveActivation o _

lemma keeps_settle (i : UpgradeInstruction) (r : UpgradeActivationRecord) :
    Keeps (Undoable o e r) (settle o i r) := (independent_undoable o r).toUnrecorded.settle o
    (fun _ _ h => by unfold Undoable at h ⊢; exact h)
    (fun _ h => by unfold Undoable at h ⊢; exact h) i r

/-- An upgrade that ends with an error leaves the entry current and the service running. -/
def Undone (e : Entry) (x : Except Text Unit) (s : Disk) : Prop :=
  ∀ error, x = .error error → Serving e s

lemma safe_runUpgradeWorker (he : Installed o e) (hs : Serving e s) :
    Safe (Recoverable o) anywhere (Undone e) (runUpgradeWorker o world) s := by
  have hind := independent_serving e
  have hundone : ∀ x s, Serving e s → Undone e x s := fun _ _ h _ _ => h
  have hload : Keeps (Serving e) loadState := keeps_look
  refine ((hload.safe hs).mono (fun _ _ _ => trivial) fun _ _ _ h => h).bind
    (fun loaded s₁ _ h₁ => ?_) fun _ s _ h => hundone _ s h
  cases loaded with
  | none => exact ⟨trivial, hundone _ s₁ h₁⟩
  | some st =>
    dsimp only
    -- preparing a version, and its handler, leave the running one alone
    have hprepare := (hind.prepare o world st (newRecord o st)).handle
      fun error => hind.toUnrecorded.recover o (newRecord o st) error
    refine ((hprepare.safe h₁).mono (fun _ _ _ => trivial) fun _ _ _ h => h).bind
      (fun st' s₂ _ h₂ => ?_) fun _ s _ h => hundone _ s h
    -- the service may stop, or refuse to
    have hstop : Safe (Recoverable o) anywhere
        (fun x s => match x with | .ok _ => s.current = e | .error _ => Serving e s)
        (stopService o) s₂ := by
      unfold stopService
      cases o.platform with
      | linux =>
        refine safe_act trivial fun d _ => ⟨trivial, ?_⟩
        dsimp only
        split_ifs <;> exact h₂.1
      | windows =>
        refine safe_act trivial fun d _ => ⟨trivial, ?_⟩
        cases hd : d.fails with
        | none => simpa only [hd] using h₂.1
        | some => simpa only [hd] using h₂
    refine bind
      (Q := fun x s => match x with | .ok _ => s.current = e | .error _ => Serving e s)
      (hstop.handle (fun _ _ _ h => h) fun error s _ h => ?_) (fun _ s₃ _ h₃ => ?_)
      fun _ s _ h => hundone _ s h
    · exact ((hind.toUnrecorded.recover (α := Unit) o _ error).safe h).mono (fun _ _ _ => trivial)
        fun x _ _ h => by cases x; exacts [h, h.1]
    -- from here a failure is undone
    let r : UpgradeActivationRecord :=
      { newRecord o st with activeTarget := targetPath o st'.instruction }
    refine bind (Q := fun x s => match x with
        | .ok previous => Undoable o e { r with previousTarget := previous } s
        | .error _ => Serving e s)
      ((safe_activateVersion o he st'.instruction r h₃).handle (fun _ _ _ h => h)
        fun error s _ h => ?_) (fun previous s₄ _ h₄ => ?_) fun _ s _ h => hundone _ s h
    · exact (safe_recover o error h).mono (fun _ _ h => h) fun x _ _ h => by
        obtain ⟨⟨error', rfl⟩, hserving⟩ := h
        exact hserving
    · exact (((keeps_settle o st'.instruction _).safe h₄).mono (J := anywhere) (fun _ _ _ => trivial)
        fun _ _ _ h => h).handle (R := Undone e) (fun _ _ _ _ _ hx => by cases hx)
        fun error s _ h => (safe_recover o error h).mono (fun _ _ h => h)
          fun _ s _ h => hundone _ s h.2

/-- **A failed upgrade is undone.** In every run in which the switch fails at most in the copy of
Windows and no operation of the handler fails, a worker that ends with an error leaves the version
it found current, with the service running. -/
theorem failed_upgrade_undone {e : Entry} {s : Disk} (he : Installed o e) (hs : Serving e s)
    {w : List Decision}
    (hw : Run.Along Proc.advance (Proc.Allowed (Recoverable o)) (runUpgradeWorker o world, s) w)
    (error : Text)
    (hend : (Run.run Proc.advance (runUpgradeWorker o world, s) w).1.result = some (.error error)) :
    Serving e (Run.run Proc.advance (runUpgradeWorker o world, s) w).2 :=
  (safe_run (safe_runUpgradeWorker o world he hs) hw).2 _ hend error rfl

/-! ### Small runs -/

variable (p : Platform)

def sampleOptions : Options := ⟨p, "/s", "/i", 100⟩

def sampleWorld : World := ⟨fun _ _ => 0, fun _ => []⟩

def sampleTree : Tree := [([agentName p], "new")]

/-- A verified instruction, its version unpacked, and another version in use. -/
def sampleDisk (current previous : Entry) : Disk where
  files := ⟨some (stateJson ⟨sampleInstruction, .verified, "/d", []⟩), none⟩
  conf := none
  backup := none
  absent := false
  downloads := fun path => if path = "/d" then some "archive" else none
  versions := fun name => if name = "b2" then some (sampleTree p) else none
  current := current
  previous := previous
  service := true

def works : Decision := ⟨none, [], [], true⟩

def breaks (left : Tree) : Decision := ⟨some "error", left, [], true⟩

def runOf (current previous : Entry) (w : List Decision) : Worker Unit × Disk :=
  Run.run advance (runUpgradeWorker (sampleOptions p) sampleWorld, sampleDisk p current previous) w

/-- The start of the new version fails, and the old one is running again. -/
theorem failed_upgrade_undone_start :
    Serving (.link "versions/b1") (runOf .linux (.link "versions/b1") .missing
      (List.replicate 15 works ++ breaks [] :: List.replicate 8 works)).2 :=
  failed_upgrade_undone (sampleOptions .linux) sampleWorld
    ⟨"versions/b1", by decide, rfl⟩ ⟨rfl, rfl⟩ (by decide +kernel) "error"
    (by decide +kernel)

/-- Only the rename of the link fails, and the service stays stopped: the handler has no target to
go back to. -/
theorem failed_switch_stops_service :
    let c := runOf .linux (.link "versions/b1") .missing
      (List.replicate 10 works ++ breaks [] :: List.replicate 5 works)
    c.1.result = some (.error "error") ∧ c.2.current = .link "versions/b1" ∧
      c.2.service = false := by
  decide +kernel

-- On Windows, when the old copy cannot be removed completely, what is left of it becomes current.
example :
    let c := runOf .windows (.dir [(["neta-agent.exe"], "old")]) (.dir [])
      (List.replicate 7 works ++ breaks [(["rest"], [])] :: List.replicate 10 works)
    c.1.result = some (.error "error") ∧ c.2.current = .dir [(["rest"], [])] := by
  decide +kernel

end NetaAgent.UpgradeWorker
