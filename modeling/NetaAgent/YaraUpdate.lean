import NetaAgent.FileOperations
import NetaAgent.YaraContent

/-!
The update of the centrally managed YARA content, one operation for every call that can fail.

The content and its metadata are replaced one after the other. When the coordinator cannot be told,
or the service does not reload, both are put back. In between the two files do not belong together,
and `active_yarax_content_state` refuses them.
-/

namespace NetaAgent.YaraContent

open Decimal Crypto Upgrade NetaAgent.Process FileOperations Proc

inductive Op where
  | fetch
  | read (f : YaraFile)
  | replace (f : YaraFile) (call : WriteCall)
  | acknowledge
  | reload
  | restore (f : YaraFile) (call : WriteCall)
  | reloadRestored
  | acknowledgeFailure
  | acknowledgeActive
  | readState

/-- What the coordinator and the service manager answer. -/
structure Reply where
  envelope : Text := []
  running : Bool := false

abbrev Update := Program YaraFile Reply Op

def atomicWrite (label : WriteCall → Op) (f : YaraFile) (content : Text) : Update Unit := do
  effect (label .createDirectories) id
  writeTemporary (label .write) f content
  effect (label .permissions) id
  (effect (label .rename) (Disk.replaced f)).handle fun e => do
    effect (label .removeTemporary) fun s => s.put (.temporary f) none
    .fail ("cannot atomically activate rule bundle: " ++ e)

def restorePrevious (f : YaraFile) : Option Text → Update Unit
  | some previous => atomicWrite (.restore f) f previous
  | none => attempt (.restore f .remove) fun s => s.put (.file f) none

variable (sha : Sha256)

def readState (missing : Text) : Update YaraXContentState := do
  let files ← look .readState shown
  match files .metadata with
  | none => .fail missing
  | some metadata => .lift (yaraxStateFromMeta sha files metadata)

variable (l : Op) (previousContent previousMeta : Option Text)

def restoreBoth : Update Unit := do
  restorePrevious .content previousContent
  restorePrevious .metadata previousMeta

/-- `acknowledge_yarax_content_bundle`. -/
def acknowledgeBundle : Update Unit := do
  let _ ← ask l

def reloadServiceIfRunning : Update Bool := do
  let reply ← ask l
  return reply.running

/-- The coordinator is told; if that fails, the files are put back. -/
def acknowledgeInstalled : Update Unit :=
  (acknowledgeBundle .acknowledge).handle fun e => do
    restoreBoth previousContent previousMeta
    .fail e

/-- The service is reloaded; if that fails, the files are put back and the old ones loaded. -/
def reloadInstalled : Update Bool :=
  (reloadServiceIfRunning .reload).handle fun e => do
    restoreBoth previousContent previousMeta
    let _ ← (reloadServiceIfRunning .reloadRestored).handle fun _ => pure false
    (acknowledgeBundle .acknowledgeFailure).handle fun _ => pure ()
    .fail e

def install (p : ParsedYaraContent) : Update YaraXContentState := do
  let previousContent ← look (.read .content) fun s => shown s .content
  let previousMeta ← look (.read .metadata) fun s => shown s .metadata
  atomicWrite (.replace .content) .content p.content
  atomicWrite (.replace .metadata) .metadata (yaraxMeta p)
  acknowledgeInstalled previousContent previousMeta
  let reloaded ← reloadInstalled previousContent previousMeta
  if reloaded then acknowledgeBundle .acknowledgeActive
  readState sha "cannot open rule bundle: active.meta"

/-- What is done with the envelope; it is empty when no content is assigned. -/
def applyEnvelope (envelope : Text) : Update YaraXContentState :=
  if envelope = [] then
    readState sha "no centrally managed YARA content is assigned to this endpoint"
  else
    match parseYaraxContent sha envelope with
    | .error e => .fail e
    | .ok p => install sha p

def updateYaraxContentFromCoordinator : Platform → Update YaraXContentState
  | .windows => .fail ("centrally managed YARA-X content is unsupported on Windows until RM4.7 " ++
      "execution-trigger scanning is enabled").toList
  | .linux => do
    let reply ← ask .fetch
    applyEnvelope sha reply.envelope

/-! ### What the writes do -/

section
variable {ok : Op → Disk YaraFile → Decision Reply → Prop}
  {I : Option Op → Disk YaraFile → Prop} {s : Disk YaraFile} {f : YaraFile}
  {Q : Except Text Unit → Disk YaraFile → Prop}

lemma safe_atomicWrite {label : WriteCall → Op} {content : Text} (hnone : ∀ t, I none t)
    (hI : ∀ c t, shown t = shown s → I (some (label c)) t)
    (hkept : ¬ MayLose ok (label .write))
    (hok : ∀ t, shown t = Function.update (shown s) f (some content) → Q (.ok ()) t)
    (herr : ∀ e t, (∃ c, MayFail ok (label c)) → shown t = shown s → Q (.error e) t) :
    Safe ok I Q (atomicWrite label f content) s := by
  refine safe_bind (safe_effect hnone (hI _ s rfl) ?_ fun e he => herr e s ⟨_, he⟩ rfl)
  refine safe_bind (safe_writeTemporary hnone (hI _ s rfl) (fun t c hc ht htemp => ?_)
    fun e t he ht => herr e t ⟨_, he⟩ ht)
  refine safe_bind (safe_effect hnone (hI _ t ht) ?_ fun e he => herr e t ⟨_, he⟩ ht)
  refine safe_handle (safe_replace hnone (hI _ t ht) htemp (fun u hu => ?_) fun e he => ?_)
  · rw [ht, hc hkept] at hu
    exact hok u hu
  · refine safe_bind (safe_effect hnone (hI _ t ht) ?_ fun e he => herr e t ⟨_, he⟩ ht)
    exact And.intro (hnone _) (herr _ _ ⟨_, he⟩ ht)

lemma safe_restorePrevious {previous : Option Text}
    (hsteady : ∀ c, ¬ MayFail ok (.restore f c)) (hkept : ¬ MayLose ok (.restore f .write))
    (hnone : ∀ t, I none t)
    (hI : ∀ c t, shown t = shown s → I (some (.restore f c)) t)
    (hok : ∀ t, shown t = Function.update (shown s) f previous → Q (.ok ()) t) :
    Safe ok I Q (restorePrevious f previous) s := by
  cases previous with
  | none =>
    exact safe_attempt hnone (hI _ s rfl) (hok _ (shown_put_file s f none))
      fun hfail => absurd hfail (hsteady _)
  | some previous =>
    refine safe_atomicWrite hnone hI hkept hok fun e t hfail _ => ?_
    obtain ⟨c, hc⟩ := hfail
    exact absurd hc (hsteady c)

end

/-! ### The pair on the disk -/

/-- The two files do not belong together when this operation is next. -/
def Op.between : Op → Bool
  | .replace .metadata _ => true
  | .restore .metadata _ => true
  | _ => false

def Op.isRestore : Op → Bool
  | .restore _ _ => true
  | _ => false

/-- What puts the files back does not fail, nor does the write of the metadata, and no write is
lost. -/
def Settled (_ : Disk YaraFile) (d : Decision Reply) : Prop :=
  (l.isRestore = true ∨ l.between = true → d.fails = none) ∧ (d.fails = none → d.left = none)

instance (l : Op) (s : Disk YaraFile) (d : Decision Reply) : Decidable (Settled l s d) :=
  inferInstanceAs (Decidable (_ ∧ _))

lemma settled_steady {l : Op} (h : l.isRestore = true ∨ l.between = true) : ¬ MayFail Settled l :=
  not_mayFail fun _ _ hd => hd.1 h

lemma settled_kept (l : Op) : ¬ MayLose Settled l := not_mayLose fun _ _ hd => hd.2

section
variable {old new : YaraFile → Option Text} {s : Disk YaraFile}

def OldOrNew (old new : YaraFile → Option Text) (t : Disk YaraFile) : Prop :=
  shown t = old ∨ shown t = new

lemma point_old {t : Disk YaraFile} (h : shown t = old) (l : Op) :
    Point Op.between (OldOrNew old new) (some l) t := point_of (.inl h) l

lemma point_new {t : Disk YaraFile} (h : shown t = new) (l : Op) :
    Point Op.between (OldOrNew old new) (some l) t := point_of (.inr h) l

lemma update_pair (g h : YaraFile → Option Text) :
    Function.update (Function.update g .content (h .content)) .metadata (h .metadata) = h := by
  funext f
  cases f <;> rfl

lemma safe_restoreBoth {Q : Except Text Unit → Disk YaraFile → Prop} (hs : shown s = new)
    (hok : ∀ t, shown t = old → Q (.ok ()) t) :
    Safe Settled (Point Op.between (OldOrNew old new)) Q (restoreBoth (old .content) (old .metadata)) s := by
  refine safe_bind (safe_restorePrevious (fun c => settled_steady (.inl rfl)) (settled_kept _)
    point_none (fun c t ht => point_new (ht.trans hs) _) fun t ht => ?_)
  refine safe_restorePrevious (fun c => settled_steady (.inl rfl)) (settled_kept _) point_none
    (fun c u _ => point_between rfl u) fun u hu => hok u ?_
  rw [hu, ht, update_pair]

/-- A result with the new pair, an error with the old one. -/
def Returned {α : Type} (old new : YaraFile → Option Text) : Except Text α → Disk YaraFile → Prop
  | .ok _, t => shown t = new
  | .error _, t => shown t = old

lemma safe_acknowledgeInstalled (hs : shown s = new) :
    Safe Settled (Point Op.between (OldOrNew old new)) (Returned old new)
      (acknowledgeInstalled (old .content) (old .metadata)) s := by
  refine safe_handle (safe_bind (safe_ask point_none (point_new hs _) (fun _ _ => ?_)
    fun e _ => ?_))
  · exact And.intro trivial hs
  · refine safe_bind (safe_restoreBoth hs fun t ht => ?_)
    exact And.intro trivial ht

lemma safe_reloadInstalled (hs : shown s = new) :
    Safe Settled (Point Op.between (OldOrNew old new)) (Returned old new)
      (reloadInstalled (old .content) (old .metadata)) s := by
  refine safe_handle (safe_bind (safe_ask point_none (point_new hs _) (fun _ _ => ?_)
    fun e _ => ?_))
  · exact And.intro trivial hs
  · refine safe_bind (safe_restoreBoth hs fun t ht => ?_)
    -- What the restored service and the coordinator say is ignored.
    have hfail : Safe Settled (Point Op.between (OldOrNew old new)) (Returned old new)
        (((acknowledgeBundle .acknowledgeFailure).handle fun _ => pure ()) >>= fun _ =>
          (.fail e : Update Bool)) t :=
      safe_bind (safe_handle (safe_bind (safe_ask point_none (point_old ht _)
        (fun _ _ => And.intro trivial (And.intro trivial ht))
        fun _ _ => And.intro trivial (And.intro trivial ht))))
    exact safe_bind (safe_handle (safe_bind (safe_ask point_none (point_old ht _)
      (fun _ _ => And.intro trivial hfail) fun _ _ => And.intro trivial hfail)))

lemma safe_readState {sha : Sha256} {missing : Text} (hs : OldOrNew old new s) :
    Safe Settled (Point Op.between (OldOrNew old new)) (fun _ => OldOrNew old new) (readState sha missing) s := by
  refine safe_bind (safe_look point_none (fun _ => hs) ?_ fun _ _ => hs)
  cases hmeta : shown s .metadata with
  | none =>
    simp only [Before, hmeta]
    exact And.intro trivial hs
  | some metadata =>
    simp only [Before, hmeta]
    exact safe_lift trivial hs

lemma safe_install {sha : Sha256} {p : ParsedYaraContent} (hs : shown s = old) :
    Safe Settled (Point Op.between (OldOrNew old p.files)) (fun _ => OldOrNew old p.files) (install sha p) s := by
  refine safe_bind (safe_look point_none (point_old hs _) ?_ fun _ _ => .inl hs)
  refine safe_bind (safe_look point_none (point_old hs _) ?_ fun _ _ => .inl hs)
  rw [hs]
  refine safe_bind (safe_atomicWrite point_none (fun _ t ht => point_old (ht.trans hs) _)
    (settled_kept _) (fun t ht => ?_) fun _ t _ ht => .inl (ht.trans hs))
  refine safe_bind (safe_atomicWrite point_none (fun _ u _ => point_between rfl u)
    (settled_kept _) (fun u hu => ?_) fun _ u hfail _ => ?_)
  · have hnew : shown u = p.files := by
      rw [hu, ht]
      exact update_pair (shown s) p.files
    refine Safe.bind (safe_acknowledgeInstalled hnew) (fun _ v _ hv => ?_)
      fun _ v _ hv => .inl hv
    refine Safe.bind (safe_reloadInstalled hv) (fun reloaded x _ hx => ?_)
      fun _ x _ hx => .inl hx
    cases reloaded with
    | false => exact safe_readState (.inr hx)
    | true =>
      exact safe_bind (safe_bind (safe_ask point_none (point_new hx _)
        (fun _ _ => And.intro trivial (safe_readState (.inr hx))) fun _ _ => .inr hx))
  · obtain ⟨c, hc⟩ := hfail
    exact absurd hc (settled_steady (.inr rfl))

end

/-! ### Every interruption -/

/-- The pair the envelope of the first reply stands for. -/
def NewPair (w : List (Decision Reply)) (files : YaraFile → Option Text) : Prop :=
  ∃ d p, w.head? = some d ∧ parseYaraxContent sha d.answer.envelope = .ok p ∧ files = p.files

variable {sha : Sha256} {w : List (Decision Reply)}

lemma newPair_isOk {files : YaraFile → Option Text}
    (h : NewPair sha w files) : (activeYaraxContentState sha files).isOk := by
  obtain ⟨d, p, -, hp, rfl⟩ := h
  exact activeYaraxContentState_files (parseYaraxContent_ok hp)

def filesAfter (sha : Sha256) (platform : Platform) (s : Disk YaraFile)
    (w : List (Decision Reply)) : YaraFile → Option Text :=
  shown (Run.run advance (updateYaraxContentFromCoordinator sha platform, s) w).2

/-- The operation at which the update was interrupted. -/
def stoppedAt (sha : Sha256) (platform : Platform) (s : Disk YaraFile)
    (w : List (Decision Reply)) : Option Op :=
  (Run.run advance (updateYaraxContentFromCoordinator sha platform, s) w).1.label

/-- A run of the second half: what the envelope stands for decides what the new pair is. -/
lemma applyEnvelope_stopped {envelope : Text} {s : Disk YaraFile}
    (hw : Run.Along advance (Allowed Settled) (applyEnvelope sha envelope, s) w)
    (hstop : ∀ l, (Run.run advance (applyEnvelope sha envelope, s) w).1.label = some l →
      l.between = false) :
    shown (Run.run advance (applyEnvelope sha envelope, s) w).2 = shown s ∨
      ∃ p, parseYaraxContent sha envelope = .ok p ∧
        shown (Run.run advance (applyEnvelope sha envelope, s) w).2 = p.files := by
  have hstopped : ∀ new, Safe Settled (Point Op.between (OldOrNew (shown s) new)) (fun _ => OldOrNew (shown s) new)
      (applyEnvelope sha envelope) s →
        OldOrNew (shown s) new (Run.run advance (applyEnvelope sha envelope, s) w).2 :=
    fun _ hsafe => safe_stopped hsafe hw (fun l hl t ht => ht (hstop l hl)) fun _ _ ht => ht
  by_cases hempty : envelope = []
  · refine .inl ((hstopped (shown s) ?_).elim id id)
    rw [applyEnvelope, if_pos hempty]
    exact safe_readState (.inl rfl)
  · cases hparse : parseYaraxContent sha envelope with
    | error e =>
      refine .inl ((hstopped (shown s) ?_).elim id id)
      rw [applyEnvelope, if_neg hempty, hparse]
      exact And.intro trivial (.inl rfl)
    | ok p =>
      refine (hstopped p.files ?_).imp_right fun hnew => ⟨p, rfl, hnew⟩
      rw [applyEnvelope, if_neg hempty, hparse]
      exact safe_install rfl

lemma run_fail (e : Text) (s : Disk YaraFile) (w : List (Decision Reply)) :
    Run.run advance ((.fail e : Update YaraXContentState), s) w = (.fail e, s) := by
  induction w with
  | nil => rfl
  | cons d w ih => exact ih

lemma filesAfter_oldOrNew {platform : Platform} {s : Disk YaraFile}
    (hw : Run.Along advance (Allowed Settled)
      (updateYaraxContentFromCoordinator sha platform, s) w)
    (hstop : ∀ l, stoppedAt sha platform s w = some l → l.between = false) :
    filesAfter sha platform s w = shown s ∨ NewPair sha w (filesAfter sha platform s w) := by
  cases platform with
  | windows =>
    rw [filesAfter, updateYaraxContentFromCoordinator, run_fail]
    exact .inl rfl
  | linux =>
    cases w with
    | nil => exact .inl rfl
    | cons d w =>
      obtain ⟨fails, left, answer⟩ := d
      cases fails with
      | some e =>
        refine .inl ?_
        have hrun := run_fail e s w
        exact congrArg (fun c => shown c.2) hrun
      | none =>
        rcases applyEnvelope_stopped hw.2 hstop with hold | ⟨p, hp, hnew⟩
        · exact .inl hold
        · exact .inr ⟨_, p, rfl, hp, hnew⟩

/-- **Old pair or new pair.** Wherever the update fails or is interrupted, the two files are the
ones from before or the new ones, so content that was accepted stays accepted, provided that the
metadata is written when the content has been, and that the update is not interrupted between the
two writes or between the two restores. -/
theorem pair_replaced_or_kept (sha : Sha256) (platform : Platform) (s : Disk YaraFile)
    (w : List (Decision Reply))
    (hw : Run.Along Proc.advance (Proc.Allowed Settled)
      (updateYaraxContentFromCoordinator sha platform, s) w)
    (hstop : ∀ l, stoppedAt sha platform s w = some l → l.between = false) :
    (filesAfter sha platform s w = shown s ∨ NewPair sha w (filesAfter sha platform s w)) ∧
      ((activeYaraxContentState sha (shown s)).isOk →
        (activeYaraxContentState sha (filesAfter sha platform s w)).isOk) := by
  have hpair := filesAfter_oldOrNew hw hstop
  refine ⟨hpair, fun hs => ?_⟩
  rcases hpair with hold | hnew
  · rw [hold]
    exact hs
  · exact newPair_isOk hnew

/-! A run: the content is `A`, and the coordinator sends `B`. -/

def sampleSha : Sha256 := fun content _ => if content = "A" then 0 else 1

def sampleContent (revision : ℕ) (content : Text) : ParsedYaraContent :=
  { bundleId := "b", revision := revision, sha256 := sha256Hex sampleSha content,
    content := content }

def sampleDisk : Disk YaraFile
  | .file f => (sampleContent 1 "A").files f
  | .temporary _ => none

def sampleEnvelope : Text :=
  magic ++ yaraxMeta (sampleContent 2 "B") ++ "\nB"

def succeeds : Decision Reply := { fails := none, left := none, answer := {} }

def throws : Decision Reply := { succeeds with fails := some "error" }

/-- The envelope is fetched, the files are read, and the new content is in place. -/
def sampleReplaced : List (Decision Reply) :=
  { succeeds with answer := { envelope := sampleEnvelope } } :: List.replicate 6 succeeds

/-- The metadata is written too, the coordinator does not answer, and both files are put back. -/
def sampleRestored : List (Decision Reply) :=
  sampleReplaced ++ List.replicate 4 succeeds ++ throws :: List.replicate 8 succeeds

theorem pair_replaced_or_kept_restored :
    filesAfter sampleSha .linux sampleDisk sampleRestored .content = some "A" ∧
      (activeYaraxContentState sampleSha
        (filesAfter sampleSha .linux sampleDisk sampleRestored)).isOk = true :=
  ⟨by decide +kernel, (pair_replaced_or_kept sampleSha .linux sampleDisk sampleRestored
    (by decide +kernel) (fun l hl => by
      rw [show stoppedAt sampleSha .linux sampleDisk sampleRestored = none by decide +kernel] at hl
      cases hl)).2 (by decide +kernel)⟩

/-- Nothing is asked but that what puts the files back does not fail. -/
def Restores (_ : Disk YaraFile) (d : Decision Reply) : Prop :=
  l.isRestore = true → d.fails = none

instance (l : Op) (s : Disk YaraFile) (d : Decision Reply) : Decidable (Restores l s d) :=
  inferInstanceAs (Decidable (_ → _))

/-- The new content is in place when the write of the metadata fails, or when the process dies
before it: the old metadata is left beside the new content, and is refused. -/
theorem pair_left_mixed :
    (activeYaraxContentState sampleSha (shown sampleDisk)).isOk = true ∧
      parseYaraxContent sampleSha sampleEnvelope = .ok (sampleContent 2 "B") ∧
      shown sampleDisk .metadata ≠ (sampleContent 2 "B").files .metadata ∧
      ∀ w ∈ [sampleReplaced, sampleReplaced ++ [throws]],
        Run.Along Proc.advance (Proc.Allowed Restores)
            (updateYaraxContentFromCoordinator sampleSha .linux, sampleDisk) w ∧
          filesAfter sampleSha .linux sampleDisk w .content = some "B" ∧
          filesAfter sampleSha .linux sampleDisk w .metadata = shown sampleDisk .metadata ∧
          (activeYaraxContentState sampleSha
            (filesAfter sampleSha .linux sampleDisk w)).isOk = false := by
  decide +kernel

end NetaAgent.YaraContent
