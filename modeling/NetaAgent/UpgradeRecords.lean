import NetaAgent.UpgradeMetadata

/-!
What the steps of the upgrade worker do to `current.json` and `activation.json`.

A step leaves both files alone, or replaces one of them by a state or a record of the worker's own
instruction, or, on Windows, removes one before it is replaced again. This is said once, for every
step of a run; what holds at a crash and what the launcher finds both follow from it.
-/

namespace NetaAgent.UpgradeWorker

open Decimal Upgrade NetaAgent.Process Proc Steps

/-- What a step of a worker for the instruction may do to the files. The states it writes meet
`K`, and it removes the record only if `N`. -/
inductive Writes (i : UpgradeInstruction) (K : UpgradeState → Prop) (N : Prop) (f : Files) :
    Files → Prop
  | same : Writes i K N f f
  | state {st : UpgradeState} (hi : st.instruction = i) (hK : K st) :
      Writes i K N f { f with current := some (stateJson st) }
  | noState : Writes i K N f { f with current := none }
  | record {r : UpgradeActivationRecord} (hr : r.upgradeId = i.upgradeId) :
      Writes i K N f { f with activation := some (activationJson r) }
  | noRecord (hN : N) : Writes i K N f { f with activation := none }

/-- The states that load are of the instruction and meet `K`. -/
def Stored (i : UpgradeInstruction) (K : UpgradeState → Prop) (f : Files) : Prop :=
  ∀ st, load none f = .ok (some st) → st.instruction = i ∧ K st

variable (o : Options) (world : World)

/-- The states that a download goes through meet `K`, its errors meet `E`, and a record is removed
only if `N`. -/
structure Governed (i : UpgradeInstruction) (E : Text → Prop) (K : UpgradeState → Prop) (N : Prop)
    (ok : Op → Disk → Decision → Prop) : Prop where
  clear : ∀ s d, ok (.clear .activation) s d → d.holds = true → N
  clearBack : ∀ s d, ok (.back (.clear .activation)) s d → d.holds = true → N
  fails : ∀ l s d e, ok l s d → d.fails = some e → E e
  throws : ∀ s, Steps ok (fun _ _ => True) (fun x _ => ∀ e, x = .error e → E e)
    (downloadAndVerify o world i) s
  begin : ∀ st, st.instruction = i → K st → K st.beginDownload
  finish : ∀ st, st.instruction = i → K st → K (st.finishDownload (downloadPath o i))
  fail : ∀ st e, K st → E e → K (st.failWith e)

/-! ### Writing a file -/

section
variable {ok : Op → Disk → Decision → Prop} {G : Disk → Disk → Prop} {E : Text → Prop}

lemma steps_look {α : Type} {l : Op} {f : Disk → Except Text α} {s : Disk} (hsame : G s s) :
    Steps ok G (fun x s' => s' = s ∧ ∀ a, x = .ok a → f s = .ok a) (look l f) s := by
  refine steps_act fun d _ => ?_
  cases hd : d.fails with
  | none => exact ⟨hsame, rfl, fun _ h => h⟩
  | some e => exact ⟨hsame, rfl, fun _ h => by cases h⟩

lemma steps_effect {l : Op} {f : Decision → Disk → Disk} {s : Disk} (hsame : G s s)
    (hf : ∀ d, G s (f d s)) (hE : ∀ d e, ok l s d → d.fails = some e → E e) :
    Steps ok G (fun x _ => ∀ e, x = .error e → E e) (effect l f) s := by
  refine steps_act fun d hd => ?_
  cases hfails : d.fails with
  | none => exact ⟨hf d, fun _ h => by cases h⟩
  | some e => exact ⟨hsame, fun _ h => by cases h; exact hE d e hd hfails⟩

lemma steps_atomicWrite {p : Platform} {f : File} {content : Text} (hsame : ∀ s, G s s)
    (hset : ∀ s, G s (s.set (some content) f))
    (hnone : ∀ s d, ok (.clear f) s d → d.holds = true → G s (s.set none f))
    (hE : ∀ l s d e, ok l s d → d.fails = some e → E e) (s : Disk) :
    Steps ok G (fun x _ => ∀ e, x = .error e → E e) (atomicWrite p f content) s := by
  refine (steps_effect (hsame s) (fun _ => hsame s) fun d e => hE _ s d e).bind (fun _ s₁ _ => ?_)
    fun e _ h e' he => h e' (by cases he; rfl)
  -- neither the first replacement nor the removal throws
  refine bind (Q := fun x _ => ∃ r, x = .ok r ∧ ∀ e, r = some e → E e)
    (steps_act fun d hd => ⟨?_, d.fails, rfl, fun e he => hE _ s₁ d e hd he⟩)
    (fun r s₂ hr => ?_) fun _ _ h => absurd h (by simp)
  · dsimp only
    split_ifs
    exacts [hset s₁, hsame s₁]
  · obtain ⟨_, hr, hE'⟩ := hr
    cases hr
    cases r with
    | none => exact fun _ h => by cases h
    | some e =>
      cases p with
      | linux => exact fun _ h => by cases h; exact hE' e rfl
      | windows =>
        refine bind (Q := fun x _ => x = .ok ())
          (steps_act fun d hd => ⟨?_, rfl⟩)
          (fun _ s₃ _ => steps_effect (hsame s₃) (fun _ => hset s₃) fun d e => hE _ s₃ d e)
          fun _ _ h => absurd h (by simp)
        dsimp only
        split_ifs with hholds
        exacts [hnone s₂ d hd hholds, hsame s₂]

end

/-! ### The parts of the worker -/

section
variable {i : UpgradeInstruction} {E : Text → Prop} {K : UpgradeState → Prop} {N : Prop}
  {ok : Op → Disk → Decision → Prop} {α : Type}

abbrev Writing (i : UpgradeInstruction) (K : UpgradeState → Prop) (N : Prop) (s s' : Disk) : Prop :=
  Writes i K N s.files s'.files

lemma steps_of_keeps {p : Worker α} (h : ∀ f, Keeps (fun s : Disk => s.files = f) p)
    (s : Disk) : Steps ok (Writing i K N) (fun _ s' => s'.files = s.files) p s :=
  (Keeps.steps h s).mono (fun s s' h => by rw [Writing, h]; exact .same) fun _ _ h => h

lemma moves_of_keeps {p : Worker α} (h : ∀ f, Keeps (fun s : Disk => s.files = f) p) :
    Moves ok (Writing i K N) p :=
  fun s => (steps_of_keeps h s).mono (fun _ _ h => h) fun _ _ _ => trivial

lemma steps_saveState (hok : Governed o world i E K N ok) {st : UpgradeState}
    (hi : st.instruction = i) (hK : K st) (s : Disk) :
    Steps ok (Writing i K N) (fun x _ => ∀ e, x = .error e → E e) (saveState o st) s :=
  steps_atomicWrite (fun _ => .same) (fun _ => .state hi hK) (fun _ _ _ _ => .noState) hok.fails s

variable {r : UpgradeActivationRecord}

lemma moves_saveActivation (hclear : ∀ s d, ok (.clear .activation) s d → d.holds = true → N)
    (hr : r.upgradeId = i.upgradeId) :
    Moves ok (Writing i K N) (saveActivation o r) := fun s =>
  (steps_atomicWrite (E := fun _ => True) (fun _ => .same) (fun _ => .record hr)
    (fun s d hd hh => .noRecord (hclear s d hd hh)) (fun _ _ _ _ _ _ => trivial) s).mono
    (fun _ _ h => h) fun _ _ _ => trivial

lemma steps_downloadAndVerify (hok : Governed o world i E K N ok) (s : Disk) :
    Steps ok (Writing i K N)
      (fun x _ => match x with | .ok path => path = downloadPath o i | .error e => E e)
      (downloadAndVerify o world i) s := by
  have hmoves : Moves ok (Writing i K N) (downloadAndVerify o world i) :=
    moves_of_keeps fun f => keeps_downloadAndVerify o world (fun _ _ _ h => h) i
  have hpath : Steps ok (fun _ _ => True)
      (fun x _ => ∀ path, x = .ok path → path = downloadPath o i) (downloadAndVerify o world i) s := by
    refine (moves_anywhere _ s).bind (fun _ s₁ _ => ?_) (by simp)
    refine (moves_anywhere _ s₁).bind (fun _ s₂ _ => ?_) (by simp)
    refine (moves_anywhere _ s₂).bind (fun _ s₃ _ => ?_) (by simp)
    refine (moves_anywhere _ s₃).bind (fun _ s₄ _ => ?_) (by simp)
    refine (moves_anywhere _ s₄).bind (fun reused s₅ _ => ?_) (by simp)
    cases reused with
    | true => exact fun _ h => by cases h; rfl
    | false =>
      exact (moves_anywhere _ s₅).bind (fun _ _ _ _ h => by cases h; rfl) (by simp)
  exact (((hmoves s).and hpath).and (hok.throws s)).mono (fun _ _ h => h) fun x _ h => by
    cases x with
    | ok path => exact h.1.2 path rfl
    | error e => exact h.2 e rfl

lemma steps_downloadPending (hok : Governed o world i E K N ok) {s : Disk}
    (hs : Stored i K s.files) :
    Steps ok (Writing i K N) (fun _ _ => True) (downloadPending o world) s := by
  refine bind (steps_look .same) (fun loaded s₁ h₁ => ?_) fun _ _ _ => trivial
  obtain ⟨rfl, hload⟩ := h₁
  cases loaded with
  | none => trivial
  | some st =>
    obtain ⟨hi, hK⟩ := hs st (hload _ rfl)
    dsimp only
    split_ifs
    · trivial
    · trivial
    have hbegin := hok.begin st hi hK
    have hinst : st.beginDownload.instruction = i := hi
    -- a failed download is saved as such, with its error, and thrown again
    have hfail {α : Type} {st' : UpgradeState} (hi' : st'.instruction = i) (hK' : K st') {e : Text}
        (he : E e) (s : Disk) : Steps ok (Writing i K N) (fun x _ => ∀ a, x ≠ .ok a)
          (saveState o (st'.failWith e) >>= fun _ => (throwing e : Worker α)) s := by
      have hfi : (st'.failWith e).instruction = i := hi'
      exact (steps_saveState o world hok hfi (hok.fail st' e hK' he) s).bind
        (fun _ _ _ _ h => by cases h) fun _ _ _ _ h => by cases h
    refine (steps_saveState o world hok hinst hbegin s₁).bind (fun _ s₂ _ => ?_) fun _ _ _ => trivial
    refine bind (Q := fun x _ => ∀ path, x = .ok path → path = downloadPath o i)
      ?_ (fun path s₃ hpath => ?_) fun _ _ _ => trivial
    · have hdownload := steps_downloadAndVerify o world hok s₂
      rw [hinst]
      exact hdownload.handle (fun _ _ h _ hx => by cases hx; exact h) fun e s he =>
        (hfail hinst hbegin he s).mono (fun _ _ h => h) fun _ _ h path hx => absurd hx (h path)
    · obtain rfl := hpath path rfl
      have hfinish := hok.finish _ hinst hbegin
      have hinst : (st.beginDownload.finishDownload (downloadPath o i)).instruction = i := hi
      exact bind (Q := fun _ _ => True)
        ((steps_saveState o world hok hinst hfinish s₃).handle (fun _ _ _ => trivial) fun e s he =>
          (hfail hinst hfinish (he e rfl) s).mono (fun _ _ h => h) fun _ _ _ => trivial)
        (fun _ _ _ => trivial) fun _ _ _ => trivial

lemma moves_undo (hclear : ∀ s d, ok (.clear .activation) s d → d.holds = true → N)
    (hr : r.upgradeId = i.upgradeId) (error : Text) :
    Moves ok (Writing i K N) (undo o r error) := by
  have hsave {r : UpgradeActivationRecord} (hr : r.upgradeId = i.upgradeId) (e : Text) :
      Moves ok (Writing i K N) (saveActivation o (rollbackFailed r error e)) :=
    moves_saveActivation o hclear hr
  intro s
  have hmoves : Moves ok (Writing i K N) (rollBack o r) :=
    moves_of_keeps fun f => keeps_rollBack o (fun _ _ _ _ h => h) r
  -- what going back returns is the record it was given, with another state
  have hreturn : Steps ok (fun _ _ => True)
      (fun x _ => ∀ r', x = .ok r' → r'.upgradeId = i.upgradeId) (rollBack o r) s := by
    refine (moves_anywhere _ s).bind (fun _ s₁ _ => ?_) (by simp)
    refine (moves_anywhere _ s₁).bind (fun _ s₂ _ => ?_) (by simp)
    refine (moves_anywhere _ s₂).bind (fun _ s₃ _ => ?_) (by simp)
    exact fun _ h => by cases h; exact hr
  have hsteps : Steps ok (Writing i K N)
      (fun x _ => ∀ r', x = .ok (some r') → r'.upgradeId = i.upgradeId)
      ((some <$> rollBack o r).handle fun e => do
        saveActivation o (rollbackFailed r error e)
        pure none) s := by
    refine handle (Q := fun x _ => ∀ r', x = .ok (some r') → r'.upgradeId = i.upgradeId)
      (((hmoves s).and hreturn).bind (fun r' _ h _ hx => ?_) fun _ _ _ _ hx => by cases hx)
      (fun _ _ h => h) fun e s _ => ?_
    · cases hx
      exact h.2 r' rfl
    · exact (hsave hr e s).bind (fun _ _ _ _ hx => by cases hx) fun _ _ _ _ hx => by cases hx
  refine hsteps.bind (fun back s₁ h₁ => ?_) fun _ _ _ => trivial
  cases back with
  | none => trivial
  | some r' =>
    exact ((moves_saveActivation o hclear (h₁ r' rfl)).handle fun e => hsave (h₁ r' rfl) e) s₁

section

variable (hok : Governed o world i E K N ok)
include hok

lemma moves_recover
    (hr : r.upgradeId = i.upgradeId) (attempted : Bool) (error : Text) :
    Moves ok (Writing i K N) (recover o r attempted error : Worker α) := by
  have hr' : (failedRecord r error).upgradeId = i.upgradeId := hr
  refine Moves.relabel ((moves_saveActivation o hok.clearBack hr').bind fun _ =>
    Moves.bind ?_ fun _ => moves_fail error)
  split_ifs
  · exact moves_undo o hok.clearBack hr' error
  · exact moves_ret ()

lemma moves_settle (i' : UpgradeInstruction)
    (hr : r.upgradeId = i.upgradeId) : Moves ok (Writing i K N) (settle o i' r) := by
  have hconf : Moves ok (Writing i K N)
      (atomicWrite o.platform .conf (writeInstalledBuild i')) :=
    moves_of_keeps fun f => keeps_atomicWrite fun _ _ h => h
  have hstart : Moves ok (Writing i K N) startService :=
    moves_of_keeps fun f => keeps_startService fun _ _ _ _ h => h
  have hhealth : Moves ok (Writing i K N) (waitForHealth o i') :=
    moves_of_keeps fun f => keeps_act fun _ _ h => h
  have hhealthy : { r with state := .localHealthy, failureCode := [], failureMessage := [] :
      UpgradeActivationRecord }.upgradeId = i.upgradeId := hr
  exact hconf.bind fun _ => (moves_saveActivation o hok.clear hr).bind fun _ => hstart.bind fun _ =>
    hhealth.bind fun _ => moves_saveActivation o hok.clear hhealthy

/-- **The steps of the worker.** From a disk whose state, if it loads, is of the instruction, every
step of the worker writes only states and records of it. -/
theorem steps_runUpgradeWorker {s : Disk}
    (hs : Stored i K s.files) :
    Steps ok (Writing i K N) (fun _ _ => True) (runUpgradeWorker o world) s := by
  refine bind (steps_look .same) (fun loaded s₁ h₁ => ?_) fun _ _ _ => trivial
  obtain ⟨rfl, hload⟩ := h₁
  cases loaded with
  | none => trivial
  | some st =>
    obtain ⟨rfl, hK⟩ := hs st (hload _ rfl)
    have hr : (newRecord o st).upgradeId = st.instruction.upgradeId := rfl
    have hverified : Steps ok (Writing st.instruction K N) (fun _ _ => True)
        (verifiedState o world st) s₁ := by
      unfold verifiedState
      split_ifs
      · trivial
      · exact steps_downloadPending o world hok hs
    have hextract (st' : UpgradeState) : Moves ok (Writing st.instruction K N)
        (extractVersion o world st') :=
      moves_of_keeps fun f => keeps_extractVersion o world (fun _ _ _ h => h) st'
    have hprepare : Steps ok (Writing st.instruction K N) (fun _ _ => True)
        (prepare o world st (newRecord o st)) s₁ :=
      hverified.bind (fun st' s _ => ((moves_saveActivation o hok.clear hr).bind fun _ =>
        (hextract st').bind fun _ => moves_ret _) s) fun _ _ _ => trivial
    have hstop : Moves ok (Writing st.instruction K N) (stopService o) :=
      moves_of_keeps fun f => keeps_stopService o fun _ _ _ _ h => h
    have hswitch (j : UpgradeInstruction) : Moves ok (Writing st.instruction K N)
        (activateVersion o j) :=
      moves_of_keeps fun f => keeps_activateVersion o (fun _ _ _ _ h => h) j
    refine bind (Q := fun _ _ => True) (hprepare.handle (fun _ _ _ => trivial)
      fun e s _ => moves_recover o world hok hr false e s) (fun st' s₂ _ => ?_) fun _ _ _ => trivial
    have hr' : { newRecord o st with activeTarget := targetPath o st'.instruction :
        UpgradeActivationRecord }.upgradeId = st.instruction.upgradeId := rfl
    exact ((hstop.handle fun e => moves_recover o world hok hr' false e).bind fun _ =>
      ((hswitch _).handle fun e => moves_recover o world hok hr' true e).bind fun previous =>
      (moves_settle o world hok _ (by rfl)).handle fun e =>
        moves_recover o world hok (by rfl) true e) s₂

end

end

end NetaAgent.UpgradeWorker
