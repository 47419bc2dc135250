import NetaAgent.UpgradeRecords

/-!
The service and the workers it launches.

The launcher reads the state file, then the activation record, and starts a worker if the record is
not of the stored instruction. The worker writes that record only when its download is over. So a
second worker may be started until then; once the record is there it stays, and keeps the launcher
from starting another.
-/

namespace NetaAgent.UpgradeWorker

open Decimal Upgrade NetaAgent.Process List Except

variable (o : Options) (world : World)

/-! ### The system -/

/-- A worker, and the instruction it was launched for. -/
structure Job where
  instruction : UpgradeInstruction
  process : Worker Unit

def Job.Running (j : Job) : Prop := j.process.result = none

instance (j : Job) : Decidable j.Running := inferInstanceAs (Decidable (_ = _))

/-- The disk, what the launcher has read of the state file, and all workers launched so far. -/
structure System where
  disk : Disk
  pending : Option UpgradeInstruction
  jobs : List Job

inductive Event where
  /-- The response to a heartbeat carries an instruction. -/
  | accept (env : Env) (i : UpgradeInstruction) (build : BuildIdentity)
  /-- The launcher reads the state file. -/
  | check (unreadable : Option Text)
  /-- The launcher reads the activation record and may start a worker. -/
  | launch (unreadable : Option Text) (starts : Bool)
  /-- A worker takes its next operation. -/
  | work (n : ℕ) (d : Decision)

variable (s : System) (i : UpgradeInstruction)

def System.accept (env : Env) (i : UpgradeInstruction) (build : BuildIdentity) : System :=
  { s with
    disk := { s.disk with files := (Upgrade.accept env i build s.disk.files).2 }
    pending := none }

variable (unreadable : Option Text)

def System.check : System :=
  { s with pending := (pendingInstruction unreadable s.disk.files).toOption.join }

def System.launch (starts : Bool) : System :=
  match s.pending with
  | none => s
  | some i =>
    if unclaimed unreadable s.disk.files i.upgradeId = .ok true ∧ starts = true then
      { s with pending := none, jobs := s.jobs ++ [⟨i, UpgradeWorker.apply o world⟩] }
    else { s with pending := none }

def System.work (n : ℕ) (d : Decision) : System :=
  match s.jobs[n]? with
  | none => s
  | some j =>
    let c := Proc.advance (j.process, s.disk) d
    { s with disk := c.2, jobs := s.jobs.set n { j with process := c.1 } }

def System.step : Event → System
  | .accept env i build => s.accept env i build
  | .check unreadable => s.check unreadable
  | .launch unreadable starts => s.launch o world unreadable starts
  | .work n d => s.work n d

def System.running : ℕ :=
  s.jobs.countP fun j => j.Running ∧ j.instruction = i

/-- The two steps of the launcher, taken one after the other, are
`launch_upgrade_worker_if_needed`. -/
lemma launch_check (u u' : Option Text) (starts : Bool) :
    ((s.check u).launch o world u' starts).jobs.length = s.jobs.length +
      if launchUpgradeWorkerIfNeeded ⟨u, u', starts⟩ s.disk.files = .ok true then 1 else 0 := by
  unfold System.launch System.check launchUpgradeWorkerIfNeeded
  rcases pendingInstruction u s.disk.files with e | _ | i
  · simp [Except.toOption, bind, Except.bind]
  · simp [Except.toOption, bind, Except.bind, pure, Except.pure]
  · rcases hfree : unclaimed u' s.disk.files i.upgradeId with e | _ | _ <;> cases starts <;>
      simp [Except.toOption, bind, Except.bind, pure, Except.pure, hfree]

/-! ### When the launcher is called in time -/

/-- The activation record is not removed when its replacement fails. -/
def Unremoved (l : Op) (_ : Disk) (d : Decision) : Prop :=
  l = .clear .activation ∨ l = .back (.clear .activation) → d.holds = false

instance (l : Op) (s : Disk) (d : Decision) : Decidable (Unremoved l s d) :=
  inferInstanceAs (Decidable (_ → _))

/-- While a worker runs, no other instruction is stored, and the launcher reads the state file only
when the worker's record is there. -/
def Timely : Event → Prop
  | .accept env i build =>
    (∃ j ∈ s.jobs, j.Running) → (Upgrade.accept env i build s.disk.files).2 = s.disk.files
  | .check _ =>
    ∀ j ∈ s.jobs, j.Running → unclaimed none s.disk.files j.instruction.upgradeId ≠ .ok true
  | .launch _ _ => True
  | .work n d => ∀ j ∈ s.jobs[n]?, Proc.Allowed Unremoved (j.process, s.disk) d

instance (s : System) : ∀ e, Decidable (Timely s e)
  | .accept _ _ _ => inferInstanceAs (Decidable (_ → _))
  | .check _ => inferInstanceAs (Decidable (∀ j ∈ s.jobs, _ → _))
  | .launch _ _ => .isTrue trivial
  | .work n _ => inferInstanceAs (Decidable (∀ j ∈ s.jobs[n]?, _))

/-! ### What a worker does to the files -/

/-- Any state of the instruction, and never a removal of the record. -/
abbrev Claiming : Disk → Disk → Prop := Writing i (fun _ => True) False

abbrev StoredAny (f : Files) : Prop := Stored i (fun _ => True) f

lemma governed_unremoved : Governed o world i (fun _ => True) (fun _ => True) False Unremoved where
  clear := fun _ _ h hh => by rw [h (.inl rfl)] at hh; cases hh
  clearBack := fun _ _ h hh => by rw [h (.inr rfl)] at hh; cases hh
  fails := fun _ _ _ _ _ _ => trivial
  throws := fun s => (Proc.moves_anywhere _ s).mono (fun _ _ h => h) fun _ _ _ _ _ => trivial
  begin := fun _ _ _ => trivial
  finish := fun _ _ _ => trivial
  fail := fun _ _ _ _ => trivial

variable {i : UpgradeInstruction}

lemma steps_apply {s : Disk} (hs : StoredAny i s.files) :
    Proc.Steps Unremoved (Claiming i) (fun _ _ => True) (apply o world) s := by
  have hreconcile (f : Files) : Proc.Keeps (fun s : Disk => s.files = f) (reconcile o) := by
    unfold reconcile
    cases o.platform with
    | linux => exact keeps_effect fun _ _ h => h
    | windows => exact Proc.keeps_ret ()
  have hsnapshot (f : Files) :
      Proc.Keeps (fun s : Disk => s.files = f) snapshotInstalledMetadata := by
    refine Proc.Keeps.bind (keeps_effect fun _ _ h => h) fun _ => ?_
    refine Proc.Keeps.bind (keeps_effect fun _ _ h => h) fun _ => ?_
    refine Proc.Keeps.bind (keeps_effect fun _ _ h => h) fun _ => ?_
    exact keeps_effect fun _ s h => by
      cases hc : s.conf with
      | none | some => simpa only [hc] using h
  have hrestore (f : Files) : Proc.Keeps (fun s : Disk => s.files = f) restoreIfRolledBack := by
    refine Proc.Keeps.handle (keeps_look.bind fun record => ?_) fun _ => Proc.keeps_ret ()
    cases record with
    | none => exact Proc.keeps_ret ()
    | some =>
      dsimp only
      split_ifs
      · exact keeps_effect fun _ s h => by
          split
          · exact h
          · split_ifs <;> exact h
      · exact Proc.keeps_ret ()
  have hstart (f : Files) : Proc.Keeps (fun s : Disk => s.files = f)
      (effect .snapshot fun _ s => s) := keeps_effect fun _ _ h => h
  refine Proc.Steps.handle (Q := fun _ _ => True) ?_ (fun _ _ _ => trivial) fun e s _ =>
    ((moves_of_keeps hrestore).bind fun _ => Proc.moves_fail e) s
  -- up to the start of the worker the files stay as they are
  refine (steps_of_keeps hreconcile s).bind (fun _ s₁ h₁ => ?_) fun _ _ _ => trivial
  refine (steps_of_keeps hstart s₁).bind (fun _ s₂ h₂ => ?_) fun _ _ _ => trivial
  refine (steps_of_keeps hsnapshot s₂).bind (fun _ s₃ h₃ => ?_) fun _ _ _ => trivial
  have hs₃ : StoredAny i s₃.files := by
    rw [h₃, h₂, h₁]
    exact hs
  exact steps_runUpgradeWorker o world (governed_unremoved o world i) hs₃

variable {f f' : Files}

lemma Writes.stored {N : Prop}
    (h : Writes i (fun _ => True) N f f') (hs : StoredAny i f) : StoredAny i f' := by
  cases h with
  | same => exact hs
  | @state st hi _ =>
    intro st' hst'
    have hholds : Files.Holds { f with current := some (stateJson st) } st := rfl
    rw [load_holds hholds hst']
    exact ⟨hi, trivial⟩
  | noState => exact fun st hst => by cases hst
  | record | noRecord => exact hs

/-- **The record stays.** Once the record of its instruction is there, no step of a worker takes it
away. -/
lemma Writes.claimed {K : UpgradeState → Prop}
    (h : Writes i K False f f') (hs : unclaimed none f i.upgradeId ≠ .ok true) :
    unclaimed none f' i.upgradeId ≠ .ok true := by
  cases h with
  | same | state | noState => exact hs
  | record hr => rw [← hr]; exact unclaimed_written rfl
  | noRecord hN => exact hN.elim

/-! ### At most one worker -/

/-- At most one worker runs, for the stored instruction; and if the launcher has read the state
file while it runs, its record is there. -/
structure Sole (s : System) : Prop where
  unique : ∀ (n m : ℕ) (j k : Job), s.jobs[n]? = some j → s.jobs[m]? = some k →
    j.Running → k.Running → n = m
  steps : ∀ (n : ℕ) (j : Job), s.jobs[n]? = some j → j.Running → StoredAny j.instruction s.disk.files ∧
    Proc.Steps Unremoved (Claiming j.instruction) (fun _ _ => True) j.process s.disk
  pending : ∀ i, s.pending = some i → StoredAny i s.disk.files
  claimed : ∀ i (n : ℕ) (j : Job), s.pending = some i → s.jobs[n]? = some j → j.Running →
    j.instruction = i ∧ unclaimed none s.disk.files i.upgradeId ≠ .ok true

variable {s : System}

lemma Sole.accept (h : Sole s) {env : Env} {build : BuildIdentity}
    (ht : Timely s (.accept env i build)) : Sole (s.accept env i build) := by
  have hfiles (n : ℕ) (j : Job) (hj : s.jobs[n]? = some j) (hr : j.Running) :
      (s.accept env i build).disk = s.disk := by
    have hsame := ht ⟨j, mem_of_getElem? hj, hr⟩
    simp only [System.accept, hsame]
  refine ⟨h.unique, fun n j hj hr => ?_, (fun _ hp => by cases hp), fun _ _ _ hp => by cases hp⟩
  rw [hfiles n j hj hr]
  exact h.steps n j hj hr

variable {u : Option Text}

lemma pendingInstruction_some (h : pendingInstruction u f = .ok (some i)) :
    ∃ st, load none f = .ok (some st) ∧ st.instruction = i := by
  obtain ⟨loaded, hload, hi⟩ := map_eq_ok h
  cases loaded with
  | none => cases hi
  | some st =>
    dsimp only at hi
    split_ifs at hi
    refine ⟨st, ?_, Option.some.inj hi⟩
    cases u with
    | none => exact hload
    | some => cases hc : f.current <;> simp [load, hc] at hload

lemma Sole.check (h : Sole s) (ht : Timely s (.check u)) : Sole (s.check u) := by
  have hread (i : UpgradeInstruction) (hp : (s.check u).pending = some i) :
      ∃ st, load none s.disk.files = .ok (some st) ∧ st.instruction = i := by
    refine pendingInstruction_some (u := u) ?_
    cases hpi : pendingInstruction u s.disk.files with
    | error => simp [System.check, hpi, Except.toOption] at hp
    | ok => simpa [System.check, hpi, Except.toOption] using hp
  refine ⟨h.unique, h.steps, fun i hp => ?_, fun i n j hp hj hr => ?_⟩
  · obtain ⟨st, hload, rfl⟩ := hread i hp
    intro st' hst'
    have heq : Except.ok (some st) = Except.ok (some st') := hload.symm.trans hst'
    cases heq
    exact ⟨rfl, trivial⟩
  · obtain ⟨st, hload, rfl⟩ := hread i hp
    have hi : st.instruction = j.instruction := ((h.steps n j hj hr).1 st hload).1
    exact ⟨hi.symm, hi ▸ ht j (mem_of_getElem? hj) hr⟩

lemma unclaimed_readable {id : Text}
    (h : unclaimed u f id = .ok true) : unclaimed none f id = .ok true := by
  cases u with
  | none => exact h
  | some => cases ha : f.activation <;> simp [unclaimed, ha] at h ⊢

lemma Sole.launch (h : Sole s) (u : Option Text) (starts : Bool) :
    Sole (s.launch o world u starts) := by
  unfold System.launch
  cases hp : s.pending with
  | none => exact h
  | some i =>
    dsimp only
    split_ifs with hfree
    swap
    · exact ⟨h.unique, h.steps, (fun _ hp' => by cases hp'), fun _ _ _ hp' => by cases hp'⟩
    -- a worker that runs has claimed the instruction, so none does
    have hnone (n : ℕ) (j : Job) (hj : s.jobs[n]? = some j) : ¬ j.Running := fun hr =>
      (h.claimed i n j hp hj hr).2 (unclaimed_readable hfree.1)
    have hlast (n : ℕ) (j : Job) (hj : (s.jobs ++ [⟨i, apply o world⟩])[n]? = some j)
        (hr : j.Running) : n = s.jobs.length ∧ j = ⟨i, apply o world⟩ := by
      rcases lt_trichotomy n s.jobs.length with hn | hn | hn
      · rw [getElem?_append_left hn] at hj
        exact absurd hr (hnone n j hj)
      · rw [hn, getElem?_concat_length] at hj
        exact ⟨hn, (Option.some.inj hj).symm⟩
      · rw [getElem?_eq_none (by simp; omega)] at hj
        cases hj
    refine ⟨fun n m j k hj hk hjr hkr => ?_, fun n j hj hr => ?_, (fun _ hp' => by cases hp'),
      fun _ _ _ hp' => by cases hp'⟩
    · exact (hlast n j hj hjr).1.trans (hlast m k hk hkr).1.symm
    · obtain ⟨-, rfl⟩ := hlast n j hj hr
      exact ⟨h.pending i hp, steps_apply o world (h.pending i hp)⟩

lemma advance_ended {p : Worker Unit} (hp : p.result ≠ none) (s : Disk) (d : Decision) :
    Proc.advance (p, s) d = (p, s) := by
  cases p with
  | ret | fail => rfl
  | step => exact absurd rfl hp

lemma Sole.work (h : Sole s) {n : ℕ} {d : Decision} (ht : Timely s (.work n d)) :
    Sole (s.work n d) := by
  unfold System.work
  cases hn : s.jobs[n]? with
  | none => exact h
  | some j =>
    dsimp only
    by_cases hr : j.Running
    swap
    · -- a worker that has ended changes nothing
      have hset : s.jobs.set n j = s.jobs := by
        refine ext_getElem? fun m => ?_
        rw [getElem?_set]
        split_ifs with hm hlt
        · rw [← hm, hn]
        · rw [← hm, getElem?_eq_none (not_lt.mp hlt)]
        · rfl
      rw [advance_ended hr]
      dsimp only
      rw [hset]
      exact h
    obtain ⟨hstored, hsteps⟩ := h.steps n j hn hr
    obtain ⟨hmove, hsteps'⟩ := hsteps.advance (ht j hn)
    -- the files after the step
    have hwrites : Writes j.instruction (fun _ => True) False s.disk.files
        (Proc.advance (j.process, s.disk) d).2.files := by
      rcases hmove with hsame | hmove
      · rw [hsame]
        exact .same
      · exact hmove
    have honly (m : ℕ) (k : Job)
        (hk : (s.jobs.set n { j with process := (Proc.advance (j.process, s.disk) d).1 })[m]? = some k)
        (hkr : k.Running) :
        m = n ∧ k = { j with process := (Proc.advance (j.process, s.disk) d).1 } := by
      rw [getElem?_set] at hk
      split_ifs at hk with hm hlt
      · exact ⟨hm.symm, (Option.some.inj hk).symm⟩
      · exact absurd (h.unique n m j k hn hk hr hkr) hm
    refine ⟨fun m m' k k' hk hk' hkr hkr' => ?_, fun m k hk hkr => ?_, fun i hp => ?_,
      fun i m k hp hk hkr => ?_⟩
    · exact (honly m k hk hkr).1.trans (honly m' k' hk' hkr').1.symm
    · obtain ⟨-, rfl⟩ := honly m k hk hkr
      exact ⟨hwrites.stored hstored, hsteps'⟩
    · obtain ⟨rfl, -⟩ := h.claimed i n j hp hn hr
      exact hwrites.stored hstored
    · obtain ⟨rfl, hclaimed⟩ := h.claimed i n j hp hn hr
      obtain ⟨-, rfl⟩ := honly m k hk hkr
      exact ⟨rfl, hwrites.claimed hclaimed⟩

lemma Sole.step (h : Sole s) {e : Event} (ht : Timely s e) : Sole (s.step o world e) := by
  cases e with
  | accept => exact h.accept ht
  | check => exact h.check ht
  | launch u starts => exact h.launch o world u starts
  | work => exact h.work ht

lemma countP_le_one {α : Type} {p : α → Bool} {l : List α}
    (h : ∀ (n m : ℕ) (a b : α), l[n]? = some a → l[m]? = some b → p a = true → p b = true → n = m) :
    l.countP p ≤ 1 := by
  induction l with
  | nil => exact Nat.zero_le 1
  | cons a l ih =>
    by_cases ha : p a = true
    · have hrest : l.countP p = 0 := countP_eq_zero.mpr fun b hb hpb => by
        obtain ⟨m, hm⟩ := mem_iff_getElem?.mp hb
        exact absurd (h 0 (m + 1) a b rfl (by simpa using hm) ha hpb) (by omega)
      rw [countP_cons_of_pos ha, hrest]
    · rw [countP_cons_of_neg ha]
      exact ih fun n m b c hb hc hpb hpc => Nat.succ.inj
        (h (n + 1) (m + 1) b c (by simpa using hb) (by simpa using hc) hpb hpc)

/-- **One worker at a time.** In every run in which, while a worker runs, the launcher reads the
state file only after the worker's record is there, no other instruction is stored, and no failed
replacement removes the record, at most one worker runs for any instruction. -/
theorem one_worker_running (disk : Disk) {w : List Event}
    (hw : Run.Along (System.step o world) Timely ⟨disk, none, []⟩ w) (i : UpgradeInstruction) :
    (Run.run (System.step o world) ⟨disk, none, []⟩ w).running i ≤ 1 := by
  have hstart : Sole ⟨disk, none, []⟩ :=
    ⟨(fun _ _ _ _ h => by cases h), (fun _ _ h => by cases h), (fun _ h => by cases h),
      fun _ _ _ h => by cases h⟩
  have hsole : Sole (Run.run (System.step o world) ⟨disk, none, []⟩ w) :=
    Run.inv_run (I := Sole) (fun _ _ h ht => h.step o world ht) hstart hw
  refine countP_le_one fun n m j k hj hk hjr hkr => ?_
  have hjr := (of_decide_eq_true hjr).1
  have hkr := (of_decide_eq_true hkr).1
  exact hsole.unique n m j k hj hk hjr hkr

/-! ### Small runs -/

def windowsInstruction : UpgradeInstruction :=
  { sampleInstruction with os := "windows", artifactName := "agent.zip" }

def respond : Event :=
  .accept ⟨.windows, none, false, .done⟩ windowsInstruction
    { sampleBuild with os := "windows" }

def callLauncher : List Event := [.check none, .launch none true]

def idleSystem : System :=
  ⟨{ sampleDisk .windows (.dir []) .missing with files := ⟨none, none⟩ }, none, []⟩

/-- A heartbeat during the download starts a second worker beside the first. -/
theorem second_worker_launched :
    let s := Run.run (System.step (sampleOptions .windows) sampleWorld) idleSystem
      (respond :: callLauncher ++ replicate 10 (.work 0 works) ++ callLauncher)
    load none s.disk.files = .ok (some ⟨windowsInstruction, .downloading, [], []⟩) ∧
      s.jobs.map (fun j => j.process.label) = [some .download, some .snapshot] ∧
      s.running windowsInstruction = 2 := by
  decide +kernel

/-- The next heartbeat comes when the record is there, and starts none. -/
theorem one_worker_running_recorded :
    (Run.run (System.step (sampleOptions .windows) sampleWorld)
      ⟨sampleDisk .windows (.dir []) .missing, none, []⟩
      (callLauncher ++ List.replicate 8 (.work 0 works) ++ callLauncher)).running
        sampleInstruction ≤ 1 :=
  one_worker_running (sampleOptions .windows) sampleWorld (sampleDisk .windows (.dir []) .missing)
    (by decide +kernel) sampleInstruction

end NetaAgent.UpgradeWorker
