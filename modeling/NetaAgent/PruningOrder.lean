import NetaAgent.HistoryMaintenance
import NetaAgent.Run

/-!
Whole calls of `prune_to_budget`: what is left in the store when a stage of the loop is reached,
and how long a call takes.

A stage of the loop is reached only when the stages before it removed nothing, so that the rows
they look for are gone (`Exhausted`). Every turn of the loop but the last one removes a row,
whatever the files are measured to be.
-/

namespace NetaAgent.HistoryMaintenance

open Decimal Sql HistoryStore Run List Pruning Stage

/-! ### Rows -/

variable (db : Store) (s : Store × Pruning)

def instanceRows : List ProcessInstance := db.processInstances.elim [] Table.rows

def findingRows : List ProcessFinding := db.processFindings.elim [] Table.rows

def rowCount : ℕ :=
  db.connections.rows.length + (instanceRows db).length + (findingRows db).length

structure HasProcessTables (db : Store) : Prop where
  instances : db.processInstances.isSome
  findings : db.processFindings.isSome

/-- The process tables are found by a statement that looks for them. -/
def Answer.Finds (a : Answer) : Prop := a.instancesFound = true ∧ a.findingsFound = true

def NoNormal : Prop := ∀ r ∈ db.connections, anomalous r = true

def NoUnreferenced : Prop :=
  ∀ i ∈ instanceRows db, i.exitedAtNs.isSome → ∃ f ∈ findingRows db, f.processKey = i.processKey

def NoReported : Prop := ∀ f ∈ findingRows db, f.reportState ≠ .reported

/-! ### What a deletion leaves -/

section Deletion
variable {α κ : Type} {key : α → κ}

lemma length_oldest (le : α → α → Bool) (n : ℕ) (l : List α) :
    (oldest le n l).length = min n l.length := by
  simp [oldest]

variable {l batch : List α} {le : α → α → Bool}

lemma oldest_eq_nil {n : ℕ} (hn : n ≠ 0) (h : (oldest le n l).length = 0) : l = [] := by
  rw [length_oldest] at h
  exact length_eq_zero_iff.mp (by omega)

lemma oldest_nodup {n : ℕ} (h : l.Nodup) : (oldest le n l).Nodup :=
  ((perm_insertionSort _ l).nodup_iff.mpr h).sublist (take_sublist _ _)

lemma length_delete (t : Table key) (p : α → Bool) :
    (t.delete p).rows.length + t.rows.countP p = t.rows.length := by
  have h := length_eq_countP_add_countP p (l := t.rows)
  have hnot : (t.delete p).rows.length = t.rows.countP (!p ·) := by
    rw [Table.delete, countP_eq_length_filter]
  have hfun : (fun a => decide ¬ p a = true) = (!p ·) := by
    funext a
    cases p a <;> rfl
  rw [hfun] at h
  omega

variable {t : Table key} {p : α → Bool}

lemma delete_eq_self (h : t.rows.countP p = 0) : t.delete p = t := by
  ext1
  refine filter_eq_self.mpr fun a ha => ?_
  rw [Bool.not_eq_true']
  exact Bool.not_eq_true _ ▸ countP_eq_zero.mp h a ha

lemma length_le_countP (hnodup : batch.Nodup)
    (hbatch : ∀ a ∈ batch, a ∈ t ∧ p a = true) : batch.length ≤ t.rows.countP p := by
  rw [countP_eq_length_filter]
  exact (subperm_of_subset hnodup fun a ha =>
    mem_filter.mpr (hbatch a ha)).length_le

end Deletion

lemma rows_nodup_filter (p : Connection → Bool) :
    (db.connections.rows.filter p).Nodup := db.connections.rows_nodup.filter _

variable {db db' : Store}

lemma length_deleteConnections {batch : List Connection} (hnodup : batch.Nodup)
    (hbatch : ∀ r ∈ batch, r ∈ db.connections) :
    rowCount (deleteConnections batch db) + batch.length ≤ rowCount db := by
  have hlen := length_delete db.connections fun r => batch.any fun x => x.id = r.id
  have hle := length_le_countP (p := fun r => batch.any fun x => x.id = r.id) hnodup
    fun r hr => ⟨hbatch r hr, any_eq_true.mpr ⟨r, hr, decide_eq_true rfl⟩⟩
  have hinstances : instanceRows (deleteConnections batch db) = instanceRows db := rfl
  have hfindings : findingRows (deleteConnections batch db) = findingRows db := rfl
  have hconnections : (deleteConnections batch db).connections =
      db.connections.delete fun r => batch.any fun x => x.id = r.id := rfl
  unfold rowCount
  rw [hinstances, hfindings, hconnections]
  omega

section Instances
variable {is : Table ProcessInstance.processKey} {p : ProcessInstance → Bool} {db db' : Store}
  {n : ℕ}

lemma deleteInstances_ok (h : deleteInstances is p db = .ok (n, db')) :
    n = is.rows.countP p ∧ db' = { db with processInstances := some (is.delete p) } := by
  unfold deleteInstances at h
  split at h <;> cases h
  exact ⟨rfl, rfl⟩

lemma deleteInstances_rowCount (his : db.processInstances = some is)
    (h : deleteInstances is p db = .ok (n, db')) : rowCount db' + n ≤ rowCount db := by
  obtain ⟨rfl, rfl⟩ := deleteInstances_ok h
  have hlen := length_delete is p
  have hrows : instanceRows db = is.rows := by rw [instanceRows, his]; rfl
  unfold rowCount
  rw [hrows]
  simp only [instanceRows, findingRows, Option.elim_some]
  omega

end Instances

variable {a : Answer}

lemma instances_eq_some {is : Table ProcessInstance.processKey}
    (h : instances a db = some is) : db.processInstances = some is := by
  unfold instances at h
  split at h
  · exact h
  · cases h

variable {fs : Table ProcessFinding.findingId}

lemma findings_eq_some (h : findings a db = some fs) : db.processFindings = some fs := by
  unfold findings at h
  split at h
  · exact h
  · cases h

/-! ### The statements on the process tables -/

def findingBatch (reportedOnly : Bool) (fs : Table ProcessFinding.findingId) :
    List ProcessFinding :=
  if reportedOnly then oldest lastSeenLe 8 (fs.rows.filter isReported)
  else oldest reportedFirstLe 1 fs.rows

variable {b : Bool}

lemma mem_of_mem_findingBatch
    {f : ProcessFinding} (h : f ∈ findingBatch b fs) : f ∈ fs ∧ (b → isReported f) := by
  unfold findingBatch at h
  cases b with
  | false => exact ⟨mem_of_mem_oldest h, nofun⟩
  | true =>
    obtain ⟨hf, hr⟩ := mem_filter.mp (mem_of_mem_oldest h)
    exact ⟨hf, fun _ => hr⟩

lemma mem_batch_of_any {f : ProcessFinding}
    (hf : f ∈ fs) (h : (findingBatch b fs).any (fun g => g.findingId = f.findingId) = true) :
    f ∈ findingBatch b fs := by
  obtain ⟨g, hg, heq⟩ := any_eq_true.mp h
  rwa [← Table.eq_of_key_eq (mem_of_mem_findingBatch hg).1 hf (of_decide_eq_true heq)]

variable {k n : ℕ}

lemma pruneOldProcessFindings_ok (h : pruneOldProcessFindings b a db = .ok (n, db')) :
    n = 0 ∧ db' = db ∧ findings a db = none ∨ ∃ fs, findings a db = some fs ∧
      n = fs.rows.countP (fun f => (findingBatch b fs).any fun g => g.findingId = f.findingId) ∧
      db' = { db with processFindings := some (fs.delete fun f =>
        (findingBatch b fs).any fun g => g.findingId = f.findingId) } := by
  unfold pruneOldProcessFindings at h
  split at h
  · next hfs => cases h; exact .inl ⟨rfl, rfl, hfs⟩
  · next fs hfs => cases h; exact .inr ⟨fs, hfs, rfl, rfl⟩

lemma pruneOldProcessFindings_rowCount
    (h : pruneOldProcessFindings b a db = .ok (n, db')) : rowCount db' + n ≤ rowCount db := by
  rcases pruneOldProcessFindings_ok h with ⟨rfl, rfl, -⟩ | ⟨fs, hfs, rfl, rfl⟩
  · exact le_rfl
  · have hlen := length_delete fs fun f =>
      (findingBatch b fs).any fun g => g.findingId = f.findingId
    have hrows : findingRows db = fs.rows := by rw [findingRows, findings_eq_some hfs]; rfl
    unfold rowCount
    rw [hrows]
    simp only [instanceRows, findingRows, Option.elim_some]
    omega

lemma deleteOrphanInstances_rowCount
    (h : deleteOrphanInstances a db = .ok (n, db')) : rowCount db' + n ≤ rowCount db := by
  unfold deleteOrphanInstances at h
  split at h
  · cases h
    exact le_rfl
  · next his _ => exact deleteInstances_rowCount (instances_eq_some his) h
  · next his _ => exact deleteInstances_rowCount (instances_eq_some his) h

lemma pruneUnreferencedProcessBatch_rowCount
    (h : pruneUnreferencedProcessBatch a db = .ok (n, db')) : rowCount db' + n ≤ rowCount db := by
  unfold pruneUnreferencedProcessBatch at h
  split at h
  · next his _ => exact deleteInstances_rowCount (instances_eq_some his) h
  · cases h
    exact le_rfl

/-- **A statement that reports `n` rows has removed as many.** -/
lemma Stage.statement_rowCount {stage : Stage}
    (h : stage.statement a db = .ok (n, db')) : rowCount db' + n ≤ rowCount db := by
  cases stage with
  | normal =>
    cases h
    exact length_deleteConnections (oldest_nodup (rows_nodup_filter db _))
      fun r => mem_of_mem_normalBatch
  | anomalous =>
    cases h
    exact length_deleteConnections (oldest_nodup (rows_nodup_filter db _))
      fun r => mem_of_mem_anomalousBatch
  | orphanInstances => exact deleteOrphanInstances_rowCount h
  | unreferenced => exact pruneUnreferencedProcessBatch_rowCount h
  | reported | lastFinding => exact pruneOldProcessFindings_rowCount h
  | _ =>
    cases h
    exact le_rfl

/-! ### A call -/

def advance (a : Answer) : Store × Pruning := s.2.step s.1 a

/-- A call with the budget `maxBytes`. -/
def called (maxBytes : ℕ) : Pruning := .running maxBytes 0 .measure

/-- **What a step can do**: it throws and changes nothing, or its statement succeeds. -/
lemma advance_cases (db : Store) (maxBytes bytes : ℕ) (stage : Stage) (a : Answer) :
    (∃ e, advance (db, .running maxBytes bytes stage) a = (db, .threw e)) ∨
      ∃ n db', stage.statement a db = .ok (n, db') ∧ advance (db, .running maxBytes bytes stage) a =
          (db', .after maxBytes bytes n a.size stage) := by
  unfold advance step
  simp only
  split
  · exact .inl ⟨_, rfl⟩
  · split
    · exact .inl ⟨_, rfl⟩
    · next n db' h => exact .inr ⟨n, db', h, rfl⟩

/-! ### How long a call takes -/

def entersLoop : Pruning → Bool
  | .running _ _ stage => stage = .normal
  | _ => false

def iterations : Store × Pruning → List Answer → ℕ
  | _, [] => 0
  | s, a :: w => (entersLoop s.2).toNat + iterations (advance s a) w

/-- Whether the body of the loop may be entered before a row is removed. -/
def Stage.slack : Stage → ℕ
  | .unreferenced | .reported | .anomalous | .lastFinding => 0
  | _ => 1

def Pruning.slack : Pruning → ℕ
  | .running _ _ stage => stage.slack
  | _ => 0

lemma Stage.slack_le (stage : Stage) : stage.slack ≤ 1 := by cases stage <;> decide

lemma Pruning.slack_le : ∀ p : Pruning, p.slack ≤ 1
  | .running _ _ stage => stage.slack_le
  | .returned | .threw _ => Nat.zero_le 1

lemma slack_finish (maxBytes bytes : ℕ) : (finish maxBytes bytes).slack = 0 := by
  unfold finish
  split <;> rfl

lemma entersLoop_le_slack (maxBytes bytes : ℕ) (stage : Stage) :
    (entersLoop (.running maxBytes bytes stage)).toNat ≤ stage.slack := by
  cases stage <;> exact Nat.le_of_ble_eq_true rfl

/-- The body of the loop is entered where there was slack, and slack comes with a removed
row. -/
lemma slack_after (maxBytes bytes removed size : ℕ) (stage : Stage) :
    (entersLoop (.running maxBytes bytes stage)).toNat +
      (Pruning.after maxBytes bytes removed size stage).slack ≤ removed + stage.slack := by
  have hafter := (Pruning.after maxBytes bytes removed size stage).slack_le
  rcases Nat.eq_zero_or_pos removed with rfl | hpos
  · cases stage with
    | lastFinding =>
      simp only [Pruning.after, if_true, slack_finish]
      exact Nat.zero_le _
    | normal | unreferenced | reported | anomalous => exact le_rfl
    | _ =>
      simp only [entersLoop, Stage.slack, reduceCtorEq, decide_false, Bool.toNat_false]
      omega
  · have henters := entersLoop_le_slack maxBytes bytes stage
    omega

lemma iterations_step (a : Answer) :
    (entersLoop s.2).toNat + (rowCount (advance s a).1 + (advance s a).2.slack) ≤
      rowCount s.1 + s.2.slack := by
  obtain ⟨db, _ | ⟨maxBytes, bytes, stage⟩ | e⟩ := s
  · exact (Nat.zero_add _).le
  · rcases advance_cases db maxBytes bytes stage a with ⟨e, h⟩ | ⟨n, db', hst, h⟩
    · rw [h]
      have hle := entersLoop_le_slack maxBytes bytes stage
      simp only [Pruning.slack]
      omega
    · rw [h]
      have hrows := Stage.statement_rowCount hst
      have hslack := slack_after maxBytes bytes n a.size stage
      simp only [Pruning.slack] at hslack ⊢
      omega
  · exact (Nat.zero_add _).le

lemma iterations_run (w : List Answer) :
    iterations s w + rowCount (run advance s w).1 ≤ rowCount s.1 + s.2.slack := by
  induction w generalizing s with
  | nil =>
    show 0 + rowCount s.1 ≤ _
    omega
  | cons a w ih =>
    have hstep := iterations_step s a
    have hrest := ih (advance s a)
    show (entersLoop s.2).toNat + iterations (advance s a) w +
      rowCount (run advance (advance s a) w).1 ≤ _
    omega

/-- The stages still to come before the loop removes a row or ends. -/
def Stage.rank : Stage → ℕ
  | .measure => 14
  | .checkpoint => 13
  | .orphanProcesses => 12
  | .orphanTls => 11
  | .orphanBaselines => 10
  | .orphanEnvironments => 9
  | .orphanInstances => 8
  | .vacuum => 7
  | .truncate => 6
  | .normal => 5
  | .unreferenced => 4
  | .reported => 3
  | .anomalous => 2
  | .lastFinding => 1

def Pruning.rank : Pruning → ℕ
  | .running _ _ stage => stage.rank
  | _ => 0

def Pruning.isRunning : Pruning → Bool
  | .running _ _ _ => true
  | _ => false

lemma Stage.rank_pos (stage : Stage) : 1 ≤ stage.rank := by cases stage <;> decide

lemma rank_ite {c : Prop} [Decidable c] {p q : Pruning} (hp : p.rank ≤ k)
    (hq : q.rank ≤ k) : (if c then p else q).rank ≤ k := by
  split
  · exact hp
  · exact hq

lemma rank_finish (maxBytes bytes k : ℕ) : (finish maxBytes bytes).rank ≤ k :=
  rank_ite (Nat.zero_le k) (Nat.zero_le k)

lemma rank_after (maxBytes bytes removed size : ℕ) (stage : Stage) :
    (Pruning.after maxBytes bytes removed size stage).rank + 1 ≤ 12 * removed + stage.rank := by
  have hmeasured : (Pruning.after maxBytes bytes 0 size stage).rank + 1 ≤ stage.rank := by
    cases stage with
    | measure => exact Nat.succ_le_succ (rank_ite (Nat.zero_le 13) (Nat.le_refl 13))
    | checkpoint => exact Nat.succ_le_succ (rank_ite (Nat.zero_le 12) (Nat.le_refl 12))
    | truncate => exact Nat.succ_le_succ (rank_ite (Nat.le_refl 5) (rank_finish _ _ 5))
    | lastFinding => exact Nat.succ_le_succ (rank_finish maxBytes bytes 0)
    | _ => exact Nat.le_of_ble_eq_true rfl
  rcases Nat.eq_zero_or_pos removed with rfl | hpos
  · simpa using hmeasured
  · have hback : removed ≠ 0 := Nat.pos_iff_ne_zero.mp hpos
    have hrank := stage.rank_pos
    cases stage with
    | normal | unreferenced | reported | anomalous | lastFinding =>
      simp only [Pruning.after, if_neg hback, Pruning.rank]
      have : Stage.orphanProcesses.rank = 12 := rfl
      omega
    | _ => exact hmeasured.trans (Nat.le_add_left _ _)

variable {s : Store × Pruning}

lemma rank_step (hs : s.2.isRunning) (a : Answer) :
    12 * rowCount (advance s a).1 + (advance s a).2.rank + 1 ≤ 12 * rowCount s.1 + s.2.rank := by
  obtain ⟨db, _ | ⟨maxBytes, bytes, stage⟩ | e⟩ := s
  · cases hs
  · rcases advance_cases db maxBytes bytes stage a with ⟨e, h⟩ | ⟨n, db', hst, h⟩
    · rw [h]
      have hpos := stage.rank_pos
      simp only [Pruning.rank]
      omega
    · rw [h]
      have hrows := Stage.statement_rowCount hst
      have hrank := rank_after maxBytes bytes n a.size stage
      simp only [Pruning.rank] at hrank ⊢
      omega
  · cases hs

lemma stopped_run (hs : s.2.isRunning = false) (w : List Answer) : run advance s w = s := by
  have hstep : ∀ a, advance s a = s := by
    intro a
    obtain ⟨db, _ | ⟨maxBytes, bytes, stage⟩ | e⟩ := s
    · rfl
    · cases hs
    · rfl
  induction w with
  | nil => rfl
  | cons a w ih =>
    show run advance (advance s a) w = s
    rwa [hstep a]

/-- **A call ends**, whatever is measured. -/
lemma stopped_of_long (s : Store × Pruning) (w : List Answer)
    (hw : 12 * rowCount s.1 + s.2.rank ≤ w.length) : (run advance s w).2.isRunning = false := by
  induction w generalizing s with
  | nil =>
    obtain ⟨db, _ | ⟨maxBytes, bytes, stage⟩ | e⟩ := s
    · rfl
    · have hpos := stage.rank_pos
      simp only [Pruning.rank, length_nil] at hw
      omega
    · rfl
  | cons a w ih =>
    by_cases hs : s.2.isRunning = true
    · have hstep := rank_step hs a
      rw [length_cons] at hw
      exact ih (advance s a) (by omega)
    · rw [Bool.not_eq_true] at hs
      rw [stopped_run hs]
      exact hs

/-! ### The order of the deletions -/

def Exhausted (db : Store) : Stage → Prop
  | .unreferenced => NoNormal db
  | .reported => NoNormal db ∧ NoUnreferenced db
  | .anomalous => NoNormal db ∧ NoUnreferenced db ∧ NoReported db
  | .lastFinding => db.connections.rows = []
  | _ => True

def Pruning.Reached (db : Store) : Pruning → Prop
  | .running _ _ stage => Exhausted db stage
  | _ => True

/-- What a step deletes comes after all that it must come after. -/
structure InOrder (db db' : Store) : Prop where
  connections : ∀ r ∈ db.connections, anomalous r = true → r ∉ db'.connections →
    NoNormal db ∧ NoUnreferenced db ∧ NoReported db
  findings : ∀ f ∈ findingRows db, f.reportState ≠ .reported → f ∉ findingRows db' →
    db.connections.rows = []

section Tables
variable {a : Answer} {db db' : Store} {n : ℕ}

lemma process_tables_found (h : HasProcessTables db) (ha : a.Finds) :
    ∃ is fs, instances a db = some is ∧ findings a db = some fs ∧
      instanceRows db = is.rows ∧ findingRows db = fs.rows := by
  obtain ⟨is, his⟩ := Option.isSome_iff_exists.mp h.instances
  obtain ⟨fs, hfs⟩ := Option.isSome_iff_exists.mp h.findings
  refine ⟨is, fs, ?_, ?_, ?_, ?_⟩
  · rw [instances, if_pos ha.1, his]
  · rw [findings, if_pos ha.2, hfs]
  · rw [instanceRows, his]; rfl
  · rw [findingRows, hfs]; rfl

lemma noUnreferenced_of_batch (h : HasProcessTables db) (ha : a.Finds)
    (hst : pruneUnreferencedProcessBatch a db = .ok (0, db')) : NoUnreferenced db := by
  obtain ⟨is, fs, his, hfs, hrows, hfindings⟩ := process_tables_found h ha
  unfold pruneUnreferencedProcessBatch at hst
  rw [his, hfs] at hst
  have hcount := (deleteInstances_ok hst).1.symm
  rw [countP_eq_zero] at hcount
  intro i hi hexit
  rw [hrows] at hi
  rw [hfindings]
  by_contra hnone
  have hno : hasFinding fs i = false := by
    unfold hasFinding
    rw [any_eq_false]
    intro f hf heq
    exact hnone ⟨f, hf, of_decide_eq_true heq⟩
  -- the first row of the batch is one of those that are counted
  have hmem : i ∈ is.rows.filter fun i => i.exitedAtNs.isSome && !hasFinding fs i :=
    mem_filter.mpr ⟨hi, by rw [hexit, hno]; rfl⟩
  have hbatch : oldest updatedLe 128
      (is.rows.filter fun i => i.exitedAtNs.isSome && !hasFinding fs i) ≠ [] := fun hnil =>
    ne_nil_of_mem hmem (oldest_eq_nil (n := 128) (by decide) (by rw [hnil]; rfl))
  obtain ⟨j, hj⟩ := exists_mem_of_ne_nil _ hbatch
  exact hcount j (mem_filter.mp (mem_of_mem_oldest hj)).1
    (any_eq_true.mpr ⟨j, hj, decide_eq_true rfl⟩)

lemma noReported_of_batch (h : HasProcessTables db) (ha : a.Finds)
    (hst : pruneOldProcessFindings true a db = .ok (0, db')) : NoReported db := by
  obtain ⟨is, fs, -, hfs, -, hrows⟩ := process_tables_found h ha
  rcases pruneOldProcessFindings_ok hst with ⟨-, -, hnone⟩ | ⟨fs', hfs', hcount, -⟩
  · rw [hfs] at hnone
    cases hnone
  · obtain rfl : fs = fs' := Option.some.inj (hfs.symm.trans hfs')
    replace hcount := countP_eq_zero.mp hcount.symm
    intro f hf hreported
    rw [hrows] at hf
    have hmem : f ∈ fs.rows.filter isReported := mem_filter.mpr ⟨hf, decide_eq_true hreported⟩
    have hbatch : findingBatch true fs ≠ [] := fun hnil =>
      ne_nil_of_mem hmem (oldest_eq_nil (n := 8) (by decide)
        (congrArg length (show oldest lastSeenLe 8 _ = [] from hnil)))
    obtain ⟨g, hg⟩ := exists_mem_of_ne_nil _ hbatch
    exact hcount g (mem_of_mem_findingBatch hg).1
      (any_eq_true.mpr ⟨g, hg, decide_eq_true rfl⟩)

lemma noNormal_of_batch (h : (normalBatch db).length = 0) : NoNormal db := by
  have hnil := oldest_eq_nil (by decide) h
  intro r hr
  have := filter_eq_nil_iff.mp hnil r hr
  simpa using this

lemma noConnection_of_batch (hnormal : NoNormal db) (h : (anomalousBatch db).length = 0) :
    db.connections.rows = [] := by
  have hnil := oldest_eq_nil (by decide) h
  refine eq_nil_iff_forall_not_mem.mpr fun r hr => ?_
  exact filter_eq_nil_iff.mp hnil r hr (hnormal r hr)

lemma deleteConnections_nil (db : Store) : deleteConnections [] db = db := by
  have hself : ∀ {α κ : Type} {key : α → κ} (t : Table key), (t.delete fun _ => false) = t :=
    fun t => delete_eq_self (countP_eq_zero.mpr fun _ _ => Bool.false_ne_true)
  simp only [deleteConnections, any_nil, hself]

lemma deleteInstances_zero {is : Table ProcessInstance.processKey} {p : ProcessInstance → Bool}
    (his : db.processInstances = some is) (h : deleteInstances is p db = .ok (0, db')) :
    db' = db := by
  obtain ⟨hcount, rfl⟩ := deleteInstances_ok h
  rw [delete_eq_self hcount.symm, ← his]

lemma pruneOldProcessFindings_zero {b : Bool}
    (h : pruneOldProcessFindings b a db = .ok (0, db')) : db' = db := by
  rcases pruneOldProcessFindings_ok h with ⟨-, rfl, -⟩ | ⟨fs, hfs, hcount, rfl⟩
  · rfl
  · rw [delete_eq_self hcount.symm, ← findings_eq_some hfs]

def Stage.inLoop : Stage → Bool
  | .normal | .unreferenced | .reported | .anomalous | .lastFinding => true
  | _ => false

variable {stage : Stage}

/-- **A statement of the loop that removes nothing changes nothing.** -/
lemma Stage.statement_zero (hloop : stage.inLoop)
    (h : stage.statement a db = .ok (0, db')) : db' = db := by
  cases stage with
  | normal | anomalous =>
    obtain ⟨hlen, rfl⟩ := Prod.mk.inj (Except.ok.inj h)
    rw [length_eq_zero_iff.mp hlen, deleteConnections_nil]
  | unreferenced =>
    change pruneUnreferencedProcessBatch a db = _ at h
    unfold pruneUnreferencedProcessBatch at h
    split at h
    · next his _ => exact deleteInstances_zero (instances_eq_some his) h
    · cases h; rfl
  | reported | lastFinding => exact pruneOldProcessFindings_zero h
  | _ => cases hloop

/-- The stages that delete no finding. -/
lemma Stage.statement_findings (h : stage.statement a db = .ok (n, db'))
    (hr : stage ≠ .reported) (hl : stage ≠ .lastFinding) :
    db'.processFindings = db.processFindings ∧
      (db.processInstances.isSome → db'.processInstances.isSome) := by
  cases stage with
  | reported => exact absurd rfl hr
  | lastFinding => exact absurd rfl hl
  | orphanInstances =>
    change deleteOrphanInstances a db = _ at h
    unfold deleteOrphanInstances at h
    split at h
    · cases h; exact ⟨rfl, id⟩
    · rw [(deleteInstances_ok h).2]; exact ⟨rfl, fun _ => rfl⟩
    · rw [(deleteInstances_ok h).2]; exact ⟨rfl, fun _ => rfl⟩
  | unreferenced =>
    change pruneUnreferencedProcessBatch a db = _ at h
    unfold pruneUnreferencedProcessBatch at h
    split at h
    · rw [(deleteInstances_ok h).2]; exact ⟨rfl, fun _ => rfl⟩
    · cases h; exact ⟨rfl, id⟩
  | _ => cases h; exact ⟨rfl, id⟩

lemma Stage.statement_instances (h : stage.statement a db = .ok (n, db'))
    (hi : db.processInstances.isSome) : db'.processInstances.isSome := by
  cases stage with
  | reported | lastFinding =>
    rcases pruneOldProcessFindings_ok h with ⟨-, rfl, -⟩ | ⟨fs, -, -, rfl⟩
    · exact hi
    · exact hi
  | _ => exact (Stage.statement_findings h (by simp) (by simp)).2 hi

lemma HasProcessTables.statement (hdb : HasProcessTables db)
    (h : stage.statement a db = .ok (n, db')) : HasProcessTables db' := by
  refine ⟨statement_instances h hdb.instances, ?_⟩
  by_cases hstage : stage = .reported ∨ stage = .lastFinding
  · rcases hstage with rfl | rfl
    · rcases pruneOldProcessFindings_ok h with ⟨-, rfl, -⟩ | ⟨fs, -, -, rfl⟩
      · exact hdb.findings
      · rfl
    · rcases pruneOldProcessFindings_ok h with ⟨-, rfl, -⟩ | ⟨fs, -, -, rfl⟩
      · exact hdb.findings
      · rfl
  · rw [not_or] at hstage
    rw [(statement_findings h hstage.1 hstage.2).1]
    exact hdb.findings

lemma exhausted_after (hdb : HasProcessTables db) (ha : a.Finds)
    (hstage : Exhausted db stage) (h : stage.statement a db = .ok (n, db')) (maxBytes bytes : ℕ) :
    (Pruning.after maxBytes bytes n a.size stage).Reached db' := by
  have hite : ∀ {c : Prop} [Decidable c] {p q : Pruning}, p.Reached db' → q.Reached db' →
      (if c then p else q).Reached db' := fun hp hq => by split <;> assumption
  have hfinish : ∀ bytes, (finish maxBytes bytes).Reached db' := fun _ => hite trivial trivial
  by_cases hloop : stage.inLoop
  · by_cases hn : n = 0
    · subst hn
      obtain rfl := Stage.statement_zero hloop h
      cases stage with
      | normal =>
        exact noNormal_of_batch (Prod.mk.inj (Except.ok.inj h)).1
      | unreferenced => exact ⟨hstage, noUnreferenced_of_batch hdb ha h⟩
      | reported => exact ⟨hstage.1, hstage.2, noReported_of_batch hdb ha h⟩
      | anomalous =>
        exact noConnection_of_batch hstage.1 (Prod.mk.inj (Except.ok.inj h)).1
      | lastFinding => exact hfinish bytes
      | _ => cases hloop
    · cases stage with
      | normal | unreferenced | reported | anomalous | lastFinding =>
        simp only [Pruning.after, if_neg hn]
        trivial
      | _ => cases hloop
  · cases stage with
    | measure | checkpoint => exact hite trivial trivial
    | truncate => exact hite trivial (hfinish _)
    | normal | unreferenced | reported | anomalous | lastFinding => exact absurd rfl hloop
    | _ => trivial

lemma inOrder_statement (hstage : Exhausted db stage)
    (h : stage.statement a db = .ok (n, db')) : InOrder db db' where
  connections r hr hanomalous hgone := by
    rcases statement_cases h with hq | ⟨rfl, rfl⟩ | ⟨rfl, rfl⟩ | ⟨rfl, rfl⟩
    · exact absurd (hq.connections ▸ hr) hgone
    · exact absurd hr hgone
    · -- the batch has normal connections only
      refine absurd ((mem_deleteConnections fun r => mem_of_mem_normalBatch).mpr ⟨hr, ?_⟩) hgone
      intro hmem
      have hnormal := (mem_filter.mp (mem_of_mem_oldest hmem)).2
      rw [hanomalous] at hnormal
      cases hnormal
    · exact hstage
  findings f hf hreport hgone := by
    by_cases hl : stage = .lastFinding
    · subst hl
      exact hstage
    · by_cases hr : stage = .reported
      · subst hr
        -- the batch has reported findings only
        rcases pruneOldProcessFindings_ok h with ⟨-, rfl, -⟩ | ⟨fs, hfs, -, rfl⟩
        · exact absurd hf hgone
        · rw [findingRows, findings_eq_some hfs] at hf
          refine absurd (Table.mem_delete.mpr ⟨hf, ?_⟩) hgone
          rw [← Bool.not_eq_true]
          intro hany
          have hmem := mem_batch_of_any hf hany
          exact hreport (of_decide_eq_true ((mem_of_mem_findingBatch hmem).2 rfl))
      · rw [findingRows, (statement_findings h hr hl).1] at hgone
        exact absurd hf hgone

end Tables

/-- The process tables are there, and the stage is reached in order. -/
def Reaching (s : Store × Pruning) : Prop := HasProcessTables s.1 ∧ s.2.Reached s.1

lemma reaching_step (hs : Reaching s) (ha : a.Finds) :
    Reaching (advance s a) ∧ InOrder s.1 (advance s a).1 := by
  have hrefl : ∀ db, InOrder db db :=
    fun db => ⟨fun r hr _ hgone => absurd hr hgone, fun f hf _ hgone => absurd hf hgone⟩
  obtain ⟨db, _ | ⟨maxBytes, bytes, stage⟩ | e⟩ := s
  · exact ⟨hs, hrefl db⟩
  · rcases advance_cases db maxBytes bytes stage a with ⟨e, h⟩ | ⟨n, db', hst, h⟩
    · rw [h]
      exact ⟨⟨hs.1, trivial⟩, hrefl db⟩
    · rw [h]
      exact ⟨⟨hs.1.statement hst, exhausted_after hs.1 ha hs.2 hst maxBytes bytes⟩,
        inOrder_statement hs.2 hst⟩
  · exact ⟨hs, hrefl db⟩

/-- **The order and the end of a call.** An anomalous connection is deleted only when no normal
connection, no unreferenced exited process and no reported finding is left, and a finding that is
not reported only when no connection is left. Every turn of the loop but one deletes a row, and
the call ends, whatever the files are measured to be. -/
theorem prune_to_budget_order {db : Store} (hdb : HasProcessTables db) (maxBytes : ℕ)
    {w : List Answer} (hw : ∀ a ∈ w, a.Finds) :
    Along advance (fun s a => InOrder s.1 (advance s a).1) (db, called maxBytes) w ∧
      iterations (db, called maxBytes) w +
        rowCount (run advance (db, called maxBytes) w).1 ≤ rowCount db + 1 ∧
      (12 * rowCount db + 14 ≤ w.length →
        (run advance (db, called maxBytes) w).2.isRunning = false) := by
  refine ⟨?_, iterations_run (db, called maxBytes) w, stopped_of_long (db, called maxBytes) w⟩
  exact along_of_inv (I := Reaching) (fun s a hs ha => reaching_step hs ha) ⟨hdb, trivial⟩
    (along_of_mem hw)

/-! ### Two calls -/

/-- A store with the process tables and nothing in them. -/
def emptyTables : Store :=
  { Store.initial with processInstances := some .empty, processFindings := some .empty }

/-- An anomalous connection, and a finding that is not reported. -/
def crowded : Store :=
  { emptyTables with
    connections := Table.empty.add (fun id => {
      id, serial := 0, socketCookie := 7, socketInode := 7, processId := none, localIp := [],
      localPort := 1, remoteIp := [], remotePort := 443, targetHost := [],
      lifecycleState := .closed, firstSeenNs := 1, lastSeenNs := 1, capturedAtNs := none,
      trustState := .suspicious }) fun _ => rfl
    processInstances := some ((Table.empty.insert ⟨['p'], none, 1⟩).getD .empty)
    processFindings := some ((Table.empty.insert ⟨['f'], ['p'], 1, .pending⟩).getD .empty) }

def constant (n : ℕ) : List Answer := List.replicate n { size := 1000 }

lemma constant_finds (n : ℕ) : ∀ a ∈ constant n, a.Finds := by
  intro a ha
  rw [eq_of_mem_replicate ha]
  exact ⟨rfl, rfl⟩

/-- Both are deleted, in three turns of the loop; the process is left. -/
theorem prune_to_budget_order_crowded :
    iterations (crowded, called 100) (constant 50) = 3 ∧
      rowCount crowded = 3 ∧ rowCount (run advance (crowded, called 100) (constant 50)).1 = 1 ∧
      Along advance (fun s a => InOrder s.1 (advance s a).1) (crowded, called 100)
        (constant 50) ∧
      (run advance (crowded, called 100) (constant 50)).2.isRunning = false := by
  obtain ⟨horder, -, hends⟩ := @prune_to_budget_order crowded ⟨rfl, rfl⟩ 100 _
    (constant_finds 50)
  exact ⟨by decide +kernel, by decide +kernel, by decide +kernel, horder, hends (by decide +kernel)⟩

/-- The loop is entered once when there is no row. -/
theorem prune_to_budget_empty :
    rowCount emptyTables = 0 ∧
      iterations (emptyTables, called 100) (constant 20) = 1 ∧
      (run advance (emptyTables, called 100) (constant 20)).2 =
        .threw (.failed "SQLite history cannot satisfy configured storage cap") := by
  decide +kernel

end NetaAgent.HistoryMaintenance
