import NetaAgent.HistoryEffects
import Mathlib.Data.List.Sort

/-!
`prune_to_budget` as a machine that executes one statement in a step.

The size of the database files and the failures of statements are the answers of the
environment. A connection is deleted with the rows of the other tables that refer to it. The
tables of host environments are left out; their cleanup is a step that changes nothing here.
-/

namespace NetaAgent.HistoryMaintenance

open Decimal Sql HistoryStore

/-! ### The deletions -/

def textLe : Text → Text → Bool
  | [], _ => true
  | _ :: _, [] => false
  | c :: r, d :: s => c.toNat < d.toNat || (c.toNat = d.toNat && textLe r s)

/-- The first `n` rows in the order of `le`. -/
def oldest {α : Type} (le : α → α → Bool) (n : ℕ) (l : List α) : List α :=
  (l.insertionSort fun a b => le a b = true).take n

variable {n : ℕ}

lemma mem_of_mem_oldest {α : Type} {le : α → α → Bool} {l : List α} {a : α}
    (h : a ∈ oldest le n l) : a ∈ l := (List.mem_insertionSort _).mp (List.mem_of_mem_take h)

def anomalous (r : Connection) : Bool :=
  r.performanceState = .degraded || r.performanceState = .failed ||
    r.trustState = .changed || r.trustState = .suspicious

/-- `COALESCE(captured_at_ns,first_seen_ns)`. -/
def captured (r : Connection) : ℤ := int64 (r.capturedAtNs.getD r.firstSeenNs)

def capturedLe (a b : Connection) : Bool :=
  captured a < captured b || (captured a = captured b && a.id ≤ b.id)

variable (db : Store)

def normalBatch : List Connection :=
  oldest capturedLe 64 (db.connections.rows.filter (!anomalous ·))

def anomalousBatch : List Connection :=
  oldest capturedLe 8 (db.connections.rows.filter anomalous)

/-- `DELETE FROM connections WHERE id IN (…)`, with `ON DELETE CASCADE`. -/
def deleteConnections (batch : List Connection) (db : Store) : Store :=
  let gone := fun id : ℕ => batch.any fun r => r.id = id
  { db with
    connections := db.connections.delete fun r => gone r.id
    lifecycleEvents := db.lifecycleEvents.delete fun e => gone e.connectionId
    transportSamples := db.transportSamples.delete fun x => gone x.connectionId
    connectionTls := db.connectionTls.delete fun x => gone x.connectionId
    verdicts := db.verdicts.delete fun v => gone v.connectionId }

def deleteOrphanProcesses : Store :=
  { db with
    processes := db.processes.delete fun p =>
      !db.connections.rows.any fun r => r.processId = some p.id }

/-- No verdict and no connection refers to the observation. -/
def orphanTls (x : TlsRow) : Bool :=
  !(db.verdicts.rows.any fun v => v.tlsObservationId = some x.id) &&
    !db.connectionTls.rows.any fun l => l.tlsObservationId = x.id

def deleteOrphanTls : Store :=
  { db with tlsObservations := db.tlsObservations.delete (orphanTls db) }

def newer (a b : Baseline) : Bool :=
  a.targetHost = b.targetHost && a.targetPort = b.targetPort &&
    (int64 b.createdNs < int64 a.createdNs ||
      (int64 a.createdNs = int64 b.createdNs && b.id < a.id))

def deleteOrphanBaselines : Store :=
  { db with
    baselines := db.baselines.delete fun candidate =>
      !(db.verdicts.rows.any fun v => v.baselineHash = candidate.sha256) &&
        db.baselines.rows.any (newer · candidate) }

/-- What a step of the machine is told: whether its statement fails, the size it measures,
and whether the process tables are found (a lookup that fails takes them for missing). -/
structure Answer where
  failure : Option Text := none
  size : ℕ := 0
  instancesFound : Bool := true
  findingsFound : Bool := true

def instances (a : Answer) (db : Store) : Option (Table ProcessInstance.processKey) :=
  if a.instancesFound then db.processInstances else none

def findings (a : Answer) (db : Store) : Option (Table ProcessFinding.findingId) :=
  if a.findingsFound then db.processFindings else none

def hasFinding (fs : Table ProcessFinding.findingId) (p : ProcessInstance) : Bool :=
  fs.rows.any fun f => f.processKey = p.processKey

/-- The deletion of process rows, which findings must not refer to. -/
def deleteInstances (is : Table ProcessInstance.processKey) (p : ProcessInstance → Bool)
    (db : Store) : Except StoreError (ℕ × Store) :=
  if db.processFindings.any fun fs => is.rows.any fun i => p i && hasFinding fs i then
    .error .foreignKey
  else .ok (is.rows.countP p, { db with processInstances := some (is.delete p) })

def deleteOrphanInstances (a : Answer) (db : Store) : Except StoreError (ℕ × Store) :=
  match instances a db, findings a db with
  | none, _ => .ok (0, db)
  | some is, none => deleteInstances is (·.exitedAtNs.isSome) db
  | some is, some fs => deleteInstances is (fun i => i.exitedAtNs.isSome && !hasFinding fs i) db

def updatedLe (a b : ProcessInstance) : Bool :=
  int64 a.updatedAtNs < int64 b.updatedAtNs ||
    (int64 a.updatedAtNs = int64 b.updatedAtNs && textLe a.processKey b.processKey)

/-- `prune_unreferenced_process_batch`. -/
def pruneUnreferencedProcessBatch (a : Answer) (db : Store) : Except StoreError (ℕ × Store) :=
  match instances a db, findings a db with
  | some is, some fs =>
    let batch := oldest updatedLe 128
      (is.rows.filter fun i => i.exitedAtNs.isSome && !hasFinding fs i)
    deleteInstances is (fun i => batch.any fun j => j.processKey = i.processKey) db
  | _, _ => .ok (0, db)

def lastSeenLe (a b : ProcessFinding) : Bool :=
  int64 a.lastSeenNs < int64 b.lastSeenNs ||
    (int64 a.lastSeenNs = int64 b.lastSeenNs && textLe a.findingId b.findingId)

def isReported (f : ProcessFinding) : Bool := f.reportState = .reported

def reportedFirstLe (a b : ProcessFinding) : Bool :=
  (isReported a && !isReported b) || (isReported a = isReported b && lastSeenLe a b)

/-- `prune_old_process_findings`. -/
def pruneOldProcessFindings (reportedOnly : Bool) (a : Answer) (db : Store) :
    Except StoreError (ℕ × Store) :=
  match findings a db with
  | none => .ok (0, db)
  | some fs =>
    let batch := if reportedOnly then oldest lastSeenLe 8 (fs.rows.filter isReported)
      else oldest reportedFirstLe 1 fs.rows
    let gone := fun f : ProcessFinding => batch.any fun g => g.findingId = f.findingId
    .ok (fs.rows.countP gone, { db with processFindings := some (fs.delete gone) })

/-! ### The machine -/

/-- The statements of `prune_to_budget`, in the order of the source. -/
inductive Stage where
  | measure
  | checkpoint
  | orphanProcesses
  | orphanTls
  | orphanBaselines
  | orphanEnvironments
  | orphanInstances
  | vacuum
  | truncate
  | normal
  | unreferenced
  | reported
  | anomalous
  | lastFinding
  deriving DecidableEq

/-- What the statement of a stage does, and how many rows it removes. -/
def Stage.statement (a : Answer) (db : Store) : Stage → Except StoreError (ℕ × Store)
  | .orphanProcesses => .ok (0, deleteOrphanProcesses db)
  | .orphanTls => .ok (0, deleteOrphanTls db)
  | .orphanBaselines => .ok (0, deleteOrphanBaselines db)
  | .orphanInstances => deleteOrphanInstances a db
  | .normal => .ok ((normalBatch db).length, deleteConnections (normalBatch db) db)
  | .unreferenced => pruneUnreferencedProcessBatch a db
  | .reported => pruneOldProcessFindings true a db
  | .anomalous => .ok ((anomalousBatch db).length, deleteConnections (anomalousBatch db) db)
  | .lastFinding => pruneOldProcessFindings false a db
  | _ => .ok (0, db)

/-- A call of `prune_to_budget`: the budget, the size measured last and the next stage. -/
inductive Pruning where
  | returned
  | running (maxBytes bytes : ℕ) (stage : Stage)
  | threw (e : StoreError)
  deriving DecidableEq

def targetBytes (maxBytes : ℕ) : ℕ := maxBytes - maxBytes / 10

def finish (maxBytes bytes : ℕ) : Pruning :=
  if maxBytes < bytes then
    .threw (.failed "SQLite history cannot satisfy configured storage cap")
  else .returned

/-- The stage after one that removed `removed` rows. -/
def Pruning.after (maxBytes bytes removed size : ℕ) : Stage → Pruning
  | .measure =>
    if maxBytes = 0 ∨ size ≤ maxBytes then .returned else .running maxBytes size .checkpoint
  | .checkpoint =>
    if size ≤ targetBytes maxBytes then .returned else .running maxBytes size .orphanProcesses
  | .orphanProcesses => .running maxBytes bytes .orphanTls
  | .orphanTls => .running maxBytes bytes .orphanBaselines
  | .orphanBaselines => .running maxBytes bytes .orphanEnvironments
  | .orphanEnvironments => .running maxBytes bytes .orphanInstances
  | .orphanInstances => .running maxBytes bytes .vacuum
  | .vacuum => .running maxBytes bytes .truncate
  | .truncate =>
    if targetBytes maxBytes < size then .running maxBytes size .normal
    else finish maxBytes size
  | .normal => .running maxBytes bytes (if removed = 0 then .unreferenced else .orphanProcesses)
  | .unreferenced => .running maxBytes bytes (if removed = 0 then .reported else .orphanProcesses)
  | .reported => .running maxBytes bytes (if removed = 0 then .anomalous else .orphanProcesses)
  | .anomalous => .running maxBytes bytes (if removed = 0 then .lastFinding else .orphanProcesses)
  | .lastFinding =>
    if removed = 0 then finish maxBytes bytes else .running maxBytes bytes .orphanProcesses

def Pruning.step (a : Answer) : Pruning → Store × Pruning
  | .running maxBytes bytes stage =>
    -- the first stage only measures the files
    match if stage = .measure then none else a.failure with
    | some message => (db, .threw (.failed message))
    | none =>
      match stage.statement a db with
      | .error e => (db, .threw e)
      | .ok (removed, db') => (db', .after maxBytes bytes removed a.size stage)
  | p => (db, p)

/-- The TLS observation in memory is none of those that nothing refers to. -/
def PendingSpared : Prop :=
  ∀ x ∈ db.tlsObservations.rows, db.pendingTls.map (·.id) = some x.id → orphanTls db x = false

instance : Decidable (PendingSpared db) := inferInstanceAs (Decidable (∀ x ∈ _, _))

/-- The next statement of the call, unless it fails, is of a stage that meets `P`. -/
def Pruning.Spares (P : Stage → Prop) (a : Answer) : Pruning → Prop
  | .running _ _ stage => a.failure = none → P stage
  | _ => True

instance (P : Stage → Prop) [DecidablePred P] (a : Answer) : ∀ p, Decidable (Pruning.Spares P a p)
  | .running _ _ stage => inferInstanceAs (Decidable (a.failure = none → P stage))
  | .returned | .threw _ => inferInstanceAs (Decidable True)

/-! ### What a statement removes -/

variable {db db' : Store} {r : Connection}

lemma mem_of_mem_normalBatch (h : r ∈ normalBatch db) :
    r ∈ db.connections := (List.mem_filter.mp (mem_of_mem_oldest h)).1

lemma mem_of_mem_anomalousBatch (h : r ∈ anomalousBatch db) :
    r ∈ db.connections := (List.mem_filter.mp (mem_of_mem_oldest h)).1

lemma mem_deleteConnections {batch : List Connection} (hbatch : ∀ r ∈ batch, r ∈ db.connections) :
    r ∈ (deleteConnections batch db).connections ↔ r ∈ db.connections ∧ r ∉ batch := by
  unfold deleteConnections
  rw [Table.mem_delete, List.any_eq_false]
  refine and_congr_right fun hr => ⟨fun h hmem => ?_, fun h x hx => ?_⟩
  · simpa using h r hmem
  · -- a row of the batch with this id is the row
    rw [decide_eq_true_eq]
    rintro heq
    exact h (Table.eq_of_key_eq (hbatch x hx) hr heq ▸ hx)

lemma deleteInstances_quiet {is : Table ProcessInstance.processKey} {p : ProcessInstance → Bool}
    (h : deleteInstances is p db = .ok (n, db')) : Quiet db db' := by
  unfold deleteInstances at h
  split at h <;> cases h
  exact ⟨rfl, rfl, rfl, rfl, rfl, rfl⟩

variable {a : Answer}

lemma pruneOldProcessFindings_quiet {b : Bool}
    (h : pruneOldProcessFindings b a db = .ok (n, db')) : Quiet db db' := by
  unfold pruneOldProcessFindings at h
  split at h
  · cases h
    exact .refl db
  · cases h
    exact ⟨rfl, rfl, rfl, rfl, rfl, rfl⟩

lemma deleteOrphanInstances_quiet
    (h : deleteOrphanInstances a db = .ok (n, db')) : Quiet db db' := by
  unfold deleteOrphanInstances at h
  split at h
  · cases h
    exact .refl db
  · exact deleteInstances_quiet h
  · exact deleteInstances_quiet h

lemma pruneUnreferencedProcessBatch_quiet
    (h : pruneUnreferencedProcessBatch a db = .ok (n, db')) : Quiet db db' := by
  unfold pruneUnreferencedProcessBatch at h
  split at h
  · exact deleteInstances_quiet h
  · cases h
    exact .refl db

/-- **What a statement of `prune_to_budget` can do** to connections and TLS observations. -/
theorem Stage.statement_cases {stage : Stage} (h : stage.statement a db = .ok (n, db')) :
    Quiet db db' ∨ stage = .orphanTls ∧ db' = deleteOrphanTls db ∨
      stage = .normal ∧ db' = deleteConnections (normalBatch db) db ∨
      stage = .anomalous ∧ db' = deleteConnections (anomalousBatch db) db := by
  cases stage with
  | orphanTls => cases h; exact .inr (.inl ⟨rfl, rfl⟩)
  | normal => cases h; exact .inr (.inr (.inl ⟨rfl, rfl⟩))
  | anomalous => cases h; exact .inr (.inr (.inr ⟨rfl, rfl⟩))
  | orphanInstances => exact .inl (deleteOrphanInstances_quiet h)
  | unreferenced => exact .inl (pruneUnreferencedProcessBatch_quiet h)
  | reported | lastFinding => exact .inl (pruneOldProcessFindings_quiet h)
  | _ => cases h; exact .inl ⟨rfl, rfl, rfl, rfl, rfl, rfl⟩

end NetaAgent.HistoryMaintenance
