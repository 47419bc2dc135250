import NetaAgent.Export
import NetaAgent.HistoryMaintenance
import NetaAgent.Run

/-!
What pruning does to the archive, and that no baseline in use and no export of a connection that
survives is changed by it.

Pruning works on the tables of the history; the rows of the other tables that refer to a deleted
connection are deleted with it. A lookup by `baseline_for` or by `export_data` finds rows that are
referred to, or the newest ones, and pruning deletes neither.
-/

namespace NetaAgent.Assurance

open Decimal Sql Observation HistoryStore HistoryMaintenance Verdict Run Option Table Baseline Archive
open List hiding lookup any_eq_false any_eq_true filter_filter map_map

/-! ### Pruning of the archive -/

def VerdictRow.referring (r : VerdictRow) : HistoryStore.Verdict :=
  ⟨r.connectionId, r.verdict.performance, r.verdict.trust, bindText r.verdict.baselineHash,
    r.tlsObservationId⟩

lemma referring_nodup (t : Table VerdictRow.connectionId) :
    ((t.rows.map VerdictRow.referring).map HistoryStore.Verdict.connectionId).Nodup := by
  rw [List.map_map]
  exact t.nodup

/-- The tables that pruning works on, the verdicts among them. -/
def Archive.store (a : Archive) : Store :=
  { a.history with verdicts := ⟨a.verdicts.rows.map VerdictRow.referring, referring_nodup _⟩ }

def goneIn (db db' : Store) (id : ℕ) : Bool := db.hasConnection id && !db'.hasConnection id

/-- The archive after a statement of the history: `ON DELETE CASCADE` in the other tables. -/
def Archive.cascade (a : Archive) (db : Store) : Archive :=
  { a with
    history := db
    evidence :=
      { tlsSessions := a.evidence.tlsSessions.delete fun r => goneIn a.history db r.connectionId
        names := a.evidence.names.delete fun r => goneIn a.history db r.connectionId }
    connectionEnvironments :=
      a.connectionEnvironments.delete fun r => goneIn a.history db r.connectionId
    verdicts := a.verdicts.delete fun r => goneIn a.history db r.connectionId }

def Archive.deleteOrphanEnvironments (a : Archive) : Archive :=
  { a with
    networkEnvironments := a.networkEnvironments.delete fun e =>
      !a.connectionEnvironments.rows.any fun l => l.networkEnvironmentId = e.id }

def Archive.deleteOrphanBoots (a : Archive) : Archive :=
  { a with
    hostBoots := a.hostBoots.delete fun b =>
      !a.networkEnvironments.rows.any fun e => e.hostBootId = b.id }

def Archive.deleteOrphanHosts (a : Archive) : Archive :=
  { a with
    hostIdentities := a.hostIdentities.delete fun h =>
      !a.hostBoots.rows.any fun b => b.hostIdentityId = h.id }

/-- The first `n` statements of `prune_environment_orphans`: all three, fewer where one fails,
and none where the tables are not found. -/
def Archive.pruneEnvironmentOrphans (a : Archive) (n : ℕ) : Archive :=
  ([Archive.deleteOrphanEnvironments, Archive.deleteOrphanBoots, Archive.deleteOrphanHosts].take
    n).foldl (fun a f => f a) a

def cleansEnvironments : Pruning → Bool
  | .running _ _ stage => stage = .orphanEnvironments
  | _ => false

/-- The answers to one stage, and how many statements of `prune_environment_orphans` were
executed, should it be that stage. -/
structure StageAnswer where
  answer : Answer
  environments : ℕ := 3

variable (s : Archive × Pruning)

def prune (x : StageAnswer) : Archive × Pruning :=
  let r := s.2.step s.1.store x.answer
  let a := s.1.cascade r.1
  (if cleansEnvironments s.2 then a.pruneEnvironmentOrphans x.environments else a, r.2)

/-! ### Lookups after a deletion -/

section Lookups
variable {α κ : Type} {key : α → κ} {p q : α → Bool}

lemma filter_delete (t : Table key) (h : ∀ a ∈ t, q a = true → p a = false) :
    (t.delete p).rows.filter q = t.rows.filter q := by
  rw [delete, List.filter_filter]
  refine filter_congr fun a ha => ?_
  cases hq : q a with
  | false => rfl
  | true => rw [h a ha hq]; rfl

lemma find?_delete (t : Table key) (h : ∀ a ∈ t, q a = true → p a = false) :
    (t.delete p).rows.find? q = t.rows.find? q := by
  rw [← head?_filter, ← head?_filter, filter_delete t h]

lemma find_delete [DecidableEq κ] {t : Table key} {k : κ}
    (h : ∀ a ∈ t, key a = k → p a = false) : (t.delete p).find k = t.find k :=
  find?_delete t fun a ha hk => h a ha (of_decide_eq_true hk)

end Lookups

/-! ### The baseline of a target -/

lemma laterLe_iff {a b : Baseline} : a.laterLe b = true ↔ int64 b.createdNs < int64 a.createdNs ∨
    int64 b.createdNs = int64 a.createdNs ∧ b.id ≤ a.id := by
  simp [laterLe]

lemma laterLe_refl (a : Baseline) : a.laterLe a = true := by
  simp [laterLe]

lemma laterLe_total (a b : Baseline) : a.laterLe b = true ∨ b.laterLe a = true := by
  simp only [laterLe_iff]
  omega

lemma laterLe_trans {a b c : Baseline} (h : a.laterLe b = true) (h' : b.laterLe c = true) :
    a.laterLe c = true := by
  simp only [laterLe_iff] at h h' ⊢
  omega

lemma exists_latest {l : List Baseline} (hl : l ≠ []) : ∃ x ∈ l, ∀ y ∈ l, x.laterLe y = true := by
  induction l with
  | nil => exact absurd rfl hl
  | cons a l ih =>
    by_cases hnil : l = []
    · subst hnil
      refine ⟨a, mem_singleton.mpr rfl, fun y hy => ?_⟩
      rw [mem_singleton.mp hy]
      exact laterLe_refl a
    · obtain ⟨x, hx, hmax⟩ := ih hnil
      rcases laterLe_total a x with h | h
      · refine ⟨a, mem_cons_self, fun y hy => ?_⟩
        rcases mem_cons.mp hy with rfl | hy
        · exact laterLe_refl y
        · exact laterLe_trans h (hmax y hy)
      · refine ⟨x, mem_cons_of_mem a hx, fun y hy => ?_⟩
        rcases mem_cons.mp hy with rfl | hy
        · exact h
        · exact hmax y hy

/-- **No baseline in use is pruned**: the newest one of a target stays. -/
lemma baselineFor_deleteOrphanBaselines (db : Store) (host : Text) (port : ℕ) :
    (deleteOrphanBaselines db).baselineFor host port = db.baselineFor host port := by
  unfold Store.baselineFor
  set target := fun b : Baseline => decide (b.targetHost = bindText host ∧ b.targetPort = port)
    with htarget
  have hrows : (deleteOrphanBaselines db).baselines.rows.filter target =
      (db.baselines.rows.filter target).filter fun b =>
        !(!(db.verdicts.rows.any fun v => v.baselineHash = b.sha256) &&
          db.baselines.rows.any (newer · b)) := by
    rw [deleteOrphanBaselines, delete, List.filter_filter, List.filter_filter]
    refine filter_congr fun b _ => Bool.and_comm _ _
  simp only [hrows]
  congr 1
  by_cases hnil : db.baselines.rows.filter target = []
  · rw [hnil]
    rfl
  obtain ⟨x, hx, hmax⟩ := exists_latest hnil
  have hantisymm : ∀ y ∈ db.baselines.rows.filter target, y ≠ x → ¬ y.laterLe x = true := by
    intro y hy hne hle
    refine hne (eq_of_key_eq (mem_filter.mp hy).1 (mem_filter.mp hx).1 ?_)
    have hle' := hmax y hy
    simp only [laterLe_iff] at hle hle'
    omega
  -- no row of the target is newer than the latest one
  have hkept : db.baselines.rows.any (newer · x) = false := by
    rw [List.any_eq_false]
    intro y hy hnew
    simp only [newer, Bool.and_eq_true, Bool.or_eq_true, decide_eq_true_eq] at hnew
    obtain ⟨⟨hhost, hport⟩, hlater⟩ := hnew
    have hxt := of_decide_eq_true (mem_filter.mp hx).2
    have hle := hmax y (mem_filter.mpr
      ⟨hy, decide_eq_true ⟨hhost.trans hxt.1, hport.trans hxt.2⟩⟩)
    simp only [laterLe_iff] at hle
    omega
  rw [head_insertionSort hx hmax hantisymm]
  refine head_insertionSort (mem_filter.mpr ⟨hx, by rw [hkept]; simp⟩)
    (fun y hy => hmax y (mem_filter.mp hy).1)
    fun y hy => hantisymm y (mem_filter.mp hy).1

/-! ### What an export reads -/

/-- What `export_data` reads of the connection is the same in both archives. -/
structure SameExport (id : ℕ) (a a' : Archive) : Prop where
  connection : a'.history.connection id = a.history.connection id
  samples : a'.history.samplesForConnection id = a.history.samplesForConnection id
  verdict : a'.verdicts.find id = a.verdicts.find id
  link : a'.tlsLink id = a.tlsLink id
  baseline : ∀ v, a.verdictFor id = some v →
    a'.baselineWithHash v.baselineHash = a.baselineWithHash v.baselineHash
  tls : ∀ tlsId, a.tlsLink id = some tlsId → a'.tlsObservation tlsId = a.tlsObservation tlsId

lemma SameExport.refl (id : ℕ) (a : Archive) : SameExport id a a :=
  ⟨rfl, rfl, rfl, rfl, fun _ _ => rfl, fun _ _ => rfl⟩

variable {n id : ℕ} {a a' : Archive}

lemma SameExport.verdictFor (h : SameExport id a a') : a'.verdictFor id = a.verdictFor id := by
  rw [Archive.verdictFor, h.verdict, Archive.verdictFor]

lemma SameExport.trans {b c : Archive} (h : SameExport id a b)
    (h' : SameExport id b c) : SameExport id a c where
  connection := h'.connection.trans h.connection
  samples := h'.samples.trans h.samples
  verdict := h'.verdict.trans h.verdict
  link := h'.link.trans h.link
  baseline v hv := (h'.baseline v (h.verdictFor.trans hv)).trans (h.baseline v hv)
  tls tlsId ht := (h'.tls tlsId (h.link.trans ht)).trans (h.tls tlsId ht)

section Stages
variable {a : Archive} {db : Store} {id : ℕ}

/-- What a statement of the history must leave for the connection. -/
structure Leaves (a : Archive) (id : ℕ) (db : Store) : Prop where
  connection : db.connections.find id = a.history.connections.find id
  process : ∀ r ∈ a.history.connections, r.id = id →
    db.processOf r.processId = a.history.processOf r.processId
  samples : (db.transportSamples.rows.filter fun s => s.connectionId = id) =
    a.history.transportSamples.rows.filter fun s => s.connectionId = id
  link : db.connectionTls.find id = a.history.connectionTls.find id
  baseline : ∀ r ∈ a.verdicts, r.connectionId = id →
    (db.baselines.rows.find? fun b => b.sha256 = bindText r.verdict.baselineHash) =
      a.history.baselines.rows.find? fun b => b.sha256 = bindText r.verdict.baselineHash
  tls : ∀ tlsId, a.tlsLink id = some tlsId →
    db.tlsObservations.find tlsId = a.history.tlsObservations.find tlsId

lemma cascade_verdict (hheld : db.Held id) :
    (a.cascade db).verdicts.find id = a.verdicts.find id := by
  have hgone : goneIn a.history db id = false := by
    rw [goneIn, Store.hasConnection_iff.mpr hheld, Bool.not_true, Bool.and_false]
  exact find_delete fun r _ hr => hr ▸ hgone

lemma Leaves.sameExport (h : Leaves a id db) (hheld : db.Held id) :
    SameExport id a (a.cascade db) where
  connection := by
    show (db.connections.find id).map db.summary = _
    rw [h.connection, Store.connection]
    cases hr : a.history.connections.find id with
    | none => rfl
    | some r =>
      obtain ⟨hmem, hid⟩ := find_eq_some.mp hr
      rw [map_some, map_some, Store.summary, h.process r hmem hid]
      rfl
  samples := congrArg byTime h.samples
  verdict := cascade_verdict hheld
  link := by
    rw [Archive.tlsLink, cascade_verdict hheld, show (a.cascade db).history = db from rfl, h.link]
    rfl
  baseline v hv := by
    rw [Archive.verdictFor, map_eq_some_iff] at hv
    obtain ⟨r, hr, rfl⟩ := hv
    obtain ⟨hmem, hid⟩ := find_eq_some.mp hr
    have hb := h.baseline r hmem hid
    rw [← bindText_bindText] at hb
    exact congrArg (Option.map Baseline.read) hb
  tls tlsId ht := congrArg (Option.map fun r : TlsRow => r.observation.bound) (h.tls tlsId ht)

structure SameTables (db db' : Store) : Prop where
  processes : db'.processes = db.processes
  connections : db'.connections = db.connections
  samples : db'.transportSamples = db.transportSamples
  tls : db'.tlsObservations = db.tlsObservations
  links : db'.connectionTls = db.connectionTls
  baselines : db'.baselines = db.baselines

lemma leaves_of_tables (id : ℕ) (h : SameTables a.store db) : Leaves a id db where
  connection := by rw [h.connections]; rfl
  process r _ _ := by rw [Store.processOf, h.processes]; rfl
  samples := by rw [h.samples]; rfl
  link := by rw [h.links]; rfl
  baseline _ _ _ := by rw [h.baselines]; rfl
  tls _ _ := by rw [h.tls]; rfl

lemma processOf_deleteOrphanProcesses {r : Connection} (hr : r ∈ db.connections) :
    (deleteOrphanProcesses db).processOf r.processId = db.processOf r.processId := by
  unfold Store.processOf
  cases hp : r.processId with
  | none => rfl
  | some pid =>
    rw [bind_some, bind_some, deleteOrphanProcesses]
    rw [find_delete]
    intro p _ hid
    rw [Bool.not_eq_false', List.any_eq_true]
    exact ⟨r, hr, decide_eq_true (by rw [hp, ← hid])⟩

lemma leaves_deleteOrphanProcesses (a : Archive) (id : ℕ) :
    Leaves a id (deleteOrphanProcesses a.store) :=
  ⟨rfl, fun _ hr _ => @processOf_deleteOrphanProcesses a.store _ hr, rfl, rfl,
    fun _ _ _ => rfl, fun _ _ => rfl⟩

lemma orphanTls_of_link {tlsId : ℕ} (h : a.tlsLink id = some tlsId) {x : TlsRow}
    (hx : x.id = tlsId) : orphanTls a.store x = false := by
  rw [orphanTls, Bool.and_eq_false_iff, Bool.not_eq_false', Bool.not_eq_false', List.any_eq_true,
    List.any_eq_true]
  rw [tlsLink] at h
  rcases hv : (a.verdicts.find id).bind VerdictRow.tlsObservationId with _ | t
  · rw [hv] at h
    right
    obtain ⟨l, hl, rfl⟩ := map_eq_some_iff.mp (show (a.history.connectionTls.find id).map
      ConnectionTls.tlsObservationId = some tlsId from h)
    exact ⟨l, (find_eq_some.mp hl).1, decide_eq_true hx.symm⟩
  · rw [hv] at h
    left
    obtain rfl : t = tlsId := some.inj h
    obtain ⟨r, hr, ht⟩ := bind_eq_some_iff.mp hv
    exact ⟨r.referring, mem_map_of_mem (find_eq_some.mp hr).1,
      decide_eq_true (by rw [hx, ← ht]; rfl)⟩

lemma leaves_deleteOrphanTls (a : Archive) (id : ℕ) : Leaves a id (deleteOrphanTls a.store) :=
  ⟨rfl, fun _ _ _ => rfl, rfl, rfl, fun _ _ _ => rfl,
    fun _ ht => find_delete (t := a.history.tlsObservations) fun _ _ hx => orphanTls_of_link ht hx⟩

lemma leaves_deleteOrphanBaselines (a : Archive) (id : ℕ) :
    Leaves a id (deleteOrphanBaselines a.store) := by
  refine ⟨rfl, fun _ _ _ => rfl, rfl, rfl, fun r hr _ => ?_, fun _ _ => rfl⟩
  refine find?_delete a.history.baselines fun b _ hb => ?_
  have href : a.store.verdicts.rows.any (fun v => v.baselineHash = b.sha256) = true :=
    List.any_eq_true.mpr ⟨r.referring, mem_map_of_mem hr,
      decide_eq_true (of_decide_eq_true hb).symm⟩
  rw [href]
  rfl

lemma leaves_deleteConnections {batch : List Connection}
    (hheld : (deleteConnections batch a.store).Held id) :
    Leaves a id (deleteConnections batch a.store) := by
  have hkept : batch.any (fun r => r.id = id) = false := by
    obtain ⟨r, hr, rfl⟩ := hheld
    exact (mem_delete.mp hr).2
  refine ⟨?_, fun _ _ _ => rfl, ?_, ?_, fun _ _ _ => rfl, fun _ _ => rfl⟩
  · exact find_delete (t := a.history.connections) fun r _ hr => hr ▸ hkept
  · exact filter_delete a.history.transportSamples fun s _ hs => of_decide_eq_true hs ▸ hkept
  · exact find_delete (t := a.history.connectionTls) fun l _ hl => hl ▸ hkept

end Stages

variable {db db' : Store}

lemma deleteInstances_sameTables {is : Table ProcessInstance.processKey}
    {p : ProcessInstance → Bool}
    (h : deleteInstances is p db = .ok (n, db')) : SameTables db db' := by
  unfold deleteInstances at h
  split at h <;> cases h
  exact ⟨rfl, rfl, rfl, rfl, rfl, rfl⟩

variable {stage : Stage} {x : Answer}

lemma statement_sameTables
    (hstage : stage = .orphanInstances ∨ stage = .unreferenced ∨ stage = .reported ∨
      stage = .lastFinding) (h : stage.statement x db = .ok (n, db')) : SameTables db db' := by
  have hrefl : SameTables db db := ⟨rfl, rfl, rfl, rfl, rfl, rfl⟩
  have hfindings : ∀ {b}, pruneOldProcessFindings b x db = .ok (n, db') → SameTables db db' := by
    intro b h
    unfold pruneOldProcessFindings at h
    split at h <;> cases h
    · exact hrefl
    · exact ⟨rfl, rfl, rfl, rfl, rfl, rfl⟩
  rcases hstage with rfl | rfl | rfl | rfl
  · change deleteOrphanInstances x db = _ at h
    unfold deleteOrphanInstances at h
    split at h
    · cases h; exact hrefl
    · exact deleteInstances_sameTables h
    · exact deleteInstances_sameTables h
  · change pruneUnreferencedProcessBatch x db = _ at h
    unfold pruneUnreferencedProcessBatch at h
    split at h
    · exact deleteInstances_sameTables h
    · cases h; exact hrefl
  · exact hfindings h
  · exact hfindings h

/-- **What a statement of `prune_to_budget` leaves** for a connection that is not deleted. -/
lemma leaves_statement
    (h : stage.statement x a.store = .ok (n, db)) (hheld : db.Held id) : Leaves a id db := by
  cases stage with
  | orphanProcesses => cases h; exact leaves_deleteOrphanProcesses a id
  | orphanTls => cases h; exact leaves_deleteOrphanTls a id
  | orphanBaselines => cases h; exact leaves_deleteOrphanBaselines a id
  | normal | anomalous => cases h; exact leaves_deleteConnections hheld
  | orphanInstances | unreferenced | reported | lastFinding =>
    exact leaves_of_tables id (statement_sameTables (by decide) h)
  | _ =>
    cases h
    exact leaves_of_tables id ⟨rfl, rfl, rfl, rfl, rfl, rfl⟩

lemma baselineFor_statement (h : stage.statement x db = .ok (n, db')) (host : Text) (port : ℕ) :
    db'.baselineFor host port = db.baselineFor host port := by
  cases stage with
  | orphanBaselines => cases h; exact baselineFor_deleteOrphanBaselines db host port
  | orphanInstances | unreferenced | reported | lastFinding =>
    rw [Store.baselineFor, (statement_sameTables (by decide) h).baselines]
    rfl
  | _ => cases h; rfl

/-! ### Whole calls -/

lemma step_store_cases (db : Store) (p : Pruning) (x : Answer) :
    (p.step db x).1 = db ∨ ∃ stage n, Stage.statement x db stage = .ok (n, (p.step db x).1) := by
  rcases p with _ | ⟨maxBytes, bytes, stage⟩ | e
  · exact .inl rfl
  · unfold Pruning.step
    simp only
    split
    · exact .inl rfl
    · split
      · exact .inl rfl
      · next n db' h => exact .inr ⟨stage, n, h⟩
  · exact .inl rfl

structure SameButEnvironments (a a' : Archive) : Prop where
  history : a'.history = a.history
  verdicts : a'.verdicts = a.verdicts

lemma pruneEnvironmentOrphans_same (a : Archive) (n : ℕ) :
    SameButEnvironments a (a.pruneEnvironmentOrphans n) := by
  have hfold : ∀ l : List (Archive → Archive), (∀ f ∈ l, ∀ a, SameButEnvironments a (f a)) → ∀ a,
        SameButEnvironments a (l.foldl (fun a f => f a) a) := by
    intro l
    induction l with
    | nil => exact fun _ a => ⟨rfl, rfl⟩
    | cons f l ih =>
      intro hl a
      have hf := hl f mem_cons_self a
      have hrest := ih (fun g hg => hl g (mem_cons_of_mem f hg)) (f a)
      exact ⟨hrest.history.trans hf.history, hrest.verdicts.trans hf.verdicts⟩
  refine hfold _ (fun f hf a => ?_) a
  have hmem := mem_of_mem_take hf
  simp only [mem_cons, not_mem_nil, or_false] at hmem
  rcases hmem with rfl | rfl | rfl <;> exact ⟨rfl, rfl⟩

lemma SameButEnvironments.sameExport (h : SameButEnvironments a a') (id : ℕ) :
    SameExport id a a' := by
  have hobs : ∀ tlsId, a'.tlsObservation tlsId = a.tlsObservation tlsId := fun tlsId => by
    rw [tlsObservation, h.history]; rfl
  refine ⟨by rw [h.history], by rw [h.history], by rw [h.verdicts], ?_, fun v _ => ?_,
    fun tlsId _ => hobs tlsId⟩
  · rw [tlsLink, h.history, h.verdicts]; rfl
  · rw [baselineWithHash, h.history]; rfl

lemma prune_history (x : StageAnswer) :
    (prune s x).1.history = (s.2.step s.1.store x.answer).1 := by
  unfold prune
  simp only
  split
  · exact (pruneEnvironmentOrphans_same _ _).history
  · rfl

/-- **One step** of a call: the baselines of the targets, the connections that are left, and
what is read of them. -/
lemma prune_step (x : StageAnswer) : (∀ host port, (prune s x).1.history.baselineFor host port =
      s.1.history.baselineFor host port) ∧ ∀ id, (prune s x).1.history.Held id →
      s.1.history.Held id ∧ SameExport id s.1 (prune s x).1 := by
  have hstep := step_store_cases s.1.store s.2 x.answer
  rw [prune_history]
  set db := (s.2.step s.1.store x.answer).1 with hdb
  refine ⟨fun host port => ?_, fun id hheld => ?_⟩
  · rcases hstep with h | ⟨stage, n, h⟩
    · rw [h]
      rfl
    · exact baselineFor_statement h host port
  · have hleaves : Leaves s.1 id db := by
      rcases hstep with h | ⟨stage, n, h⟩
      · exact leaves_of_tables id (h ▸ ⟨rfl, rfl, rfl, rfl, rfl, rfl⟩)
      · exact leaves_statement h hheld
    have hsame := hleaves.sameExport hheld
    refine ⟨?_, ?_⟩
    · obtain ⟨r, hr, rfl⟩ := hheld
      have hfind := hleaves.connection
      rw [find_eq_some.mpr ⟨hr, rfl⟩] at hfind
      exact ⟨r, (find_eq_some.mp hfind.symm).1, rfl⟩
    · unfold prune
      simp only
      split
      · exact hsame.trans ((pruneEnvironmentOrphans_same _ _).sameExport id)
      · exact hsame

lemma prune_run (w : List StageAnswer) :
    (∀ host port, (run prune s w).1.history.baselineFor host port =
      s.1.history.baselineFor host port) ∧ ∀ id, (run prune s w).1.history.Held id →
      s.1.history.Held id ∧ SameExport id s.1 (run prune s w).1 := by
  induction w generalizing s with
  | nil => exact ⟨fun _ _ => rfl, fun id h => ⟨h, .refl id s.1⟩⟩
  | cons x w ih =>
    obtain ⟨hbase, hexport⟩ := prune_step s x
    obtain ⟨hbase', hexport'⟩ := ih (prune s x)
    refine ⟨fun host port => (hbase' host port).trans (hbase host port), fun id hheld => ?_⟩
    obtain ⟨hmid, hsame'⟩ := hexport' id hheld
    obtain ⟨hstart, hsame⟩ := hexport id hmid
    exact ⟨hstart, hsame.trans hsame'⟩

/-! ### Programs that read the same -/

/-- The program reads the same in both archives, changes neither, and returns only values with
`P`. -/
def ReadsSame {α : Type} (a a' : Archive) (m : ArchiveM α) (P : α → Prop) : Prop :=
  ∀ o n, ∃ r k, m o ⟨a, n⟩ = (r, ⟨a, k⟩) ∧ m o ⟨a', n⟩ = (r, ⟨a', k⟩) ∧ ∀ x, r = .ok x → P x

section Reading
variable {α γ : Type} {a a' : Archive} {P : α → Prop} {Q : γ → Prop}

lemma readsSame_pure {x : α} (hx : P x) : ReadsSame a a' (pure x) P := fun _ n =>
  ⟨.ok x, n, rfl, rfl, fun _ h => Except.ok.inj h ▸ hx⟩

lemma readsSame_fail (message : String) : ReadsSame a a' (fail message : ArchiveM α) P :=
  fun _ n => ⟨_, n, rfl, rfl, nofun⟩

lemma readsSame_lookup {f : (ℕ → ℕ) → Archive → Option α} {P : Option α → Prop}
    (hsame : ∀ t, f t a' = f t a) (hnone : P none) (hP : ∀ t, P (f t a)) :
    ReadsSame a a' (lookup f) P := by
  intro o n
  unfold lookup
  simp only [hsame]
  rcases o.fails n with _ | x
  · exact ⟨_, _, rfl, rfl, fun _ h => Except.ok.inj h ▸ hP _⟩
  · refine ⟨_, _, rfl, rfl, fun y h => ?_⟩
    split at h <;> cases h
    exact hnone

lemma readsSame_scan {f : (ℕ → ℕ) → Archive → List α} (hsame : ∀ t, f t a' = f t a) :
    ReadsSame a a' (scan f) fun _ => True := by
  intro o n
  unfold scan
  simp only [hsame]
  rcases o.fails n with _ | x
  · exact ⟨_, _, rfl, rfl, fun _ _ => trivial⟩
  · exact ⟨_, _, rfl, rfl, fun _ _ => trivial⟩

lemma readsSame_bind {m : ArchiveM α} {next : α → ArchiveM γ} (hm : ReadsSame a a' m P)
    (hnext : ∀ x, P x → ReadsSame a a' (next x) Q) : ReadsSame a a' (m >>= next) Q := by
  intro o n
  obtain ⟨e | x, k, h, h', hP⟩ := hm o n
  · exact ⟨.error e, k, bind_apply_error h, bind_apply_error h', nofun⟩
  · rw [bind_apply_ok h, bind_apply_ok h']
    exact hnext x (hP x rfl) o k

end Reading

/-- `export_data` reads what `SameExport` says. -/
lemma exportData_readsSame (h : SameExport id a a') :
    ReadsSame a a' (exportData id) fun _ => True := by
  unfold exportData
  refine readsSame_bind (readsSame_lookup (P := fun _ => True) (fun _ => h.connection) trivial
    fun _ => trivial) fun connection _ => ?_
  cases connection with
  | none => exact readsSame_fail _
  | some c =>
    refine readsSame_bind (readsSame_scan fun _ => h.samples) fun samples _ => ?_
    refine readsSame_bind (readsSame_scan fun _ => rfl) fun _ _ => ?_
    refine readsSame_bind (readsSame_lookup (P := fun _ => True) (fun _ => rfl) trivial
      fun _ => trivial) fun _ _ => ?_
    -- the hash that is looked up is the one of the verdict
    refine readsSame_bind (readsSame_lookup (P := fun v => ∀ w, v = some w →
      a.verdictFor id = some w) (fun _ => h.verdictFor) nofun fun _ _ hv => hv)
      fun verdict hverdict => ?_
    refine readsSame_bind (P := fun _ => True) ?_ fun baseline _ => ?_
    · unfold exportedBaseline
      cases verdict with
      | none => exact readsSame_pure trivial
      | some v =>
        simp only
        split
        · exact readsSame_pure trivial
        · exact readsSame_lookup (fun _ => h.baseline v (hverdict v rfl)) trivial fun _ => trivial
    refine readsSame_bind (P := fun _ => True) ?_ fun tls _ => readsSame_pure trivial
    unfold exportedTls
    refine readsSame_bind (readsSame_lookup (P := fun t => ∀ x, t = some x →
      a.tlsLink id = some x) (fun _ => h.link) nofun fun _ _ ht => ht) fun link hlink => ?_
    cases link with
    | none => exact readsSame_pure trivial
    | some t =>
      exact readsSame_lookup (fun _ => h.tls t (hlink t rfl)) trivial fun _ => trivial

/-- **Pruning leaves baselines and exports alone.** After any part of a call of `prune_to_budget`,
`baseline_for` finds the same baseline for every target, and `export_data` returns the same for
every connection that is left, the same failures of statements supposed. -/
theorem prune_keeps_exports (a : Archive) (p : Pruning) (w : List StageAnswer) :
    (∀ host port, (run prune (a, p) w).1.history.baselineFor host port =
      a.history.baselineFor host port) ∧
    ∀ id, (run prune (a, p) w).1.history.Held id →
      ∀ o, (exec (exportData id) o (run prune (a, p) w).1).1 = (exec (exportData id) o a).1 := by
  obtain ⟨hbase, hexport⟩ := prune_run (a, p) w
  refine ⟨hbase, fun id hheld o => ?_⟩
  obtain ⟨r, k, h, h', -⟩ := exportData_readsSame (hexport id hheld).2 o 0
  rw [exec, exec, h, h']

/-! ### An archive with two connections -/

/-- A connection to a target, with the trust of its verdict. -/
def connectionTo (serial : ℕ) (trust : TrustState) (id : ℕ) : Connection where
  id
  serial
  socketCookie := serial
  socketInode := serial
  processId := none
  localIp := []
  localPort := 1
  remoteIp := []
  remotePort := 443
  targetHost := ['h']
  lifecycleState := .closed
  firstSeenNs := 1
  lastSeenNs := 2
  capturedAtNs := none
  trustState := trust

/-- A baseline of the target, with its hash and its time. -/
def baselineOf (sha256 : Text) (createdNs id : ℕ) : Baseline :=
  ⟨id, ['h'], 443, 10, 1, [], [], 1, createdNs, sha256⟩

/-- The first connection is normal. The second one is suspicious, by a verdict that was made with
the older one of two baselines. -/
def judged : Archive where
  history := { Store.initial with
    connections := (Table.empty.add (connectionTo 0 .stable) fun _ => rfl).add
      (connectionTo 1 .suspicious) fun _ => rfl
    baselines := (Table.empty.add (baselineOf ['x'] 1) fun _ => rfl).add (baselineOf ['y'] 2)
      fun _ => rfl
    inserted := 2 }
  verdicts := Table.empty.replace ⟨2, { trust := .suspicious, baselineHash := ['x'] }, none⟩

/-- The files get smaller when a connection is deleted. -/
def shrinking : List StageAnswer :=
  List.replicate 10 ⟨{ size := 1000 }, 3⟩ ++ List.replicate 7 ⟨{ size := 50 }, 3⟩

/-- The normal connection is deleted; the other one is exported as before, with its baseline. -/
theorem prune_keeps_exports_judged :
    (run prune (judged, .running 100 0 .measure) shrinking).2 = .returned ∧
      (run prune (judged, .running 100 0 .measure) shrinking).1.history.connections.rows.map
        Connection.id = [2] ∧
      (exec (exportData 2) steadyOracle judged).1.toOption.bind ExportData.baseline =
        some (baselineOf ['x'] 1 1) ∧
      ∀ o, (exec (exportData 2) o (run prune (judged, .running 100 0 .measure) shrinking).1).1 =
        (exec (exportData 2) o judged).1 := by
  have hheld : (run prune (judged, .running 100 0 .measure) shrinking).1.history.Held 2 :=
    Store.hasConnection_iff.mp (by decide +kernel)
  exact ⟨by decide +kernel, by decide +kernel, by decide +kernel,
    (prune_keeps_exports judged _ shrinking).2 2 hheld⟩

end NetaAgent.Assurance
