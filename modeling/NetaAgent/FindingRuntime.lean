import NetaAgent.HistoryMaintenance
import NetaAgent.ProcessFindingStore
import NetaAgent.Run
import NetaAgent.Verdict

/-!
`ProcessFindingRuntime::observe` beside pruning, statement by statement.

The runtime takes an event into the graph, stores the process that the event is of, and then the
findings that the engine makes. A finding may be about any process of the graph, also about one
that has exited, and pruning deletes the row of an exited process that no finding refers to.
`undisturbed` says that pruning keeps the rows of the processes in the graph, and that the process
of a start event is stored.
-/

namespace NetaAgent.FindingStore

open Decimal Crypto Sql Processes Run Rules NumberText HistoryMaintenance Runtime Tables ProcessGraph
open HistoryStore (ReportState StoreError Store)
open List

/-! ### The tables as pruning sees them -/

def InstanceRow.pruned (r : InstanceRow) : HistoryStore.ProcessInstance :=
  ⟨r.processKey, r.exitedAtNs, r.updatedAtNs⟩

def FindingRow.pruned (r : FindingRow) : HistoryStore.ProcessFinding :=
  ⟨r.findingId, r.processKey, r.lastSeenNs, r.reportState⟩

lemma prunedInstances_nodup (t : Table InstanceRow.processKey) :
    ((t.rows.map InstanceRow.pruned).map HistoryStore.ProcessInstance.processKey).Nodup := by
  rw [map_map]
  exact t.nodup

lemma prunedFindings_nodup (t : Table fun r : FindingRow => r.findingId) :
    ((t.rows.map FindingRow.pruned).map HistoryStore.ProcessFinding.findingId).Nodup := by
  rw [map_map]
  exact t.nodup

def Tables.store (db : Tables) (history : Store) : Store :=
  { history with
    processInstances := some ⟨db.instances.rows.map InstanceRow.pruned, prunedInstances_nodup _⟩
    processFindings := some ⟨db.findings.rows.map FindingRow.pruned, prunedFindings_nodup _⟩ }

lemma unique_delete {t : Table fun r : FindingRow => r.findingId} {p : FindingRow → Bool}
    (h : (t.rows.map fun r => r.findingKey).Nodup) :
    ((t.delete p).rows.map fun r => r.findingKey).Nodup := h.sublist (filter_sublist.map _)

def Tables.retain (db : Tables) (s : Store) : Tables where
  instances := db.instances.delete fun r =>
    !s.processInstances.any fun t => t.rows.any fun x => x.processKey = r.processKey
  findings := db.findings.delete fun r =>
    !s.processFindings.any fun t => t.rows.any fun x => x.findingId = r.findingId
  unique := unique_delete db.unique

/-! ### Exclusions -/

def imageName (image : Text) : Text := afterLastSlash (exclusionNormalized image)

def excludedProcessFinding (active : RuleSet) (finding : Processes.ProcessFinding)
    (graph : ProcessGraph) : Bool :=
  match active.definitions.find? fun d => d.id = finding.ruleId with
  | none => false
  | some rule =>
    let exclusion := rule.exclude
    if exclusion = {} then false
    else
      exclusionContains exclusion.processNames (imageName finding.processImage) ||
      exclusionContains exclusion.executablePaths finding.processImage ||
      exclusionPrefix exclusion.processPathPrefixes finding.processImage ||
      exclusionContains exclusion.parentProcessNames (imageName finding.parentImage) ||
      match graph.nodes.find finding.process with
      | none => false
      | some node =>
        (node.uid.any fun uid => exclusionContains exclusion.users (decimal uid)) ||
        exclusionContains exclusion.processNames node.comm ||
        exclusionContains exclusion.executablePaths node.executablePath ||
        exclusionPrefix exclusion.processPathPrefixes node.executablePath

/-! ### The runtime -/

/-- What is left to do of a call of `bootstrap` or `observe`. -/
inductive Work where
  | event (e : ProcessExecEvent)
  /-- `persist_current_node`. -/
  | persist (e : ProcessExecEvent)
  /-- `upsert_process`. -/
  | process (node : ProcessNode)
  /-- `scan_executed_artifact`, which works on other tables. -/
  | scan (e : ProcessExecEvent)
  | evaluate (e : ProcessExecEvent)
  | evaluateSnapshot
  /-- The test for exclusion, and the first statement of `upsert_finding`. -/
  | finding (f : Processes.ProcessFinding)
  /-- The second statement of `upsert_finding`. -/
  | readBack (f : Processes.ProcessFinding)

structure Runtime where
  graph : ProcessGraph
  engine : Processes.Engine
  queue : List Work

/-- What the environment decides at one step: whether the statement fails, how the hash map lists
the nodes, which rule set is active, and whether scanning an artifact throws. -/
structure RuntimeEnv where
  oracle : Oracle Text
  arrangement : Arrangement
  active : Except Text RuleSet
  scanThrows : Bool

def RuntimeEnv.statements (env : RuntimeEnv) : Oracle StoreError := env.oracle.map .failed

def unlessThrown {ε α : Type} (r : Except ε α) (rest : α → List Work) : List Work :=
  match r with
  | .ok a => rest a
  | .error _ => []

section Steps
variable (undefined : Conversion) (sha : Sha256) (r : Runtime) (env : RuntimeEnv) (db : Tables)

def Runtime.persisted (node : ProcessNode) (rest : List Work) : Tables × Runtime :=
  let result := exec (upsertProcess node) env.statements db
  (result.2, { r with queue := unlessThrown result.1 fun _ => rest })

def Runtime.step : Tables × Runtime :=
  match r.queue with
  | [] => (db, r)
  | .event e :: rest =>
    let observed := r.graph.observe e
    (db, { r with
      graph := observed.2
      queue := if observed.1 then .persist e :: .scan e :: .evaluate e :: rest else rest })
  | .persist e :: rest =>
    match nodeForEvent e (r.graph.snapshot env.arrangement) with
    | none => (db, { r with queue := rest })
    | some node => r.persisted env db node rest
  | .process node :: rest => r.persisted env db node rest
  | .scan _ :: rest => (db, { r with queue := if env.scanThrows then [] else rest })
  | .evaluate e :: rest =>
    let found := exec (Processes.observe undefined e (r.graph.snapshot env.arrangement)) env.oracle
      r.engine
    (db, { r with
      engine := found.2
      queue := unlessThrown found.1 fun fs => fs.map .finding ++ rest })
  | .evaluateSnapshot :: rest =>
    (db, { r with
      queue := unlessThrown (r.engine.evaluateSnapshot (r.graph.snapshot env.arrangement))
        fun fs => fs.map .finding ++ rest })
  | .finding f :: rest =>
    match env.active with
    | .error _ => (db, { r with queue := [] })
    | .ok active =>
      if excludedProcessFinding active f r.graph then (db, { r with queue := rest })
      else
        let result := exec (insertFinding sha f) env.statements db
        (result.2, { r with queue := unlessThrown result.1 fun _ => .readBack f :: rest })
  | .readBack f :: rest =>
    let result := exec (selectFinding f) env.statements db
    (result.2, { r with queue := unlessThrown result.1 fun _ => rest })

/-- What the first statement of `upsert_finding` comes to, if it is next. -/
def Runtime.inserts : Option (Except StoreError Unit) :=
  match r.queue, env.active with
  | .finding f :: _, .ok active =>
    if excludedProcessFinding active f r.graph then none
    else some (exec (insertFinding sha f) env.statements db).1
  | _, _ => none

end Steps

/-- The tables, the rest of the database, the call of `prune_to_budget` made last, and the
runtime. -/
structure Observing where
  tables : Tables
  history : Store
  pruning : Pruning
  runtime : Runtime

/-- The calls of the runtime follow one another; pruning does not wait for them. -/
inductive ObservingAction where
  | bootstrap (snapshot : List ProcessExecEvent) (arrangement : Arrangement)
  | observe (events : List ProcessExecEvent)
  | proceed (env : RuntimeEnv)
  | prune (maxBytes : ℕ)
  | maintain (a : Answer)

def rowKey (key : ProcessInstanceKey) : Text := bindText (stableProcessKey key)

namespace Observing

variable (undefined : Conversion) (sha : Sha256) (w : Observing)

def step : ObservingAction → Observing
  | .bootstrap snapshot arrangement =>
    if w.runtime.queue = [] then
      let graph := snapshot.foldl (fun g e => (g.observe e).2) w.runtime.graph
      { w with runtime := { w.runtime with
        graph
        queue := (graph.snapshot arrangement).map .process ++ [.evaluateSnapshot] } }
    else w
  | .observe events =>
    if w.runtime.queue = [] then
      { w with runtime := { w.runtime with queue := events.map .event } }
    else w
  | .proceed env =>
    { w with
      tables := (w.runtime.step undefined sha env w.tables).1
      runtime := (w.runtime.step undefined sha env w.tables).2 }
  | .prune maxBytes =>
    match w.pruning with
    | .running _ _ _ => w
    | _ => { w with pruning := .running maxBytes 0 .measure }
  | .maintain a =>
    let result := w.pruning.step (w.tables.store w.history) a
    { w with
      tables := w.tables.retain result.1
      history := result.1
      pruning := result.2 }

/-- The statement of a stored process does not fail of itself, and a start event is stored under
the key that it identifies. A finding has an identifier that no row has under another key. -/
def workUndisturbed (env : RuntimeEnv) : Work → Bool
  | .persist e =>
    (env.oracle.fails 0).isNone && (e.type = .exit || (keyFrom e).all fun key =>
      w.tables.hasInstance (rowKey key) ||
        (nodeForEvent e (w.runtime.graph.snapshot env.arrangement)).any fun n => n.key = key)
  | .process _ => (env.oracle.fails 0).isNone
  | .finding f => w.tables.findings.rows.all fun r =>
    !decide (r.findingId = (findingRow sha f).findingId) ||
      decide (r.findingKey = (findingRow sha f).findingKey)
  | _ => true

def undisturbed : ObservingAction → Bool
  | .proceed env => w.runtime.queue.head?.all (w.workUndisturbed sha env)
  | .maintain a => w.runtime.graph.nodes.rows.all fun n =>
    !w.tables.hasInstance (rowKey n.key) ||
      (w.step undefined sha (.maintain a)).tables.hasInstance (rowKey n.key)
  | _ => true

def Created : Prop := w.runtime.graph.nodes.rows = [] ∧ w.runtime.queue = []

/-- A finding that is stored is stored, unless the statement fails of itself, and never is a
foreign key missing. -/
def Stores (a : ObservingAction) : Prop :=
  ∀ env r, a = .proceed env → w.runtime.inserts sha env w.tables = some r →
    r ≠ .error .foreignKey ∧ (env.oracle.fails 0 = none → r = .ok ())

end Observing

/-! ### The order of the work -/

def Work.rank : Work → ℕ
  | .persist _ | .process _ => 0
  | .event _ => 2
  | _ => 1

def Work.storing : Work → Option ProcessInstanceKey
  | .persist e => if e.type = .start then keyFrom e else none
  | .process node => some node.key
  | _ => none

lemma Work.storing_of_rank {x : Work} (h : 1 ≤ x.rank) : x.storing = none := by
  cases x with
  | persist | process => exact absurd h (by simp [rank])
  | _ => rfl

structure Ready (db : Tables) (r : Runtime) : Prop where
  sorted : r.queue.Pairwise fun x y => x.rank ≤ y.rank
  /-- Every process of the graph has its row, or is about to be stored. -/
  stored : ∀ n ∈ r.graph.nodes, db.hasInstance (rowKey n.key) = true ∨
    ∃ x ∈ r.queue, x.storing = some n.key
  about : ∀ f, Work.finding f ∈ r.queue → ∃ n ∈ r.graph.nodes, n.key = f.process

namespace Ready
variable {db : Tables} {r : Runtime} {x : Work} {rest : List Work}

section

variable (h : Ready db r)
include h

lemma tail_sorted (hq : r.queue = x :: rest) :
    rest.Pairwise (fun x y => x.rank ≤ y.rank) ∧ ∀ y ∈ rest, x.rank ≤ y.rank := by
  have hsorted := h.sorted
  rw [hq, pairwise_cons] at hsorted
  exact ⟨hsorted.2, hsorted.1⟩

lemma all_stored (hq : r.queue = x :: rest) (hx : 1 ≤ x.rank) :
    ∀ n ∈ r.graph.nodes, db.hasInstance (rowKey n.key) = true := by
  intro n hn
  rcases h.stored n hn with hrow | ⟨y, hy, hstoring⟩
  · exact hrow
  · have hrank : 1 ≤ y.rank := by
      rw [hq, mem_cons] at hy
      rcases hy with rfl | hy
      · exact hx
      · exact hx.trans ((h.tail_sorted hq).2 y hy)
    rw [Work.storing_of_rank hrank] at hstoring
    cases hstoring

lemma shorten (hq : r.queue = x :: rest) (hx : 1 ≤ x.rank) (engine : Processes.Engine)
    {queue : List Work} (hqueue : queue <+ rest) : Ready db ⟨r.graph, engine, queue⟩ where
  sorted := (h.tail_sorted hq).1.sublist hqueue
  stored n hn := .inl (h.all_stored hq hx n hn)
  about f hf := h.about f (by rw [hq]; exact mem_cons_of_mem x (hqueue.subset hf))

lemma push (hq : r.queue = x :: rest) (hx : x.rank = 1) (engine : Processes.Engine)
    {new : List Work} (hnew : ∀ y ∈ new, y.rank = 1)
    (habout : ∀ f, Work.finding f ∈ new → ∃ n ∈ r.graph.nodes, n.key = f.process) :
    Ready db ⟨r.graph, engine, new ++ rest⟩ where
  sorted := by
    obtain ⟨hsorted, hle⟩ := h.tail_sorted hq
    refine pairwise_append.mpr ⟨?_, hsorted, fun y hy z hz => ?_⟩
    · refine pairwise_of_forall_mem_list fun y hy z hz => ?_
      rw [hnew y hy, hnew z hz]
    · rw [hnew y hy, ← hx]
      exact hle z hz
  stored n hn := .inl (h.all_stored hq hx.ge n hn)
  about f hf := by
    rcases mem_append.mp hf with hf | hf
    · exact habout f hf
    · exact h.about f (by rw [hq]; exact mem_cons_of_mem x hf)

lemma mono {db' : Tables}
    (hdb : ∀ n ∈ r.graph.nodes, db.hasInstance (rowKey n.key) = true →
      db'.hasInstance (rowKey n.key) = true) : Ready db' r where
  sorted := h.sorted
  stored n hn := (h.stored n hn).imp_left (hdb n hn)
  about := h.about

lemma store (hq : r.queue = x :: rest) {node : ProcessNode}
    (hx : x.storing = none ∨ x.storing = some node.key ∨
      ∀ key, x.storing = some key → db.hasInstance (rowKey key) = true) :
    Ready (db.putInstance (instanceRow node)) ⟨r.graph, r.engine, rest⟩ where
  sorted := (h.tail_sorted hq).1
  stored n hn := by
    rcases h.stored n hn with hrow | ⟨y, hy, hstoring⟩
    · exact .inl (hasInstance_putInstance_of hrow)
    · rw [hq, mem_cons] at hy
      rcases hy with rfl | hy
      · rcases hx with hx | hx | hx
        · rw [hx] at hstoring
          cases hstoring
        · rw [hx] at hstoring
          rw [← Option.some.inj hstoring]
          exact .inl hasInstance_putInstance_self
        · exact .inl (hasInstance_putInstance_of (hx _ hstoring))
      · exact .inr ⟨y, hy, hstoring⟩
  about f hf := h.about f (by rw [hq]; exact mem_cons_of_mem x hf)

end

end Ready

/-! ### One operation of the runtime -/

section Operations
variable {undefined : Conversion} {sha : Sha256} {w : Observing} {env : RuntimeEnv}

lemma exec_upsertProcess (node : ProcessNode) (db : Tables) (h : env.oracle.fails 0 = none) :
    exec (upsertProcess node) env.statements db = (.ok (), db.putInstance (instanceRow node)) := by
  unfold exec upsertProcess Sql.modify statement RuntimeEnv.statements Oracle.map
  simp only [h, Option.map_none]

lemma insertFinding_tables (sha : Sha256) (f : Processes.ProcessFinding) (o : Oracle StoreError)
    (db : Tables) : (exec (insertFinding sha f) o db).2.instances = db.instances := by
  unfold exec insertFinding statement
  simp only
  cases o.fails 0 with
  | some => rfl
  | none =>
    simp only
    cases hput : db.putFinding (findingRow sha f) with
    | error => rfl
    | ok => exact (putFinding_ok hput).1

lemma selectFinding_tables (f : Processes.ProcessFinding) (o : Oracle StoreError) (db : Tables) :
    (exec (selectFinding f) o db).2 = db := by
  unfold exec selectFinding statement
  simp only
  cases o.fails 0 with
  | some => rfl
  | none =>
    simp only
    cases db.findFinding (bindText (findingKey f)) <;> rfl

variable {db db' : Tables}

lemma hasInstance_congr (h : db'.instances = db.instances) (k : Text) :
    db'.hasInstance k = db.hasInstance k := by
  unfold hasInstance
  rw [h]

variable {rest : List Work} {e : ProcessExecEvent}

lemma Ready.event {r : Runtime} (h : Ready db r) (hq : r.queue = .event e :: rest) :
    Ready db ⟨(r.graph.observe e).2, r.engine,
      if (r.graph.observe e).1 then .persist e :: .scan e :: .evaluate e :: rest else rest⟩ := by
  obtain ⟨hsorted, hle⟩ := h.tail_sorted hq
  have hrows := h.all_stored hq (by simp [Work.rank])
  have hnone : ∀ f, Work.finding f ∉ rest := fun f hf => by
    have := hle _ hf
    simp [Work.rank] at this
  refine ⟨?_, fun n hn => ?_, fun f hf => ?_⟩
  · split
    · refine pairwise_cons.mpr ⟨fun y _ => Nat.zero_le _, pairwise_cons.mpr ⟨?_,
        pairwise_cons.mpr ⟨fun y hy => Nat.le_of_succ_le (hle y hy), hsorted⟩⟩⟩
      intro y hy
      rcases mem_cons.mp hy with rfl | hy
      · exact le_rfl
      · exact Nat.le_of_succ_le (hle y hy)
    · exact hsorted
  · rcases observe_keys hn with ⟨m, hm, hkey⟩ | ⟨haccepted, htype, hkey⟩
    · rw [← hkey]
      exact .inl (hrows m hm)
    · refine .inr ⟨.persist e, ?_, ?_⟩
      · rw [if_pos haccepted]
        exact mem_cons_self
      · rw [Work.storing, if_pos htype, hkey]
  · split at hf
    · simp only [mem_cons, reduceCtorEq, false_or] at hf
      exact absurd hf (hnone f)
    · exact absurd hf (hnone f)

variable {fs : List Processes.ProcessFinding}

lemma Ready.evaluated {r : Runtime} {x : Work}
    (h : Ready db r) (hq : r.queue = x :: rest) (hx : x.rank = 1) (engine : Processes.Engine)
    {arrangement : Arrangement} (hfs : ∀ f ∈ fs, About (r.graph.snapshot arrangement) f) :
    Ready db ⟨r.graph, engine, fs.map .finding ++ rest⟩ := by
  refine h.push hq hx engine (fun y hy => ?_) fun f hf => ?_
  · obtain ⟨f, -, rfl⟩ := mem_map.mp hy
    rfl
  · obtain ⟨f', hf', heq⟩ := mem_map.mp hf
    cases heq
    obtain ⟨n, hn, hkey⟩ := hfs f hf'
    exact ⟨n, mem_snapshot.mp hn, hkey⟩

lemma observe_about {nodes : List ProcessNode} {o : Oracle Text} {engine : Processes.Engine}
    (h : (exec (observe undefined e nodes) o engine).1 = .ok fs) :
    ∀ f ∈ fs, About nodes f := by
  have hobserves : Observes engine.config engine.customProcessRules nodes
      (observe undefined e nodes) := observes_observe
  rcases hobserves.exec (o := o) (fun _ _ _ => trivial) ⟨rfl, rfl⟩ with
    ⟨fs', hr, -, hfs⟩ | ⟨_, hr, -⟩
  · rw [h] at hr
    cases hr
    exact hfs
  · rw [h] at hr
    cases hr

/-- **One operation of the runtime.** -/
lemma Ready.step (h : Ready w.tables w.runtime)
    (hok : w.undisturbed undefined sha (.proceed env) = true) :
    Ready (w.runtime.step undefined sha env w.tables).1
      (w.runtime.step undefined sha env w.tables).2 := by
  cases hq : w.runtime.queue with
  | nil =>
    simp only [Runtime.step, hq]
    exact h
  | cons x rest =>
    have hx : w.workUndisturbed sha env x = true := by
      simpa [Observing.undisturbed, hq] using hok
    cases x with
    | event =>
      simp only [Runtime.step, hq]
      exact h.event hq
    | persist e =>
      simp only [Observing.workUndisturbed, Bool.and_eq_true, Option.isNone_iff_eq_none] at hx
      obtain ⟨hfails, hkey⟩ := hx
      -- the process of a start event has its row already, or it is the node that is found
      have hstoring : ∀ key, (Work.persist e).storing = some key →
          w.tables.hasInstance (rowKey key) = true ∨
          ∃ n, nodeForEvent e (w.runtime.graph.snapshot env.arrangement) = some n ∧ n.key = key := by
        intro key hs
        simp only [Work.storing] at hs
        split at hs
        · next htype =>
          rw [hs, htype] at hkey
          simpa [Option.any_eq_true] using hkey
        · cases hs
      simp only [Runtime.step, hq]
      cases hn : nodeForEvent e (w.runtime.graph.snapshot env.arrangement) with
      | none =>
        refine ⟨(h.tail_sorted hq).1, fun n hmem => ?_, fun f hf => h.about f ?_⟩
        · rcases h.stored n hmem with hrow | ⟨y, hy, hs⟩
          · exact .inl hrow
          rw [hq, mem_cons] at hy
          rcases hy with rfl | hy
          · rcases hstoring _ hs with hrow | ⟨m, hm, -⟩
            · exact .inl hrow
            · rw [hn] at hm
              cases hm
          · exact .inr ⟨y, hy, hs⟩
        · rw [hq]
          exact mem_cons_of_mem _ hf
      | some node =>
        simp only [Runtime.persisted, exec_upsertProcess node _ hfails, unlessThrown]
        refine h.store hq ?_
        cases hs : (Work.persist e).storing with
        | none => exact .inl rfl
        | some key =>
          rcases hstoring key hs with hrow | ⟨m, hm, hkey⟩
          · exact .inr (.inr fun k hk => Option.some.inj hk ▸ hrow)
          · rw [hn] at hm
            cases hm
            exact .inr (.inl (congrArg some hkey.symm))
    | process node =>
      simp only [Observing.workUndisturbed, Option.isNone_iff_eq_none] at hx
      simp only [Runtime.step, hq, Runtime.persisted, exec_upsertProcess node _ hx, unlessThrown]
      exact h.store hq (.inr (.inl rfl))
    | scan =>
      simp only [Runtime.step, hq]
      split
      · exact h.shorten hq le_rfl w.runtime.engine (nil_sublist _)
      · exact h.shorten hq le_rfl w.runtime.engine (.refl _)
    | evaluate e =>
      simp only [Runtime.step, hq]
      cases hr : (exec (Processes.observe undefined e (w.runtime.graph.snapshot env.arrangement))
        env.oracle w.runtime.engine).1 with
      | error _ => exact h.shorten hq le_rfl _ (nil_sublist _)
      | ok => exact h.evaluated hq rfl _ (observe_about hr)
    | evaluateSnapshot =>
      simp only [Runtime.step, hq]
      cases hr : w.runtime.engine.evaluateSnapshot (w.runtime.graph.snapshot env.arrangement) with
      | error _ => exact h.shorten hq le_rfl _ (nil_sublist _)
      | ok fs => exact h.evaluated hq rfl _ ((makes_evaluateNodes fun n hn => hn).1 fs hr)
    | finding f =>
      simp only [Runtime.step, hq]
      split
      · exact h.shorten hq le_rfl _ (nil_sublist _)
      split
      · exact h.shorten hq le_rfl _ (.refl _)
      have hrows : ∀ n ∈ w.runtime.graph.nodes, w.tables.hasInstance (rowKey n.key) = true →
          (exec (insertFinding sha f) env.statements w.tables).2.hasInstance (rowKey n.key) =
            true := fun n _ hrow => by
        rw [hasInstance_congr (insertFinding_tables sha f env.statements w.tables)]
        exact hrow
      cases (exec (insertFinding sha f) env.statements w.tables).1 with
      | error => exact (h.shorten hq le_rfl w.runtime.engine (nil_sublist _)).mono hrows
      | ok _ =>
        have hpush : Ready w.tables ⟨w.runtime.graph, w.runtime.engine, [.readBack f] ++ rest⟩ := by
          refine h.push hq rfl w.runtime.engine (fun y hy => ?_) fun f' hf' => ?_
          · rw [mem_singleton.mp hy]
            rfl
          · cases mem_singleton.mp hf'
        exact hpush.mono hrows
    | readBack f =>
      simp only [Runtime.step, hq, selectFinding_tables]
      cases (exec (selectFinding f) env.statements w.tables).1 with
      | error _ => exact h.shorten hq le_rfl _ (nil_sublist _)
      | ok _ => exact h.shorten hq le_rfl _ (.refl _)

/-- **A finding is stored.** -/
lemma Ready.stores (h : Ready w.tables w.runtime) {a : ObservingAction}
    (hok : w.undisturbed undefined sha a = true) : w.Stores sha a := by
  rintro env r rfl hr
  unfold Runtime.inserts at hr
  split at hr
  · next f rest active hq _ =>
    have hx : w.workUndisturbed sha env (.finding f) = true := by
      simpa [Observing.undisturbed, hq] using hok
    split at hr
    · cases hr
    cases hr
    -- the row can be inserted or updated
    have hput : ∃ db', w.tables.putFinding (findingRow sha f) = .ok db' := by
      cases hput : w.tables.putFinding (findingRow sha f) with
      | ok db' => exact ⟨db', rfl⟩
      | error =>
        obtain ⟨hkeys, ⟨r, hr, hid⟩ | hinstance⟩ := Tables.putFinding_error hput
        · have hdistinct := all_eq_true.mp hx r hr
          simp only [hid, decide_true, Bool.not_true, Bool.false_or, decide_eq_true_eq] at hdistinct
          exact absurd hdistinct (hkeys r hr)
        · obtain ⟨n, hn, hkey⟩ := h.about f (by rw [hq]; exact mem_cons_self)
          have hrow : w.tables.hasInstance (rowKey n.key) = true := h.all_stored hq le_rfl n hn
          rw [hkey] at hrow
          exact absurd (hrow.symm.trans hinstance) (by decide)
    obtain ⟨db', hput⟩ := hput
    unfold exec insertFinding statement RuntimeEnv.statements Oracle.map
    cases hfails : env.oracle.fails 0 with
    | none =>
      simp only [hfails, Option.map_none, hput]
      exact ⟨fun h => (by cases h), fun _ => rfl⟩
    | some =>
      simp only [hfails, Option.map_some]
      exact ⟨fun h => (by cases h), fun h => (by cases h)⟩
  · cases hr

end Operations

namespace Observing

variable {undefined : Conversion} {sha : Sha256} {w : Observing}

/-! ### The steps -/

lemma all_stored (h : Ready w.tables w.runtime) (hq : w.runtime.queue = []) :
    ∀ n ∈ w.runtime.graph.nodes, w.tables.hasInstance (rowKey n.key) = true := by
  intro n hn
  rcases h.stored n hn with hrow | ⟨x, hx, -⟩
  · exact hrow
  · rw [hq] at hx
    cases hx

lemma ready_bootstrap (db : Tables) (graph : ProcessGraph) (engine : Processes.Engine)
    (arrangement : Arrangement) :
    Ready db ⟨graph, engine, (graph.snapshot arrangement).map .process ++ [.evaluateSnapshot]⟩ := by
  refine ⟨?_, fun n hn => ?_, fun f hf => ?_⟩
  · refine pairwise_append.mpr ⟨?_, pairwise_singleton _ _, fun x hx y _ => ?_⟩
    · refine pairwise_map.mpr (pairwise_of_forall_mem_list fun _ _ _ _ => ?_)
      exact le_rfl
    · obtain ⟨n, -, rfl⟩ := mem_map.mp hx
      exact Nat.zero_le _
  · have hmem : n ∈ graph.snapshot arrangement := mem_snapshot.mpr hn
    exact .inr ⟨.process n, mem_append_left _ (mem_map_of_mem hmem), rfl⟩
  · rcases mem_append.mp hf with hf | hf
    · obtain ⟨n, -, heq⟩ := mem_map.mp hf
      cases heq
    · cases mem_singleton.mp hf

lemma ready_observe (h : Ready w.tables w.runtime) (hq : w.runtime.queue = [])
    (events : List ProcessExecEvent) :
    Ready w.tables { w.runtime with queue := events.map .event } := by
  refine ⟨?_, fun n hn => .inl (all_stored h hq n hn), fun f hf => ?_⟩
  · refine pairwise_map.mpr (pairwise_of_forall_mem_list fun _ _ _ _ => ?_)
    exact le_rfl
  · obtain ⟨e, -, heq⟩ := mem_map.mp hf
    cases heq

/-- **One step.** -/
lemma ready_step (h : Ready w.tables w.runtime) {a : ObservingAction}
    (ha : w.undisturbed undefined sha a = true) :
    Ready (w.step undefined sha a).tables (w.step undefined sha a).runtime := by
  cases a with
  | bootstrap snapshot arrangement =>
    unfold step
    simp only
    split
    · exact ready_bootstrap _ _ _ arrangement
    · exact h
  | observe events =>
    unfold step
    simp only
    split
    · next hq => exact ready_observe h hq events
    · exact h
  | proceed => exact h.step ha
  | prune =>
    unfold step
    simp only
    split <;> exact h
  | maintain =>
    refine Ready.mono h fun n hn hrow => ?_
    have hkept := all_eq_true.mp ha n hn
    simpa [hrow] using hkept

/-- **Findings beside pruning.** While pruning keeps the rows of the processes in the graph, no
statement that stores a process fails, a start event is stored under its own key, and no two
findings share an identifier, every finding that is not excluded is stored, unless its statement
fails of itself, and never is a foreign key missing. -/
theorem findings_stored (hw : w.Created) {actions : List ObservingAction}
    (h : Along (step undefined sha) (fun w a => w.undisturbed undefined sha a = true) w actions) :
    Along (step undefined sha) (Stores sha) w actions := by
  refine along_of_inv (I := fun w => Ready w.tables w.runtime)
    (fun w a hw ha => ⟨ready_step hw ha, hw.stores ha⟩) ?_ h
  obtain ⟨hnodes, hqueue⟩ := hw
  refine ⟨?_, fun n hn => ?_, fun f hf => ?_⟩
  · rw [hqueue]
    exact List.Pairwise.nil
  · rw [Table.mem_def, hnodes] at hn
    cases hn
  · rw [hqueue] at hf
    cases hf

/-! ### A parent and its child -/

def sampleConfig : ProcessFindingConfig where
  rulesetVersion := []
  transientPathEnabled := false
  transientPathSeverity := ['l', 'o', 'w']
  transientPathPrefixes := []
  transientPathSubstrings := []
  unexpectedShellEnabled := false
  unexpectedShellSeverity := ['l', 'o', 'w']
  shellNames := []
  expectedShellParentNames := []
  unexpectedElevationEnabled := false
  unexpectedElevationSeverity := ['l', 'o', 'w']
  expectedElevationParentNames := []
  fanoutEnabled := true
  fanoutSeverity := ['l', 'o', 'w']
  fanoutCount := 1
  fanoutWindowNs := 10
  shortLivedEnabled := false
  shortLivedSeverity := ['l', 'o', 'w']
  shortLivedCount := 1
  shortLivedMaxNs := 1
  shortLivedWindowNs := 1

def sampleObserving : Observing where
  tables := .empty
  history := .initial
  pruning := .returned
  runtime := ⟨{}, { config := sampleConfig, customProcessRules := [] }, []⟩

def parentStart : ProcessExecEvent :=
  { timestampNs := 1, tgid := some 5, processStartTimeNs := some 1 }

def parentExit : ProcessExecEvent :=
  { type := .exit, timestampNs := 2, tgid := some 5, processStartTimeNs := some 1 }

def childStart : ProcessExecEvent :=
  { timestampNs := 3, tgid := some 6, processStartTimeNs := some 3, parentTgid := some 5,
    parentProcessStartTimeNs := some 1 }

def sampleEnv : RuntimeEnv := ⟨⟨fun _ => none, fun _ _ => 0⟩, stableArrangement, .ok {}, false⟩

def sampleStep : Observing → ObservingAction → Observing :=
  step (fun _ => 0) Verdict.sampleMachine.sha

/-- The child starts while the row of its parent is there. -/
def sampleBatch : List ObservingAction :=
  .observe [parentStart, childStart] :: List.replicate 8 (.proceed sampleEnv)

theorem findings_stored_parent :
    ((run sampleStep sampleObserving sampleBatch).runtime.inserts Verdict.sampleMachine.sha sampleEnv
      (run sampleStep sampleObserving sampleBatch).tables).isSome = true ∧
    Along sampleStep (Stores Verdict.sampleMachine.sha) sampleObserving
      (sampleBatch ++ [.proceed sampleEnv]) := by
  refine ⟨by decide +kernel, findings_stored ⟨rfl, rfl⟩ ?_⟩
  decide +kernel

/-- The parent exits, and pruning goes through its first stages; then two children start. -/
def sampleDelay : List ObservingAction :=
  .observe [parentStart, parentExit] :: List.replicate 8 (.proceed sampleEnv) ++
    .prune 1 :: List.replicate 7 (.maintain { size := 100 }) ++
    .observe [childStart, parentStart] :: List.replicate 4 (.proceed sampleEnv)

/-- The row of the parent is gone when the finding on it is stored: the foreign key is missing,
and the rest of the batch is lost. -/
theorem findings_after_pruning :
    (run sampleStep sampleObserving sampleDelay).runtime.inserts Verdict.sampleMachine.sha sampleEnv
      (run sampleStep sampleObserving sampleDelay).tables = some (.error .foreignKey) ∧
    (run sampleStep sampleObserving sampleDelay).runtime.queue.length = 2 ∧
    (run sampleStep sampleObserving (sampleDelay ++ [.proceed sampleEnv])).runtime.queue.length =
      0 := by
  refine ⟨?_, ?_, ?_⟩
  · decide +kernel
  · decide +kernel
  · decide +kernel

end Observing

end NetaAgent.FindingStore
