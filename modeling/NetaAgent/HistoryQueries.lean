import NetaAgent.HistoryStore
import Mathlib.Data.List.Sort

/-!
What is read back from the history database: connections with their processes, samples, and
baselines; and the storing of a baseline.

The integers are unsigned in the program and signed in SQLite, so what is read back is what was
written. A text is read back up to its first NUL. Among the samples of one time the order is that
of their insertion.
-/

namespace NetaAgent.HistoryStore

open Decimal Sql Observation List

inductive EvidenceFidelity where
  | exact
  | stronglyCorrelated
  | supporting
  | contextual
  deriving DecidableEq

def EvidenceFidelity.toText : EvidenceFidelity → Text
  | .exact => "EXACT"
  | .stronglyCorrelated => "STRONGLY_CORRELATED"
  | .supporting => "SUPPORTING"
  | .contextual => "CONTEXTUAL"

structure ConnectionSummary where
  id : ℕ := 0
  firstSeenNs : ℕ := 0
  lastSeenNs : ℕ := 0
  capturedAtNs : Option ℕ := none
  direction : ConnectionDirection := .unknown
  socketCookie : ℕ := 0
  socketInode : ℕ := 0
  networkNamespaceInode : Option ℕ := none
  process : ProcessIdentity := {}
  localIp : Text := []
  localPort : ℕ := 0
  remoteIp : Text := []
  remotePort : ℕ := 0
  targetHost : Text := []
  lifecycleState : LifecycleState := .active
  performance : PerformanceState := .insufficientEvidence
  trust : TrustState := .unverified
  deriving DecidableEq

variable (db : Store)

/-- The process of a row, with the values of `COALESCE` for none. -/
def Store.processOf (processId : Option ℕ) : ProcessIdentity :=
  match processId.bind db.processes.find with
  | none => {}
  | some p =>
    { pid := p.pid
      uid := (p.uid % 4294967296).toNat
      startTicks := p.startTicksObserved.map fun t => (t % (twoPow64 : ℤ)).toNat
      comm := bindText p.comm
      executablePath := bindText p.executablePath }

def Store.summary (r : Connection) : ConnectionSummary where
  id := r.id
  firstSeenNs := r.firstSeenNs
  lastSeenNs := r.lastSeenNs
  capturedAtNs := r.capturedAtNs
  direction := r.direction
  socketCookie := r.socketCookie
  socketInode := r.socketInode
  networkNamespaceInode := r.networkNamespaceInode
  process := db.processOf r.processId
  localIp := bindText r.localIp
  localPort := r.localPort
  remoteIp := bindText r.remoteIp
  remotePort := r.remotePort
  targetHost := bindText r.targetHost
  lifecycleState := r.lifecycleState
  performance := r.performanceState
  trust := r.trustState

/-- `HistoryStore::connection`. -/
def Store.connection (id : ℕ) : Option ConnectionSummary :=
  (db.connections.find id).map db.summary

def byTime (l : List TransportSample) : List TcpSnapshot :=
  (l.insertionSort fun a b => int64 a.snapshot.observedNs ≤ int64 b.snapshot.observedNs).map
    TransportSample.snapshot

def Store.samplesForConnection (id : ℕ) : List TcpSnapshot :=
  byTime (db.transportSamples.rows.filter fun s => s.connectionId = id)

/-- The last `limit` samples of the connections to a target. -/
def Store.recentSamplesForTarget (host : Text) (port limit : ℕ) : List TcpSnapshot :=
  let samples := byTime (db.transportSamples.rows.filter fun s =>
    db.connections.rows.any fun c => c.id = s.connectionId &&
      (c.targetHost = bindText host || (c.targetHost = [] && c.remoteIp = bindText host)) &&
      c.remotePort = port)
  samples.drop (samples.length - limit)

/-! ### Baselines -/

/-- A baseline as it is bound, under the id of its row. -/
def Baseline.bound (b : Baseline) (id : ℕ) : Baseline :=
  { b with
    id
    targetHost := bindText b.targetHost
    acceptedSpkiSha256 := bindText b.acceptedSpkiSha256
    acceptedIssuer := bindText b.acceptedIssuer
    sha256 := bindText b.sha256 }

lemma Baseline.bound_id (b : Baseline) (id : ℕ) : (b.bound id).id = id := rfl

def Baseline.read (b : Baseline) : Baseline := b.bound b.id

/-- The later baseline first: `ORDER BY created_ns DESC,id DESC`. -/
def Baseline.laterLe (a b : Baseline) : Bool :=
  int64 b.createdNs < int64 a.createdNs || (int64 b.createdNs = int64 a.createdNs && b.id ≤ a.id)

lemma head_insertionSort {α : Type} {r : α → α → Prop} [DecidableRel r] {l : List α} {x : α}
    (hx : x ∈ l) (hle : ∀ y ∈ l, r x y) (hlt : ∀ y ∈ l, y ≠ x → ¬ r y x) :
    (l.insertionSort r).head? = some x := by
  induction l with
  | nil => cases hx
  | cons a l ih =>
    rw [insertionSort_cons]
    by_cases hax : a = x
    · subst hax
      cases hs : l.insertionSort r with
      | nil => rfl
      | cons b s =>
        have hb : b ∈ l := by
          rw [← mem_insertionSort r, hs]
          exact mem_cons_self
        rw [orderedInsert, if_pos (hle b (mem_cons_of_mem _ hb))]
        rfl
    · have hxl : x ∈ l := (mem_cons.mp hx).resolve_left (Ne.symm hax)
      have hhead := ih hxl (fun y hy => hle y (mem_cons_of_mem _ hy))
        fun y hy => hlt y (mem_cons_of_mem _ hy)
      cases hs : l.insertionSort r with
      | nil => rw [hs] at hhead; cases hhead
      | cons b s =>
        rw [hs] at hhead
        cases hhead
        rw [orderedInsert, if_neg (hlt a mem_cons_self hax)]
        rfl

/-- `HistoryStore::baseline_for`. -/
def Store.baselineFor (host : Text) (port : ℕ) : Option Baseline :=
  let rows := db.baselines.rows.filter fun b => b.targetHost = bindText host ∧ b.targetPort = port
  (rows.insertionSort fun a b => a.laterLe b = true).head?.map Baseline.read

/-- `INSERT OR IGNORE`: a baseline with the same hash is kept. -/
def putBaseline (baselines : Table Baseline.id) (b : Baseline) : Table Baseline.id :=
  if baselines.rows.any fun r => r.sha256 = bindText b.sha256 then baselines
  else baselines.add b.bound b.bound_id

def Store.saveBaseline (b : Baseline) : Store :=
  { db with baselines := putBaseline db.baselines b }

end NetaAgent.HistoryStore
