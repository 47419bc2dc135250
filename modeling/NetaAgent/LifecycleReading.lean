import Mathlib.Data.List.Sort
import NetaAgent.HistoryStore

/-!
The lifecycle events of a connection as they are read back from the store.

The columns hold the texts of the type and of the provenance and 64 bit signed numbers. The endpoint
kind and the platform's own identity of the connection have no column.
-/

namespace NetaAgent.HistoryStore

open Decimal Sql Observation

def eventTypeText : ConnectionLifecycleEventType → Text
  | .connect => "CONNECT"
  | .accept => "ACCEPT"
  | .close => "CLOSE"

def provenanceText : LifecycleProvenance → Text
  | .ebpfCore => "EBPF_CORE"
  | .windowsEtw => "WINDOWS_ETW"
  | .deterministicTest => "DETERMINISTIC_TEST"

variable (column : Text) (provenance : LifecycleProvenance)

def readEventType : ConnectionLifecycleEventType :=
  if column = "ACCEPT" then .accept else if column = "CLOSE" then .close else .connect

def readProvenance : LifecycleProvenance :=
  if column = "DETERMINISTIC_TEST" then .deterministicTest else .ebpfCore

/-- A column with this number, cast to an unsigned type of `w` bits. -/
def columnUnsigned (w n : ℕ) : ℕ := (int64 n % 2 ^ w).toNat

def readNamespace : Option ℕ → Option ℕ → Option ProcessNamespaceIdentity
  | some device, some inode => some ⟨columnUnsigned 64 device, columnUnsigned 64 inode⟩
  | _, _ => none

def readEndpoint (ip : Option Text) (port : Option ℕ) : Option NetworkEndpoint :=
  ip.map fun address => ⟨address, port.map (columnUnsigned 16)⟩

def LifecycleEvent.read (r : LifecycleEvent) : ConnectionLifecycleEvent where
  type := readEventType (eventTypeText r.eventType)
  timestampNs := columnUnsigned 64 r.observedNs
  provenance := readProvenance (provenanceText r.provenance)
  process :=
    { agentVisible := ⟨r.agentPid, r.agentTgid⟩
      kernel := ⟨r.kernelPid, r.kernelTgid⟩
      agentPidNamespace := readNamespace r.agentPidNamespaceDevice r.agentPidNamespaceInode
      uid := r.uid.map (columnUnsigned 32)
      startTicks := r.processStartTicks.map (columnUnsigned 64)
      comm := r.comm }
  networkNamespaceInode := r.networkNamespaceInode.map (columnUnsigned 64)
  addressFamily := r.addressFamily
  protocol := r.protocol
  localEndpoint := readEndpoint r.localIp r.localPort
  remoteEndpoint := readEndpoint r.remoteIp r.remotePort
  socketCookie := r.socketCookie.map (columnUnsigned 64)
  tcpState := r.tcpState.map (columnUnsigned 8)

/-- `ORDER BY observed_ns,id`. -/
def lifecycleEventsForConnection (db : Store) (id : ℕ) : List ConnectionLifecycleEvent :=
  ((db.lifecycleEvents.rows.filter fun r => LifecycleEvent.connectionId r = id).insertionSort
    fun a b => int64 a.observedNs < int64 b.observedNs ∨
      int64 a.observedNs = int64 b.observedNs ∧ a.id ≤ b.id).map LifecycleEvent.read

variable {e : ConnectionLifecycleEvent}

lemma mem_lifecycleEventsForConnection {db : Store} {id : ℕ} :
    e ∈ lifecycleEventsForConnection db id ↔
      ∃ r ∈ db.lifecycleEvents, r.connectionId = id ∧ r.read = e := by
  simp [lifecycleEventsForConnection, Table.mem_def, and_assoc]

/-! ### What the columns keep -/

def persisted (e : ConnectionLifecycleEvent) : ConnectionLifecycleEvent :=
  { e with endpointKind := .unknown, platformConnectionId := none }

/-- The number, if there is one, has at most `w` bits. -/
def Below (w : ℕ) (n : Option ℕ) : Prop := ∀ k ∈ n, k < 2 ^ w

def StorableEndpoint (x : Option NetworkEndpoint) : Prop :=
  ∀ n ∈ x, '\x00' ∉ n.address ∧ Below 16 n.port

/-- The numbers are of the types they have, and no text has a NUL. -/
structure Storable (e : ConnectionLifecycleEvent) : Prop where
  timestampNs : e.timestampNs < 2 ^ 64
  agentPidNamespace : ∀ n ∈ e.process.agentPidNamespace, n.device < 2 ^ 64 ∧ n.inode < 2 ^ 64
  uid : Below 32 e.process.uid
  startTicks : Below 64 e.process.startTicks
  comm : ∀ t ∈ e.process.comm, '\x00' ∉ t
  networkNamespaceInode : Below 64 e.networkNamespaceInode
  localEndpoint : StorableEndpoint e.localEndpoint
  remoteEndpoint : StorableEndpoint e.remoteEndpoint
  socketCookie : Below 64 e.socketCookie
  tcpState : Below 8 e.tcpState

lemma columnUnsigned_eq {w n : ℕ} (hw : w ∈ [8, 16, 32, 64]) (hn : n < 2 ^ w) :
    columnUnsigned w n = n := by
  simp only [List.mem_cons, List.not_mem_nil, or_false] at hw
  unfold columnUnsigned int64 twoPow64
  rcases hw with rfl | rfl | rfl | rfl <;> split <;> omega

lemma map_columnUnsigned {w : ℕ} (hw : w ∈ [8, 16, 32, 64]) {n : Option ℕ} (hn : Below w n) :
    n.map (columnUnsigned w) = n := by
  cases n with
  | none => rfl
  | some k => rw [Option.map_some, columnUnsigned_eq hw (hn k rfl)]

lemma readEndpoint_eq {x : Option NetworkEndpoint} (hx : StorableEndpoint x) :
    readEndpoint (x.map fun n => bindText n.address) (x.bind (·.port)) = x := by
  cases x with
  | none => rfl
  | some n =>
    obtain ⟨haddress, hport⟩ := hx n rfl
    simp [readEndpoint, bindText_of_notMem haddress, map_columnUnsigned (by decide) hport]

lemma readNamespace_eq {x : Option ProcessNamespaceIdentity}
    (hx : ∀ n ∈ x, n.device < 2 ^ 64 ∧ n.inode < 2 ^ 64) :
    readNamespace (x.map (·.device)) (x.map (·.inode)) = x := by
  cases x with
  | none => rfl
  | some n =>
    obtain ⟨hdevice, hinode⟩ := hx n rfl
    simp [readNamespace, columnUnsigned_eq (by decide) hdevice, columnUnsigned_eq (by decide) hinode]

lemma readEventType_text (t : ConnectionLifecycleEventType) : readEventType (eventTypeText t) = t := by
  cases t <;> decide

lemma readProvenance_text {p : LifecycleProvenance} :
    readProvenance (provenanceText p) = p ↔ p ≠ .windowsEtw := by
  cases p <;> decide

lemma readProvenance_ne : readProvenance column ≠ .windowsEtw := by
  unfold readProvenance
  split <;> decide

lemma read_lifecycleEventRow (he : Storable e)
    (connectionId id : ℕ) : (lifecycleEventRow e connectionId id).read =
      { persisted e with provenance := readProvenance (provenanceText e.provenance) } := by
  have hcomm : e.process.comm.map bindText = e.process.comm := by
    cases hc : e.process.comm with
    | none => rfl
    | some t => rw [Option.map_some, bindText_of_notMem (he.comm t hc)]
  simp only [LifecycleEvent.read, lifecycleEventRow, persisted, readEventType_text, hcomm,
    columnUnsigned_eq (by decide) he.timestampNs, readNamespace_eq he.agentPidNamespace,
    map_columnUnsigned (by decide) he.uid, map_columnUnsigned (by decide) he.startTicks,
    map_columnUnsigned (by decide) he.networkNamespaceInode, readEndpoint_eq he.localEndpoint,
    readEndpoint_eq he.remoteEndpoint, map_columnUnsigned (by decide) he.socketCookie,
    map_columnUnsigned (by decide) he.tcpState]

/-- **An event is read back** as it was added exactly if it does not come from Windows. -/
theorem lifecycle_event_read_back {o : Oracle StoreError} {s s' : Session Store} {id : ℕ}
    {event : ConnectionLifecycleEvent} (hadd : addLifecycleEvent id event o s = (.ok (), s'))
    (hnew : ∀ r ∈ s.db.lifecycleEvents, r.connectionId = id → r.eventType = event.type →
      r.observedNs ≠ event.timestampNs) (hevent : Storable event) :
    (∃ e ∈ lifecycleEventsForConnection s'.db id, persisted e = persisted event) ↔
      event.provenance ≠ .windowsEtw := by
  constructor
  · rintro ⟨e, he, hsame⟩ hwindows
    obtain ⟨r, -, -, rfl⟩ := mem_lifecycleEventsForConnection.mp he
    have hprovenance := congrArg ConnectionLifecycleEvent.provenance hsame
    exact readProvenance_ne _ (hprovenance.trans hwindows)
  · intro hprovenance
    have hrow : lifecycleEventRow event id s.db.lifecycleEvents.nextId ∈ s'.db.lifecycleEvents := by
      have hnone : (s.db.lifecycleEvents.rows.any fun e => e.connectionId = id ∧
          e.eventType = event.type ∧ e.observedNs = event.timestampNs) = false := by
        simpa [List.any_eq_false, Table.mem_def] using hnew
      unfold addLifecycleEvent statement at hadd
      split at hadd
      · cases hadd
      · simp only [hnone, Bool.false_eq_true, if_false] at hadd
        split at hadd
        · next heq =>
          split at heq
          · cases heq
            cases hadd
            simp [Store.insertEvent, Table.mem_add]
          · cases heq
        · cases hadd
    refine ⟨_, mem_lifecycleEventsForConnection.mpr ⟨_, hrow, rfl, rfl⟩, ?_⟩
    rw [read_lifecycleEventRow hevent, readProvenance_text.mpr hprovenance]
    rfl

/-- A store with one connection, and the event that is added to it. -/
def oneConnection : Session Store := ⟨Store.initial.insertConnection {} none [] 1 1 .outbound, 0⟩

def steadyStore : Oracle StoreError := ⟨fun _ => none, fun _ n => n⟩

def connectFrom : ConnectionLifecycleEvent where
  timestampNs := 5
  provenance
  process := { uid := some 0, comm := some "curl" }
  localEndpoint := some ⟨"10.0.0.1", some 40000⟩

def storedFrom : Session Store :=
  (addLifecycleEvent 1 (connectFrom provenance) steadyStore oneConnection).2

lemma storable_connectFrom : Storable (connectFrom provenance) := by
  constructor <;> simp [connectFrom, Below, StorableEndpoint]

theorem lifecycle_event_read_back_connect :
    ∃ e ∈ lifecycleEventsForConnection (storedFrom .ebpfCore).db 1,
      persisted e = persisted (connectFrom .ebpfCore) :=
  (@lifecycle_event_read_back steadyStore oneConnection _ 1 (connectFrom .ebpfCore) rfl
    (fun _ h => by cases h) (storable_connectFrom _)).mpr (by decide)

/-- An event of the Windows collector comes back as one of the kernel probes. -/
theorem windows_event_read_as_ebpf :
    Storable (connectFrom .windowsEtw) ∧
      addLifecycleEvent 1 (connectFrom .windowsEtw) steadyStore oneConnection =
        (.ok (), storedFrom .windowsEtw) ∧
      lifecycleEventsForConnection (storedFrom .windowsEtw).db 1 = [connectFrom .ebpfCore] :=
  ⟨storable_connectFrom _, rfl, by decide +kernel⟩

end NetaAgent.HistoryStore
