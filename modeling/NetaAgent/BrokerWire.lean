import NetaAgent.PackedRecord

/-!
The frames of the Linux sensor broker: connection and process events in packed records, with a flag
for every field that may be missing.

The records are copied between memory and the wire, so they are in the byte order of the host, which
both ends share. An enumeration is one byte, and a byte that names nothing is read as it is.
-/

namespace NetaAgent.SensorBroker

open PackedRecord

/-! ### Events -/

inductive ConnectionLifecycleEventType where
  | connect
  | accept
  | close
  deriving DecidableEq

inductive NetworkAddressFamily where
  | unknown
  | ipv4
  | ipv6
  deriving DecidableEq

inductive TransportProtocol where
  | unknown
  | tcp
  deriving DecidableEq

inductive LifecycleProvenance where
  | ebpfCore
  | windowsEtw
  | deterministicTest
  deriving DecidableEq

inductive TcpEndpointKind where
  | unknown
  | connection
  | listener
  | lifecycleTail
  deriving DecidableEq

inductive ProcessExecEventType where
  | start
  | exit
  deriving DecidableEq

instance : Enumerated ConnectionLifecycleEventType where
  names := [.connect, .accept, .close]
  mem_names t := by cases t <;> decide
  length_names := by decide

instance : Enumerated NetworkAddressFamily where
  names := [.unknown, .ipv4, .ipv6]
  mem_names f := by cases f <;> decide
  length_names := by decide

instance : Enumerated TransportProtocol where
  names := [.unknown, .tcp]
  mem_names p := by cases p <;> decide
  length_names := by decide

instance : Enumerated LifecycleProvenance where
  names := [.ebpfCore, .windowsEtw, .deterministicTest]
  mem_names p := by cases p <;> decide
  length_names := by decide

instance : Enumerated TcpEndpointKind where
  names := [.unknown, .connection, .listener, .lifecycleTail]
  mem_names k := by cases k <;> decide
  length_names := by decide

instance : Enumerated ProcessExecEventType where
  names := [.start, .exit]
  mem_names t := by cases t <;> decide
  length_names := by decide

structure NetworkEndpoint where
  address : Bytes
  port : Option UInt16 := none

structure LifecycleProcessIds where
  pid : Option Int64 := none
  tgid : Option Int64 := none

structure ProcessNamespaceIdentity where
  device : UInt64
  inode : UInt64

structure LifecycleProcessContext where
  agentVisible : LifecycleProcessIds := {}
  kernel : LifecycleProcessIds := {}
  agentPidNamespace : Option ProcessNamespaceIdentity := none
  uid : Option UInt32 := none
  startTicks : Option UInt64 := none
  comm : Option Bytes := none

structure ConnectionLifecycleEvent where
  type : EnumValue ConnectionLifecycleEventType := .named .connect
  timestampNs : UInt64 := 0
  provenance : EnumValue LifecycleProvenance := .named .ebpfCore
  process : LifecycleProcessContext := {}
  networkNamespaceInode : Option UInt64 := none
  addressFamily : EnumValue NetworkAddressFamily := .named .unknown
  protocol : EnumValue TransportProtocol := .named .unknown
  endpointKind : EnumValue TcpEndpointKind := .named .unknown
  localEndpoint : Option NetworkEndpoint := none
  remoteEndpoint : Option NetworkEndpoint := none
  socketCookie : Option UInt64 := none
  platformConnectionId : Option UInt64 := none
  tcpState : Option UInt8 := none

structure ProcessExecEvent where
  type : EnumValue ProcessExecEventType := .named .start
  timestampNs : UInt64 := 0
  pid : Option Int64 := none
  tgid : Option Int64 := none
  parentPid : Option Int64 := none
  parentTgid : Option Int64 := none
  uid : Option UInt32 := none
  gid : Option UInt32 := none
  processStartTimeNs : Option UInt64 := none
  platformProcessKey : Option UInt64 := none
  parentProcessStartTimeNs : Option UInt64 := none
  parentPlatformProcessKey : Option UInt64 := none
  sessionId : Option UInt32 := none
  userIdentity : Bytes := []
  integrityLevel : Bytes := []
  elevated : Option Bool := none
  exitCode : Option Int32 := none
  cgroupId : Option UInt64 := none
  comm : Bytes := []
  executablePath : Bytes := []
  commandLine : Bytes := []
  workingDirectory : Bytes := []

/-! ### Frames -/

inductive MessageType where
  | register
  | lifecycle
  | processExec

def MessageType.code : MessageType → UInt16
  | .register => 1
  | .lifecycle => 2
  | .processExec => 3

def kMagic : UInt32 := 0x4e534231
def kProtocolVersion : UInt16 := 1
def kMaxFrameSize : ℕ := 8192

structure FrameHeader where
  magic : UInt32 := kMagic
  version : UInt16 := kProtocolVersion
  type : UInt16 := 0
  sequence : UInt64 := 0
  payloadSize : UInt32 := 0
  reserved : UInt32 := 0

section
variable (o : ByteOrder)

def headerCodec : Codec FrameHeader :=
  ((Codec.word o u32).pair <| (Codec.word o u16).pair <| (Codec.word o u16).pair <|
    (Codec.word o u64).pair <| (Codec.word o u32).pair <| Codec.word o u32).record
    (fun h => (h.magic, h.version, h.type, h.sequence, h.payloadSize, h.reserved))
    (fun t => ⟨t.1, t.2.1, t.2.2.1, t.2.2.2.1, t.2.2.2.2.1, t.2.2.2.2.2⟩) fun _ => rfl

variable {α : Type} (c : Codec α) (bytes : Bytes) (type : MessageType)

def makeFrame (sequence : UInt64) (payload : α) : Bytes :=
  (headerCodec o).put
    { type := type.code, sequence := sequence, payloadSize := UInt32.ofNat c.size } ++ c.put payload

def frameHeader : Option FrameHeader :=
  if bytes.length < (headerCodec o).size then none
  else
    let header := (headerCodec o).get bytes
    if header.magic ≠ kMagic ∨ header.version ≠ kProtocolVersion then none
    else
      let payload := header.payloadSize.toNat
      if kMaxFrameSize < payload ∨ bytes.length ≠ (headerCodec o).size + payload then none
      else some header

def framePayload : Option α :=
  (frameHeader o bytes).bind fun header =>
    if header.type ≠ type.code ∨ header.payloadSize.toNat ≠ c.size then none
    else some (c.get (bytes.drop (headerCodec o).size))

variable {c}

/-- A payload that fits is read back from its frame, whatever the sequence number is. -/
lemma framePayload_makeFrame (hsize : c.size ≤ kMaxFrameSize) (type : MessageType)
    (sequence : UInt64) (payload : α) :
    framePayload o c (makeFrame o c type sequence payload) type = some payload := by
  have hnat : (UInt32.ofNat c.size).toNat = c.size :=
    UInt32.toNat_ofNat_of_lt' (lt_of_le_of_lt hsize (by decide))
  have hlen : (makeFrame o c type sequence payload).length = (headerCodec o).size + c.size := by
    rw [makeFrame, List.length_append, Codec.length_put, c.length_put]
  have hheader : frameHeader o (makeFrame o c type sequence payload) =
      some { type := type.code, sequence := sequence, payloadSize := UInt32.ofNat c.size } := by
    rw [frameHeader, hlen, if_neg (by omega), makeFrame, (headerCodec o).get_put]
    simp only [ne_eq, not_true_eq_false, or_self, if_false, hnat, not_lt.mpr hsize]
  have hdrop : (makeFrame o c type sequence payload).drop (headerCodec o).size = c.put payload :=
    List.drop_left' ((headerCodec o).length_put _)
  have hget : c.get (c.put payload) = payload := by
    have h := c.get_put payload []
    rwa [List.append_nil] at h
  rw [framePayload, hheader, Option.bind_some, hdrop, hget]
  simp only [hnat, ne_eq, not_true_eq_false, or_self, if_false]

def IsFrame : Prop :=
  ∃ header, frameHeader o bytes = some header ∧ header.type = type.code

variable {o} {type : MessageType} {bytes : Bytes}

lemma IsFrame.type_eq {header : FrameHeader}
    (h : IsFrame o bytes type) (hheader : frameHeader o bytes = some header) :
    header.type = type.code := by
  obtain ⟨header', hheader', htype⟩ := h
  rw [hheader] at hheader'
  cases hheader'
  exact htype

/-- What is read at all has the type in its header, and the length of the record after it. -/
lemma framePayload_some {payload : α} (h : framePayload o c bytes type = some payload) :
    IsFrame o bytes type ∧ bytes.length = (headerCodec o).size + c.size := by
  rw [framePayload, Option.bind_eq_some_iff] at h
  obtain ⟨header, hheader, h⟩ := h
  split at h
  · cases h
  next hfits =>
  simp only [not_or, ne_eq, not_not] at hfits
  refine ⟨⟨header, hheader, hfits.1⟩, ?_⟩
  simp only [frameHeader] at hheader
  split at hheader
  · cases hheader
  split at hheader
  · cases hheader
  split at hheader
  · cases hheader
  next hlen =>
  cases hheader
  simp only [not_or, ne_eq, not_not] at hlen
  rw [hlen.2, hfits.2]

lemma framePayload_map_ne_none {β : Type} {f : α → β}
    (h : (framePayload o c bytes type).map f ≠ none) :
    IsFrame o bytes type ∧ bytes.length = (headerCodec o).size + c.size := by
  rw [ne_eq, Option.map_eq_none_iff] at h
  obtain ⟨payload, hpayload⟩ := Option.ne_none_iff_exists'.mp h
  exact framePayload_some hpayload

end

/-! ### Connection events -/

def kAddressLength : ℕ := 64
def kCommLength : ℕ := 64

inductive LifecycleFlag where
  | agentPid
  | kernelPid
  | pidNamespace
  | uid
  | startTicks
  | netns
  | socketCookie
  | platformConnectionId
  | tcpState
  | localEndpoint
  | localPort
  | remoteEndpoint
  | remotePort
  deriving DecidableEq

namespace LifecycleFlag

def index : LifecycleFlag → ℕ
  | agentPid => 0
  | kernelPid => 1
  | pidNamespace => 2
  | uid => 3
  | startTicks => 4
  | netns => 5
  | socketCookie => 6
  | platformConnectionId => 7
  | tcpState => 8
  | localEndpoint => 9
  | localPort => 10
  | remoteEndpoint => 11
  | remotePort => 12

def all : List LifecycleFlag :=
  [agentPid, kernelPid, pidNamespace, uid, startTicks, netns, socketCookie, platformConnectionId,
    tcpState, localEndpoint, localPort, remoteEndpoint, remotePort]

lemma mem_all (f : LifecycleFlag) : f ∈ all := by cases f <;> decide

lemma index_lt (f : LifecycleFlag) : index f < 32 := by cases f <;> decide

lemma index_injective : Function.Injective index := by
  intro f g h
  cases f <;> cases g <;> first | rfl | cases h

end LifecycleFlag

structure LifecyclePayload where
  flags : UInt32
  eventType : UInt8
  provenance : UInt8
  addressFamily : UInt8
  protocol : UInt8
  endpointKind : UInt8
  tcpState : UInt8
  reserved : UInt16
  timestampNs : UInt64
  agentPid : Int64
  agentTgid : Int64
  kernelPid : Int64
  kernelTgid : Int64
  pidNamespaceDevice : UInt64
  pidNamespaceInode : UInt64
  uid : UInt32
  reserved2 : UInt32
  startTicks : UInt64
  networkNamespaceInode : UInt64
  socketCookie : UInt64
  platformConnectionId : UInt64
  localPort : UInt16
  remotePort : UInt16
  comm : Chars kCommLength
  localAddress : Chars kAddressLength
  remoteAddress : Chars kAddressLength

variable (o : ByteOrder)

def lifecycleCodec : Codec LifecyclePayload :=
  ((Codec.word o u32).pair <| (Codec.word o u8).pair <| (Codec.word o u8).pair <|
    (Codec.word o u8).pair <| (Codec.word o u8).pair <| (Codec.word o u8).pair <|
    (Codec.word o u8).pair <| (Codec.word o u16).pair <| (Codec.word o u64).pair <|
    (Codec.word o i64).pair <| (Codec.word o i64).pair <| (Codec.word o i64).pair <|
    (Codec.word o i64).pair <| (Codec.word o u64).pair <| (Codec.word o u64).pair <|
    (Codec.word o u32).pair <| (Codec.word o u32).pair <| (Codec.word o u64).pair <|
    (Codec.word o u64).pair <| (Codec.word o u64).pair <| (Codec.word o u64).pair <|
    (Codec.word o u16).pair <| (Codec.word o u16).pair <| (Codec.chars kCommLength).pair <|
    (Codec.chars kAddressLength).pair <| Codec.chars kAddressLength).record
    (fun p => (p.flags, p.eventType, p.provenance, p.addressFamily, p.protocol, p.endpointKind,
      p.tcpState, p.reserved, p.timestampNs, p.agentPid, p.agentTgid, p.kernelPid, p.kernelTgid,
      p.pidNamespaceDevice, p.pidNamespaceInode, p.uid, p.reserved2, p.startTicks,
      p.networkNamespaceInode, p.socketCookie, p.platformConnectionId, p.localPort, p.remotePort,
      p.comm, p.localAddress, p.remoteAddress))
    (fun (flags, eventType, provenance, addressFamily, protocol, endpointKind, tcpState, reserved,
        timestampNs, agentPid, agentTgid, kernelPid, kernelTgid, pidNamespaceDevice,
        pidNamespaceInode, uid, reserved2, startTicks, networkNamespaceInode, socketCookie,
        platformConnectionId, localPort, remotePort, comm, localAddress, remoteAddress) =>
      ⟨flags, eventType, provenance, addressFamily, protocol, endpointKind, tcpState, reserved,
        timestampNs, agentPid, agentTgid, kernelPid, kernelTgid, pidNamespaceDevice,
        pidNamespaceInode, uid, reserved2, startTicks, networkNamespaceInode, socketCookie,
        platformConnectionId, localPort, remotePort, comm, localAddress, remoteAddress⟩)
    fun _ => rfl

def LifecycleProcessIds.both (ids : LifecycleProcessIds) : Option (Int64 × Int64) :=
  ids.pid.bind fun pid => ids.tgid.map fun tgid => (pid, tgid)

def ConnectionLifecycleEvent.carries (e : ConnectionLifecycleEvent) : LifecycleFlag → Bool
  | .agentPid => e.process.agentVisible.both.isSome
  | .kernelPid => e.process.kernel.both.isSome
  | .pidNamespace => e.process.agentPidNamespace.isSome
  | .uid => e.process.uid.isSome
  | .startTicks => e.process.startTicks.isSome
  | .netns => e.networkNamespaceInode.isSome
  | .socketCookie => e.socketCookie.isSome
  | .platformConnectionId => e.platformConnectionId.isSome
  | .tcpState => e.tcpState.isSome
  | .localEndpoint => e.localEndpoint.isSome
  | .localPort => (e.localEndpoint.bind (·.port)).isSome
  | .remoteEndpoint => e.remoteEndpoint.isSome
  | .remotePort => (e.remoteEndpoint.bind (·.port)).isSome

def lifecyclePayload (e : ConnectionLifecycleEvent) : LifecyclePayload where
  flags := setFlags LifecycleFlag.index LifecycleFlag.all e.carries
  eventType := e.type.code
  provenance := e.provenance.code
  addressFamily := e.addressFamily.code
  protocol := e.protocol.code
  endpointKind := e.endpointKind.code
  tcpState := e.tcpState.getD 0
  reserved := 0
  timestampNs := e.timestampNs
  agentPid := (e.process.agentVisible.both.map (·.1)).getD 0
  agentTgid := (e.process.agentVisible.both.map (·.2)).getD 0
  kernelPid := (e.process.kernel.both.map (·.1)).getD 0
  kernelTgid := (e.process.kernel.both.map (·.2)).getD 0
  pidNamespaceDevice := (e.process.agentPidNamespace.map (·.device)).getD 0
  pidNamespaceInode := (e.process.agentPidNamespace.map (·.inode)).getD 0
  uid := e.process.uid.getD 0
  reserved2 := 0
  startTicks := e.process.startTicks.getD 0
  networkNamespaceInode := e.networkNamespaceInode.getD 0
  socketCookie := e.socketCookie.getD 0
  platformConnectionId := e.platformConnectionId.getD 0
  localPort := (e.localEndpoint.bind (·.port)).getD 0
  remotePort := (e.remoteEndpoint.bind (·.port)).getD 0
  comm := copyText kCommLength (e.process.comm.getD [])
  localAddress := copyText kAddressLength ((e.localEndpoint.map (·.address)).getD [])
  remoteAddress := copyText kAddressLength ((e.remoteEndpoint.map (·.address)).getD [])

variable (sequence : UInt64) (bytes : Bytes)

def encodeLifecycle (e : ConnectionLifecycleEvent) : Bytes :=
  makeFrame o (lifecycleCodec o) .lifecycle sequence (lifecyclePayload e)

def flagged {α : Type} (present : Bool) (a : α) : Option α := if present then some a else none

def nonempty (v : Bytes) : Option Bytes := if v = [] then none else some v

def lifecycleEvent (p : LifecyclePayload) : ConnectionLifecycleEvent :=
  let has (f : LifecycleFlag) : Bool := hasFlag LifecycleFlag.index p.flags f
  { type := .ofCode p.eventType
    provenance := .ofCode p.provenance
    addressFamily := .ofCode p.addressFamily
    protocol := .ofCode p.protocol
    endpointKind := .ofCode p.endpointKind
    timestampNs := p.timestampNs
    process :=
      { comm := nonempty (readText p.comm)
        agentVisible :=
          { pid := flagged (has .agentPid) p.agentPid
            tgid := flagged (has .agentPid) p.agentTgid }
        kernel :=
          { pid := flagged (has .kernelPid) p.kernelPid
            tgid := flagged (has .kernelPid) p.kernelTgid }
        agentPidNamespace :=
          flagged (has .pidNamespace) ⟨p.pidNamespaceDevice, p.pidNamespaceInode⟩
        uid := flagged (has .uid) p.uid
        startTicks := flagged (has .startTicks) p.startTicks }
    networkNamespaceInode := flagged (has .netns) p.networkNamespaceInode
    socketCookie := flagged (has .socketCookie) p.socketCookie
    platformConnectionId := flagged (has .platformConnectionId) p.platformConnectionId
    tcpState := flagged (has .tcpState) p.tcpState
    localEndpoint :=
      flagged (has .localEndpoint) ⟨readText p.localAddress, flagged (has .localPort) p.localPort⟩
    remoteEndpoint :=
      flagged (has .remoteEndpoint)
        ⟨readText p.remoteAddress, flagged (has .remotePort) p.remotePort⟩ }

def decodeLifecycle : Option ConnectionLifecycleEvent :=
  (framePayload o (lifecycleCodec o) bytes .lifecycle).map lifecycleEvent

/-! ### Reading a field back -/

section
variable {α : Type}

lemma flagged_getD (v : Option α) (d : α) : flagged v.isSome (v.getD d) = v := by
  cases v <;> rfl

lemma flagged_both {ids : LifecycleProcessIds} (h : ids.pid.isSome = ids.tgid.isSome) :
    flagged ids.both.isSome ((ids.both.map (·.1)).getD 0) = ids.pid ∧
      flagged ids.both.isSome ((ids.both.map (·.2)).getD 0) = ids.tgid := by
  obtain ⟨pid, tgid⟩ := ids
  cases pid <;> cases tgid <;> first | exact ⟨rfl, rfl⟩ | cases h

def Fits (n : ℕ) (v : Bytes) : Prop := 0 ∉ v ∧ v.length < n

instance (n : ℕ) (v : Bytes) : Decidable (Fits n v) := inferInstanceAs (Decidable (_ ∧ _))

lemma readText_fits {n : ℕ} {v : Bytes} (h : Fits n v) : readText (copyText n v) = v :=
  readText_copyText h.1 h.2

lemma flagged_endpoint {v : Option NetworkEndpoint} (h : ∀ e ∈ v, Fits kAddressLength e.address) :
    flagged v.isSome (⟨readText (copyText kAddressLength ((v.map (·.address)).getD [])),
      v.bind (·.port)⟩ : NetworkEndpoint) = v := by
  cases v with
  | none => rfl
  | some e =>
    have haddress := readText_fits (h e rfl)
    simp only [Option.map_some, Option.getD_some, Option.bind_some, haddress]
    rfl

lemma flagged_namespace (v : Option ProcessNamespaceIdentity) :
    flagged v.isSome (⟨(v.map (·.device)).getD 0, (v.map (·.inode)).getD 0⟩ :
      ProcessNamespaceIdentity) = v := by
  cases v <;> rfl

lemma readText_comm {v : Option Bytes} (h : ∀ c ∈ v, c ≠ [] ∧ Fits kCommLength c) :
    nonempty (readText (copyText kCommLength (v.getD []))) = v := by
  cases v with
  | none => rfl
  | some c => rw [Option.getD_some, readText_fits (h c rfl).2, nonempty, if_neg (h c rfl).1]

end

/-- An event that its record can hold: each identity is complete or missing, every text fits, and a
name that is there is not empty. -/
structure ConnectionLifecycleEvent.Sendable (e : ConnectionLifecycleEvent) : Prop where
  agentVisible : e.process.agentVisible.pid.isSome = e.process.agentVisible.tgid.isSome
  kernel : e.process.kernel.pid.isSome = e.process.kernel.tgid.isSome
  comm : ∀ c ∈ e.process.comm, c ≠ [] ∧ Fits kCommLength c
  localEndpoint : ∀ n ∈ e.localEndpoint, Fits kAddressLength n.address
  remoteEndpoint : ∀ n ∈ e.remoteEndpoint, Fits kAddressLength n.address

lemma ConnectionLifecycleEvent.hasFlag_carries (e : ConnectionLifecycleEvent) (f : LifecycleFlag) :
    hasFlag LifecycleFlag.index (setFlags LifecycleFlag.index LifecycleFlag.all e.carries) f =
      e.carries f :=
  hasFlag_setFlags LifecycleFlag.index_injective LifecycleFlag.index_lt e.carries f.mem_all

lemma lifecycleEvent_lifecyclePayload {e : ConnectionLifecycleEvent} (h : e.Sendable) :
    lifecycleEvent (lifecyclePayload e) = e := by
  obtain ⟨hagent, hkernel, hcomm, hlocal, hremote⟩ := h
  obtain ⟨hagentPid, hagentTgid⟩ := flagged_both hagent
  obtain ⟨hkernelPid, hkernelTgid⟩ := flagged_both hkernel
  simp only [lifecycleEvent, lifecyclePayload, e.hasFlag_carries, ConnectionLifecycleEvent.carries,
    EnumValue.ofCode_code, flagged_getD, flagged_namespace, readText_comm hcomm, hagentPid,
    hagentTgid, hkernelPid, hkernelTgid, flagged_endpoint hlocal, flagged_endpoint hremote]

/-! ### Process events -/

def kPathLength : ℕ := 512
def kCommandLineLength : ℕ := 1024
def kWorkingDirectoryLength : ℕ := 512
def kIdentityLength : ℕ := 128
def kIntegrityLength : ℕ := 64

inductive ProcessFlag where
  | pid
  | parent
  | uid
  | gid
  | start
  | platformKey
  | parentStart
  | parentPlatformKey
  | session
  | elevated
  | exitCode
  | cgroup
  deriving DecidableEq

namespace ProcessFlag

def index : ProcessFlag → ℕ
  | pid => 0
  | parent => 1
  | uid => 2
  | gid => 3
  | start => 4
  | platformKey => 5
  | parentStart => 6
  | parentPlatformKey => 7
  | session => 8
  | elevated => 9
  | exitCode => 10
  | cgroup => 11

def all : List ProcessFlag :=
  [pid, parent, uid, gid, start, platformKey, parentStart, parentPlatformKey, session, elevated,
    exitCode, cgroup]

lemma mem_all (f : ProcessFlag) : f ∈ all := by cases f <;> decide

lemma index_lt (f : ProcessFlag) : index f < 32 := by cases f <;> decide

lemma index_injective : Function.Injective index := by
  intro f g h
  cases f <;> cases g <;> first | rfl | cases h

end ProcessFlag

structure ProcessExecPayload where
  flags : UInt32
  eventType : UInt8
  elevated : UInt8
  reserved : UInt16
  timestampNs : UInt64
  pid : Int64
  tgid : Int64
  parentPid : Int64
  parentTgid : Int64
  uid : UInt32
  gid : UInt32
  processStartTimeNs : UInt64
  platformProcessKey : UInt64
  parentProcessStartTimeNs : UInt64
  parentPlatformProcessKey : UInt64
  sessionId : UInt32
  exitCode : Int32
  cgroupId : UInt64
  comm : Chars kCommLength
  executablePath : Chars kPathLength
  commandLine : Chars kCommandLineLength
  workingDirectory : Chars kWorkingDirectoryLength
  userIdentity : Chars kIdentityLength
  integrityLevel : Chars kIntegrityLength

def processExecCodec : Codec ProcessExecPayload :=
  ((Codec.word o u32).pair <| (Codec.word o u8).pair <| (Codec.word o u8).pair <|
    (Codec.word o u16).pair <| (Codec.word o u64).pair <| (Codec.word o i64).pair <|
    (Codec.word o i64).pair <| (Codec.word o i64).pair <| (Codec.word o i64).pair <|
    (Codec.word o u32).pair <| (Codec.word o u32).pair <| (Codec.word o u64).pair <|
    (Codec.word o u64).pair <| (Codec.word o u64).pair <| (Codec.word o u64).pair <|
    (Codec.word o u32).pair <| (Codec.word o i32).pair <| (Codec.word o u64).pair <|
    (Codec.chars kCommLength).pair <| (Codec.chars kPathLength).pair <|
    (Codec.chars kCommandLineLength).pair <| (Codec.chars kWorkingDirectoryLength).pair <|
    (Codec.chars kIdentityLength).pair <| Codec.chars kIntegrityLength).record
    (fun p => (p.flags, p.eventType, p.elevated, p.reserved, p.timestampNs, p.pid, p.tgid,
      p.parentPid, p.parentTgid, p.uid, p.gid, p.processStartTimeNs, p.platformProcessKey,
      p.parentProcessStartTimeNs, p.parentPlatformProcessKey, p.sessionId, p.exitCode, p.cgroupId,
      p.comm, p.executablePath, p.commandLine, p.workingDirectory, p.userIdentity,
      p.integrityLevel))
    (fun (flags, eventType, elevated, reserved, timestampNs, pid, tgid, parentPid, parentTgid, uid,
        gid, processStartTimeNs, platformProcessKey, parentProcessStartTimeNs,
        parentPlatformProcessKey, sessionId, exitCode, cgroupId, comm, executablePath, commandLine,
        workingDirectory, userIdentity, integrityLevel) =>
      ⟨flags, eventType, elevated, reserved, timestampNs, pid, tgid, parentPid, parentTgid, uid,
        gid, processStartTimeNs, platformProcessKey, parentProcessStartTimeNs,
        parentPlatformProcessKey, sessionId, exitCode, cgroupId, comm, executablePath, commandLine,
        workingDirectory, userIdentity, integrityLevel⟩)
    fun _ => rfl

namespace ProcessExecEvent

variable (e : ProcessExecEvent)

def ids : LifecycleProcessIds := ⟨e.pid, e.tgid⟩

def parentIds : LifecycleProcessIds := ⟨e.parentPid, e.parentTgid⟩

def carries : ProcessFlag → Bool
  | .pid => e.ids.both.isSome
  | .parent => e.parentIds.both.isSome
  | .uid => e.uid.isSome
  | .gid => e.gid.isSome
  | .start => e.processStartTimeNs.isSome
  | .platformKey => e.platformProcessKey.isSome
  | .parentStart => e.parentProcessStartTimeNs.isSome
  | .parentPlatformKey => e.parentPlatformProcessKey.isSome
  | .session => e.sessionId.isSome
  | .elevated => e.elevated.isSome
  | .exitCode => e.exitCode.isSome
  | .cgroup => e.cgroupId.isSome

end ProcessExecEvent

def boolByte (b : Bool) : UInt8 := if b then 1 else 0

def byteBool (c : UInt8) : Bool := c ≠ 0

def processExecPayload (e : ProcessExecEvent) : ProcessExecPayload where
  flags := setFlags ProcessFlag.index ProcessFlag.all e.carries
  eventType := e.type.code
  elevated := (e.elevated.map boolByte).getD 0
  reserved := 0
  timestampNs := e.timestampNs
  pid := (e.ids.both.map (·.1)).getD 0
  tgid := (e.ids.both.map (·.2)).getD 0
  parentPid := (e.parentIds.both.map (·.1)).getD 0
  parentTgid := (e.parentIds.both.map (·.2)).getD 0
  uid := e.uid.getD 0
  gid := e.gid.getD 0
  processStartTimeNs := e.processStartTimeNs.getD 0
  platformProcessKey := e.platformProcessKey.getD 0
  parentProcessStartTimeNs := e.parentProcessStartTimeNs.getD 0
  parentPlatformProcessKey := e.parentPlatformProcessKey.getD 0
  sessionId := e.sessionId.getD 0
  exitCode := e.exitCode.getD 0
  cgroupId := e.cgroupId.getD 0
  comm := copyText kCommLength e.comm
  executablePath := copyText kPathLength e.executablePath
  commandLine := copyText kCommandLineLength e.commandLine
  workingDirectory := copyText kWorkingDirectoryLength e.workingDirectory
  userIdentity := copyText kIdentityLength e.userIdentity
  integrityLevel := copyText kIntegrityLength e.integrityLevel

def encodeProcessExec (e : ProcessExecEvent) : Bytes :=
  makeFrame o (processExecCodec o) .processExec sequence (processExecPayload e)

def processExecEvent (p : ProcessExecPayload) : ProcessExecEvent :=
  let has (f : ProcessFlag) : Bool := hasFlag ProcessFlag.index p.flags f
  { type := .ofCode p.eventType
    timestampNs := p.timestampNs
    pid := flagged (has .pid) p.pid
    tgid := flagged (has .pid) p.tgid
    parentPid := flagged (has .parent) p.parentPid
    parentTgid := flagged (has .parent) p.parentTgid
    uid := flagged (has .uid) p.uid
    gid := flagged (has .gid) p.gid
    processStartTimeNs := flagged (has .start) p.processStartTimeNs
    platformProcessKey := flagged (has .platformKey) p.platformProcessKey
    parentProcessStartTimeNs := flagged (has .parentStart) p.parentProcessStartTimeNs
    parentPlatformProcessKey := flagged (has .parentPlatformKey) p.parentPlatformProcessKey
    sessionId := flagged (has .session) p.sessionId
    elevated := flagged (has .elevated) (byteBool p.elevated)
    exitCode := flagged (has .exitCode) p.exitCode
    cgroupId := flagged (has .cgroup) p.cgroupId
    comm := readText p.comm
    executablePath := readText p.executablePath
    commandLine := readText p.commandLine
    workingDirectory := readText p.workingDirectory
    userIdentity := readText p.userIdentity
    integrityLevel := readText p.integrityLevel }

def decodeProcessExec : Option ProcessExecEvent :=
  (framePayload o (processExecCodec o) bytes .processExec).map processExecEvent

structure ProcessExecEvent.Sendable (e : ProcessExecEvent) : Prop where
  ids : e.pid.isSome = e.tgid.isSome
  parentIds : e.parentPid.isSome = e.parentTgid.isSome
  comm : Fits kCommLength e.comm
  executablePath : Fits kPathLength e.executablePath
  commandLine : Fits kCommandLineLength e.commandLine
  workingDirectory : Fits kWorkingDirectoryLength e.workingDirectory
  userIdentity : Fits kIdentityLength e.userIdentity
  integrityLevel : Fits kIntegrityLength e.integrityLevel

lemma ProcessExecEvent.hasFlag_carries (e : ProcessExecEvent) (f : ProcessFlag) :
    hasFlag ProcessFlag.index (setFlags ProcessFlag.index ProcessFlag.all e.carries) f =
      e.carries f :=
  hasFlag_setFlags ProcessFlag.index_injective ProcessFlag.index_lt e.carries f.mem_all

lemma flagged_elevated (v : Option Bool) :
    flagged v.isSome (byteBool ((v.map boolByte).getD 0)) = v := by
  rcases v with _ | _ | _ <;> rfl

lemma processExecEvent_processExecPayload {e : ProcessExecEvent} (h : e.Sendable) :
    processExecEvent (processExecPayload e) = e := by
  obtain ⟨hids, hparent, hcomm, hpath, hline, hdirectory, hidentity, hintegrity⟩ := h
  obtain ⟨hpid, htgid⟩ := @flagged_both e.ids hids
  obtain ⟨hparentPid, hparentTgid⟩ := @flagged_both e.parentIds hparent
  simp only [processExecEvent, processExecPayload, e.hasFlag_carries, ProcessExecEvent.carries,
    EnumValue.ofCode_code, flagged_getD, flagged_elevated, hpid, htgid, hparentPid, hparentTgid,
    readText_fits hcomm, readText_fits hpath, readText_fits hline, readText_fits hdirectory,
    readText_fits hidentity, readText_fits hintegrity]
  rfl

/-! ### Frames of one kind and of the other -/

lemma size_lifecycleCodec : (lifecycleCodec o).size = 304 := by
  simp [lifecycleCodec, u8, u16, u32, u64, i64, kCommLength, kAddressLength]

lemma size_processExecCodec : (processExecCodec o).size = 2408 := by
  simp [processExecCodec, u8, u16, u32, u64, i32, i64, kCommLength, kPathLength,
    kCommandLineLength, kWorkingDirectoryLength, kIdentityLength, kIntegrityLength]

/-- **The frames of the broker.** For every sequence number a frame gives back the event it was made
from, every field present or missing as it was. A text of bytes is read as a connection event or as
a process event only if its header names that kind and it has the length of that record. -/
theorem broker_frames (o : ByteOrder) :
    (∀ (sequence : UInt64) (e : ConnectionLifecycleEvent), e.Sendable →
      decodeLifecycle o (encodeLifecycle o sequence e) = some e) ∧
    (∀ (sequence : UInt64) (e : ProcessExecEvent), e.Sendable →
      decodeProcessExec o (encodeProcessExec o sequence e) = some e) ∧
    (∀ (bytes : Bytes) (header : FrameHeader), frameHeader o bytes = some header →
      (header.type ≠ MessageType.lifecycle.code → decodeLifecycle o bytes = none) ∧
        (header.type ≠ MessageType.processExec.code → decodeProcessExec o bytes = none)) ∧
    ∀ bytes : Bytes,
      (bytes.length ≠ (headerCodec o).size + (lifecycleCodec o).size →
        decodeLifecycle o bytes = none) ∧
      (bytes.length ≠ (headerCodec o).size + (processExecCodec o).size →
        decodeProcessExec o bytes = none) ∧
      (decodeLifecycle o bytes = none ∨ decodeProcessExec o bytes = none) := by
  have hkinds : MessageType.lifecycle.code ≠ MessageType.processExec.code := by decide
  -- what is decoded has its own kind in the header and its own length
  have hlifecycle : ∀ {bytes : Bytes}, decodeLifecycle o bytes ≠ none →
      IsFrame o bytes .lifecycle ∧ bytes.length = (headerCodec o).size + (lifecycleCodec o).size :=
    framePayload_map_ne_none
  have hprocess : ∀ {bytes : Bytes}, decodeProcessExec o bytes ≠ none →
      IsFrame o bytes .processExec ∧
        bytes.length = (headerCodec o).size + (processExecCodec o).size :=
    framePayload_map_ne_none
  refine ⟨fun sequence e he => ?_, fun sequence e he => ?_, fun bytes header hheader => ⟨?_, ?_⟩,
    fun bytes => ⟨?_, ?_, ?_⟩⟩
  · have hsize : (lifecycleCodec o).size ≤ kMaxFrameSize := by
      rw [size_lifecycleCodec]
      decide
    rw [decodeLifecycle, encodeLifecycle, framePayload_makeFrame o hsize, Option.map_some,
      lifecycleEvent_lifecyclePayload he]
  · have hsize : (processExecCodec o).size ≤ kMaxFrameSize := by
      rw [size_processExecCodec]
      decide
    rw [decodeProcessExec, encodeProcessExec, framePayload_makeFrame o hsize, Option.map_some,
      processExecEvent_processExecPayload he]
  · exact fun htype => not_not.mp fun h => htype ((hlifecycle h).1.type_eq hheader)
  · exact fun htype => not_not.mp fun h => htype ((hprocess h).1.type_eq hheader)
  · exact fun hlen => not_not.mp fun h => hlen (hlifecycle h).2
  · exact fun hlen => not_not.mp fun h => hlen (hprocess h).2
  · by_contra hboth
    rw [not_or] at hboth
    obtain ⟨⟨header, hheader, htype⟩, -⟩ := hlifecycle hboth.1
    exact hkinds (htype.symm.trans ((hprocess hboth.2).1.type_eq hheader))

/-- A connection with a few of its fields, and a process with an exit code below 0. -/
def sampleConnection : ConnectionLifecycleEvent :=
  { type := .named .accept, timestampNs := 7, networkNamespaceInode := some 4026531840
    process := { agentVisible := ⟨some 12, some 12⟩, comm := some [115, 115, 104] }
    localEndpoint := some ⟨[58, 58, 49], some 22⟩, remoteEndpoint := some ⟨[58, 58, 50], none⟩ }

def sampleProcess : ProcessExecEvent :=
  { type := .named .exit, pid := some 12, tgid := some 12, exitCode := some (-1), elevated := some true
    cgroupId := some 5, comm := [115, 104] }

theorem broker_frames_sample :
    decodeLifecycle .little (encodeLifecycle .little 9 sampleConnection) = some sampleConnection ∧
      decodeProcessExec .big (encodeProcessExec .big 10 sampleProcess) = some sampleProcess := by
  have hfits : Fits kCommLength [115, 115, 104] ∧ Fits kAddressLength [58, 58, 49] ∧
      Fits kAddressLength [58, 58, 50] := by decide
  refine ⟨(broker_frames .little).1 9 sampleConnection ⟨rfl, rfl, ?_, ?_, ?_⟩,
    (broker_frames .big).2.1 10 sampleProcess
      ⟨rfl, rfl, by decide, by decide, by decide, by decide, by decide, by decide⟩⟩
  · intro c hc
    cases hc
    exact ⟨by decide, hfits.1⟩
  · intro n hn
    cases hn
    exact hfits.2.1
  · intro n hn
    cases hn
    exact hfits.2.2

end NetaAgent.SensorBroker
