import NetaAgent.Decimal

/-!
What the collectors report: processes, TCP snapshots, sockets and connection lifecycle events.
-/

namespace NetaAgent.Observation

open Decimal

inductive TcpEndpointKind where
  | unknown
  | connection
  | listener
  | lifecycleTail
  deriving DecidableEq

def eligibleConnectionSeed (kind : TcpEndpointKind) : Bool := kind = .connection

inductive ConnectionDirection where
  | outbound
  | inbound
  | unknown
  deriving DecidableEq

structure ProcessIdentity where
  pid : ℤ := -1
  uid : ℕ := 0
  startTicks : Option ℕ := none
  comm : Text := []
  executablePath : Text := []
  deriving DecidableEq

structure TcpSnapshot where
  observedNs : ℕ := 0
  state : ℕ := 0
  rttUs : ℕ := 0
  rttVarianceUs : ℕ := 0
  totalRetrans : ℕ := 0
  lost : ℕ := 0
  unacked : ℕ := 0
  sndCwnd : ℕ := 0
  sndSsthresh : ℕ := 0
  sndMss : ℕ := 0
  rcvMss : ℕ := 0
  sendQueueBytes : ℕ := 0
  recvQueueBytes : ℕ := 0
  deriving DecidableEq

structure SocketObservation where
  socketCookie : ℕ := 0
  socketInode : ℕ := 0
  networkNamespaceInode : Option ℕ := none
  owningPid : Option ℤ := none
  uid : ℕ := 0
  localIp : Text := []
  localPort : ℕ := 0
  remoteIp : Text := []
  remotePort : ℕ := 0
  endpointKind : TcpEndpointKind := .unknown
  transport : TcpSnapshot := {}

inductive ConnectionLifecycleEventType where
  | connect
  | accept
  | close
  deriving DecidableEq

inductive NetworkAddressFamily where
  | unknown
  | ipv4
  | ipv6
  deriving DecidableEq

inductive TransportProtocol where
  | unknown
  | tcp
  deriving DecidableEq

inductive LifecycleProvenance where
  | ebpfCore
  | windowsEtw
  | deterministicTest
  deriving DecidableEq

structure NetworkEndpoint where
  address : Text
  port : Option ℕ := none
  deriving DecidableEq

structure LifecycleProcessIds where
  pid : Option ℤ := none
  tgid : Option ℤ := none
  deriving DecidableEq

structure ProcessNamespaceIdentity where
  device : ℕ := 0
  inode : ℕ := 0
  deriving DecidableEq

structure LifecycleProcessContext where
  agentVisible : LifecycleProcessIds := {}
  kernel : LifecycleProcessIds := {}
  agentPidNamespace : Option ProcessNamespaceIdentity := none
  uid : Option ℕ := none
  startTicks : Option ℕ := none
  comm : Option Text := none
  deriving DecidableEq

structure ConnectionLifecycleEvent where
  type : ConnectionLifecycleEventType := .connect
  timestampNs : ℕ := 0
  provenance : LifecycleProvenance := .ebpfCore
  process : LifecycleProcessContext := {}
  networkNamespaceInode : Option ℕ := none
  addressFamily : NetworkAddressFamily := .unknown
  protocol : TransportProtocol := .unknown
  endpointKind : TcpEndpointKind := .unknown
  localEndpoint : Option NetworkEndpoint := none
  remoteEndpoint : Option NetworkEndpoint := none
  socketCookie : Option ℕ := none
  platformConnectionId : Option ℕ := none
  tcpState : Option ℕ := none
  deriving DecidableEq

end NetaAgent.Observation
