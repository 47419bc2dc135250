import NetaAgent.Decimal

/-!
When the transport of the admitted connections is sampled, and which routes are looked up then.

Times are readings of the steady clock in nanoseconds; intervals are milliseconds, as in the source.
-/

namespace NetaAgent

structure EvidenceScheduler where
  transportInterval : ℕ
  earlyTransportFollowup : ℕ := 50
  nextTransportSample : ℕ := 0
  immediateTransport : Bool := false
  earlyTransportFollowupPending : Bool := false
  routesReady : Bool := false
  active : List ℕ := []
  pendingRoutes : List ℕ := []

namespace EvidenceScheduler

def millisecond : ℕ := 1000000

variable (s : EvidenceScheduler)

def connectionAdmitted (id : ℕ) : EvidenceScheduler :=
  { s with
    active := s.active.insert id
    pendingRoutes := s.pendingRoutes.insert id
    immediateTransport := true
    earlyTransportFollowupPending := true }

def connectionClosed (id : ℕ) : EvidenceScheduler :=
  let active := s.active.erase id
  { s with
    active
    pendingRoutes := s.pendingRoutes.erase id
    immediateTransport := s.immediateTransport && active ≠ []
    earlyTransportFollowupPending := s.earlyTransportFollowupPending && active ≠ [] }

variable (now : ℕ)

def transportDue (pollingDiscoveryRequired : Bool) : Bool :=
  pollingDiscoveryRequired ||
    (s.active ≠ [] && (s.immediateTransport || s.nextTransportSample ≤ now))

def waitTime : ℕ :=
  if s.active = [] then s.transportInterval
  else if s.immediateTransport || s.nextTransportSample ≤ now then 0
  else (s.nextTransportSample - now) / millisecond

def transportSampled : EvidenceScheduler :=
  let routesReady : Bool := s.pendingRoutes ≠ []
  if s.immediateTransport then
    { s with
      routesReady
      immediateTransport := false
      nextTransportSample := now + s.earlyTransportFollowup * millisecond }
  else
    { s with
      routesReady
      earlyTransportFollowupPending := false
      nextTransportSample := now + s.transportInterval * millisecond }

/-- `take_route_observations_due`: the routes that are due, and what is left. -/
def takeRouteObservationsDue : List ℕ × EvidenceScheduler :=
  if s.routesReady then (s.pendingRoutes, { s with pendingRoutes := [], routesReady := false })
  else ([], s)

end EvidenceScheduler

end NetaAgent
