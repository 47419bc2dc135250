import NetaAgent.Observation

/-!
Which connections an observation session admits, and with which direction.

A lifecycle event carries its direction; a socket of a snapshot carries none, so a snapshot may
only add connections of unknown direction, and only where the mode has room for them.
-/

namespace NetaAgent.AdmissionPolicy

open Decimal Observation

structure ConnectionFilter where
  localPort : Option ℕ := none
  remotePort : Option ℕ := none
  includeProcesses : List Text := []
  excludeProcesses : List Text := []

def matchesFilter (filter : ConnectionFilter) (localPort remotePort : Option ℕ)
    (processName : Option Text) : Bool :=
  if filter.localPort.isSome ∧ localPort ≠ filter.localPort then false
  else if filter.remotePort.isSome ∧ remotePort ≠ filter.remotePort then false
  else if filter.includeProcesses ≠ [] ∧ ¬ processName.any filter.includeProcesses.contains then
    false
  else if filter.excludeProcesses ≠ [] ∧ processName = none then false
  else processName.all fun name => !filter.excludeProcesses.contains name

inductive ObservationMode where
  | target
  | outbound
  | inbound
  | all
  deriving DecidableEq

structure AdmissionPolicyConfig where
  mode : ObservationMode := .target
  filter : ConnectionFilter := {}
  targetAddresses : List Text := []
  targetPort : ℕ := 0

structure AdmissionDecision where
  admits : Bool := false
  direction : ConnectionDirection := .unknown

section
variable (config : AdmissionPolicyConfig)

def permits (direction : ConnectionDirection) : Bool :=
  match config.mode with
  | .target => direction = .outbound
  | .outbound => direction = .outbound
  | .inbound => direction = .inbound
  | .all => direction = .outbound || direction = .inbound

/-- The direction of an event that opens a connection. -/
def eventDirection : ConnectionLifecycleEventType → ConnectionDirection
  | .connect => .outbound
  | .accept => .inbound
  | .close => .unknown

def evaluate (event : ConnectionLifecycleEvent) : AdmissionDecision :=
  if event.type = .close then ⟨true, .unknown⟩
  else if !eligibleConnectionSeed event.endpointKind then {}
  else match event.localEndpoint, event.remoteEndpoint with
    | some localEndpoint, some remote =>
      if !permits config (eventDirection event.type) then {}
      else if config.mode = .target ∧ (remote.port ≠ some config.targetPort ∨
          ¬ config.targetAddresses.contains remote.address) then {}
      else if !matchesFilter config.filter localEndpoint.port remote.port event.process.comm then {}
      else ⟨true, eventDirection event.type⟩
    | _, _ => {}

variable (socket : SocketObservation) (processName : Option Text)

def onTarget : Bool :=
  socket.remotePort = config.targetPort && config.targetAddresses.contains socket.remoteIp

def evaluateNewSocket : AdmissionDecision :=
  if !eligibleConnectionSeed socket.endpointKind then {}
  else if config.mode ≠ .target || !onTarget config socket ||
      !matchesFilter config.filter (some socket.localPort) (some socket.remotePort) processName then
    {}
  else ⟨true, .unknown⟩

def evaluateReconciliationSocket : AdmissionDecision :=
  if !eligibleConnectionSeed socket.endpointKind then {}
  else if !matchesFilter config.filter (some socket.localPort) (some socket.remotePort)
      processName then {}
  else match config.mode with
    | .target => if !onTarget config socket then {} else ⟨true, .unknown⟩
    | .all => ⟨true, .unknown⟩
    | .outbound => {}
    | .inbound => {}

def hasProcessFilters : Bool :=
  config.filter.includeProcesses ≠ [] || config.filter.excludeProcesses ≠ []

variable {config} {event : ConnectionLifecycleEvent}

/-- An event that opens a connection is dropped, or it has a direction the mode permits. -/
lemma evaluate_cases (htype : event.type ≠ .close) :
    evaluate config event = {} ∨ permits config (eventDirection event.type) = true ∧
      evaluate config event = ⟨true, eventDirection event.type⟩ := by
  unfold evaluate
  rw [if_neg htype]
  split
  · exact .inl rfl
  split
  · split
    · exact .inl rfl
    next hpermits =>
    split
    · exact .inl rfl
    split
    · exact .inl rfl
    · exact .inr ⟨by simpa using hpermits, rfl⟩
  · exact .inl rfl

lemma permits_of_evaluate (htype : event.type ≠ .close)
    {direction : ConnectionDirection} (h : evaluate config event = ⟨true, direction⟩) :
    permits config direction = true := by
  rcases evaluate_cases htype with hnone | ⟨hpermits, hsome⟩
  · rw [hnone] at h
    cases h
  · rw [hsome] at h
    cases h
    exact hpermits

lemma evaluateNewSocket_direction :
    (evaluateNewSocket config socket processName).direction = .unknown := by
  unfold evaluateNewSocket
  split
  · rfl
  · split
    · rfl
    · rfl

variable {socket : SocketObservation} {processName : Option Text}

lemma target_of_evaluateNewSocket
    (h : (evaluateNewSocket config socket processName).admits = true) : config.mode = .target := by
  unfold evaluateNewSocket at h
  split at h
  · cases h
  · split at h
    · cases h
    · next hguard =>
      simp only [Bool.or_eq_true, not_or, decide_eq_true_eq, ne_eq, not_not] at hguard
      exact hguard.1.1

/-- Beside events, they are admitted where the mode has room for an unknown direction. -/
lemma mode_of_evaluateReconciliationSocket
    (h : (evaluateReconciliationSocket config socket processName).admits = true) :
    config.mode = .target ∨ config.mode = .all := by
  unfold evaluateReconciliationSocket at h
  split at h
  · cases h
  · split at h
    · cases h
    · split at h
      · next hmode => exact .inl hmode
      · next hmode => exact .inr hmode
      · cases h
      · cases h

end

/-- The directions a connection may have in the store of a session with this mode. -/
def Storable : ObservationMode → ConnectionDirection → Prop
  | .outbound, direction => direction = .outbound
  | .inbound, direction => direction = .inbound
  | .target, direction => direction = .outbound ∨ direction = .unknown
  | .all, _ => True

lemma storable_of_permits {config : AdmissionPolicyConfig} {direction : ConnectionDirection}
    (h : permits config direction = true) : Storable config.mode direction := by
  unfold permits at h
  split at h
  · next hmode =>
    rw [hmode]
    exact .inl (by simpa using h)
  · next hmode =>
    rw [hmode]
    exact (by simpa using h : direction = .outbound)
  · next hmode =>
    rw [hmode]
    exact (by simpa using h : direction = .inbound)
  · next hmode =>
    rw [hmode]
    trivial

lemma storable_unknown {mode : ObservationMode} (h : mode = .target ∨ mode = .all) :
    Storable mode .unknown := by
  rcases h with rfl | rfl
  · exact .inr rfl
  · trivial

end NetaAgent.AdmissionPolicy
