import NetaAgent.BrokerWire
import NetaAgent.Decimal
import NetaAgent.Interleaving

/-!
The router of the Linux sensor broker: endpoints register a slot, events are routed to the slot that
owns their network namespace or control group, and each slot takes its frames from two bounded
queues.

A call is cut where it holds no lock: what it does under one lock is one step, and calls are
interleaved between their steps. A router and a queue carry what holds of them between any two steps.
-/

namespace NetaAgent.SensorBroker

open Decimal PackedRecord Interleaving List Function

/-! ### The bounded queue -/

/-- The account of a queue: what was pushed is what has left it, in order, and what is in it. What
has left was taken or lost, and the counter has the number of the lost. -/
def Balanced {α : Type} (pushed taken queue : List α) (dropped : UInt64) : Prop :=
  ∃ (gone : List α) (lost : ℕ), pushed = gone ++ queue ∧ taken.Sublist gone ∧
    gone.length = taken.length + lost ∧ dropped = UInt64.ofNat lost

/-- Beside what the class has, `pushed` and `taken` are all the values that were. -/
structure BoundedQueue (α : Type) where
  capacity : ℕ
  queue : List α
  dropped : UInt64
  pushed : List α
  taken : List α
  positive : 0 < capacity
  bounded : queue.length ≤ capacity
  balanced : Balanced pushed taken queue dropped

namespace BoundedQueue
variable {α : Type} (capacity : ℕ)

lemma capacity_pos : 0 < max 1 capacity := Nat.lt_of_lt_of_le Nat.one_pos (le_max_left ..)

lemma nil_bounded : ([] : List α).length ≤ max 1 capacity := Nat.zero_le _

lemma nil_balanced : Balanced ([] : List α) [] [] 0 := ⟨[], 0, rfl, .slnil, rfl, rfl⟩

def new : BoundedQueue α where
  capacity := max 1 capacity
  queue := []
  dropped := 0
  pushed := []
  taken := []
  positive := capacity_pos capacity
  bounded := nil_bounded capacity
  balanced := nil_balanced

variable (q : BoundedQueue α) (value : α)

def full : Bool := q.capacity ≤ q.queue.length

/-- A full queue loses its front before the value is added. -/
def queueAfter : List α := (if q.full then q.queue.tail else q.queue) ++ [value]

def droppedAfter : UInt64 := if q.full then q.dropped + 1 else q.dropped

lemma push_bounded : (q.queueAfter value).length ≤ q.capacity := by
  have hpos := q.positive
  have hlen := q.bounded
  unfold queueAfter full
  split
  · rw [length_append, length_tail, length_singleton]
    omega
  next h =>
    rw [decide_eq_true_eq] at h
    rw [length_append, length_singleton]
    omega

lemma push_balanced :
    Balanced (q.pushed ++ [value]) q.taken (q.queueAfter value) q.droppedAfter := by
  obtain ⟨gone, lost, hpushed, htaken, hlen, hdropped⟩ := q.balanced
  by_cases hfull : q.full = true
  · -- the front of a full queue is lost
    have hpos := q.positive
    have hlong : q.capacity ≤ q.queue.length := of_decide_eq_true hfull
    obtain ⟨front, rest, hq⟩ : ∃ front rest, q.queue = front :: rest :=
      exists_cons_of_length_pos (by omega)
    refine ⟨gone ++ [front], lost + 1, ?_, htaken.trans (sublist_append_left ..), ?_, ?_⟩
    · simp [queueAfter, hfull, hpushed, hq]
    · rw [length_append, hlen, length_singleton, Nat.add_assoc]
    · simp [droppedAfter, hfull, hdropped]
  · refine ⟨gone, lost, ?_, htaken, hlen, ?_⟩
    · simp [queueAfter, hfull, hpushed]
    · simp [droppedAfter, hfull, hdropped]

def push : BoundedQueue α where
  capacity := q.capacity
  queue := q.queueAfter value
  dropped := q.droppedAfter
  pushed := q.pushed ++ [value]
  taken := q.taken
  positive := q.positive
  bounded := push_bounded q value
  balanced := push_balanced q value

lemma pop_bounded : q.queue.tail.length ≤ q.capacity := by
  rw [length_tail]
  exact (Nat.sub_le ..).trans q.bounded

lemma pop_balanced :
    Balanced q.pushed (q.taken ++ q.queue.head?.toList) q.queue.tail q.dropped := by
  obtain ⟨gone, lost, hpushed, htaken, hlen, hdropped⟩ := q.balanced
  refine ⟨gone ++ q.queue.head?.toList, lost, ?_, htaken.append (List.Sublist.refl _), ?_, hdropped⟩
  · have hsplit : q.queue = q.queue.head?.toList ++ q.queue.tail := by cases q.queue <;> rfl
    rw [hpushed, append_assoc]
    exact congrArg (gone ++ ·) hsplit
  · rw [length_append, length_append, hlen]
    omega

/-- What is left when the front is taken, if there is one. -/
def pop : BoundedQueue α where
  capacity := q.capacity
  queue := q.queue.tail
  dropped := q.dropped
  pushed := q.pushed
  taken := q.taken ++ q.queue.head?.toList
  positive := q.positive
  bounded := pop_bounded q
  balanced := pop_balanced q

end BoundedQueue

/-! ### The router -/

inductive EventKind where
  | lifecycle
  | processExec
  deriving DecidableEq

abbrev EndpointQueues := EventKind → BoundedQueue Bytes

/-- The slots that have the network namespaces, and the control groups. -/
abbrev Mapping := EventKind → UInt64 → Option Text

def Mapped (queues : Text → Option EndpointQueues) (slotFor : Mapping) : Prop :=
  ∀ kind key slot, slotFor kind key = some slot → (queues slot).isSome = true

/-- `netns_to_slot_` and `cgroup_to_slot_` are `slotFor` of the two kinds of events. -/
structure EventRouter where
  queueCapacity : ℕ
  queues : Text → Option EndpointQueues
  slotFor : Mapping
  unroutable : UInt64
  mapped : Mapped queues slotFor

namespace EventRouter

lemma mapped_none : Mapped (fun _ => none) fun _ _ => none := by
  intro kind key slot h
  cases h

def new (queueCapacity : ℕ) : EventRouter where
  queueCapacity := queueCapacity
  queues := fun _ => none
  slotFor := fun _ _ => none
  unroutable := 0
  mapped := mapped_none

variable (s : EventRouter) (slot : Text) (netnsInode cgroupId : UInt64)

/-- The key that an endpoint is registered with for each kind of event. -/
def keys : EventKind → UInt64
  | .lifecycle => netnsInode
  | .processExec => cgroupId

def addedQueues : Text → Option EndpointQueues :=
  Function.update s.queues slot (some fun _ => .new s.queueCapacity)

variable (keys : EventKind → UInt64)

def addedKeys : Mapping := fun kind key =>
  if key ≠ 0 ∧ key = keys kind then some slot else s.slotFor kind key

lemma add_mapped : Mapped (s.addedQueues slot) (s.addedKeys slot keys) := by
  intro kind key t h
  unfold addedQueues
  by_cases ht : t = slot
  · rw [ht, update_self, Option.isSome_some]
  · rw [update_of_ne ht]
    unfold addedKeys at h
    split_ifs at h
    · exact absurd (Option.some.inj h).symm ht
    · exact s.mapped kind key t h

def add : EventRouter where
  queueCapacity := s.queueCapacity
  queues := s.addedQueues slot
  slotFor := s.addedKeys slot keys
  unroutable := s.unroutable
  mapped := add_mapped s slot keys

/-- The text of the error, if the endpoint is refused under the lock. -/
def refusal : Option Text :=
  if (s.queues slot).isSome then
    some ("duplicate broker endpoint slot: " ++ slot)
  else if netnsInode ≠ 0 ∧ (s.slotFor .lifecycle netnsInode).isSome then
    some "duplicate broker network namespace mapping"
  else if cgroupId ≠ 0 ∧ (s.slotFor .processExec cgroupId).isSome then
    some "duplicate broker cgroup mapping"
  else none

variable (kind : EventKind) (f : BoundedQueue Bytes → BoundedQueue Bytes)

def modifiedQueues : Text → Option EndpointQueues :=
  Function.update s.queues slot ((s.queues slot).map fun e => Function.update e kind (f (e kind)))

lemma isSome_modifiedQueues (other : Text) :
    (s.modifiedQueues slot kind f other).isSome = (s.queues other).isSome := by
  unfold modifiedQueues
  by_cases h : other = slot
  · rw [h, update_self, Option.isSome_map]
  · rw [update_of_ne h]

lemma modify_mapped : Mapped (s.modifiedQueues slot kind f) s.slotFor := by
  intro k key t h
  rw [isSome_modifiedQueues]
  exact s.mapped k key t h

/-- One queue of one slot is worked on; the router's own lock is not held. -/
def modify : EventRouter where
  queueCapacity := s.queueCapacity
  queues := s.modifiedQueues slot kind f
  slotFor := s.slotFor
  unroutable := s.unroutable
  mapped := modify_mapped s slot kind f

def front : Option Bytes := (s.queues slot).bind fun e => (e kind).queue.head?

variable {s slot kind f} {e : EndpointQueues}

lemma queues_modify (h : s.queues slot = some e) :
    (s.modify slot kind f).queues slot = some (update e kind (f (e kind))) := by
  show s.modifiedQueues slot kind f slot = _
  rw [modifiedQueues, update_self, h, Option.map_some]

lemma front_eq (h : s.queues slot = some e) : s.front slot kind = (e kind).queue.head? := by
  rw [front, h, Option.bind_some]

end EventRouter

/-! ### The calls -/

inductive Outcome where
  | registered
  | routed (found : Bool)
  | taken (frame : Option Bytes)
  | threw (text : Text)
  /-- A queue that is not there is used. -/
  | nullQueue
  deriving DecidableEq

/-- A call before each of its steps, with what it has found so far. -/
inductive Call where
  | register (slot : Text) (netnsInode cgroupId : UInt64)
  /-- `route` before it looks for the slot of the key. -/
  | slotFor (kind : EventKind) (key : UInt64) (frame : Bytes)
  /-- `route` before it looks for the queue of the slot. -/
  | queueFor (slot : Text) (kind : EventKind) (frame : Bytes)
  | push (slot : Text) (kind : EventKind) (frame : Bytes)
  | countUnroutable
  | take (slot : Text) (kind : EventKind)
  | pop (slot : Text) (kind : EventKind)
  | ended (outcome : Outcome)

/-- One step. The wait for a frame ends with the front of the queue, or with none if it is empty when
the time is over. -/
def Call.advance : Call → EventRouter → Call × EventRouter
  | .register slot netnsInode cgroupId, s =>
    if slot = [] then (.ended (.threw "broker endpoint slot cannot be empty"), s)
    else (s.refusal slot netnsInode cgroupId).elim
      (.ended .registered, s.add slot (EventRouter.keys netnsInode cgroupId))
      fun text => (.ended (.threw text), s)
  | .slotFor kind key frame, s =>
    ((s.slotFor kind key).elim .countUnroutable fun slot => .queueFor slot kind frame, s)
  | .queueFor slot kind frame, s =>
    (if (s.queues slot).isSome then .push slot kind frame else .ended .nullQueue, s)
  | .push slot kind frame, s => (.ended (.routed true), s.modify slot kind fun q => q.push frame)
  | .countUnroutable, s => (.ended (.routed false), { s with unroutable := s.unroutable + 1 })
  | .take slot kind, s =>
    (if (s.queues slot).isSome then .pop slot kind else .ended (.taken none), s)
  | .pop slot kind, s => (.ended (.taken (s.front slot kind)), s.modify slot kind BoundedQueue.pop)
  | .ended outcome, s => (.ended outcome, s)

inductive Operation where
  | registerEndpoint (slot : Text) (netnsInode cgroupId : UInt64)
  | routeLifecycle (event : ConnectionLifecycleEvent) (sequence : UInt64)
  | routeProcessExec (event : ProcessExecEvent) (sequence : UInt64)
  | take (slot : Text) (kind : EventKind)

/-- Both `route` functions: the kind of the queue, the key of the event and its frame. -/
def routeFrame (kind : EventKind) (key : Option UInt64) (frame : Bytes) : Call :=
  key.elim .countUnroutable fun key => .slotFor kind key frame

variable (o : ByteOrder)

def Operation.call : Operation → Call
  | .registerEndpoint slot netnsInode cgroupId => .register slot netnsInode cgroupId
  | .routeLifecycle event sequence =>
    routeFrame .lifecycle event.networkNamespaceInode (encodeLifecycle o sequence event)
  | .routeProcessExec event sequence =>
    routeFrame .processExec event.cgroupId (encodeProcessExec o sequence event)
  | .take slot kind => .take slot kind

/-! ### What a call knows -/

/-- A router may get further endpoints; it loses none. -/
structure EventRouter.Extends (s t : EventRouter) : Prop where
  queues : ∀ slot, (s.queues slot).isSome = true → (t.queues slot).isSome = true
  slotFor : ∀ kind key slot, s.slotFor kind key = some slot → t.slotFor kind key = some slot
  queueCapacity : t.queueCapacity = s.queueCapacity

/-- The operation routes an event with this key, and this is its frame. -/
def Operation.Routes (kind : EventKind) (key : UInt64) (frame : Bytes) : Operation → Prop
  | .routeLifecycle event sequence => kind = .lifecycle ∧ event.networkNamespaceInode = some key ∧
      frame = encodeLifecycle o sequence event
  | .routeProcessExec event sequence => kind = .processExec ∧ event.cgroupId = some key ∧
      frame = encodeProcessExec o sequence event
  | _ => False

/-- The frame is that of the event of the operation, and the slot has the key of the event. -/
def Operation.Sends (s : EventRouter) (slot : Text) (kind : EventKind)
    (frame : Bytes) (op : Operation) : Prop :=
  ∃ key, op.Routes o kind key frame ∧ s.slotFor kind key = some slot

def Operation.Knows (op : Operation) : Call → EventRouter → Prop
  | .register slot netnsInode cgroupId, _ => op = .registerEndpoint slot netnsInode cgroupId
  | .slotFor kind key frame, _ => op.Routes o kind key frame
  | .queueFor slot kind frame, s => op.Sends o s slot kind frame
  | .push slot kind frame, s => op.Sends o s slot kind frame ∧ (s.queues slot).isSome = true
  | .take slot kind, _ => op = .take slot kind
  | .pop slot kind, _ => op = .take slot kind
  | .countUnroutable, _ => True
  | .ended outcome, _ => outcome ≠ .nullQueue

section
variable {o : ByteOrder} {op : Operation} {s t : EventRouter} {slot : Text}

lemma extends_refl (s : EventRouter) : s.Extends s := ⟨fun _ h => h, fun _ _ _ h => h, rfl⟩

lemma extends_trans (s t u : EventRouter) (h : s.Extends t) (h' : t.Extends u) : s.Extends u :=
  ⟨fun slot hs => h'.queues slot (h.queues slot hs),
    fun kind key slot hs => h'.slotFor kind key slot (h.slotFor kind key slot hs),
    h'.queueCapacity.trans h.queueCapacity⟩

lemma extends_modify (s : EventRouter) (slot : Text) (kind : EventKind)
    (f : BoundedQueue Bytes → BoundedQueue Bytes) : s.Extends (s.modify slot kind f) :=
  ⟨fun other h => (s.isSome_modifiedQueues slot kind f other).trans h, fun _ _ _ h => h, rfl⟩

variable {netnsInode cgroupId : UInt64}

lemma refusal_none (h : s.refusal slot netnsInode cgroupId = none) :
    s.queues slot = none ∧ ∀ kind, EventRouter.keys netnsInode cgroupId kind ≠ 0 →
      s.slotFor kind (EventRouter.keys netnsInode cgroupId kind) = none := by
  unfold EventRouter.refusal at h
  split_ifs at h with hslot hnetns hcgroup
  refine ⟨Option.not_isSome_iff_eq_none.mp hslot, fun kind hkey => Option.not_isSome_iff_eq_none.mp ?_⟩
  cases kind with
  | lifecycle => exact fun hsome => hnetns ⟨hkey, hsome⟩
  | processExec => exact fun hsome => hcgroup ⟨hkey, hsome⟩

lemma extends_add (h : s.refusal slot netnsInode cgroupId = none) :
    s.Extends (s.add slot (EventRouter.keys netnsInode cgroupId)) := by
  obtain ⟨hslot, hkeys⟩ := refusal_none h
  refine ⟨fun other hother => ?_, fun kind key t ht => ?_, rfl⟩
  · have hne : other ≠ slot := by
      rintro rfl
      rw [hslot] at hother
      cases hother
    exact (congrArg Option.isSome (update_of_ne hne ..)).trans hother
  · refine (if_neg ?_).trans ht
    rintro ⟨hkey, rfl⟩
    rw [hkeys kind hkey] at ht
    cases ht

/-- A registration is one step, which throws and leaves the router as it is, or adds the endpoint. -/
lemma advance_register (s : EventRouter) (slot : Text) (netnsInode cgroupId : UInt64) :
    (∃ text, Call.advance (.register slot netnsInode cgroupId) s = (.ended (.threw text), s)) ∨
      s.refusal slot netnsInode cgroupId = none ∧ Call.advance (.register slot netnsInode cgroupId) s =
        (.ended .registered, s.add slot (EventRouter.keys netnsInode cgroupId)) := by
  by_cases hslot : slot = []
  · exact .inl ⟨_, if_pos hslot⟩
  · rw [Call.advance, if_neg hslot]
    cases s.refusal slot netnsInode cgroupId with
    | none => exact .inr ⟨rfl, rfl⟩
    | some text => exact .inl ⟨text, rfl⟩

lemma Operation.Sends.mono {kind : EventKind} {frame : Bytes} (h : op.Sends o s slot kind frame)
    (hst : s.Extends t) : op.Sends o t slot kind frame := by
  obtain ⟨key, hroutes, hslot⟩ := h
  exact ⟨key, hroutes, hst.slotFor kind key slot hslot⟩

lemma knows_call (op : Operation) (s : EventRouter) : op.Knows o (op.call o) s := by
  cases op with
  | registerEndpoint | take => exact rfl
  | routeLifecycle event =>
    show Operation.Knows o _ (routeFrame _ event.networkNamespaceInode _) s
    cases hkey : event.networkNamespaceInode with
    | none => trivial
    | some => exact ⟨rfl, hkey, rfl⟩
  | routeProcessExec event =>
    show Operation.Knows o _ (routeFrame _ event.cgroupId _) s
    cases hkey : event.cgroupId with
    | none => trivial
    | some => exact ⟨rfl, hkey, rfl⟩

lemma cooperative {ι : Type} (o : ByteOrder) (ops : ι → Operation) :
    Cooperative Call.advance EventRouter.Extends fun i => (ops i).Knows o where
  refl := extends_refl
  trans := extends_trans
  kept i p s t h hst := by
    cases p with
    | queueFor => exact Operation.Sends.mono h hst
    | push slot => exact ⟨h.1.mono hst, hst.queues slot h.2⟩
    | register | slotFor | countUnroutable | take | pop | ended => exact h
  own i p s h := by
    cases p with
    | register slot netnsInode cgroupId =>
      rcases advance_register s slot netnsInode cgroupId with ⟨text, hs⟩ | ⟨hnew, hs⟩
      · rw [hs]
        exact ⟨extends_refl s, fun hnull => by cases hnull⟩
      · rw [hs]
        exact ⟨extends_add hnew, fun hnull => by cases hnull⟩
    | slotFor kind key =>
      rw [Call.advance]
      cases hslot : s.slotFor kind key with
      | none => exact ⟨extends_refl s, trivial⟩
      | some => exact ⟨extends_refl s, key, h, hslot⟩
    | queueFor slot kind =>
      -- the slot that was found has its queues from then on
      obtain ⟨key, hroutes, hslot⟩ := h
      have hfound := s.mapped kind key slot hslot
      simp only [Call.advance, hfound, if_true]
      exact ⟨extends_refl s, ⟨key, hroutes, hslot⟩, hfound⟩
    | countUnroutable =>
      exact ⟨⟨fun _ h => h, fun _ _ _ h => h, rfl⟩, fun hnull => by cases hnull⟩
    | take =>
      refine ⟨extends_refl s, ?_⟩
      rw [Call.advance]
      dsimp only
      split
      · exact h
      · exact fun hnull => by cases hnull
    | push | pop => exact ⟨extends_modify .., fun hnull => by cases hnull⟩
    | ended => exact ⟨extends_refl s, h⟩

end

/-! ### What the queues come to hold -/

/-- Every frame that was put into a queue was sent to its slot, and the queues have the capacity of
the router. -/
structure Filled (o : ByteOrder) {ι : Type} (ops : ι → Operation) (s : EventRouter) : Prop where
  sent : ∀ slot e, s.queues slot = some e → ∀ kind, ∀ frame ∈ (e kind).pushed,
    ∃ i, (ops i).Sends o s slot kind frame
  capacity : ∀ slot e, s.queues slot = some e → ∀ kind, (e kind).capacity = max 1 s.queueCapacity

section
variable {o : ByteOrder} {ι : Type} {ops : ι → Operation} {s : EventRouter}

lemma Filled.modify (h : Filled o ops s) {slot : Text} {kind : EventKind}
    {f : BoundedQueue Bytes → BoundedQueue Bytes} (hcapacity : ∀ q, (f q).capacity = q.capacity)
    (hpushed : ∀ q, ∀ frame ∈ (f q).pushed, frame ∈ q.pushed ∨
      ∃ i, (ops i).Sends o s slot kind frame) : Filled o ops (s.modify slot kind f) := by
  -- a queue afterwards is one before, or the one that is worked on
  have hqueue : ∀ t e, (s.modify slot kind f).queues t = some e → ∃ e', s.queues t = some e' ∧
      ∀ k, e k = e' k ∨ (t = slot ∧ k = kind ∧ e k = f (e' k)) := by
    intro t e he
    by_cases ht : t = slot
    · subst ht
      have he : update s.queues t _ t = some e := he
      rw [update_self] at he
      obtain ⟨e', he', rfl⟩ := Option.map_eq_some_iff.mp he
      refine ⟨e', he', fun k => ?_⟩
      by_cases hk : k = kind
      · rw [hk, update_self]
        exact .inr ⟨rfl, rfl, rfl⟩
      · exact .inl (update_of_ne hk ..)
    · exact ⟨e, (update_of_ne ht ..).symm.trans he, fun k => .inl rfl⟩
  constructor
  · intro t e he k frame hframe
    obtain ⟨e', he', hk⟩ := hqueue t e he
    rcases hk k with hsame | ⟨rfl, rfl, hnew⟩
    · rw [hsame] at hframe
      exact h.sent t e' he' k frame hframe
    · rw [hnew] at hframe
      rcases hpushed _ frame hframe with hold | hsent
      · exact h.sent t e' he' k frame hold
      · exact hsent
  · intro t e he k
    obtain ⟨e', he', hk⟩ := hqueue t e he
    rcases hk k with hsame | ⟨-, -, hnew⟩
    · rw [hsame]
      exact h.capacity t e' he' k
    · rw [hnew, hcapacity]
      exact h.capacity t e' he' k

lemma Filled.add (h : Filled o ops s) {slot : Text} {netnsInode cgroupId : UInt64}
    (hnew : s.refusal slot netnsInode cgroupId = none) :
    Filled o ops (s.add slot (EventRouter.keys netnsInode cgroupId)) := by
  have hqueue : ∀ t e, (s.add slot (EventRouter.keys netnsInode cgroupId)).queues t = some e →
      s.queues t = some e ∨ e = fun _ => .new s.queueCapacity := by
    intro t e he
    by_cases ht : t = slot
    · subst ht
      change Function.update s.queues t _ t = some e at he
      rw [update_self] at he
      exact .inr (Option.some.inj he).symm
    · exact .inl ((update_of_ne ht ..).symm.trans he)
  constructor
  · intro t e he kind frame hframe
    rcases hqueue t e he with hold | rfl
    · obtain ⟨i, hi⟩ := h.sent t e hold kind frame hframe
      exact ⟨i, hi.mono (extends_add hnew)⟩
    · cases hframe
  · intro t e he kind
    rcases hqueue t e he with hold | rfl
    · exact h.capacity t e hold kind
    · rfl

lemma Filled.advance {i : ι} {p : Call} (hknows : (ops i).Knows o p s) (h : Filled o ops s) :
    Filled o ops (p.advance s).2 := by
  cases p with
  | register slot netnsInode cgroupId =>
    rcases advance_register s slot netnsInode cgroupId with ⟨text, hs⟩ | ⟨hnew, hs⟩
    · rw [hs]
      exact h
    · rw [hs]
      exact h.add hnew
  | push =>
    refine h.modify (fun _ => rfl) fun q v hv => ?_
    rcases mem_append.mp hv with hv | hv
    · exact .inl hv
    · exact .inr ⟨i, mem_singleton.mp hv ▸ hknows.1⟩
  | pop => exact h.modify (fun _ => rfl) fun _ _ hv => .inl hv
  | countUnroutable => exact ⟨h.sent, h.capacity⟩
  | slotFor | queueFor | take | ended => exact h

end

end NetaAgent.SensorBroker
