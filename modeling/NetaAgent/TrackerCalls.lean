import NetaAgent.TrackerEffects

/-!
The calls of the tracker, each with what it returns and what it leaves: `Returns` and
`Throws`. Both are an `Effect`, and what every effect keeps holds after every call.
-/

namespace NetaAgent.ConnectionTracker

open Decimal Crypto Sql Observation HistoryStore Triple Serving Tracker

/-- The tracked connections and their rows fit together: every tracked connection has the row
that was inserted for it, no two have the same id, and the pending TLS observation is there. -/
structure Sound (s : World) : Prop where
  rows : ∀ e ∈ s.2.connections, ∃ r ∈ s.1.connections,
    r.id = e.tracked.connectionId ∧ r.serial = e.tracked.serial
  distinct : ∀ e ∈ s.2.connections, ∀ e' ∈ s.2.connections,
    e.tracked.connectionId = e'.tracked.connectionId → e = e'
  pending : s.1.PendingHeld

lemma Sound.held {s : World} (h : Sound s) {e : Entry} (he : e ∈ s.2.connections) :
    s.1.Held e.tracked.connectionId := let ⟨r, hr, hid, _⟩ := h.rows e he
  ⟨r, hr, hid⟩

/-- What an observation brings: its identity, its valid cookie, the cookie a new row gets,
whether it closes the connection, whether it is stored for a connection that cannot take its
cookie, and the entries it can belong to. -/
structure Evidence where
  identity : Text
  cookie : Option ℕ
  raw : ℕ
  closing : Prop
  lenient : Prop
  target : Entry → Prop

def eventEvidence (tr : Tracker) (event : ConnectionLifecycleEvent) : Evidence where
  identity := (eventIdentity event).getD []
  cookie := eventCookie event
  raw := event.socketCookie.getD 0
  closing := event.type = .close
  lenient := True
  target e := tr.eventMatch event ((eventIdentity event).getD []) = some e.identity

def socketEvidence (tr : Tracker) (socket : SocketObservation)
    (process : Option ProcessIdentity) : Evidence where
  identity := socketIdentity socket
  cookie := some socket.socketCookie |>.filter validCookie
  raw := socket.socketCookie
  closing := False
  lenient := False
  target e := e.identity = socketIdentity socket ∨
    tr.find (socketIdentity socket) = none ∧
      tr.uniqueActiveCorrelationMatch (socketKey socket process) = some e.identity

section
variable (ev : Evidence) (s₀ : World)

/-- The identity and the cookie change of a connection after the observation. -/
def Evidence.Adopts (ev : Evidence) (e₀ : Entry) (c : Option ℕ) (key : Text) : Prop :=
  ConnectionTracker.Adopts ev.lenient ev.identity ev.cookie e₀ c key

/-- The connection of `e₀` was served and is still tracked. -/
def Kept (e₀ : Entry) (s : World) : Prop :=
  ∃ c e, ev.Adopts e₀ c e.identity ∧ Serving s₀ e₀ c e s

/-- The connection of `e₀` was served and is no longer tracked. -/
def Dropped (e₀ : Entry) (s : World) : Prop :=
  ∃ c e s₁, ev.Adopts e₀ c e.identity ∧ Serving s₀ e₀ c e s₁ ∧
    s = (s₁.1, s₁.2.drop e.identity)

/-- A connection `id` was begun for the observation and is tracked. -/
def Admitted (id : ℕ) (s : World) : Prop :=
  ∃ t key, Begun s₀.1 id ev.raw s.1 ∧ s₀.2.find ev.identity = none ∧ t.connectionId = id ∧
    t.serial = s₀.1.inserted ∧ s.2 = s₀.2.track ev.identity t key

inductive Returns : Option ConnectionAdmission → World → Prop
  | ignored : Returns none s₀
  | kept (e₀ : Entry) {s : World} (promoted : Bool) (direction : ConnectionDirection)
      (hopen : ¬ ev.closing) (he : e₀ ∈ s₀.2.connections) (ht : ev.target e₀)
      (h : Kept ev s₀ e₀ s) :
      Returns (some ⟨e₀.tracked.connectionId, false, false, promoted, direction⟩) s
  | dropped (e₀ : Entry) {s : World} (hclosing : ev.closing) (he : e₀ ∈ s₀.2.connections)
      (ht : ev.target e₀) (h : Dropped ev s₀ e₀ s) :
      Returns (some ⟨e₀.tracked.connectionId, false, true, false, .unknown⟩) s
  | admitted {id : ℕ} {s : World} (direction : ConnectionDirection) (h : Admitted ev s₀ id s) :
      Returns (some ⟨id, true, false, false, direction⟩) s

inductive Throws : World → Prop
  | quiet {s : World} (h : Quiet s₀.1 s.1) (htr : s.2 = s₀.2) : Throws s
  | kept {e₀ : Entry} {s : World} (he : e₀ ∈ s₀.2.connections) (ht : ev.target e₀)
      (h : Kept ev s₀ e₀ s) : Throws s
  | begun {id : ℕ} {s : World} (h : Begun s₀.1 id ev.raw s.1) (htr : s.2 = s₀.2) : Throws s

inductive Effect : World → Prop
  | quiet {s : World} (h : Quiet s₀.1 s.1) (htr : s.2 = s₀.2) : Effect s
  | kept {e₀ : Entry} {s : World} (he : e₀ ∈ s₀.2.connections) (ht : ev.target e₀)
      (h : Kept ev s₀ e₀ s) : Effect s
  | dropped {e₀ : Entry} {s : World} (he : e₀ ∈ s₀.2.connections) (ht : ev.target e₀)
      (h : Dropped ev s₀ e₀ s) : Effect s
  | begun {id : ℕ} {s : World} (h : Begun s₀.1 id ev.raw s.1) (htr : s.2 = s₀.2) : Effect s
  | admitted {id : ℕ} {s : World} (h : Admitted ev s₀ id s) : Effect s

end

variable {ev : Evidence} {s₀ s : World} {e₀ : Entry} {F : StoreError → Prop}

variable (ev s₀ F) in
/-- The program observes the evidence. -/
abbrev Answered (m : TrackerM (Option ConnectionAdmission)) : Prop :=
  Triple F (· = s₀) m (Returns ev s₀) fun x s => F x ∧ Throws ev s₀ s

lemma Returns.effect {r : Option ConnectionAdmission} (h : Returns ev s₀ r s) : Effect ev s₀ s := by
  cases h with
  | ignored => exact .quiet (.refl _) rfl
  | kept _ _ _ _ he ht h => exact .kept he ht h
  | dropped _ _ he ht h => exact .dropped he ht h
  | admitted _ h => exact .admitted h

lemma Throws.effect (h : Throws ev s₀ s) : Effect ev s₀ s := by
  cases h with
  | quiet h htr => exact .quiet h htr
  | kept he ht h => exact .kept he ht h
  | begun h htr => exact .begun h htr

lemma Throws.same : Throws ev s₀ s₀ := .quiet (.refl _) rfl

/-! ### Lifecycle events -/

section
variable {event : ConnectionLifecycleEvent} {identity : Text}

/-- An event of a tracked connection is stored for it, after its identity is adopted. -/
lemma adopted_triple (ev : Evidence) (hlenient : ev.lenient = True) {α : Type}
    {Q : α → World → Prop} {body : Text → TrackerM α} (he : e₀ ∈ s₀.2.connections)
    (ht : ev.target e₀) (hfree : e₀.identity = ev.identity ∨ s₀.2.find ev.identity = none)
    (hbody : ∀ c key, ev.Adopts e₀ c key → Triple F (Serving s₀ e₀ c ⟨key, e₀.tracked⟩) (body key) Q
      fun x s => F x ∧ Serving s₀ e₀ c ⟨key, e₀.tracked⟩ s) :
    Triple F (· = s₀) (adoptIdentity e₀.identity ev.identity ev.cookie >>= body) Q
      fun x s => F x ∧ Throws ev s₀ s := by
  refine bind ((adoptIdentity_triple he hfree).relax fun x s h => ⟨h.1, h.2 ▸ .same⟩)
    fun key => start ?_
  rintro s ⟨c, hc, hs⟩
  have hc : ev.Adopts e₀ c key := by rw [Evidence.Adopts, hlenient]; exact hc
  exact ((hbody c key hc).relax fun x s h => ⟨h.1, .kept he ht ⟨c, _, hc, h.2⟩⟩).here hs

section
variable (he : e₀ ∈ s₀.2.connections) (ht : (eventEvidence s₀.2 event).target e₀)
  (hheld : s₀.1.Held e₀.tracked.connectionId) (hfree : e₀.identity = (eventIdentity event).getD [] ∨
    s₀.2.find ((eventIdentity event).getD []) = none)
include he ht hheld hfree

lemma closeConnection_triple (hclose : event.type = .close) :
    Answered (eventEvidence s₀.2 event) s₀ F
      (closeConnection event ((eventIdentity event).getD []) e₀.identity) := by
  refine adopted_triple (eventEvidence s₀.2 event) rfl he ht hfree fun c key hc => ?_
  refine Triple.bind Serving.tracker fun tr => Triple.start fun s hs => ?_
  rw [hs.1]
  refine Triple.here ?_ hs.2
  refine Triple.bind (Serving.onDb (onlyWrites_touchConnection _ _ _) hheld) fun _ => ?_
  refine Triple.bind (Serving.onDb (onlyWrites_addLifecycleEvent _ _) hheld) fun _ => ?_
  refine Triple.bind (Triple.assign (Q := fun _ s =>
    Dropped (eventEvidence s₀.2 event) s₀ e₀ s) fun s hs => ⟨c, _, s, hc, hs, rfl⟩) fun _ => ?_
  exact Triple.pure fun s hs => .dropped e₀ hclose he ht hs

lemma continueConnection_triple (direction : ConnectionDirection) (process : ProcessIdentity)
    (hopen : event.type ≠ .close) :
    Answered (eventEvidence s₀.2 event) s₀ F (continueConnection event direction process
        ((eventIdentity event).getD []) e₀.identity) := by
  refine adopted_triple (eventEvidence s₀.2 event) rfl he ht hfree fun c key hc => ?_
  refine Triple.bind Serving.tracker fun tr => Triple.start fun s hs => ?_
  rw [hs.1]
  refine Triple.here ?_ hs.2
  refine Triple.bind (Serving.onDb (onlyWrites_addLifecycleEvent _ _) hheld) fun _ => ?_
  refine Triple.bind (Serving.onDb (onlyWrites_promoteConnectionDirection _ _) hheld)
    fun promoted => ?_
  refine Triple.bind (Serving.setPut rfl rfl) fun _ => ?_
  exact Triple.pure fun s hs => .kept e₀ promoted direction hopen he ht ⟨c, _, hc, hs⟩

end

lemma begun_triple {α : Type} {m : StoreM α} {id : ℕ} (hm : OnlyWrites id m) :
    Triple F (fun s => Begun s₀.1 id ev.raw s.1 ∧ s.2 = s₀.2) (onDb m)
      (fun _ s => Begun s₀.1 id ev.raw s.1 ∧ s.2 = s₀.2) fun x s => F x ∧ Throws ev s₀ s := by
  refine onDb fun tr => start fun db hs => ?_
  refine (hm F db hs.1.held).weaken (fun _ d hw => ⟨hs.1.writes hw, hs.2⟩) ?_
  rintro x _ ⟨hx, rfl⟩
  exact ⟨hx, .begun hs.1 hs.2⟩

lemma begin_triple (hpending : s₀.1.PendingHeld) {socket : SocketObservation}
    (hraw : ev.raw = socket.socketCookie) (process : Option ProcessIdentity) (host : Text)
    (firstSeenNs now : ℕ) (direction : ConnectionDirection) :
    Triple F (· = s₀) (onDb (beginConnection socket process host firstSeenNs now direction))
      (fun id s => Begun s₀.1 id ev.raw s.1 ∧ s.2 = s₀.2) fun x s => F x ∧ Throws ev s₀ s := by
  refine onDb fun tr => start fun db hdb => ?_
  obtain ⟨rfl, rfl⟩ : db = s₀.1 ∧ tr = s₀.2 := Prod.ext_iff.mp hdb
  rw [hraw]
  refine (beginConnection_triple F hpending socket process host firstSeenNs now direction).weaken
    (fun id d hd => ⟨hd, rfl⟩) ?_
  rintro x d ⟨hx, hd | ⟨id, hd⟩⟩
  · exact ⟨hx, .quiet hd rfl⟩
  · exact ⟨hx, .begun (hraw ▸ hd) rfl⟩

lemma state_triple {E : StoreError → World → Prop} :
    Triple F (· = s₀) state (fun a s => a = s₀ ∧ s = s₀) E := state fun _ hs => ⟨hs, hs⟩

variable (cfg : Config)

lemma admitEvent_triple (hpending : s₀.1.PendingHeld)
    (hfree : s₀.2.find ((eventIdentity event).getD []) = none) (now : ℕ)
    (direction : ConnectionDirection) (process : ProcessIdentity) (a b : NetworkEndpoint)
    (port : ℕ) :
    Answered (eventEvidence s₀.2 event) s₀ F (admitEvent cfg now event direction process
        ((eventIdentity event).getD []) a b port) := by
  refine bind state_triple fun w => start fun s hw => ?_
  rw [hw.1, hw.2]
  refine bind (begin_triple hpending rfl _ _ _ _ _) fun id => ?_
  refine bind (begun_triple (onlyWrites_addLifecycleEvent id event)) fun _ => ?_
  refine bind (assign (Q := fun _ s => Admitted (eventEvidence s₀.2 event) s₀ id s)
    ?_) fun _ => pure fun s hs => .admitted direction hs
  rintro s ⟨hb, htr⟩
  exact ⟨_, _, hb, hfree, rfl, rfl, by rw [htr]; rfl⟩

/-- **What `observe_lifecycle` does.** -/
theorem observeLifecycle_triple (hs : Sound s₀) (now : ℕ) (direction : ConnectionDirection) :
    Answered (eventEvidence s₀.2 event) s₀ F (observeLifecycle cfg now event direction) := by
  have hignored : Answered (eventEvidence s₀.2 event) s₀ F (pure none) :=
    pure fun s hs => hs ▸ .ignored
  unfold observeLifecycle
  split
  · exact hignored
  split
  · exact hignored
  next identity hidentity =>
  have hget : identity = (eventIdentity event).getD [] := by rw [hidentity]; rfl
  refine bind tracker_triple fun tr => start fun s htr => ?_
  rw [htr.1, htr.2, hget]
  -- the entry an event is matched to
  have hentry : ∀ k, s₀.2.eventMatch event ((eventIdentity event).getD []) = some k →
      ∃ t, ⟨k, t⟩ ∈ s₀.2.connections := fun k hk => exists_of_find_isSome (tracked_of_eventMatch hk)
  split
  · next hclose =>
    split
    · exact hignored
    · next k hk =>
      obtain ⟨t, he⟩ := hentry k hk
      exact closeConnection_triple he hk (hs.held he) (free_of_eventMatch hk) hclose
  next hopen =>
  split
  · exact hignored
  split
  · next a b process _ _ _ =>
    split
    · exact hignored
    next port _ =>
    split
    · next k hk =>
      obtain ⟨t, he⟩ := hentry k hk
      exact continueConnection_triple he hk (hs.held he) (free_of_eventMatch hk)
        direction process hopen
    · next hnone =>
      exact admitEvent_triple cfg hs.pending (free_of_eventMatch_none hnone) now direction
        process a b port
  · exact hignored

end

/-! ### Snapshots -/

section
variable (cfg : Config) (t : TrackedConnection) (sample : TcpSnapshot)

@[simp] lemma TrackedConnection.connectionId_sampled : (t.sampled sample).connectionId = t.connectionId := by
  unfold sampled
  split <;> rfl

@[simp] lemma TrackedConnection.serial_sampled : (t.sampled sample).serial = t.serial := by
  unfold sampled
  split <;> rfl

/-- The sample is stored for the connection, where one is needed. -/
def SampleStored (db : Store) : Prop :=
  needsSample t sample → ∃ x ∈ db.transportSamples,
    x.connectionId = t.connectionId ∧ x.snapshot = sample ∧
      x.sha256 = tcpSampleHash cfg.sha sample

/-- The snapshot is recorded for the connection: its row is active and seen at that time. -/
def Recorded (db : Store) : Prop :=
  SampleStored cfg t sample db ∧ ∃ r ∈ db.connections, r.id = t.connectionId ∧
    r.lastSeenNs = sample.observedNs ∧ r.lifecycleState = .active

variable {cfg} {c : Option ℕ} {e : Entry}

lemma storeSample_triple (hheld : s₀.1.Held e₀.tracked.connectionId) (sample : TcpSnapshot) :
    Triple F (Serving s₀ e₀ c e) (storeSample cfg e.tracked sample)
      (fun _ s => Serving s₀ e₀ c e s ∧ SampleStored cfg e.tracked sample s.1)
      fun x s => F x ∧ Serving s₀ e₀ c e s := by
  unfold storeSample
  split
  · refine bind (Q := fun _ s => Serving s₀ e₀ c e s ∧
      SampleStored cfg e.tracked sample s.1) ?_ fun _ => pure fun _ h => h
    refine onDb fun tr => start fun db hs => ?_
    refine (addTcpSample_triple F cfg.sha sample (hs.held hheld)).weaken ?_ ?_
    · rintro _ _ rfl
      exact ⟨hs.write (hs.connectionId ▸ writes_insertSample db cfg.sha _ sample),
        fun _ => ⟨_, Table.mem_add.mpr (.inr rfl), rfl, rfl, rfl⟩⟩
    · rintro x _ ⟨hx, rfl⟩
      exact ⟨hx, hs⟩
  · next h => exact pure fun s hs => ⟨hs, fun hneeds => absurd hneeds h⟩

/-- **What `persist_sample` does**, and the update of the origin after it. -/
lemma sampleConnection_triple (hheld : s₀.1.Held e₀.tracked.connectionId)
    (socket : SocketObservation) (direction : ConnectionDirection) :
    Triple F (Serving s₀ e₀ c e) (sampleConnection cfg socket direction e.identity)
      (fun r s => r = some ⟨e.tracked.connectionId, false, false, false, direction⟩ ∧
        Serving s₀ e₀ c ⟨e.identity, e.tracked.observed socket.transport⟩ s ∧
        Recorded cfg e.tracked socket.transport s.1)
      fun x s => F x ∧ ∃ e', e'.identity = e.identity ∧ Serving s₀ e₀ c e' s := by
  unfold sampleConnection persistSample
  refine Triple.bind Serving.tracker fun tr => Triple.start fun s hs => ?_
  rw [hs.1]
  refine Triple.here ?_ hs.2
  refine Triple.bind (Q := fun _ s => Serving s₀ e₀ c ⟨e.identity,
    e.tracked.sampled socket.transport⟩ s ∧ Recorded cfg e.tracked socket.transport s.1) ?_
    fun _ => ?_
  · refine Triple.bind ((storeSample_triple hheld socket.transport).relax
      fun x s h => ⟨h.1, e, rfl, h.2⟩) fun _ => ?_
    refine Triple.bind (Triple.assign (Q := fun _ s => Serving s₀ e₀ c ⟨e.identity,
      e.tracked.sampled socket.transport⟩ s ∧ SampleStored cfg e.tracked socket.transport s.1)
      fun s hs => ⟨hs.1.put (by simpa using hs.1.connectionId) (by simpa using hs.1.serial),
        hs.2⟩) fun _ => ?_
    refine Triple.onDb fun tr => Triple.start fun db hs => ?_
    refine (touchConnection_triple F db _ _ _).weaken ?_ ?_
    · rintro _ _ rfl
      obtain ⟨r, hr, hid⟩ := hs.1.held hheld
      rw [TrackedConnection.connectionId_sampled] at hid
      refine ⟨hs.1.write (writes_updateConnections fun r _ =>
        continues_ite (fun h => ?_) rfl rfl rfl), hs.2, _,
        Store.mem_updateConnections.mpr ⟨r, hr, rfl⟩, ?_⟩
      · exact (of_decide_eq_true h).trans (by simpa using hs.1.connectionId)
      · rw [if_pos (decide_eq_true hid)]
        exact ⟨hid, rfl, rfl⟩
    · rintro x _ ⟨hx, rfl⟩
      exact ⟨hx, ⟨e.identity, e.tracked.sampled socket.transport⟩, rfl, hs.1⟩
  · refine Triple.bind (Triple.assign (Q := fun _ s => Serving s₀ e₀ c ⟨e.identity,
      e.tracked.observed socket.transport⟩ s ∧ Recorded cfg e.tracked socket.transport s.1)
      fun s hs => ⟨hs.1.put hs.1.connectionId hs.1.serial, hs.2⟩) fun _ => ?_
    exact Triple.pure fun s hs => ⟨rfl, hs⟩

variable {socket : SocketObservation} {process : Option ProcessIdentity}

lemma sampled_triple (direction : ConnectionDirection) (he : e₀ ∈ s₀.2.connections)
    (ht : (socketEvidence s₀.2 socket process).target e₀)
    (hheld : s₀.1.Held e₀.tracked.connectionId)
    (hc : (socketEvidence s₀.2 socket process).Adopts e₀ c e.identity) :
    Triple F (Serving s₀ e₀ c e) (sampleConnection cfg socket direction e.identity)
      (Returns (socketEvidence s₀.2 socket process) s₀)
      fun x s => F x ∧ Throws (socketEvidence s₀.2 socket process) s₀ s := by
  refine start fun s hs => ((sampleConnection_triple hheld socket direction).here
    hs).weaken ?_ ?_
  · rintro _ s ⟨rfl, hs', -⟩
    rw [hs.connectionId]
    exact .kept e₀ false direction id he ht
      ⟨c, ⟨e.identity, e.tracked.observed socket.transport⟩, hc, hs'⟩
  · rintro x s ⟨hx, e', he', hs'⟩
    exact ⟨hx, .kept he ht ⟨c, e', he' ▸ hc, hs'⟩⟩

lemma onlyWrites_touchOrigin (id observedNs : ℕ) (origin : ConnectionObservationOrigin) :
    OnlyWrites id (touchOrigin id observedNs origin) := by
  unfold touchOrigin
  split
  · exact onlyWrites_touchConnection _ _ _
  · exact onlyWrites_touchConnection _ _ _
  · exact fun F db _ => pure fun d hd => hd ▸ .refl id db

lemma admitSocket_triple (hpending : s₀.1.PendingHeld)
    (hfree : s₀.2.find (socketIdentity socket) = none) (now : ℕ) (p : ProcessIdentity)
    (direction : ConnectionDirection) (origin : ConnectionObservationOrigin) (key : Text) :
    Answered (socketEvidence s₀.2 socket process) s₀ F
      (admitSocket cfg now socket p direction origin (socketIdentity socket) key) := by
  refine bind state_triple fun w => start fun s hw => ?_
  rw [hw.1, hw.2]
  refine bind (begin_triple hpending rfl _ _ _ _ _) fun id => ?_
  refine bind (begun_triple (onlyWrites_addTcpSample cfg.sha id _)) fun _ => ?_
  refine bind (begun_triple (onlyWrites_touchOrigin id _ origin)) fun _ => ?_
  refine bind (assign (Q := fun _ s =>
    Admitted (socketEvidence s₀.2 socket process) s₀ id s) ?_) fun _ =>
    pure fun s hs => .admitted direction hs
  rintro s ⟨hb, htr⟩
  exact ⟨_, _, hb, hfree, rfl, rfl, by rw [htr]; rfl⟩

variable (cfg) in
/-- **What `observe_socket` does.** -/
theorem observeSocket_triple (hs : Sound s₀) (now : ℕ) (direction : ConnectionDirection)
    (allowNew : Bool) (origin : ConnectionObservationOrigin) :
    Answered (socketEvidence s₀.2 socket process) s₀ F
      (observeSocket cfg now process socket direction allowNew origin) := by
  have hignored : Answered (socketEvidence s₀.2 socket process) s₀ F (pure none) :=
    pure fun s hs => hs ▸ .ignored
  unfold observeSocket
  refine bind tracker_triple fun tr => start fun s htr => ?_
  rw [htr.1, htr.2]
  split
  · next _ t ht =>
    -- the identity is tracked
    split
    · exact hignored
    · have he := find_eq_some.mp ht
      exact (sampled_triple (e := ⟨_, t⟩) direction he (.inl rfl) (hs.held he)
        (.inl ⟨rfl, rfl, .inr (.inr rfl)⟩)).here (.refl he)
  · next k hnone hk =>
    -- another connection has the tuple
    obtain ⟨t, he⟩ := exists_of_find_isSome (uniqueActive_eq_some hk).2
    have ht : (socketEvidence s₀.2 socket process).target ⟨k, t⟩ := .inr ⟨hnone, hk⟩
    split
    · next hvalid =>
      obtain ⟨hvalid, hne⟩ : validCookie socket.socketCookie ∧ k ≠ socketIdentity socket := by
        simpa using hvalid
      refine bind ((promoteSocketCookieIdentity_triple he hne hnone).relax
        fun x s h => ⟨h.1, h.2 ▸ .same⟩) fun b => ?_
      cases b
      · exact hignored
      · have hcookie : (socketEvidence s₀.2 socket process).cookie = some socket.socketCookie :=
          Option.filter_eq_some_iff.mpr ⟨rfl, hvalid⟩
        exact sampled_triple (e := ⟨_, t⟩) direction he ht (hs.held he)
          (.inr ⟨rfl, hcookie.symm, .inr (by simp [hcookie])⟩)
    · next hnot =>
      -- the cookie is not valid, or the tuple is that of the identity
      have hkeep : (socketEvidence s₀.2 socket process).cookie = none ∨
          k = socketIdentity socket := by
        rw [Bool.and_eq_true, not_and_or] at hnot
        refine hnot.imp (fun h => ?_) fun h => by simpa using h
        simp [socketEvidence, Option.filter, h]
      exact (sampled_triple (e := ⟨_, t⟩) direction he ht (hs.held he)
        (.inl ⟨rfl, rfl, .inr hkeep⟩)).here (.refl he)
  · next hnone _ =>
    split
    · exact hignored
    · split
      · exact hignored
      · exact admitSocket_triple hs.pending hnone now _ direction origin _

end

end NetaAgent.ConnectionTracker
