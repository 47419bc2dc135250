import NetaAgent.HistoryStore

/-!
What a call of the store can change, said once for all of them.

The calls that take a connection id write on that connection only (`Writes`): its row keeps
its id and its serial number, and no other row, event or sample changes. `begin_connection`
makes one new row with an id that no row has (`Begun`), even when a later statement of it
throws.
-/

namespace NetaAgent.HistoryStore

open Decimal Crypto Sql Observation Table Store Triple

/-- The row `r` is now `r'`, after calls for the connection `id` that gave it the cookie `c`
or left it the one it had. -/
structure Continues (id : ℕ) (c : Option ℕ) (r r' : Connection) : Prop where
  sameId : r'.id = r.id
  serial : r'.serial = r.serial
  other : r.id ≠ id → r' = r
  cookie : r.id = id → r'.socketCookie = c.getD r.socketCookie
  promoted : r.id = id → c ≠ none → r.socketCookie = 0

lemma Continues.refl (id : ℕ) (r : Connection) : Continues id none r r :=
  ⟨rfl, rfl, fun _ => rfl, fun _ => rfl, fun _ h => absurd rfl h⟩

variable {i id raw : ℕ} {c : Option ℕ} {r r' r'' : Connection}

lemma Continues.trans
    (h : Continues id c r r') (h' : Continues id none r' r'') : Continues id c r r'' where
  sameId := h'.sameId.trans h.sameId
  serial := h'.serial.trans h.serial
  other hr := (h'.other (h.sameId ▸ hr)).trans (h.other hr)
  cookie hr := (h'.cookie (h.sameId.trans hr)).trans (h.cookie hr)
  promoted := h.promoted

/-- Only the connection `id` was written on. -/
structure Writes (id : ℕ) (c : Option ℕ) (db db' : Store) : Prop where
  forth : ∀ r ∈ db.connections, ∃ r' ∈ db'.connections, Continues id c r r'
  back : ∀ r' ∈ db'.connections, ∃ r ∈ db.connections, Continues id c r r'
  events : ∀ e : LifecycleEvent, e.connectionId ≠ id →
    (e ∈ db'.lifecycleEvents ↔ e ∈ db.lifecycleEvents)
  samples : ∀ x : TransportSample, x.connectionId ≠ id →
    (x ∈ db'.transportSamples ↔ x ∈ db.transportSamples)
  tls : db'.tlsObservations = db.tlsObservations
  pending : db'.pendingTls = db.pendingTls
  inserted : db'.inserted = db.inserted

lemma Writes.refl (id : ℕ) (db : Store) : Writes id none db db where
  forth r hr := ⟨r, hr, .refl id r⟩
  back r hr := ⟨r, hr, .refl id r⟩
  events _ _ := Iff.rfl
  samples _ _ := Iff.rfl
  tls := rfl
  pending := rfl
  inserted := rfl

lemma Writes.trans {a b d : Store} (h : Writes id c a b)
    (h' : Writes id none b d) : Writes id c a d where
  forth r hr := by
    obtain ⟨r', hr', hc⟩ := h.forth r hr
    obtain ⟨r'', hr'', hc'⟩ := h'.forth r' hr'
    exact ⟨r'', hr'', hc.trans hc'⟩
  back r'' hr'' := by
    obtain ⟨r', hr', hc'⟩ := h'.back r'' hr''
    obtain ⟨r, hr, hc⟩ := h.back r' hr'
    exact ⟨r, hr, hc.trans hc'⟩
  events e he := (h'.events e he).trans (h.events e he)
  samples x hx := (h'.samples x hx).trans (h.samples x hx)
  tls := h'.tls.trans h.tls
  pending := h'.pending.trans h.pending
  inserted := h'.inserted.trans h.inserted

def Store.Held (db : Store) (id : ℕ) : Prop := ∃ r ∈ db.connections, r.id = id

variable {db db' db₀ : Store}

lemma Store.Held.writes (h : db.Held i) (hw : Writes id c db db') : db'.Held i := by
  obtain ⟨r, hr, rfl⟩ := h
  obtain ⟨r', hr', hc⟩ := hw.forth r hr
  exact ⟨r', hr', hc.sameId⟩

variable {f : Connection → Connection} {hf : ∀ r, (f r).id = r.id} {p : Connection → Bool}

lemma Store.mem_updateConnections
    :
    r' ∈ (db.updateConnections p f hf).connections ↔
      ∃ r ∈ db.connections, (if p r then f r else r) = r' := @mem_update _ _ _ _ _ _ hf _

/-- An `UPDATE` of the rows of `id`. -/
lemma writes_updateConnections
    (h : ∀ r ∈ db.connections, Continues id c r (if p r then f r else r)) :
    Writes id c db (db.updateConnections p f hf) where
  forth r hr := ⟨_, mem_updateConnections.mpr ⟨r, hr, rfl⟩, h r hr⟩
  back r' hr' := by
    obtain ⟨r, hr, rfl⟩ := mem_updateConnections.mp hr'
    exact ⟨r, hr, h r hr⟩
  events _ _ := Iff.rfl
  samples _ _ := Iff.rfl
  tls := rfl
  pending := rfl
  inserted := rfl

lemma continues_ite {p : Bool} (hp : p → r.id = id) (hid : r'.id = r.id) (hs : r'.serial = r.serial)
    (hc : r'.socketCookie = r.socketCookie) : Continues id none r (if p then r' else r) := by
  by_cases h : p = true
  · rw [if_pos h]
    exact ⟨hid, hs, fun hr => absurd (hp h) hr, fun _ => hc, fun _ h => absurd rfl h⟩
  · rw [if_neg h]
    exact .refl id r

/-! ### The calls for a connection -/

/-- The call writes on the connection `id` only, and what it throws is the failure of a
statement. -/
def OnlyWrites (id : ℕ) {α : Type} (m : StoreM α) : Prop :=
  ∀ (F : StoreError → Prop) (db : Store), db.Held id →
    Triple F (· = db) m (fun _ d => Writes id none db d) fun e d => F e ∧ d = db

variable (F : StoreError → Prop)

lemma touchConnection_triple (db : Store) (id ns : ℕ) (state : LifecycleState) :
    Triple F (· = db) (touchConnection id ns state)
      (fun _ d => d = db.updateConnections (fun r => r.id = id)
        (fun r => { r with lastSeenNs := ns, lifecycleState := state }) fun _ => rfl)
      fun e d => F e ∧ d = db :=
  Triple.modify (by rintro _ rfl; rfl) (by rintro e d he rfl; exact ⟨he, rfl⟩)

lemma onlyWrites_touchConnection (id ns : ℕ) (state : LifecycleState) :
    OnlyWrites id (touchConnection id ns state) := by
  intro F db _
  refine (touchConnection_triple F db id ns state).weaken ?_ fun _ _ h => h
  rintro _ _ rfl
  exact writes_updateConnections fun r _ => continues_ite of_decide_eq_true rfl rfl rfl

lemma onlyWrites_promoteConnectionDirection (id : ℕ) (direction : ConnectionDirection) :
    OnlyWrites id (promoteConnectionDirection id direction) := by
  intro F db _
  unfold promoteConnectionDirection
  split
  · exact pure fun d hd => hd ▸ .refl id db
  · refine statement ?_ (fun _ _ _ _ h => nomatch h) ?_
    · rintro _ _ _ _ rfl ⟨⟩
      exact writes_updateConnections fun r _ =>
        continues_ite (fun h => (of_decide_eq_true h).1) rfl rfl rfl
    · rintro e d he rfl
      exact ⟨he, rfl⟩

lemma addTcpSample_triple (sha : Sha256) (s : TcpSnapshot) (h : db.Held id) :
    Triple F (· = db) (addTcpSample sha id s) (fun _ d => d = db.insertSample sha id s)
      fun e d => F e ∧ d = db := by
  have hheld : db.hasConnection id := hasConnection_iff.mpr h
  refine statement ?_ ?_ ?_
  · rintro _ _ _ _ rfl hok
    rw [if_pos hheld] at hok
    cases hok
    rfl
  · rintro _ _ _ rfl herror
    rw [if_pos hheld] at herror
    cases herror
  · rintro e d he rfl
    exact ⟨he, rfl⟩

/-- The new sample is of `id`. -/
lemma writes_insertSample (db : Store) (sha : Sha256) (id : ℕ) (s : TcpSnapshot) :
    Writes id none db (db.insertSample sha id s) := { Writes.refl id db with
    samples := fun _ hx => mem_add.trans (or_iff_left fun h => hx (h ▸ rfl)) }

/-- The new event is of `id`. -/
lemma writes_insertEvent (db : Store) (id : ℕ) (event : ConnectionLifecycleEvent) :
    Writes id none db (db.insertEvent id event) := { Writes.refl id db with
    events := fun _ he => (@mem_add _ _ _ _ (lifecycleEventRow_id event id) _).trans
      (or_iff_left fun h => he (h ▸ rfl)) }

lemma onlyWrites_addTcpSample (sha : Sha256) (id : ℕ) (s : TcpSnapshot) :
    OnlyWrites id (addTcpSample sha id s) := by
  intro F db hheld
  refine (addTcpSample_triple F sha s hheld).weaken ?_ fun _ _ h => h
  rintro _ _ rfl
  exact writes_insertSample db sha id s

lemma onlyWrites_addLifecycleEvent (id : ℕ) (event : ConnectionLifecycleEvent) :
    OnlyWrites id (addLifecycleEvent id event) := by
  intro F db hheld
  have hheld : db.hasConnection id := hasConnection_iff.mpr hheld
  refine statement ?_ ?_ ?_
  · rintro _ _ _ _ rfl hok
    rw [if_pos hheld] at hok
    split at hok <;> cases hok
    · exact .refl id _
    · exact writes_insertEvent _ id event
  · rintro _ _ _ rfl herror
    rw [if_pos hheld] at herror
    split at herror <;> cases herror
  · rintro e d he rfl
    exact ⟨he, rfl⟩

/-- The promotion of a cookie changes the row of `id`, if its cookie is 0, or nothing. -/
lemma updateSocketCookie_triple (db : Store) (id c : ℕ) :
    Triple F (· = db) (updateSocketCookie id c)
      (fun b d => if b then Writes id (some c) db d else d = db ∧ ∀ r ∈ db.connections,
        r.id = id → r.socketCookie ≠ 0)
      fun e d => F e ∧ d = db := by
  refine statement ?_ (fun _ _ _ _ h => nomatch h) ?_
  · rintro _ db b d rfl hok
    simp only [Except.ok.injEq, Prod.mk.injEq] at hok
    obtain ⟨rfl, rfl⟩ := hok
    split
    · next hany =>
      -- the row found is the only one of this id
      obtain ⟨r₀, hr₀, hid₀, hcookie₀⟩ : ∃ r ∈ db.connections.rows,
          r.id = id ∧ r.socketCookie = 0 := by simpa using hany
      refine writes_updateConnections fun r hr => ?_
      by_cases hid : r.id = id
      · obtain rfl : r = r₀ := eq_of_key_eq hr hr₀ (hid.trans hid₀.symm)
        rw [if_pos (by simp [hid₀, hcookie₀])]
        exact ⟨rfl, rfl, fun h => absurd hid h, fun _ => rfl, fun _ _ => hcookie₀⟩
      · rw [if_neg (by simp [hid])]
        exact ⟨rfl, rfl, fun _ => rfl, fun h => absurd h hid, fun h => absurd h hid⟩
    · next hnone =>
      have hne : ∀ r ∈ db.connections, r.id = id → r.socketCookie ≠ 0 := by
        simpa [mem_def] using hnone
      refine ⟨?_, hne⟩
      -- no row meets the condition of the update
      have hsame : db.connections.update (fun r => r.id = id ∧ r.socketCookie = 0)
          (fun r => { r with socketCookie := c }) (fun _ => rfl) = db.connections := by
        ext1
        refine (List.map_congr_left fun r hr => ?_).trans (List.map_id _)
        rw [if_neg fun h => ?_]
        · rfl
        · obtain ⟨hid, hzero⟩ := of_decide_eq_true h
          exact hne r hr hid hzero
      unfold updateConnections
      rw [hsame]
  · rintro e d he rfl
    exact ⟨he, rfl⟩

/-! ### A new connection -/

/-- Nothing changed in the tables that concern connections. -/
structure Quiet (db db' : Store) : Prop where
  connections : db'.connections = db.connections
  events : db'.lifecycleEvents = db.lifecycleEvents
  samples : db'.transportSamples = db.transportSamples
  tls : db'.tlsObservations = db.tlsObservations
  pending : db'.pendingTls = db.pendingTls
  inserted : db'.inserted = db.inserted

lemma Quiet.refl (db : Store) : Quiet db db := ⟨rfl, rfl, rfl, rfl, rfl, rfl⟩

/-- A connection `id` was begun, with the cookie `raw`, and perhaps written on. -/
structure Begun (db₀ : Store) (id raw : ℕ) (db : Store) : Prop where
  fresh : ∀ r ∈ db₀.connections, r.id ≠ id
  forth : ∀ r ∈ db₀.connections, r ∈ db.connections
  back : ∀ r ∈ db.connections, r ∈ db₀.connections ∨
    r.id = id ∧ r.serial = db₀.inserted ∧ r.socketCookie = raw
  made : ∃ r ∈ db.connections, r.id = id ∧ r.serial = db₀.inserted ∧ r.socketCookie = raw
  events : ∀ e : LifecycleEvent, e.connectionId ≠ id →
    (e ∈ db.lifecycleEvents ↔ e ∈ db₀.lifecycleEvents)
  samples : ∀ x : TransportSample, x.connectionId ≠ id →
    (x ∈ db.transportSamples ↔ x ∈ db₀.transportSamples)
  tls : db.tlsObservations = db₀.tlsObservations
  pending : db.pendingTls = db₀.pendingTls
  inserted : db.inserted = db₀.inserted + 1

lemma Begun.held (h : Begun db₀ id raw db) : db.Held id := let ⟨r, hr, hid, _⟩ := h.made
  ⟨r, hr, hid⟩

lemma Begun.writes (h : Begun db₀ id raw db)
    (hw : Writes id none db db') : Begun db₀ id raw db' where
  fresh := h.fresh
  forth r hr := by
    obtain ⟨r', hr', hc⟩ := hw.forth r (h.forth r hr)
    rwa [← hc.other (h.fresh r hr)]
  back r' hr' := by
    obtain ⟨r, hr, hc⟩ := hw.back r' hr'
    rcases h.back r hr with hold | ⟨hid, hserial, hraw⟩
    · rw [hc.other (h.fresh r hold)]
      exact .inl hold
    · exact .inr ⟨hc.sameId.trans hid, hc.serial.trans hserial, (hc.cookie hid).trans hraw⟩
  made := by
    obtain ⟨r, hr, hid, hserial, hraw⟩ := h.made
    obtain ⟨r', hr', hc⟩ := hw.forth r hr
    exact ⟨r', hr', hc.sameId.trans hid, hc.serial.trans hserial, (hc.cookie hid).trans hraw⟩
  events e he := (hw.events e he).trans (h.events e he)
  samples x hx := (hw.samples x hx).trans (h.samples x hx)
  tls := hw.tls.trans h.tls
  pending := hw.pending.trans h.pending
  inserted := hw.inserted.trans h.inserted

lemma begun_insertConnection (h : Quiet db₀ db) (s : SocketObservation)
    (processId : Option ℕ) (targetHost : Text) (firstSeenNs now : ℕ)
    (direction : ConnectionDirection) :
    Begun db₀ db.connections.nextId s.socketCookie
      (db.insertConnection s processId targetHost firstSeenNs now direction) where
  fresh r hr := Nat.ne_of_lt (lt_nextId (h.connections ▸ hr))
  forth r hr := mem_add.mpr (.inl (h.connections ▸ hr))
  back r hr := by
    rcases mem_add.mp hr with hr | rfl
    · exact .inl (h.connections ▸ hr)
    · exact .inr ⟨rfl, h.inserted, rfl⟩
  made := ⟨_, mem_add.mpr (.inr rfl), rfl, h.inserted, rfl⟩
  events _ _ := by rw [← h.events]; rfl
  samples _ _ := by rw [← h.samples]; rfl
  tls := h.tls
  pending := h.pending
  inserted := congrArg (· + 1) h.inserted

/-- The pending TLS observation is there to be linked to. -/
def Store.PendingHeld (db : Store) : Prop :=
  ∀ p, db.pendingTls = some p → ∃ x ∈ db.tlsObservations, x.id = p.id

lemma Store.putProcess_spec (db : Store) (p : ProcessIdentity) (start : ℤ) :
    Quiet db (db.putProcess p start).2 ∧
      ∃ r ∈ (db.putProcess p start).2.processes, r.id = (db.putProcess p start).1 := by
  unfold putProcess
  split
  · next r hr =>
    refine ⟨⟨rfl, rfl, rfl, rfl, rfl, rfl⟩, ?_⟩
    simp only [mem_update]
    exact ⟨_, ⟨r, List.mem_of_find?_eq_some hr, rfl⟩, by rw [if_pos (decide_eq_true rfl)]⟩
  · exact ⟨⟨rfl, rfl, rfl, rfl, rfl, rfl⟩, _, mem_add.mpr (.inr rfl), rfl⟩

lemma upsertProcess_triple (db : Store) (p : ProcessIdentity) : Triple F (· = db) (upsertProcess p)
      (fun id d => Quiet db d ∧ d.hasProcess id) fun e d => F e ∧ d = db := by
  refine statement ?_ (fun _ _ _ _ h => nomatch h) ?_
  · rintro _ db id d rfl hok
    simp only [Except.ok.injEq] at hok
    split at hok
    · obtain ⟨hq, hp⟩ := db.putProcess_spec p _
      rw [hok] at hq hp
      exact ⟨hq, hasProcess_iff.mpr hp⟩
    · cases hok
      exact ⟨⟨rfl, rfl, rfl, rfl, rfl, rfl⟩, hasProcess_iff.mpr ⟨_, mem_add.mpr (.inr rfl), rfl⟩⟩
  · rintro e d he rfl
    exact ⟨he, rfl⟩

lemma processRow_triple (db : Store) (process : Option ProcessIdentity) :
    Triple F (· = db) (processRow process)
      (fun id d => Quiet db d ∧ id.all d.hasProcess) fun e d => F e ∧ d = db := by
  cases process with
  | none => exact pure fun d hd => hd ▸ ⟨.refl _, rfl⟩
  | some p => exact bind (upsertProcess_triple F db p) fun id => pure fun d hd => hd

lemma linkPendingTls_triple (host : Text)
    (port : ℕ) (hheld : db.Held id) (hpending : db.PendingHeld) :
    Triple F (· = db) (linkPendingTls id host port)
      (fun _ d => Writes id none db d) fun e d => F e ∧ d = db := by
  refine bind (state (Q := fun a d => a = db ∧ d = db) (by rintro _ rfl; simp)) ?_
  intro a
  refine start ?_
  rintro d ⟨rfl, rfl⟩
  split
  · next p hp =>
    split
    · have hok : d.hasConnection id && d.hasTls p.id := by
        rw [Bool.and_eq_true, hasConnection_iff, hasTls_iff]
        exact ⟨hheld, hpending p hp⟩
      refine statement ?_ ?_ ?_
      · rintro _ _ _ _ rfl h
        rw [if_pos hok] at h
        cases h
        exact { Writes.refl id _ with }
      · rintro _ _ _ rfl h
        rw [if_pos hok] at h
        cases h
      · rintro e d he rfl
        exact ⟨he, rfl⟩
    · exact pure fun d hd => hd ▸ .refl id _
  · exact pure fun d hd => hd ▸ .refl id _

/-- **What `begin_connection` does.** It begins a connection under an id that no row has; a
throw leaves the new row behind or nothing. -/
theorem beginConnection_triple
    (hpending : db₀.PendingHeld) (s : SocketObservation) (process : Option ProcessIdentity)
    (targetHost : Text) (firstSeenNs now : ℕ) (direction : ConnectionDirection) :
    Triple F (· = db₀) (beginConnection s process targetHost firstSeenNs now direction)
      (fun id d => Begun db₀ id s.socketCookie d)
      fun e d => F e ∧ (Quiet db₀ d ∨ ∃ id, Begun db₀ id s.socketCookie d) := by
  unfold beginConnection
  refine bind ((processRow_triple F db₀ process).relax
    fun _ _ h => ⟨h.1, .inl (h.2 ▸ .refl _)⟩) fun processId => ?_
  refine bind (Q := fun id d => Begun db₀ id s.socketCookie d) ?_ fun id => ?_
  · refine statement ?_ ?_ ?_
    · rintro _ d _ _ ⟨hq, hp⟩ h
      rw [if_pos hp] at h
      cases h
      exact begun_insertConnection hq s processId targetHost firstSeenNs now direction
    · rintro _ d _ ⟨hq, hp⟩ h
      rw [if_pos hp] at h
      cases h
    · rintro e d he ⟨hq, -⟩
      exact ⟨he, .inl hq⟩
  refine bind (Q := fun _ d => Begun db₀ id s.socketCookie d) (start ?_) fun _ =>
    pure fun d hd => hd
  intro d hd
  have hp : d.PendingHeld := fun p h => hd.tls ▸ hpending p (hd.pending ▸ h)
  refine (linkPendingTls_triple F targetHost s.remotePort hd.held hp).weaken (fun _ d' hw => hd.writes hw) ?_
  rintro e _ ⟨he, rfl⟩
  exact ⟨he, .inr ⟨id, hd⟩⟩

end NetaAgent.HistoryStore
