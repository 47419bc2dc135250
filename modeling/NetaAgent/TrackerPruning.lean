import NetaAgent.HistoryMaintenance
import NetaAgent.Run
import NetaAgent.TrackerRuns

/-!
The tracker beside storage pruning.

Both work on one store and neither knows of the other: pruning deletes the oldest rows
whether they are tracked or not, and the id of a deleted row is given to the next one. While
pruning spares the tracked connections, and the TLS observation that new connections are
linked to, every tracked connection has the row that was inserted for it, and no call of the
tracker fails on a foreign key or writes on the row of another connection.
-/

namespace NetaAgent.ConnectionTracker

open Decimal Crypto Sql Observation Run HistoryStore HistoryMaintenance

/-- The store, the tracker, and a call of `prune_to_budget`. -/
structure Session where
  world : World
  pruning : Pruning

namespace Session

/-- The calls of the tracker, the other calls of an observation session that write the tables
pruning reads, and the statements of `prune_to_budget`. -/
inductive Action where
  | call (c : Call) (o : Oracle Text)
  | addTls (t : TlsObservation) (o : Oracle Text)
  | saveVerdict (v : Verdict) (o : Oracle Text)
  | prune (maxBytes : ℕ)
  | maintain (a : Answer)

/-- A call of the store by another part of the session. -/
def storeCall {α : Type} (s : Session) (m : StoreM α) (o : Oracle Text) : Session :=
  { s with world := ((Sql.exec m (o.map .failed) s.world.1).2, s.world.2) }

variable (cfg : Config)

def step (s : Session) : Action → Session
  | .call c o => { s with world := (c.exec cfg o s.world).2 }
  | .addTls t o => s.storeCall (HistoryStore.addTls t) o
  | .saveVerdict v o => s.storeCall (HistoryStore.saveVerdict v) o
  | .prune maxBytes =>
    match s.pruning with
    | .running _ _ _ => s
    | _ => { s with pruning := .running maxBytes 0 .measure }
  | .maintain a =>
    ⟨((s.pruning.step s.world.1 a).1, s.world.2), (s.pruning.step s.world.1 a).2⟩

/-- A store that was just opened, a tracker of it, and no pruning. -/
def Fresh (s : Session) : Prop := Started s.world ∧ s.pruning = .returned

def Untracked (tr : Tracker) (id : ℕ) : Prop :=
  ∀ e ∈ tr.connections.rows, e.tracked.connectionId ≠ id

/-- The statement of the stage removes no row of a tracked connection and not the pending TLS
observation. -/
def StageSpares (s : World) : Stage → Prop
  | .normal => ∀ r ∈ normalBatch s.1, Untracked s.2 r.id
  | .anomalous => ∀ r ∈ anomalousBatch s.1, Untracked s.2 r.id
  | .orphanTls => PendingSpared s.1
  | _ => True

def Spares (s : Session) : Action → Prop
  | .maintain a => s.pruning.Spares (StageSpares s.world) a
  | _ => True

/-- The row of the connection `id` was inserted for it: by the call from `s` to `s'`, or for a
connection that was tracked before it. -/
def Owned (s s' : World) (id : ℕ) : Prop :=
  ∃ r ∈ s'.1.connections, r.id = id ∧ (r.serial = s.1.inserted ∨
    ∃ e ∈ s.2.connections, e.tracked.connectionId = id ∧ e.tracked.serial = r.serial)

/-- The samples and the events that the call wrote are on rows of their own connections. -/
structure Attributed (s s' : World) : Prop where
  samples : ∀ x ∈ s'.1.transportSamples, x ∉ s.1.transportSamples → Owned s s' x.connectionId
  events : ∀ e ∈ s'.1.lifecycleEvents, e ∉ s.1.lifecycleEvents → Owned s s' e.connectionId

/-- A call of the tracker does not fail on a foreign key, and it writes where it should. -/
def Honest (s : Session) : Action → Prop
  | .call c o =>
    (c.exec cfg o s.world).1 ≠ .error .foreignKey ∧ Attributed s.world (c.exec cfg o s.world).2
  | _ => True

/-! ### Calls of the tracker -/

lemma Owned.writes {s s₁ s₂ : World} {id i : ℕ} {c : Option ℕ} (h : Owned s s₁ i)
    (hw : Writes id c s₁.1 s₂.1) : Owned s s₂ i := by
  obtain ⟨r, hr, hid, hs⟩ := h
  obtain ⟨r', hr', hc⟩ := hw.forth r hr
  exact ⟨r', hr', hc.sameId.trans hid, hc.serial ▸ hs⟩

section
variable {ev : Evidence} {s s' : World} {e₀ e : Entry} {c : Option ℕ}

lemma owned_serving (hsound : Sound s) (he₀ : e₀ ∈ s.2.connections)
    (h : Serving s e₀ c e s') : Owned s s' e₀.tracked.connectionId := by
  obtain ⟨r, hr, hid, hserial⟩ := hsound.rows e₀ he₀
  exact Owned.writes ⟨r, hr, hid, .inr ⟨e₀, he₀, rfl, hserial.symm⟩⟩ h.writes

lemma Attributed.of_writes {i : ℕ} {tr : Tracker} {db : Store}
    (hw : Writes i c s.1 db) (ho : Owned s (db, tr) i) : Attributed s (db, tr) where
  samples x hx hnew := by
    by_cases hi : x.connectionId = i
    · exact hi ▸ ho
    · exact absurd ((hw.samples x hi).mp hx) hnew
  events x hx hnew := by
    by_cases hi : x.connectionId = i
    · exact hi ▸ ho
    · exact absurd ((hw.events x hi).mp hx) hnew

lemma Attributed.of_begun {i raw : ℕ} {tr : Tracker} {db : Store}
    (hb : Begun s.1 i raw db) : Attributed s (db, tr) := by
  have ho : Owned s (db, tr) i := let ⟨r, hr, hid, hserial, _⟩ := hb.made
    ⟨r, hr, hid, .inl hserial⟩
  refine ⟨fun x hx hnew => ?_, fun x hx hnew => ?_⟩
  · by_cases hi : x.connectionId = i
    · exact hi ▸ ho
    · exact absurd ((hb.samples x hi).mp hx) hnew
  · by_cases hi : x.connectionId = i
    · exact hi ▸ ho
    · exact absurd ((hb.events x hi).mp hx) hnew

lemma attributed_effect (hsound : Sound s) (h : Effect ev s s') : Attributed s s' := by
  cases h with
  | quiet h _ => exact ⟨fun x hx hnew => absurd (h.samples ▸ hx) hnew,
      fun x hx hnew => absurd (h.events ▸ hx) hnew⟩
  | kept he _ h =>
    obtain ⟨c, e, -, h⟩ := h
    exact .of_writes h.writes (owned_serving hsound he h)
  | dropped he _ h =>
    obtain ⟨c, e, s₁, -, h, rfl⟩ := h
    have ho := owned_serving hsound he h
    exact .of_writes h.writes ho
  | begun h _ => exact .of_begun h
  | admitted h =>
    obtain ⟨t, key, hb, -⟩ := h
    exact .of_begun hb

lemma sweep_entries {a b : World} (h : Sweep a b) : ∀ e ∈ b.2.connections,
    ∃ e' ∈ a.2.connections, e'.tracked.connectionId = e.tracked.connectionId ∧
      e'.tracked.serial = e.tracked.serial := by
  induction h with
  | refl => exact fun e he => ⟨e, he, rfl, rfl⟩
  | tail _ ht ih =>
    obtain ⟨e₀, he₀, e₁, s, -, hs, hb⟩ := ht
    intro e he
    have hmem : e ∈ s.2.connections := by
      rcases hb with rfl | rfl
      · exact he
      · exact (Tracker.mem_drop.mp he).1
    rcases (hs.entries e).mp hmem with ⟨he, -⟩ | rfl
    · exact ih e he
    · rw [hs.connectionId, hs.serial]
      exact ih e₀ he₀

lemma attributed_sweep {a b : World} (hsound : Sound a) (h : Sweep a b) : Attributed a b := by
  induction h with
  | refl => exact ⟨fun x hx hnew => absurd hx hnew, fun x hx hnew => absurd hx hnew⟩
  | @tail m n hm ht ih =>
    obtain ⟨e₀, he₀, e, s, -, hs, hb⟩ := ht
    have hw : Writes e₀.tracked.connectionId none m.1 n.1 := by
      rcases hb with rfl | rfl <;> exact hs.writes
    -- the connection served in this step was tracked from the start
    have ho : Owned a n e₀.tracked.connectionId := by
      obtain ⟨r, hr, hid, hserial⟩ := (Sweep.sound hm hsound).rows e₀ he₀
      obtain ⟨e', he', hid', hserial'⟩ := sweep_entries hm e₀ he₀
      exact Owned.writes ⟨r, hr, hid, .inr ⟨e', he', hid', hserial'.trans hserial.symm⟩⟩ hw
    refine ⟨fun x hx hnew => ?_, fun x hx hnew => ?_⟩
    · by_cases hi : x.connectionId = e₀.tracked.connectionId
      · exact hi ▸ ho
      · exact (ih.samples x ((hw.samples x hi).mp hx) hnew).writes hw
    · by_cases hi : x.connectionId = e₀.tracked.connectionId
      · exact hi ▸ ho
      · exact (ih.events x ((hw.events x hi).mp hx) hnew).writes hw

lemma attributed_call {call : Call} (hsound : Sound s) (h : call.Leaves s s') :
    Attributed s s' := by
  cases call with
  | observeLifecycle | observeSocket => exact attributed_effect hsound h
  | beginSnapshot =>
    cases (show s' = _ from h)
    exact ⟨fun x hx hnew => absurd hx hnew, fun x hx hnew => absurd hx hnew⟩
  | endSnapshot | finishObservation => exact attributed_sweep hsound h

end

lemma honest_call {s : Session} (hsound : Sound s.world) (c : Call)
    (o : Oracle Text) : s.Honest cfg (.call c o) := by
  refine ⟨?_, attributed_call hsound (c.exec_leaves cfg o hsound)⟩
  rcases c.exec_cases cfg o hsound with ⟨r, hr, -⟩ | ⟨_, he, ⟨n, x, -, rfl⟩, -⟩
  · rw [hr]
    exact nofun
  · rw [he]
    exact nofun

/-! ### Other writes -/

lemma sound_store {s : World} (h : Sound s) {db : Store}
    (hrows : ∀ r ∈ s.1.connections, ¬ Untracked s.2 r.id →
      ∃ r' ∈ db.connections, r'.id = r.id ∧ r'.serial = r.serial)
    (hpending : db.PendingHeld) : Sound (db, s.2) where
  rows e he := by
    obtain ⟨r, hr, hid, hserial⟩ := h.rows e he
    obtain ⟨r', hr', hid', hserial'⟩ := hrows r hr fun hun => hun e he hid.symm
    exact ⟨r', hr', hid'.trans hid, hserial'.trans hserial⟩
  distinct := h.distinct
  pending := hpending

lemma sound_quiet {s : World} (h : Sound s) {db : Store} (hq : Quiet s.1 db) : Sound (db, s.2) :=
  sound_store h (fun r hr _ => ⟨r, hq.connections ▸ hr, rfl, rfl⟩) fun p hp => by
    rw [hq.tls]
    exact h.pending p (hq.pending ▸ hp)

lemma sound_writes {s : World} (h : Sound s) {db : Store} {id : ℕ} {c : Option ℕ}
    (hw : Writes id c s.1 db) : Sound (db, s.2) := sound_store h (fun r hr _ =>
    let ⟨r', hr', hc⟩ := hw.forth r hr
    ⟨r', hr', hc.sameId, hc.serial⟩) fun p hp => by
    rw [hw.tls]
    exact h.pending p (hw.pending ▸ hp)

lemma sound_storeCall {α : Type} {s : Session} {m : StoreM α} (o : Oracle Text)
    (hm : Triple (fun _ => True) (· = s.world.1) m (fun _ d => Sound (d, s.world.2))
      fun _ d => Sound (d, s.world.2)) : Sound (s.storeCall m o).world := by
  rcases hm.exec (fun _ _ _ => trivial) rfl with ⟨a, -, h⟩ | ⟨e, -, h⟩
  · exact h
  · exact h

lemma sound_addTls {s : Session} (h : Sound s.world) (t : TlsObservation) (o : Oracle Text) :
    Sound (s.storeCall (addTls t) o).world := by
  refine sound_storeCall o ((addTls_triple t s.world.1).weaken ?_ ?_)
  · rintro _ _ rfl
    refine sound_store h (fun r hr _ => ⟨r, hr, rfl, rfl⟩) fun p hp => ?_
    cases hp
    exact ⟨_, Table.mem_add.mpr (.inr rfl), rfl⟩
  · rintro _ _ rfl
    exact h

lemma sound_saveVerdict {s : Session} (h : Sound s.world) (v : Verdict) (o : Oracle Text) :
    Sound (s.storeCall (saveVerdict v) o).world := by
  refine sound_storeCall o ?_
  refine Triple.bind (Q := fun _ d => Sound (d, s.world.2)) ?_ fun _ => ?_
  · refine Triple.statement ?_ ?_ ?_
    · rintro _ d _ _ rfl hok
      split at hok <;> cases hok
      exact sound_quiet h ⟨rfl, rfl, rfl, rfl, rfl, rfl⟩
    · rintro _ _ _ rfl -
      exact h
    · rintro _ _ - rfl
      exact h
  · refine Triple.modify (fun d hd => ?_) fun _ _ _ hd => hd
    exact sound_writes hd (writes_updateConnections (c := none) fun r _ =>
      continues_ite of_decide_eq_true rfl rfl rfl)

/-! ### Pruning -/

lemma sound_deleteConnections {s : World} (h : Sound s) {batch : List Connection}
    (hbatch : ∀ r ∈ batch, r ∈ s.1.connections) (hspares : ∀ r ∈ batch, Untracked s.2 r.id) :
    Sound (deleteConnections batch s.1, s.2) := sound_store h (fun r hr htracked =>
    ⟨r, (mem_deleteConnections hbatch).mpr ⟨hr, fun hmem => htracked (hspares r hmem)⟩, rfl, rfl⟩)
    h.pending

lemma sound_deleteOrphanTls {s : World} (h : Sound s)
    (hspares : PendingSpared s.1) : Sound (deleteOrphanTls s.1, s.2) := by
  refine sound_store h (fun r hr _ => ⟨r, hr, rfl, rfl⟩) fun p hp => ?_
  obtain ⟨x, hx, hid⟩ := h.pending p hp
  refine ⟨x, Table.mem_delete.mpr ⟨hx, hspares x hx ?_⟩, hid⟩
  rw [show s.1.pendingTls = some p from hp, hid]
  rfl

lemma sound_maintain {s : Session} (h : Sound s.world) {a : Answer}
    (hspares : s.Spares (.maintain a)) : Sound ((s.pruning.step s.world.1 a).1, s.world.2) := by
  unfold Spares Pruning.Spares at hspares
  rcases hp : s.pruning with _ | ⟨maxBytes, bytes, stage⟩ | e
  · exact h
  · rw [hp] at hspares
    unfold Pruning.step
    simp only
    split
    · exact h
    · next hfails =>
      split
      · exact h
      · next removed db hst =>
        -- every stage but the first executes a statement
        have hstage : stage = .measure ∨ StageSpares s.world stage := by
          by_cases hm : stage = .measure
          · exact .inl hm
          · rw [if_neg hm] at hfails
            exact .inr (hspares hfails)
        rcases Stage.statement_cases hst with hq | ⟨rfl, rfl⟩ | ⟨rfl, rfl⟩ | ⟨rfl, rfl⟩
        · exact sound_quiet h hq
        · exact sound_deleteOrphanTls h (hstage.resolve_left nofun)
        · exact sound_deleteConnections h (fun r => mem_of_mem_normalBatch)
            (hstage.resolve_left nofun)
        · exact sound_deleteConnections h (fun r => mem_of_mem_anomalousBatch)
            (hstage.resolve_left nofun)
  · exact h

lemma sound_step {s : Session} (h : Sound s.world) {a : Action}
    (hspares : s.Spares a) : Sound (s.step cfg a).world := by
  cases a with
  | call c o => exact (c.exec_leaves cfg o h).sound h
  | addTls t o => exact sound_addTls h t o
  | saveVerdict v o => exact sound_saveVerdict h v o
  | prune maxBytes =>
    unfold step
    simp only
    split <;> exact h
  | maintain a => exact sound_maintain h hspares

/-- **Tracking beside pruning.** While pruning spares the tracked connections and the pending
TLS observation, every tracked connection has the row inserted for it and an id of its own,
and no call of the tracker fails on a foreign key or writes on another connection's row. -/
theorem tracked_rows_stay (cfg : Config) {s : Session} (hs : s.Fresh) (w : List Action)
    (hw : Along (step cfg) Spares s w) :
    Sound (run (step cfg) s w).world ∧
      Along (step cfg) (fun s a => Sound s.world ∧ s.Honest cfg a) s w := by
  refine ⟨inv_run (I := fun s => Sound s.world) (fun s a h ha => sound_step cfg h ha)
    hs.1.sound hw, along_of_inv (I := fun s => Sound s.world) (fun s a h ha => ?_)
    hs.1.sound hw⟩
  refine ⟨sound_step cfg h ha, h, ?_⟩
  cases a with
  | call c o => exact honest_call cfg h c o
  | _ => trivial

instance (tr : Tracker) (id : ℕ) : Decidable (Untracked tr id) :=
  inferInstanceAs (Decidable (∀ e ∈ tr.connections.rows, e.tracked.connectionId ≠ id))

instance (s : World) : ∀ stage, Decidable (StageSpares s stage)
  | .normal => inferInstanceAs (Decidable (∀ r ∈ normalBatch s.1, Untracked s.2 r.id))
  | .anomalous => inferInstanceAs (Decidable (∀ r ∈ anomalousBatch s.1, Untracked s.2 r.id))
  | .orphanTls => inferInstanceAs (Decidable (PendingSpared s.1))
  | .measure | .checkpoint | .orphanProcesses | .orphanBaselines | .orphanEnvironments
  | .orphanInstances | .vacuum | .truncate | .unreferenced | .reported | .lastFinding =>
    inferInstanceAs (Decidable True)

instance (s : Session) : ∀ a, Decidable (s.Spares a)
  | .maintain a => inferInstanceAs (Decidable (s.pruning.Spares (StageSpares s.world) a))
  | .call _ _ | .addTls _ _ | .saveVerdict _ _ | .prune _ => inferInstanceAs (Decidable True)

/-! ### Two runs -/

def opened : Session := ⟨(.initial, .initial), .returned⟩

/-- A snapshot of the socket with this cookie, and with as many retransmissions. -/
def snapshot (cookie retrans : ℕ) : Action := .call (snapshotOf cookie cookie retrans) steady

def closing (cookie : ℕ) : Action := .call (eventOf .close (some cookie) cookie) steady

/-- `prune_to_budget` on a database that is over its budget until connections are deleted. -/
def pruned : List Action :=
  .prune 100 :: List.replicate 10 (.maintain { size := 1000 }) ++
    List.replicate 7 (.maintain { size := 50 })

/-- The first of two connections is anomalous and the second one is closed, so that pruning
deletes the second one only. -/
def spared : List Action :=
  [snapshot 7 0, .saveVerdict ⟨1, .degraded, .stable, [], none⟩ steady, snapshot 8 0, closing 8] ++
  pruned ++ [snapshot 7 1]

theorem tracked_rows_stay_spared :
    opened.Fresh ∧ Along (step plain) Spares opened spared ∧
      (run (step plain) opened spared).world.1.connections.rows.map Connection.id = [1] ∧
      Sound (run (step plain) opened spared).world ∧
      Along (step plain) (fun s a => Sound s.world ∧ s.Honest plain a) opened spared := by
  have hfresh : opened.Fresh := ⟨⟨rfl, rfl⟩, rfl⟩
  have hspares : Along (step plain) Spares opened spared := by decide +kernel
  exact ⟨hfresh, hspares, by decide +kernel, tracked_rows_stay plain hfresh spared hspares⟩

/-- Pruning deletes the row of a tracked connection. The next sample of that connection fails
on the foreign key; or another connection is begun under the same id, both are tracked, and
the sample is stored on the other one's row. -/
theorem tracked_row_pruned :
    let s := run (step plain) opened (snapshot 7 0 :: pruned)
    let s' := run (step plain) s [snapshot 8 0, snapshot 7 1]
    s.pruning = .returned ∧ s.world.2.connections.rows.map (·.tracked.connectionId) = [1] ∧
      s.world.1.connections.rows = [] ∧
      (∃ c o, snapshot 7 1 = .call c o ∧ (c.exec plain o s.world).1 = .error .foreignKey) ∧
      s'.world.2.connections.rows.map (·.tracked.connectionId) = [1, 1] ∧
      s'.world.1.connections.rows.map (fun r => (r.id, r.socketCookie)) = [(1, 8)] ∧
      s'.world.1.transportSamples.rows.map (fun x => (x.connectionId, x.snapshot.totalRetrans)) =
        [(1, 0), (1, 1)] := by
  refine ⟨by decide +kernel, by decide +kernel, by decide +kernel, ⟨_, _, rfl, by decide +kernel⟩,
    by decide +kernel, by decide +kernel, by decide +kernel⟩

end Session

end NetaAgent.ConnectionTracker
