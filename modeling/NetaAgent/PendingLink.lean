import NetaAgent.HistoryMaintenance
import NetaAgent.Run

/-!
`begin_connection` beside `add_tls` and `prune_to_budget`, statement by statement.

`begin_connection` is three statements, each of which commits on its own: the row of the process,
the row of the connection, and the link to the TLS observation that `add_tls` left in memory.
Pruning may run between any two of them, and it deletes observations that nothing refers to, the
one in memory too.
-/

namespace NetaAgent.BeginConnection

open Decimal Sql Observation Run HistoryStore HistoryMaintenance

structure Begin where
  socket : SocketObservation
  process : Option ProcessIdentity
  targetHost : Text
  firstSeenNs : ℕ
  captureNow : ℕ
  direction : ConnectionDirection

/-- A call, before each of its statements and after the last one. -/
inductive Beginning where
  | upserting (b : Begin)
  | inserting (b : Begin) (processId : Option ℕ)
  | linking (b : Begin) (connectionId : ℕ)
  | returned (connectionId : ℕ)
  | threw (e : StoreError)

def Beginning.isOver : Beginning → Bool
  | .returned _ | .threw _ => true
  | _ => false

def Beginning.isLinking : Beginning → Bool
  | .linking _ _ => true
  | _ => false

def follow {α : Type} (r : Except StoreError α × Store) (next : α → Beginning) :
    Store × Beginning :=
  match r with
  | (.ok a, db) => (db, next a)
  | (.error e, db) => (db, .threw e)

def Beginning.step (db : Store) (o : Oracle StoreError) : Beginning → Store × Beginning
  | .upserting b => follow (exec (processRow b.process) o db) (.inserting b)
  | .inserting b processId =>
    follow (exec (insertConnection b.socket processId b.targetHost b.firstSeenNs b.captureNow
      b.direction) o db) (.linking b)
  | .linking b connectionId =>
    follow (exec (linkPendingTls connectionId b.targetHost b.socket.remotePort) o db)
      fun _ => .returned connectionId
  | c => (db, c)

/-- Wherever it stands, the program does what it does as a call, with some oracle. -/
def Placed {D ε α : Type} (m : SqlM D ε α) : Prop :=
  ∀ o s, ∃ o', exec m o' s.db = ((m o s).1, (m o s).2.db)

lemma placed_statement {D ε α : Type} (f : (ℕ → ℕ) → D → Except ε (α × D)) :
    Placed (statement f) := by
  refine fun o s => ⟨⟨fun _ => o.fails s.count, fun _ => o.tie s.count⟩, ?_⟩
  unfold exec statement
  cases o.fails s.count with
  | none => rcases f (o.tie s.count) s.db with e | ⟨a, d⟩ <;> rfl
  | some => rfl

lemma placed_linkPendingTls (id : ℕ) (host : Text) (port : ℕ) :
    Placed (linkPendingTls id host port) := by
  have hstate {f : Store → StoreM Unit} (h : ∀ db, Placed (f db)) : Placed (state >>= f) :=
    fun o s => h s.db o s
  refine hstate fun db => ?_
  split
  · split
    · exact placed_statement _
    · exact fun o _ => ⟨o, rfl⟩
  · exact fun o _ => ⟨o, rfl⟩

/-- **A call is its three statements** when nothing comes between them. -/
theorem begin_eq_statements (b : Begin) (o : Oracle StoreError) (db : Store) :
    ∃ o₁ o₂ o₃, follow (exec (beginConnection b.socket b.process b.targetHost b.firstSeenNs
        b.captureNow b.direction) o db) .returned =
      let s₁ := Beginning.step db o₁ (.upserting b)
      let s₂ := s₁.2.step s₁.1 o₂
      s₂.2.step s₂.1 o₃ := by
  refine ⟨o, ?_⟩
  simp only [exec, beginConnection, Beginning.step]
  rcases h₁ : processRow b.process o ⟨db, 0⟩ with ⟨e | processId, s₁⟩
  · exact ⟨o, o, by rw [bind_apply_error h₁]; rfl⟩
  simp only [bind_apply_ok h₁, follow]
  generalize hm : insertConnection b.socket processId b.targetHost b.firstSeenNs b.captureNow
    b.direction = m
  obtain ⟨o₂, h₂⟩ := (hm ▸ placed_statement _ : Placed m) o s₁
  rcases h : m o s₁ with ⟨e | id, s₂⟩ <;> simp only [exec, h] at h₂
  · exact ⟨o₂, o, by rw [bind_apply_error h, h₂]⟩
  obtain ⟨o₃, h₃⟩ := placed_linkPendingTls id b.targetHost b.socket.remotePort o s₂
  refine ⟨o₂, o₃, ?_⟩
  rw [bind_apply_ok h, h₂]
  simp only [exec] at h₃
  simp only [h₃]
  rcases h₄ : linkPendingTls id b.targetHost b.socket.remotePort o s₂ with ⟨e | u, s₃⟩
  · rw [bind_apply_error h₄]
  · rw [bind_apply_ok h₄]
    rfl

/-! ### Beside pruning -/

/-- The store, the call of `begin_connection` made last, and the call of `prune_to_budget` made
last. -/
structure World where
  db : Store
  call : Beginning
  pruning : Pruning

/-- The calls of one store, which follow one another, and pruning, which does not wait for
them. -/
inductive Action where
  | addTls (t : TlsObservation) (o : Oracle Text)
  | start (b : Begin)
  | proceed (o : Oracle Text)
  | prune (maxBytes : ℕ)
  | maintain (a : Answer)

namespace World

def step (s : World) : Action → World
  | .addTls t o =>
    if s.call.isOver then { s with db := (exec (addTls t) (o.map .failed) s.db).2 } else s
  | .start b => if s.call.isOver then { s with call := .upserting b } else s
  | .proceed o =>
    { s with
      db := (s.call.step s.db (o.map .failed)).1
      call := (s.call.step s.db (o.map .failed)).2 }
  | .prune maxBytes =>
    match s.pruning with
    | .running _ _ _ => s
    | _ => { s with pruning := .running maxBytes 0 .measure }
  | .maintain a =>
    { s with db := (s.pruning.step s.db a).1, pruning := (s.pruning.step s.db a).2 }

/-- A store that was just opened: it remembers no observation, and nothing is called. -/
def Opened (s : World) : Prop :=
  s.db.pendingTls = none ∧ s.call.isOver = true ∧ s.pruning = .returned

/-- Pruning keeps the pending observation, and the statement that links to it does not fail of
itself. -/
def Spares (s : World) : Action → Prop
  | .proceed o => s.call.isLinking = true → (o.fails 0).isNone = true
  | .maintain a => s.pruning.Spares (fun stage => stage = .orphanTls → PendingSpared s.db) a
  | _ => True

/-- What a statement of the call may come to. The second one begins a connection under an id
that no row has, and the call returns this id. A call that throws leaves no row of its own, and
not because the pending observation is gone. -/
def Settles (s s' : World) : Prop :=
  match s.call, s'.call with
  | .inserting _ _, .linking _ id => s'.db.Held id ∧ ∀ r ∈ s.db.connections, r.id ≠ id
  | .linking _ id, .returned id' => id' = id
  | .linking _ id, .threw _ => ¬ s'.db.Held id ∧ s'.db.PendingHeld
  | _, .threw _ => s'.db.connections = s.db.connections
  | _, _ => True

/-! ### Steps -/

lemma pendingHeld_addTls {db : Store} (h : db.PendingHeld) (t : TlsObservation)
    (o : Oracle Text) : (exec (addTls t) (o.map .failed) db).2.PendingHeld := by
  rcases (addTls_triple t db).exec (fun _ _ _ => trivial) rfl with ⟨a, -, hd⟩ | ⟨e, -, hd⟩
  · rw [hd]
    intro p hp
    cases hp
    exact ⟨_, Table.mem_add.mpr (.inr rfl), rfl⟩
  · rwa [hd]

/-- A statement of `prune_to_budget` that spares the pending observation. -/
lemma pendingHeld_maintain {db : Store} (h : db.PendingHeld) {p : Pruning} {a : Answer}
    (hspares : p.Spares (fun stage => stage = .orphanTls → PendingSpared db) a) : (p.step db a).1.PendingHeld := by
  rcases p with _ | ⟨maxBytes, bytes, stage⟩ | e
  · exact h
  · unfold Pruning.step
    simp only
    split
    · exact h
    · next hfails =>
      split
      · exact h
      · next removed db' hst =>
        rcases Stage.statement_cases hst with hq | ⟨rfl, rfl⟩ | ⟨rfl, rfl⟩ | ⟨rfl, rfl⟩
        · intro p hp
          rw [hq.tls]
          exact h p (hq.pending ▸ hp)
        · intro p hp
          obtain ⟨x, hx, hid⟩ := h p hp
          have hkept := hspares hfails rfl x hx (by
            rw [show db.pendingTls = some p from hp, hid]; rfl)
          exact ⟨x, Table.mem_delete.mpr ⟨hx, hkept⟩, hid⟩
        · exact h
        · exact h
  · exact h

section Statements
variable (db : Store) (o : Oracle StoreError)

lemma follow_cases {α : Type} {m : StoreM α} {Q : α → Store → Prop} {E : StoreError → Store → Prop}
    (h : Triple (fun _ => True) (· = db) m Q E) (next : α → Beginning) :
    (∃ a db', follow (exec m o db) next = (db', next a) ∧ Q a db') ∨
      ∃ e db', follow (exec m o db) next = (db', .threw e) ∧ E e db' := by
  have h := h o ⟨db, 0⟩ (fun _ _ _ => trivial) rfl
  unfold exec
  rcases hr : m o ⟨db, 0⟩ with ⟨e | a, s⟩ <;> rw [hr] at h
  · exact .inr ⟨e, s.db, rfl, h⟩
  · exact .inl ⟨a, s.db, rfl, h⟩

lemma upserting_step (b : Begin) :
    (∃ processId db', Beginning.step db o (.upserting b) = (db', .inserting b processId) ∧
      Quiet db db') ∨ ∃ e, Beginning.step db o (.upserting b) = (db, .threw e) := by
  rcases follow_cases db o (processRow_triple (fun _ => True) db b.process) (.inserting b) with
    ⟨processId, db', h, hq, -⟩ | ⟨e, db', h, -, rfl⟩
  · exact .inl ⟨processId, db', h, hq⟩
  · exact .inr ⟨e, h⟩

lemma inserting_step (b : Begin) (processId : Option ℕ) :
    (∃ id db', Beginning.step db o (.inserting b processId) = (db', .linking b id) ∧
      Begun db id b.socket.socketCookie db') ∨
      ∃ e, Beginning.step db o (.inserting b processId) = (db, .threw e) := by
  have hm : Triple (fun _ => True) (· = db) (insertConnection b.socket processId b.targetHost
      b.firstSeenNs b.captureNow b.direction) (fun id d => Begun db id b.socket.socketCookie d)
      fun _ d => d = db := by
    refine Triple.statement ?_ ?_ ?_
    · rintro _ _ _ _ rfl h
      split at h <;> cases h
      exact begun_insertConnection (.refl _) b.socket processId b.targetHost b.firstSeenNs
        b.captureNow b.direction
    · rintro _ _ _ rfl -
      rfl
    · rintro _ _ - rfl
      rfl
  rcases follow_cases db o hm (.linking b) with ⟨id, db', h, hb⟩ | ⟨e, db', h, rfl⟩
  · exact .inl ⟨id, db', h, hb⟩
  · exact .inr ⟨e, h⟩

lemma linking_step (hpending : db.PendingHeld) (hfails : o.fails 0 = none) (b : Begin) (id : ℕ) :
    (∃ db', Beginning.step db o (.linking b id) = (db', .returned id) ∧
      db'.tlsObservations = db.tlsObservations ∧ db'.pendingTls = db.pendingTls) ∨
    Beginning.step db o (.linking b id) = (db, .threw .foreignKey) ∧ ¬ db.Held id := by
  unfold Beginning.step linkPendingTls
  have hstate : (state : StoreM Store) o ⟨db, 0⟩ = (.ok db, ⟨db, 0⟩) := rfl
  simp only [exec, bind_apply_ok hstate]
  rcases hp : db.pendingTls with _ | p
  · exact .inl ⟨_, rfl, rfl, hp⟩
  · simp only
    by_cases htarget : p.host = b.targetHost ∧ p.port = b.socket.remotePort
    · rw [if_pos htarget, linkTlsObservation, statement]
      simp only [hfails]
      have htls : db.hasTls p.id = true := Store.hasTls_iff.mpr (hpending p hp)
      rw [htls, Bool.and_true]
      by_cases hheld : db.hasConnection id = true
      · rw [if_pos hheld]
        exact .inl ⟨_, rfl, rfl, hp⟩
      · rw [if_neg hheld]
        exact .inr ⟨rfl, fun h => hheld (Store.hasConnection_iff.mpr h)⟩
    · rw [if_neg htarget]
      exact .inl ⟨_, rfl, rfl, hp⟩

end Statements

lemma pendingHeld_of_eq {db db' : Store} (h : db.PendingHeld)
    (htls : db'.tlsObservations = db.tlsObservations) (hp : db'.pendingTls = db.pendingTls) :
    db'.PendingHeld := by
  intro p hpending
  rw [htls]
  exact h p (hp ▸ hpending)

/-- **One statement of the call.** -/
lemma proceed_settles {s : World} (h : s.db.PendingHeld) {o : Oracle Text}
    (ho : s.Spares (.proceed o)) :
    (s.step (.proceed o)).db.PendingHeld ∧ s.Settles (s.step (.proceed o)) := by
  obtain ⟨db, call, pruning⟩ := s
  unfold step Settles
  rcases call with b | ⟨b, processId⟩ | ⟨b, id⟩ | id | e
  · rcases upserting_step db (o.map .failed) b with ⟨processId, db', hs, hq⟩ | ⟨e, hs⟩
    · simp only [hs]
      exact ⟨pendingHeld_of_eq h hq.tls hq.pending, trivial⟩
    · simp only [hs]
      exact ⟨h, trivial⟩
  · rcases inserting_step db (o.map .failed) b processId with ⟨id, db', hs, hb⟩ | ⟨e, hs⟩
    · simp only [hs]
      exact ⟨pendingHeld_of_eq h hb.tls hb.pending, hb.held, hb.fresh⟩
    · simp only [hs]
      exact ⟨h, trivial⟩
  · have hfails : (o.map StoreError.failed).fails 0 = none := by
      show (o.fails 0).map _ = none
      rw [Option.isNone_iff_eq_none.mp (ho rfl)]
      rfl
    rcases linking_step db (o.map .failed) h hfails b id with ⟨db', hs, htls, hp⟩ | ⟨hs, hgone⟩
    · simp only [hs]
      exact ⟨pendingHeld_of_eq h htls hp, trivial⟩
    · simp only [hs]
      exact ⟨h, hgone, h⟩
  · exact ⟨h, trivial⟩
  · exact ⟨h, rfl⟩

/-- The statements of `begin_connection` come to what they should. -/
def Honest (s : World) (a : Action) : Prop := ∀ o, a = .proceed o → s.Settles (s.step a)

/-- **One step.** -/
lemma step_honest {s : World} (h : s.db.PendingHeld) {a : Action} (ha : s.Spares a) :
    (s.step a).db.PendingHeld ∧ s.Honest a := by
  cases a with
  | proceed o =>
    obtain ⟨hp, hs⟩ := proceed_settles h ha
    exact ⟨hp, fun _ _ => hs⟩
  | addTls t o =>
    refine ⟨?_, nofun⟩
    unfold step
    simp only
    split
    · exact pendingHeld_addTls h t o
    · exact h
  | start | prune =>
    refine ⟨?_, nofun⟩
    unfold step
    simp only
    split <;> exact h
  | maintain a => exact ⟨pendingHeld_maintain h ha, nofun⟩

/-- **`begin_connection` beside pruning.** While pruning keeps the pending observation and the
statement that links to it does not fail of itself, every call returns the id of the row that it
inserted, or it throws and leaves no row, and never because the pending observation is gone. -/
theorem begin_connection_settles {s : World} (hs : s.Opened) {w : List Action}
    (hw : Along step Spares s w) : Along step Honest s w := by
  refine along_of_inv (I := fun s => s.db.PendingHeld) (fun s a h ha => step_honest h ha) ?_ hw
  intro p hp
  rw [hs.1] at hp
  cases hp

instance (s : World) : ∀ a, Decidable (s.Spares a)
  | .proceed o => inferInstanceAs (Decidable (s.call.isLinking = true → (o.fails 0).isNone = true))
  | .maintain a => inferInstanceAs (Decidable (Pruning.Spares _ a s.pruning))
  | .addTls _ _ | .start _ | .prune _ => inferInstanceAs (Decidable True)

/-! ### Two runs -/

def opened : World := ⟨.initial, .returned 0, .returned⟩

def steady : Oracle Text := ⟨fun _ => none, fun _ _ => 0⟩

def observed : Action := .addTls { targetHost := "h" } steady

def connected (localPort : ℕ) : Begin where
  socket := { localIp := "a", localPort := localPort, remoteIp := "b"
              remotePort := 443, socketCookie := localPort }
  process := none
  targetHost := "h"
  firstSeenNs := 1
  captureNow := 1
  direction := .outbound

def begun (localPort : ℕ) : List Action :=
  .start (connected localPort) :: List.replicate 3 (.proceed steady)

/-- `prune_to_budget` on a database that is over its budget until it is compacted. -/
def pruned : List Action :=
  .prune 100 :: List.replicate 8 (.maintain { size := 1000 }) ++ [.maintain { size := 50 }]

/-- The observation is linked to a connection before pruning. -/
theorem begin_connection_settles_linked :
    opened.Opened ∧ Along step Spares opened (observed :: begun 1 ++ pruned ++ begun 2) ∧
      (run step opened (observed :: begun 1 ++ pruned ++ begun 2)).db.connectionTls.rows =
        [⟨1, 1⟩, ⟨2, 1⟩] ∧
      Along step Honest opened (observed :: begun 1 ++ pruned ++ begun 2) := by
  have hopened : opened.Opened := ⟨rfl, rfl, rfl⟩
  have hspares : Along step Spares opened (observed :: begun 1 ++ pruned ++ begun 2) := by
    decide +kernel
  exact ⟨hopened, hspares, by decide +kernel, begin_connection_settles hopened hspares⟩

/-- The observation is pruned before any connection is linked to it: the call throws because it is
gone, and the row of the connection is left. -/
theorem begin_connection_after_pruning :
    let s := run step opened (observed :: pruned ++ begun 1)
    s.pruning = .returned ∧ s.db.tlsObservations.rows = [] ∧
      s.db.pendingTls = some ⟨1, "h", 443⟩ ∧
      (∃ e, s.call = .threw e ∧ e = .foreignKey) ∧
      s.db.connections.rows.map (fun r => (r.id, r.localPort)) = [(1, 1)] := by
  refine ⟨by decide +kernel, by decide +kernel, by decide +kernel, ⟨.foreignKey, rfl, rfl⟩,
    by decide +kernel⟩

end World

end NetaAgent.BeginConnection
