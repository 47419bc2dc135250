import NetaAgent.SessionFrames

/-!
The directions of the connections a session stores.

A direction is written when a connection is begun and when an unknown one is promoted. So a
condition on serial numbers and directions that a new row meets, and that a promotion keeps, holds
of every row at every point. One instance says which directions the mode allows, another that a
direction that is known stays what it is.
-/

namespace NetaAgent.ObservationSession

open Decimal Crypto Sql Observation HistoryStore
open HistoryMaintenance ConnectionTracker AdmissionPolicy NetaAgent.Process Process.Proc Table

/-! ### Conditions on rows -/

/-- At least `lo` connections were inserted, their rows have numbers of their own, and every row
meets `Φ`. -/
structure Directed (lo : ℕ) (Φ : ℕ → ConnectionDirection → Prop) (db : Store) : Prop where
  inserted : lo ≤ db.inserted
  numbered : ∀ r ∈ db.connections, r.serial < db.inserted
  distinct : ∀ r ∈ db.connections, ∀ r' ∈ db.connections, r.serial = r'.serial → r.id = r'.id
  rows : ∀ r ∈ db.connections, Φ r.serial r.direction

section
variable {lo : ℕ} {Φ : ℕ → ConnectionDirection → Prop} {db db' : Store}

lemma Directed.mono (h : Directed lo Φ db) (hin : db'.inserted = db.inserted)
    (hrows : ∀ r ∈ db'.connections, r ∈ db.connections) : Directed lo Φ db' where
  inserted := hin ▸ h.inserted
  numbered r hr := hin ▸ h.numbered r (hrows r hr)
  distinct r hr r' hr' := h.distinct r (hrows r hr) r' (hrows r' hr')
  rows r hr := h.rows r (hrows r hr)

lemma Directed.update (h : Directed lo Φ db) {p : Connection → Bool} {f : Connection → Connection}
    {hf : ∀ r, (f r).id = r.id} (hserial : ∀ r, (f r).serial = r.serial)
    (hdirection : ∀ r, p r = true → Φ r.serial r.direction → Φ r.serial (f r).direction) :
    Directed lo Φ (db.updateConnections p f hf) := by
  -- a row comes from one with its id and number, whose direction may have changed
  have hback : ∀ r ∈ (db.updateConnections p f hf).connections, ∃ r₀ ∈ db.connections,
      r₀.id = r.id ∧ r₀.serial = r.serial ∧ (Φ r₀.serial r₀.direction → Φ r₀.serial r.direction) := by
    intro r hr
    obtain ⟨r₀, hr₀, rfl⟩ := Store.mem_updateConnections.mp hr
    refine ⟨r₀, hr₀, ?_⟩
    split
    · next hp => exact ⟨(hf r₀).symm, (hserial r₀).symm, hdirection r₀ hp⟩
    · exact ⟨rfl, rfl, fun h => h⟩
  refine ⟨h.inserted, fun r hr => ?_, fun r hr r' hr' heq => ?_, fun r hr => ?_⟩
  · obtain ⟨r₀, hr₀, -, hn, -⟩ := hback r hr
    exact hn ▸ h.numbered r₀ hr₀
  · obtain ⟨r₀, hr₀, hid, hn, -⟩ := hback r hr
    obtain ⟨r₁, hr₁, hid₁, hn₁, -⟩ := hback r' hr'
    rw [← hid, ← hid₁]
    exact h.distinct r₀ hr₀ r₁ hr₁ (hn.trans (heq.trans hn₁.symm))
  · obtain ⟨r₀, hr₀, -, hn, hΦ⟩ := hback r hr
    exact hn ▸ hΦ (h.rows r₀ hr₀)

variable (lo Φ)

lemma steady_directed : Steady (Directed lo Φ) where
  touch id ns state := preserves_modify fun db h => h.update (fun _ => rfl) fun _ _ h => h
  cookie id c := preserves_statement fun _ db _ _ h hok => by
    cases hok
    exact h.update (fun _ => rfl) fun _ _ h => h
  sample sha id s := preserves_statement fun _ db _ _ h hok => by
    split at hok
    · cases hok
      exact h.mono rfl fun _ hr => hr
    · cases hok
  event id e := preserves_statement fun _ db _ _ h hok => by
    split at hok
    · cases hok
      exact h
    · split at hok
      · cases hok
        exact h.mono rfl fun _ hr => hr
      · cases hok

lemma preserves_saveVerdict (v : Verdict) : Preserves (Directed lo Φ) (saveVerdict v) := by
  refine Preserves.bind (preserves_statement fun _ db _ _ h hok => ?_) fun _ =>
    preserves_modify fun db h => h.update (fun _ => rfl) fun _ _ h => h
  split at hok
  · cases hok
    exact h.mono rfl fun _ hr => hr
  · cases hok

variable {lo Φ}

lemma preserves_processRow_directed (process : Option ProcessIdentity) :
    Preserves (Directed lo Φ) (processRow process) :=
  Triple.start fun db h => (processRow_triple (fun _ => True) db process).weaken
    (fun _ _ hd => h.mono hd.1.inserted fun _ hr => hd.1.connections ▸ hr) fun _ _ hd => hd.2 ▸ h

variable {direction : ConnectionDirection}

lemma Directed.insert (h : Directed lo Φ db)
    (hnew : ∀ n, lo ≤ n → Φ n direction) (s : SocketObservation) (processId : Option ℕ)
    (targetHost : Text) (firstSeenNs now : ℕ) :
    Directed lo Φ (db.insertConnection s processId targetHost firstSeenNs now direction) where
  inserted := h.inserted.trans (Nat.le_succ _)
  numbered r hr := by
    rcases mem_add.mp hr with hold | rfl
    · exact (h.numbered r hold).trans (Nat.lt_succ_self _)
    · exact Nat.lt_succ_self _
  distinct r hr r' hr' heq := by
    rcases mem_add.mp hr with hold | rfl
    · rcases mem_add.mp hr' with hold' | rfl
      · exact h.distinct r hold r' hold' heq
      · exact absurd heq (Nat.ne_of_lt (h.numbered r hold))
    · rcases mem_add.mp hr' with hold' | rfl
      · exact absurd heq.symm (Nat.ne_of_lt (h.numbered r' hold'))
      · rfl
  rows r hr := by
    rcases mem_add.mp hr with hold | rfl
    · exact h.rows r hold
    · exact hnew _ h.inserted

lemma admits_directed (hnew : ∀ n, lo ≤ n → Φ n direction) : Admits (Directed lo Φ) direction := by
  intro socket process host firstSeenNs now
  refine (preserves_processRow_directed process).bind fun processId => ?_
  refine Preserves.bind (preserves_statement fun _ db _ _ h hok => ?_) fun id => ?_
  · split at hok
    · cases hok
      exact h.insert hnew _ _ _ _ _
    · cases hok
  · refine Preserves.bind (preserves_state.bind fun db => ?_) fun _ => preserves_pure _
    split
    · split
      · refine preserves_statement fun _ db _ _ h hok => ?_
        split at hok
        · cases hok
          exact h.mono rfl fun _ hr => hr
        · cases hok
      · exact preserves_pure _
    · exact preserves_pure _

lemma preserves_promote (hpromote : ∀ n, Φ n .unknown → Φ n direction) (id : ℕ) :
    Preserves (Directed lo Φ) (promoteConnectionDirection id direction) := by
  unfold promoteConnectionDirection
  split
  · exact preserves_pure _
  · refine preserves_statement fun _ db _ _ h hok => ?_
    cases hok
    refine h.update (fun _ => rfl) fun r hp hrow => ?_
    simp only [decide_eq_true_eq] at hp
    exact hpromote r.serial (hp.2 ▸ hrow)

lemma Directed.prune (h : Directed lo Φ db) (a : HistoryMaintenance.Answer) (p : Pruning) :
    Directed lo Φ (p.step db a).1 := by
  unfold Pruning.step
  split
  · split
    · exact h
    · split
      · exact h
      · next hok =>
        rcases Stage.statement_cases hok with hquiet | ⟨-, rfl⟩ | ⟨-, rfl⟩ | ⟨-, rfl⟩
        · exact h.mono hquiet.inserted fun r hr => hquiet.connections ▸ hr
        · exact h.mono rfl fun _ hr => hr
        · exact h.mono rfl fun r hr => ((mem_deleteConnections fun _ => mem_of_mem_normalBatch).mp hr).1
        · exact h.mono rfl fun r hr =>
            ((mem_deleteConnections fun _ => mem_of_mem_anomalousBatch).mp hr).1
  · exact h

lemma Directed.pruneToBudget (h : Directed lo Φ db) (maxBytes : ℕ)
    (answers : List HistoryMaintenance.Answer) :
    Directed lo Φ (pruneToBudget maxBytes answers db).1 := by
  unfold ObservationSession.pruneToBudget
  generalize Pruning.running maxBytes 0 .measure = p
  induction answers generalizing db p with
  | nil => exact h
  | cons a answers ih => exact ih (h.prune a p) _

end

/-! ### Directions -/

section
variable {cfg : Setup} {lo : ℕ} {Φ : ℕ → ConnectionDirection → Prop}

/-- Every action keeps a condition that the rows of the mode meet and promotions keep. -/
lemma lasting_directed (hunknown : cfg.policy.mode = .target ∨ cfg.policy.mode = .all →
      ∀ n, lo ≤ n → Φ n .unknown)
    (hpermits : ∀ direction, permits cfg.policy direction = true → ∀ n, lo ≤ n → Φ n direction)
    (hpromote : ∀ direction, permits cfg.policy direction = true →
      ∀ n, Φ n .unknown → Φ n direction) : Lasting cfg (OnStore (Directed lo Φ)) where
  verdict v := preserves_onDb (preserves_saveVerdict lo Φ v)
  beginSnapshot := preserves_setTracker _
  observeSocket now process socket direction allowNew origin ha := by
    refine (steady_directed lo Φ).keeping.observeSocket (fun hnew => ?_) cfg.tracker now process
      socket origin
    rw [ha.1]
    exact (steady_directed lo Φ).opens (admits_directed (hunknown (ha.2 hnew)))
  observeLifecycle now event direction ha := by
    refine (steady_directed lo Φ).keeping.observeLifecycle (fun htype => ?_) cfg.tracker now
    have hdirection := permits_of_evaluate htype ha
    exact ⟨(steady_directed lo Φ).opens (admits_directed (hpermits direction hdirection)),
      fun id => preserves_onDb (preserves_promote (hpromote direction hdirection) id)⟩
  endSnapshot order polling incomplete :=
    (steady_directed lo Φ).keeping.endSnapshot order polling incomplete
  finishObservation order polling := (steady_directed lo Φ).keeping.finishObservation order polling
  maintain m _ answers s h := h.pruneToBudget m.maxBytes answers

lemma directed_fresh (Φ : ℕ → ConnectionDirection → Prop) : Directed 0 Φ (fresh cfg).1.1 where
  inserted := Nat.le_refl _
  numbered r hr := absurd hr (not_mem_empty r)
  distinct r hr := absurd hr (not_mem_empty r)
  rows r hr := absurd hr (not_mem_empty r)

lemma storable_run (n : ℕ) (w : List Answer) :
    Obeys cfg (Run.run Proc.advance (run cfg n, fresh cfg) w).1 ∧
      Directed 0 (fun _ => Storable cfg.policy.mode)
        (Run.run Proc.advance (run cfg n, fresh cfg) w).2.1.1 := by
  refine invariant_run (P := OnWorld (OnStore (Directed 0 fun _ => Storable cfg.policy.mode)))
    (Lasting.program (lasting_directed ?_ ?_ ?_)) (obeys_run n) (directed_fresh _) w
  · exact fun hmode _ _ => storable_unknown hmode
  · exact fun _ hpermits _ _ => storable_of_permits hpermits
  · exact fun _ hpermits _ _ => storable_of_permits hpermits

/-- What the row with the number of `r` may show after it showed the direction of `r`. -/
def SameDirection (r : Connection) (n : ℕ) (direction : ConnectionDirection) : Prop :=
  n = r.serial → direction = r.direction

lemma Directed.sameDirection {db : Store} (h : Directed lo Φ db) {r : Connection}
    (hr : r ∈ db.connections) : Directed db.inserted (SameDirection r) db where
  inserted := Nat.le_refl _
  numbered := h.numbered
  distinct := h.distinct
  rows r' hr' heq := by
    rw [eq_of_key_eq hr' hr (h.distinct r' hr' r hr heq)]

lemma lasting_sameDirection {r : Connection} (hknown : r.direction ≠ .unknown) (hlo : r.serial < lo) :
    Lasting cfg (OnStore (Directed lo (SameDirection r))) := by
  refine lasting_directed (fun _ n hn heq => ?_) (fun _ _ n hn heq => ?_) fun _ _ n h heq => ?_
  · exact absurd (heq ▸ hn) (Nat.not_le.mpr hlo)
  · exact absurd (heq ▸ hn) (Nat.not_le.mpr hlo)
  · exact absurd (h heq).symm hknown

/-- **The directions of a session.** At every point of every run on a new store each connection has
a direction that the mode allows, and a direction that is known stays from then on: the row that was
inserted with the same number shows it at every later point. -/
theorem session_directions (cfg : Setup) (n : ℕ) (w w' : List Answer) :
    (∀ r ∈ (Run.run Proc.advance (run cfg n, fresh cfg) w).2.1.1.connections,
      (cfg.policy.mode = .outbound → r.direction = .outbound) ∧
      (cfg.policy.mode = .inbound → r.direction = .inbound) ∧
      (cfg.policy.mode = .target → r.direction = .outbound ∨ r.direction = .unknown)) ∧
    ∀ r ∈ (Run.run Proc.advance (run cfg n, fresh cfg) w).2.1.1.connections,
      r.direction ≠ .unknown →
      ∀ r' ∈ (Run.run Proc.advance (run cfg n, fresh cfg) (w ++ w')).2.1.1.connections,
        r'.serial = r.serial → r'.direction = r.direction := by
  obtain ⟨hobeys, hstored⟩ := @storable_run cfg n w
  refine ⟨fun r hr => ?_, fun r hr hknown r' hr' => ?_⟩
  · have hrow := hstored.rows r hr
    refine ⟨fun hmode => ?_, fun hmode => ?_, fun hmode => ?_⟩
    · rwa [hmode] at hrow
    · rwa [hmode] at hrow
    · rwa [hmode] at hrow
  · rw [show Run.run Proc.advance (run cfg n, fresh cfg) (w ++ w') =
      Run.run Proc.advance (Run.run Proc.advance (run cfg n, fresh cfg) w) w' from
        List.foldl_append] at hr'
    exact (invariant_run (Lasting.program (lasting_sameDirection hknown (hstored.numbered r hr)))
      hobeys (hstored.sameDirection hr) w').2.rows r' hr'

end

end NetaAgent.ObservationSession
