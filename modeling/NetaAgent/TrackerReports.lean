import NetaAgent.Run
import NetaAgent.TrackerFrames

/-!
What the tracker tells its caller about a connection: that it is newly admitted, that it was closed,
that it is no longer there.

One call tracks at most one new connection, under an id that no row has, and reports only
connections that it stops tracking. So in every sequence of calls an id is admitted once, reported
at most once, and left alone from then on.
-/

namespace NetaAgent.ConnectionTracker

open Decimal Crypto Sql Observation Run HistoryStore List Triple

/-! ### What is stored for a connection -/

/-- The links to TLS observations of the connections that are there stay as they are. -/
structure LinksKept (db₀ db : Store) : Prop where
  held : ∀ id, db₀.Held id → db.Held id
  links : ∀ x : ConnectionTls, db₀.Held x.connectionId →
    (x ∈ db.connectionTls ↔ x ∈ db₀.connectionTls)

lemma LinksKept.refl (db : Store) : LinksKept db db := ⟨fun _ h => h, fun _ _ => Iff.rfl⟩

variable {db db' db₀ : Store}

lemma LinksKept.update (h : LinksKept db₀ db) {p : Connection → Bool}
    {f : Connection → Connection} {hf : ∀ r, (f r).id = r.id} :
    LinksKept db₀ (db.updateConnections p f hf) where
  held id hid := by
    obtain ⟨r, hr, hrid⟩ := h.held id hid
    refine ⟨_, Store.mem_updateConnections.mpr ⟨r, hr, rfl⟩, ?_⟩
    split
    · exact (hf r).trans hrid
    · exact hrid
  links := h.links

lemma steady_linksKept (db₀ : Store) : Steady (LinksKept db₀) where
  touch id ns state := preserves_modify fun db h => h.update
  cookie id c := preserves_statement fun _ db _ _ h hok => by
    cases hok
    exact h.update
  sample sha id s := preserves_statement fun _ db _ _ h hok => by
    split at hok
    · cases hok
      exact ⟨h.held, h.links⟩
    · cases hok
  event id e := preserves_statement fun _ db _ _ h hok => by
    split at hok
    · cases hok
      exact h
    · split at hok
      · cases hok
        exact ⟨h.held, h.links⟩
      · cases hok

lemma linksKept_putProcess (h : LinksKept db₀ db) (p : ProcessIdentity)
    (start : ℤ) : LinksKept db₀ (db.putProcess p start).2 := by
  unfold Store.putProcess
  split
  · exact ⟨h.held, h.links⟩
  · exact ⟨h.held, h.links⟩

lemma preserves_processRow (process : Option ProcessIdentity) :
    Preserves (LinksKept db₀) (processRow process) := by
  cases process with
  | none => exact preserves_pure _
  | some p =>
    refine Preserves.bind (preserves_statement fun _ db id db' h hok => ?_) fun _ =>
      preserves_pure _
    simp only [Except.ok.injEq] at hok
    split at hok
    · next t _ =>
      have hput := linksKept_putProcess h p (int64 (t + 1))
      rw [hok] at hput
      exact hput
    · cases hok
      exact ⟨h.held, h.links⟩

lemma admits_linksKept (db₀ : Store) (direction : ConnectionDirection) :
    Admits (LinksKept db₀) direction := by
  intro socket process host firstSeenNs now
  refine bind (preserves_processRow process) fun processId => ?_
  refine bind (Q := fun id db => LinksKept db₀ db ∧ ¬ db₀.Held id) ?_ fun id => ?_
  · refine statement ?_ (fun _ _ _ hd _ => hd) fun _ _ _ hd => hd
    rintro _ db _ _ h hok
    split at hok
    · cases hok
      refine ⟨⟨fun id hid => ?_, h.links⟩, fun hid => ?_⟩
      · obtain ⟨r, hr, hrid⟩ := h.held id hid
        exact ⟨r, Table.mem_add.mpr (.inl hr), hrid⟩
      · obtain ⟨r, hr, hrid⟩ := h.held _ hid
        exact Nat.ne_of_lt (Table.lt_nextId hr) hrid
    · cases hok
  · refine bind (Q := fun _ => LinksKept db₀) ?_ fun _ => pure fun _ h => h
    refine bind (state (Q := fun _ db => LinksKept db₀ db ∧ ¬ db₀.Held id)
      fun _ h => h) fun db => ?_
    split
    · split
      · refine statement ?_ (fun _ _ _ hd _ => hd.1) fun _ _ _ hd => hd.1
        rintro _ db _ _ ⟨h, hnew⟩ hok
        split at hok
        · cases hok
          refine ⟨h.held, fun x hx => ?_⟩
          have hne : x.connectionId ≠ id := fun heq => hnew (heq ▸ hx)
          rw [← h.links x hx]
          simp [Table.mem_replace, hne, show x ≠ ⟨id, _⟩ from fun heq => hne (congrArg _ heq)]
        · cases hok
      · exact pure fun _ h => h.1
    · exact pure fun _ h => h.1

/-- The row, the events and the samples of the connection `id` are what they were. -/
structure Unaffected (id : ℕ) (db db' : Store) : Prop where
  row : ∀ r : Connection, r.id = id → (r ∈ db'.connections ↔ r ∈ db.connections)
  events : ∀ e : LifecycleEvent, e.connectionId = id →
    (e ∈ db'.lifecycleEvents ↔ e ∈ db.lifecycleEvents)
  samples : ∀ x : TransportSample, x.connectionId = id →
    (x ∈ db'.transportSamples ↔ x ∈ db.transportSamples)

lemma Unaffected.refl (id : ℕ) (db : Store) : Unaffected id db db :=
  ⟨fun _ _ => Iff.rfl, fun _ _ => Iff.rfl, fun _ _ => Iff.rfl⟩

lemma Unaffected.trans {id : ℕ} {a b d : Store} (h : Unaffected id a b) (h' : Unaffected id b d) :
    Unaffected id a d where
  row r hr := (h'.row r hr).trans (h.row r hr)
  events e he := (h'.events e he).trans (h.events e he)
  samples x hx := (h'.samples x hx).trans (h.samples x hx)

lemma untouched_of_writes {id i : ℕ} {c : Option ℕ} (h : Writes i c db db')
    (hne : id ≠ i) : Unaffected id db db' where
  row r hr := by
    constructor
    · intro hmem
      obtain ⟨r₀, hr₀, hc⟩ := h.back r hmem
      rwa [hc.other fun heq => hne (hr.symm.trans (hc.sameId.trans heq))]
    · intro hmem
      obtain ⟨r', hr', hc⟩ := h.forth r hmem
      rwa [← hc.other fun heq => hne (hr.symm.trans heq)]
  events e he := h.events e fun heq => hne (he.symm.trans heq)
  samples x hx := h.samples x fun heq => hne (hx.symm.trans heq)

lemma untouched_of_begun {id i raw : ℕ} (h : Begun db i raw db')
    (hheld : db.Held id) : Unaffected id db db' := by
  have hne : id ≠ i := by
    obtain ⟨r, hr, rfl⟩ := hheld
    exact h.fresh r hr
  refine ⟨fun r hr => ⟨fun hmem => ?_, h.forth r⟩, fun e he => h.events e fun heq =>
    hne (he.symm.trans heq), fun x hx => h.samples x fun heq => hne (hx.symm.trans heq)⟩
  exact (h.back r hmem).resolve_right fun hnew => hne (hr.symm.trans hnew.1)

/-! ### What one call does -/

/-- The tracker holds the connection `id`. -/
def Tracks (s : World) (id : ℕ) : Prop := ∃ e ∈ s.2.connections, e.tracked.connectionId = id

/-- From `s` to `s'` the connections `new` were begun and are tracked, and `gone` are no longer
tracked; what is stored for the others that were not tracked is what it was. -/
structure Outcome (s s' : World) (new gone : List ℕ) : Prop where
  tracked : ∀ id, Tracks s' id → Tracks s id ∨ id ∈ new
  fresh : ∀ id ∈ new, ¬ s.1.Held id ∧ s'.1.Held id
  newOnce : new.Nodup
  goneOnce : gone.Nodup
  gone : ∀ id ∈ gone, Tracks s id ∧ ¬ Tracks s' id
  held : ∀ id, s.1.Held id → s'.1.Held id
  untouched : ∀ id, s.1.Held id → ¬ Tracks s id → Unaffected id s.1 s'.1

section
variable {s s' : World} {e₀ e : Entry} {c : Option ℕ} {new gone : List ℕ}

lemma Outcome.refl (s : World) : Outcome s s [] [] where
  tracked _ h := .inl h
  fresh _ h := absurd h not_mem_nil
  newOnce := nodup_nil
  goneOnce := nodup_nil
  gone _ h := absurd h not_mem_nil
  held _ h := h
  untouched id _ _ := .refl id s.1

lemma Outcome.silent (h : Outcome s s' new gone) : Outcome s s' new [] :=
  { h with goneOnce := nodup_nil, gone := fun _ h => absurd h not_mem_nil }

lemma Outcome.trans {s'' : World} {gone' : List ℕ} (h : Outcome s s' [] gone)
    (h' : Outcome s' s'' [] gone') : Outcome s s'' [] (gone ++ gone') where
  tracked id hid := (h'.tracked id hid).elim (h.tracked id) fun hnil => absurd hnil not_mem_nil
  fresh _ hnil := absurd hnil not_mem_nil
  newOnce := nodup_nil
  goneOnce := h.goneOnce.append h'.goneOnce fun id hid hid' => (h.gone id hid).2 (h'.gone id hid').1
  gone id hid := by
    have hback : ∀ i, Tracks s'' i → Tracks s' i := fun i hi =>
      (h'.tracked i hi).elim (fun ht => ht) fun hnil => absurd hnil not_mem_nil
    rcases mem_append.mp hid with hid | hid
    · exact ⟨(h.gone id hid).1, fun ht => (h.gone id hid).2 (hback id ht)⟩
    · exact ⟨(h.tracked id (h'.gone id hid).1).elim (fun ht => ht) fun hnil => absurd hnil not_mem_nil,
        (h'.gone id hid).2⟩
  held id hid := h'.held id (h.held id hid)
  untouched id hid hnot := (h.untouched id hid hnot).trans (h'.untouched id (h.held id hid)
    fun ht => (h.tracked id ht).elim hnot fun hnil => absurd hnil not_mem_nil)

lemma outcome_serving (he₀ : e₀ ∈ s.2.connections) (h : Serving s e₀ c e s') :
    Outcome s s' [] [] where
  tracked id hid := by
    obtain ⟨x, hx, rfl⟩ := hid
    rcases (h.entries x).mp hx with ⟨hx, -⟩ | rfl
    · exact .inl ⟨x, hx, rfl⟩
    · exact .inl ⟨e₀, he₀, h.connectionId.symm⟩
  fresh _ hnil := absurd hnil not_mem_nil
  newOnce := nodup_nil
  goneOnce := nodup_nil
  gone _ hnil := absurd hnil not_mem_nil
  held id hid := hid.writes h.writes
  untouched id _ hnot := untouched_of_writes h.writes fun heq => hnot ⟨e₀, he₀, heq.symm⟩

lemma outcome_dropped (hs : Sound s) (he₀ : e₀ ∈ s.2.connections) (h : Serving s e₀ c e s') :
    Outcome s (s'.1, s'.2.drop e.identity) [] [e₀.tracked.connectionId] := by
  have hserved := outcome_serving he₀ h
  have hback : ∀ id, Tracks (s'.1, s'.2.drop e.identity) id →
      Tracks s id ∧ id ≠ e₀.tracked.connectionId := by
    rintro id ⟨x, hx, rfl⟩
    obtain ⟨hx, hne⟩ := h.mem_drop.mp hx
    exact ⟨⟨x, hx, rfl⟩, fun heq => hne (congrArg Entry.identity (hs.distinct x hx e₀ he₀ heq))⟩
  refine ⟨fun id hid => .inl (hback id hid).1, fun _ hnil => absurd hnil not_mem_nil, nodup_nil,
    nodup_singleton _, fun id hid => ?_, hserved.held, hserved.untouched⟩
  rw [mem_singleton.mp hid]
  exact ⟨⟨e₀, he₀, rfl⟩, fun ht => (hback _ ht).2 rfl⟩

lemma outcome_begun {id raw : ℕ} (h : Begun s.1 id raw s'.1) (htr : s'.2 = s.2) :
    Outcome s s' [] [] where
  tracked i hi := .inl (by rwa [Tracks, htr] at hi)
  fresh _ hnil := absurd hnil not_mem_nil
  newOnce := nodup_nil
  goneOnce := nodup_nil
  gone _ hnil := absurd hnil not_mem_nil
  held i hi := by
    obtain ⟨r, hr, hid⟩ := hi
    exact ⟨r, h.forth r hr, hid⟩
  untouched i hi _ := untouched_of_begun h hi

lemma outcome_quiet (h : Quiet s.1 s'.1) (htr : s'.2 = s.2) : Outcome s s' [] [] where
  tracked i hi := .inl (by rwa [Tracks, htr] at hi)
  fresh _ hnil := absurd hnil not_mem_nil
  newOnce := nodup_nil
  goneOnce := nodup_nil
  gone _ hnil := absurd hnil not_mem_nil
  held i hi := by
    obtain ⟨r, hr, hid⟩ := hi
    exact ⟨r, by rwa [h.connections], hid⟩
  untouched i _ _ := ⟨fun r _ => by rw [h.connections], fun x _ => by rw [h.events],
    fun x _ => by rw [h.samples]⟩

lemma outcome_admitted {ev : Evidence} {id : ℕ} (h : Admitted ev s id s') :
    Outcome s s' [id] [] := by
  obtain ⟨t, key, hb, hfree, hid, -, htr⟩ := h
  have hnew : ¬ s.1.Held id := fun ⟨r, hr, hrid⟩ => hb.fresh r hr hrid
  refine ⟨?_, ?_, nodup_singleton _, nodup_nil, fun _ hnil => absurd hnil not_mem_nil, ?_, ?_⟩
  · rintro i ⟨x, hx, rfl⟩
    rw [htr, Tracker.mem_track hfree] at hx
    rcases hx with hx | rfl
    · exact .inl ⟨x, hx, rfl⟩
    · exact .inr (mem_singleton.mpr hid)
  · intro i hi
    rw [mem_singleton.mp hi]
    exact ⟨hnew, hb.held⟩
  · rintro i ⟨r, hr, hrid⟩
    exact ⟨r, hb.forth r hr, hrid⟩
  · exact fun i hi _ => untouched_of_begun hb hi

end

/-! ### What a call tells -/

def admittedIds : Except StoreError Result → List ℕ
  | .ok (.admission (some a)) => if a.newlyAdmitted then [a.connectionId] else []
  | _ => []

/-- The connections a call reports closed or inactive. -/
def reportedIds : Except StoreError Result → List ℕ
  | .ok (.admission (some a)) => if a.closed then [a.connectionId] else []
  | .ok (.inactive ids) => ids
  | _ => []

section
variable {s s' : World} {F : StoreError → Prop}

/-- What is left by a call that returns or throws, with what it tells. -/
def Tells (s : World) (r : Except StoreError Result) (s' : World) : Prop :=
  Outcome s s' (admittedIds r) (reportedIds r)

lemma Returns.tells {ev : Evidence} (hs : Sound s) {r : Option ConnectionAdmission}
    (h : Returns ev s r s') : Tells s (.ok (.admission r)) s' := by
  cases h with
  | ignored => exact .refl s
  | kept e₀ promoted direction hopen he ht h =>
    obtain ⟨c, e, -, hserving⟩ := h
    exact outcome_serving he hserving
  | dropped e₀ hclosing he ht h =>
    obtain ⟨c, e, s₁, -, hserving, rfl⟩ := h
    exact outcome_dropped hs he hserving
  | admitted direction h => exact outcome_admitted h

lemma Throws.outcome {ev : Evidence} (h : Throws ev s s') : Outcome s s' [] [] := by
  cases h with
  | quiet h htr => exact outcome_quiet h htr
  | kept he ht h =>
    obtain ⟨c, e, -, hserving⟩ := h
    exact outcome_serving he hserving
  | begun h htr => exact outcome_begun h htr

lemma Tends.outcome (hs : Sound s) (h : Tends s s') : Outcome s s' [] [] := by
  obtain ⟨e₀, he₀, e, s₁, -, hserving, rfl | rfl⟩ := h
  · exact outcome_serving he₀ hserving
  · exact (outcome_dropped hs he₀ hserving).silent

lemma Sweep.outcome (hs : Sound s) (h : Sweep s s') : Outcome s s' [] [] := by
  induction h with
  | refl => exact .refl s
  | tail hsweep ht ih => exact ih.trans (ht.outcome (Sweep.sound hsweep hs))

lemma sweeps_outcome (s : World) : Sweeps fun gone s' => Sound s' ∧ Outcome s s' [] gone where
  sound h := h.1
  serve h he hs := ⟨h.1.serving he hs,
    by simpa only [append_nil] using h.2.trans (outcome_serving he hs)⟩
  drop h he hs := ⟨(h.1.serving he hs).subset fun _ hx => (Tracker.mem_drop.mp hx).1,
    h.2.trans (outcome_dropped h.1 he hs)⟩

lemma endSnapshotLoop_outcome (hs : Sound s) (polling incomplete : Bool) (ids : List Text) :
    Triple F (· = s) (endSnapshotLoop polling incomplete ids)
      (fun gone s' => Outcome s s' [] gone) fun _ s' => Outcome s s' [] [] :=
  ((endSnapshotLoop_triple (sweeps_outcome s) polling incomplete ids []).weaken
    (fun _ _ h => h.2) fun _ _ h => h.2.choose_spec.2.silent).here ⟨hs, .refl s⟩

lemma outcome_unmarked (s : World) : Outcome s (s.1, unmarked s.2) [] [] where
  tracked id h := by
    obtain ⟨e, he, rfl⟩ := h
    obtain ⟨e', he', rfl⟩ := mem_unmarked.mp he
    exact .inl ⟨e', he', rfl⟩
  fresh _ h := absurd h not_mem_nil
  newOnce := nodup_nil
  goneOnce := nodup_nil
  gone _ h := absurd h not_mem_nil
  held _ h := h
  untouched id _ _ := .refl id s.1

/-- **What every call tells.** -/
theorem Call.tells_triple (cfg : Config) (call : Call) (hs : Sound s) :
    Triple F (· = s) (call.program cfg) (fun r s' => Tells s (.ok r) s')
      fun _ s' => Outcome s s' [] [] := by
  cases call with
  | observeLifecycle now event direction =>
    refine bind ((observeLifecycle_triple cfg hs now direction).relax
      fun _ _ h => h.2.outcome) fun a => pure fun _ h => h.tells hs
  | observeSocket now process socket direction allowNew origin =>
    refine bind ((observeSocket_triple cfg hs now direction allowNew origin).relax
      fun _ _ h => h.2.outcome) fun a =>
        pure fun _ h => h.tells hs
  | beginSnapshot =>
    exact bind beginSnapshot_triple fun _ => pure fun _ h => h ▸ outcome_unmarked s
  | endSnapshot order polling incomplete =>
    refine bind (bind tracker_triple fun tr => start fun s₁ hs₁ => ?_)
      fun gone => pure fun _ h => h
    rw [hs₁.2]
    exact endSnapshotLoop_outcome hs polling incomplete _
  | finishObservation order polling =>
    exact bind ((finishObservation_triple hs order polling).relax
      fun _ _ h => h.2.outcome hs) fun _ => pure fun _ h => h.outcome hs

theorem Call.tells (cfg : Config) (call : Call) (o : Oracle Text) (hs : Sound s) :
    Tells s (call.exec cfg o s).1 (call.exec cfg o s).2 := by
  rcases (call.tells_triple (F := fun _ => True) cfg hs).exec (fun _ _ _ => trivial) rfl with
    ⟨r, hr, h⟩ | ⟨e, he, h⟩
  · rw [Call.exec, hr]
    exact h
  · rw [Call.exec, he]
    exact h

end

lemma Call.links_kept (cfg : Config) (call : Call) (o : Oracle Text) (s : World) :
    LinksKept s.1 (call.exec cfg o s).2.1 := by
  have hsteady := steady_linksKept s.1
  have hpromote : ∀ id direction, Preserves (LinksKept s.1) (promoteConnectionDirection id direction) := by
    intro id direction
    unfold promoteConnectionDirection
    split
    · exact preserves_pure _
    · refine preserves_statement fun _ db _ _ h hok => ?_
      cases hok
      exact h.update
  have hkeeps : Preserves (OnStore (LinksKept s.1)) (call.program cfg) :=
    hsteady.keeping.program (fun direction => hsteady.opens (admits_linksKept s.1 direction))
      (fun id direction => preserves_onDb (hpromote id direction)) (preserves_setTracker _) cfg call
  exact hkeeps.exec (o.map .failed) (.refl s.1)

/-! ### Sequences of calls -/

/-- The store and the tracker, and what the calls so far returned or threw. -/
structure Logged where
  world : World
  log : List (Except StoreError Result)

namespace Logged

variable (cfg : Config) (x : Logged) (i : Call × Oracle Text)

def step : Logged :=
  ⟨(i.1.exec cfg i.2 x.world).2, x.log ++ [(i.1.exec cfg i.2 x.world).1]⟩

/-- The ids that were returned as newly admitted, in the order of the calls. -/
def admitted : List ℕ := x.log.flatMap admittedIds

def reported : List ℕ := x.log.flatMap reportedIds

def trackedIds : List ℕ := x.world.2.connections.rows.map (·.tracked.connectionId)

/-- A new tracker, on a store in which the pending TLS observation is there. -/
def Opened : Prop :=
  x.world.2 = .initial ∧ x.world.1.PendingHeld ∧ x.log = []

structure Orderly (x : Logged) : Prop where
  sound : Sound x.world
  admittedOnce : x.admitted.Nodup
  reportedOnce : x.reported.Nodup
  admittedHeld : ∀ id ∈ x.admitted, x.world.1.Held id
  tracked : ∀ id, Tracks x.world id → id ∈ x.admitted
  reported : ∀ id ∈ x.reported, id ∈ x.admitted ∧ ¬ Tracks x.world id

lemma admitted_step :
    (step cfg x i).admitted = x.admitted ++ admittedIds (i.1.exec cfg i.2 x.world).1 := by
  simp [admitted, step]

lemma reported_step :
    (step cfg x i).reported = x.reported ++ reportedIds (i.1.exec cfg i.2 x.world).1 := by
  simp [reported, step]

lemma Opened.orderly {x : Logged} (h : Opened x) : Orderly x := by
  obtain ⟨htr, hpending, hlog⟩ := h
  have hempty : ∀ e, e ∉ x.world.2.connections := fun e => by
    rw [htr]
    exact Table.not_mem_empty e
  have hadmitted : x.admitted = [] := by rw [admitted, hlog]; rfl
  have hreported : x.reported = [] := by rw [reported, hlog]; rfl
  refine ⟨⟨fun e he => absurd he (hempty e), fun e he => absurd he (hempty e), hpending⟩, ?_, ?_,
    ?_, fun id ⟨e, he, _⟩ => absurd he (hempty e), ?_⟩
  · rw [hadmitted]
    exact nodup_nil
  · rw [hreported]
    exact nodup_nil
  · rw [hadmitted]
    exact fun _ h => absurd h not_mem_nil
  · rw [hreported]
    exact fun _ h => absurd h not_mem_nil

lemma Orderly.step {x : Logged} (h : Orderly x) (cfg : Config) (i : Call × Oracle Text) :
    Orderly (Logged.step cfg x i) := by
  have htells : Outcome x.world (Logged.step cfg x i).world _ _ := i.1.tells cfg i.2 h.sound
  refine ⟨(i.1.exec_leaves cfg i.2 h.sound).sound h.sound, ?_, ?_, ?_, ?_, ?_⟩
  · -- a new id has no row, and the ids admitted before have one
    rw [admitted_step]
    exact h.admittedOnce.append htells.newOnce fun id hold hnew =>
      (htells.fresh id hnew).1 (h.admittedHeld id hold)
  · rw [reported_step]
    exact h.reportedOnce.append htells.goneOnce fun id hold hgone =>
      (h.reported id hold).2 (htells.gone id hgone).1
  · intro id hid
    rw [admitted_step, mem_append] at hid
    rcases hid with hid | hid
    · exact htells.held id (h.admittedHeld id hid)
    · exact (htells.fresh id hid).2
  · intro id hid
    rw [admitted_step, mem_append]
    exact (htells.tracked id hid).imp_left (h.tracked id)
  · intro id hid
    rw [reported_step, mem_append] at hid
    rw [admitted_step, mem_append]
    rcases hid with hid | hid
    · -- it is not tracked again: only an id without a row is
      obtain ⟨hadmitted, hnot⟩ := h.reported id hid
      refine ⟨.inl hadmitted, fun ht => ?_⟩
      rcases htells.tracked id ht with ht | hnew
      · exact hnot ht
      · exact (htells.fresh id hnew).1 (h.admittedHeld id hadmitted)
    · exact ⟨.inl (h.tracked id (htells.gone id hid).1), (htells.gone id hid).2⟩

lemma Orderly.run {x : Logged} (h : Orderly x) (cfg : Config) (w : List (Call × Oracle Text)) :
    Orderly (run (Logged.step cfg) x w) := inv_run_all (fun _ i hx => hx.step cfg i) h w

lemma Orderly.trackedIds_nodup {x : Logged} (h : Orderly x) : x.trackedIds.Nodup := by
  refine List.Nodup.map_on (fun e he e' he' heq => h.sound.distinct e he e' he' heq) ?_
  exact List.Nodup.of_map _ x.world.2.connections.nodup

/-- **One admission, one report, and nothing after it.** After every sequence of calls of the
tracker the tracked ids are distinct, every id that is tracked or was reported was returned as newly
admitted exactly once, no id was reported twice, and no further call changes what is stored for an
id that was reported. -/
theorem tracker_reports_once (cfg : Config) (x : Logged) (hx : Opened x)
    (w : List (Call × Oracle Text)) :
    (run (step cfg) x w).trackedIds.Nodup ∧
      (∀ id, (run (step cfg) x w).admitted.count id ≤ 1 ∧
        (run (step cfg) x w).reported.count id ≤ 1) ∧
      (∀ id ∈ (run (step cfg) x w).trackedIds ++ (run (step cfg) x w).reported,
        (run (step cfg) x w).admitted.count id = 1) ∧
      ∀ id ∈ (run (step cfg) x w).reported, ∀ i : Call × Oracle Text,
        Unaffected id (run (step cfg) x w).world.1 (step cfg (run (step cfg) x w) i).world.1 ∧
          ∀ t, (⟨id, t⟩ : ConnectionTls) ∈ (step cfg (run (step cfg) x w) i).world.1.connectionTls ↔
            (⟨id, t⟩ : ConnectionTls) ∈ (run (step cfg) x w).world.1.connectionTls := by
  have h := hx.orderly.run cfg w
  generalize run (step cfg) x w = y at h
  refine ⟨h.trackedIds_nodup, fun id => ⟨nodup_iff_count_le_one.mp h.admittedOnce id,
    nodup_iff_count_le_one.mp h.reportedOnce id⟩, fun id hid => ?_, fun id hid i => ?_⟩
  · refine count_eq_one_of_mem h.admittedOnce ?_
    rcases mem_append.mp hid with hid | hid
    · obtain ⟨e, he, rfl⟩ := mem_map.mp hid
      exact h.tracked _ ⟨e, he, rfl⟩
    · exact (h.reported id hid).1
  · obtain ⟨hadmitted, hnot⟩ := h.reported id hid
    have hheld := h.admittedHeld id hadmitted
    refine ⟨(i.1.tells cfg i.2 h.sound).untouched id hheld hnot, fun t => ?_⟩
    exact (i.1.links_kept cfg i.2 y.world).links ⟨id, t⟩ hheld

def new : Logged := ⟨(.initial, .initial), []⟩

lemma opened_new : Opened new := ⟨rfl, fun _ hp => (by cases hp), rfl⟩

/-- A socket is admitted by a snapshot and closed by an event. -/
def admittedAndClosed : List (Call × Oracle Text) :=
  [(snapshotOf 7 5 0, steady), (eventOf .close (some 7) 5, steady)]

theorem tracker_reports_once_closed :
    (run (step plain) new admittedAndClosed).reported = [1] ∧
      (run (step plain) new admittedAndClosed).admitted.count 1 = 1 :=
  ⟨by decide +kernel, (tracker_reports_once plain new opened_new admittedAndClosed).2.2.1 1
    (by decide +kernel)⟩

end Logged

end NetaAgent.ConnectionTracker
