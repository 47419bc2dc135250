import NetaAgent.OutboundAtomicity
import NetaAgent.OutboundWire

/-!
Event counters, event identifiers and producer keys over the whole life of an outbox.

A ledger is the database together with every row that was ever inserted, deleted or not. The
outbox is opened again and again under one agent identifier; `initialize_schema` creates what
is missing and leaves the rest. No counter and no identifier is given twice, because the
counter of the next event only rises, in the transaction that inserts the row, as long as that
transaction lasts: the failing step of a `SELECT` may end it.
-/

namespace NetaAgent.OutboundQueue

open Decimal Crypto Sql Run NapEnvelope
  OutboundDispatcher
open List Table

/-- What `initialize_schema` makes of the database file, if there is one. -/
def initializeSchema (file : Option Database) : Database := file.getD .initial

/-- The rows of `db'` that are new. -/
def inserted (db db' : Database) : List Row :=
  db'.messages.rows.filter fun r => r.eventCounter ∉ counters db

def UniqueProducers (db : Database) : Prop :=
  ∀ r ∈ db.messages, ∀ r' ∈ db.messages, r.producerKey = r'.producerKey → r = r'

variable {sha : Sha256} {o : Oracle Text} {db db' : Database}

lemma UniqueProducers.change {op : Operation} (h : UniqueProducers db) (hc : Change op db db')
    (hcfg : op.config = none) : UniqueProducers db' := by
  intro r₁' hr₁' r₂' hr₂' hkey
  obtain ⟨r₁, hr₁, hd₁⟩ := hc.descends hcfg hr₁'
  obtain ⟨r₂, hr₂, hd₂⟩ := hc.descends hcfg hr₂'
  have hsame := h r₁ hr₁ r₂ hr₂ (by rw [← hd₁.producerKey, hkey, hd₂.producerKey])
  refine eq_of_key_eq hr₁' hr₂' ?_
  rw [hd₁.eventId, hd₂.eventId, hsame]

variable {s : Session Database} {x : Finding}

lemma UniqueProducers.exec (h : UniqueProducers db) (hs : Sound db) (op : Operation) :
    UniqueProducers (op.exec sha o db) := by
  have hdoes := op.exec_does sha o db
  have hchange := hdoes.change hs
  generalize op.exec sha o db = db' at hdoes hchange ⊢
  cases hdoes with
  | evicted hev => exact fun r hr r' hr' => h r (hev.mem hr) r' (hev.mem hr')
  | coalesced => exact h
  | inserted hoffer hins =>
    obtain ⟨mid, messages, hev, hins, -, hproducer, hdb⟩ := hins
    intro r hr r' hr' hkey
    rw [hdb] at hr hr'
    rcases (mem_insert hins).mp hr with hr | rfl <;>
      rcases (mem_insert hins).mp hr' with hr' | rfl
    · exact h r (hev.mem hr) r' (hev.mem hr') hkey
    · exact absurd hkey (hproducer r hr)
    · exact absurd hkey.symm (hproducer r' hr')
    · rfl
  | attempted | acknowledged => exact h.change hchange rfl
  | updated _ hcfg => exact h.change hchange hcfg

/-! ### A producer key that has a row -/

/-- `enqueue` for a producer key that has a row throws, or returns the row's identifier; the
rows stay. -/
lemma enqueue_found (cfg : Config) (now : ℕ) {r : Row}
    (hu : UniqueProducers s.db) (hr : r ∈ s.db.messages)
    (hkey : r.producerKey = bindText x.producerKey) (hids : ∀ r ∈ s.db.messages, r.eventId ≠ [])
    (hselect : (o.fails (s.count + 1)).all Failure.atPrepare) :
    (∃ e, (enqueue cfg x now o s).1 = .error e ∧ (enqueue cfg x now o s).2.db = s.db) ∨
      (enqueue cfg x now o s).1 = .ok r.eventId ∧
        (enqueue cfg x now o s).2.db = { s.db with coalesced := s.db.coalesced + 1 } := by
  rcases enqueue_cases cfg x now o s with herr | ⟨r', hr', hkey', hok, hdb⟩ | ⟨-, -, -, hmissed⟩
  · exact .inl herr
  · rw [hu r hr r' hr' (hkey.trans hkey'.symm)]
    exact .inr ⟨hok, hdb⟩
  · exact absurd hkey (hmissed hselect hids r hr)

lemma enqueue_found_returns (cfg : Config) (now : ℕ) {r : Row}
    (hr : r ∈ s.db.messages) (hkey : r.producerKey = bindText x.producerKey)
    (hids : ∀ r ∈ s.db.messages, r.eventId ≠ []) (hfails : ∀ n, o.fails n = none) :
    ∃ id, (enqueue cfg x now o s).1 = .ok id := by
  cases hfind : s.db.messages.rows.find? fun r => r.producerKey = bindText x.producerKey with
  | none => exact absurd (find?_eq_none.mp hfind r hr) (by simpa using hkey)
  | some r₀ =>
    have hid : r₀.eventId ≠ [] := hids r₀ (mem_of_find?_eq_some hfind)
    refine ⟨r₀.eventId, ?_⟩
    refine transaction_steady hfails
      ⟨{ s.db with coalesced := s.db.coalesced + 1 }, s.count + 1 + 1 + 1⟩ ?_
    rw [bind_apply_ok (lookup_steady hfails), existingEvent, hfind, enqueueAfter]
    simp only [Option.map_some, Option.getD_some, ne_eq, hid, not_false_eq_true, if_true]
    rw [Sql.modify, bind_apply_ok (statement_steady hfails rfl)]
    rfl

/-- A `SELECT` that does not fail while it steps leaves the transaction open. -/
lemma enqueueEnding_eq (cfg : Config) (ends : Bool) (now : ℕ)
    (hselect : (o.fails (s.count + 1)).all Failure.atPrepare) :
    enqueueEnding cfg ends x now o s = enqueue cfg x now o s := by
  have hopen : ended ends o s = false := by
    unfold ended
    cases h : o.fails (s.count + 1) with
    | none => simp
    | some failure =>
      rw [h, Option.all_some] at hselect
      simp [hselect]
  unfold enqueueEnding transactionOf enqueue
  rw [hopen, if_neg Bool.false_ne_true]

/-! ### The ledger -/

structure Ledger where
  db : Database
  /-- Every row that was inserted, as it was then, oldest first. -/
  given : List Row

namespace Ledger

inductive Action where
  /-- With `ends`, a transaction ends when the step of its first `SELECT` fails. -/
  | call (op : Operation) (o : Oracle Text) (ends : Bool)
  /-- The database is opened again. -/
  | reopen

def start : Ledger := ⟨initializeSchema none, []⟩

def exec (sha : Sha256) (o : Oracle Text) (ends : Bool) (db : Database) : Operation → Database
  | .enqueue cfg x now => (Sql.exec (enqueueEnding cfg ends x now) o db).2
  | .enqueueGapMarker cfg now =>
    (Sql.exec (gapMarkerBy sha fun x => enqueueEnding cfg ends x now) o db).2
  | op => op.exec sha o db

def step (sha : Sha256) (l : Ledger) : Action → Ledger
  | .call op o ends =>
    ⟨exec sha o ends l.db op, l.given ++ inserted l.db (exec sha o ends l.db op)⟩
  | .reopen => { l with db := initializeSchema (some l.db) }

variable (agent : Text)

def Action.By : Action → Prop
  | .call op _ _ => ∀ cfg, op.config = some cfg → cfg.agentId = agent
  | .reopen => True

/-- The `SELECT` for the producer key does not fail while it steps. In `enqueue_gap_marker` two
statements come before the `enqueue`. -/
def Action.looked : Action → Bool
  | .call (.enqueue _ _ _) o _ => (o.fails 1).all Failure.atPrepare
  | .call (.enqueueGapMarker _ _) o _ => (o.fails 3).all Failure.atPrepare
  | _ => true

/-- An `enqueue` for a producer key that has a row throws and changes nothing, or returns the
identifier of that row and leaves all rows as they are; where no statement fails, it
returns. -/
def Coalesces (l : Ledger) : Action → Prop
  | .call (.enqueue cfg x now) o ends => ∀ r ∈ l.db.messages,
      r.producerKey = bindText x.producerKey →
      ((∃ e, (Sql.exec (enqueueEnding cfg ends x now) o l.db).1 = .error e ∧
          (Sql.exec (enqueueEnding cfg ends x now) o l.db).2 = l.db) ∨
        (Sql.exec (enqueueEnding cfg ends x now) o l.db).1 = .ok r.eventId ∧
          (Sql.exec (enqueueEnding cfg ends x now) o l.db).2.messages = l.db.messages) ∧
      ((∀ n, o.fails n = none) →
        (Sql.exec (enqueueEnding cfg ends x now) o l.db).1 = .ok r.eventId)
  | _ => True

def idOf (counter : ℕ) : Text := eventIdOf ⟨agent, 0⟩ counter

lemma idOf_injective : Function.Injective (idOf agent) := fun _ _ h => eventIdOf_inj h

lemma idOf_ne_nil (counter : ℕ) : idOf agent counter ≠ [] := by
  simp [idOf, eventIdOf]

structure Good (agent : Text) (l : Ledger) : Prop where
  sound : Sound l.db
  producers : UniqueProducers l.db
  ids : ∀ g ∈ l.given, g.eventId = idOf agent g.eventCounter
  fresh : ∀ g ∈ l.given, g.eventCounter < l.db.nextEventCounter
  nodup : (l.given.map Row.eventCounter).Nodup
  known : ∀ r ∈ l.db.messages, ∃ g ∈ l.given, SameEvent g r

lemma good_start : start.Good agent where
  sound := sound_initial
  producers r hr := absurd hr (not_mem_empty r)
  ids g hg := by simp [start] at hg
  fresh g hg := by simp [start] at hg
  nodup := nodup_nil
  known r hr := absurd hr (not_mem_empty r)

variable {agent : Text} {l : Ledger}

lemma Good.eventId_ne_nil (h : l.Good agent) {r : Row}
    (hr : r ∈ l.db.messages) : r.eventId ≠ [] := by
  obtain ⟨g, hg, hsame⟩ := h.known r hr
  rw [hsame.eventId, h.ids g hg]
  exact idOf_ne_nil agent _

lemma inserted_row (hnul : NulFree agent) {op : Operation}
    (hby : ∀ cfg, op.config = some cfg → cfg.agentId = agent) (hc : Change op db db') {r : Row}
    (hr : r ∈ inserted db db') : r.eventCounter = db.nextEventCounter ∧
      db.nextEventCounter < db'.nextEventCounter ∧ r.eventId = idOf agent r.eventCounter := by
  obtain ⟨hmem, hnew⟩ := mem_filter.mp hr
  rw [decide_eq_true_eq] at hnew
  rcases hc.origin r hmem with ⟨r₀, hr₀, hd⟩ | ⟨hlt, cfg, x, now, hcfg, rfl⟩
  · exact absurd (hd.eventCounter ▸ mem_counters hr₀) hnew
  · obtain rfl := hby cfg hcfg
    exact ⟨rfl, hlt, (⟨cfg, hnul⟩ : Enrolled).bindText_eventIdOf _⟩

/-- `enqueue_gap_marker` with the transaction of its `enqueue` left open. -/
lemma gapMarkerBy_eq (cfg : Config) (ends : Bool) (now : ℕ)
    (hselect : (o.fails 3).all Failure.atPrepare) :
    gapMarkerBy sha (fun x => enqueueEnding cfg ends x now) o ⟨db, 0⟩ =
      enqueueGapMarker sha cfg now o ⟨db, 0⟩ := by
  unfold enqueueGapMarker gapMarkerBy
  refine bind_apply_congr fun rows s₁ hscan => ?_
  have hs₁ : s₁.count = 1 := (congrArg (·.2.count) hscan).symm.trans scan_count
  generalize rows.foldl readGapRow (0, 0) = counts
  obtain ⟨dropped, reported⟩ := counts
  by_cases hle : dropped ≤ reported
  · simp only [if_pos hle]
  simp only [if_neg hle]
  refine bind_apply_congr fun pending s₂ hlook => ?_
  have hs₂ : s₂.count = s₁.count + 1 := (congrArg (·.2.count) hlook).symm.trans lookup_count
  rcases pending with _ | r
  · simp only [Option.isSome_none, Bool.false_eq_true, if_false]
    refine bind_apply_congr' (enqueueEnding_eq cfg ends now ?_) fun _ _ _ => rfl
    rw [hs₂, hs₁]
    exact hselect
  · simp only [Option.isSome_some, if_true]

lemma exec_eq {op : Operation} {ends : Bool} (h : (Action.call op o ends).looked = true) :
    exec sha o ends db op = op.exec sha o db := by
  cases op with
  | enqueue cfg x now =>
    have heq := @enqueueEnding_eq o ⟨db, 0⟩ x cfg ends now h
    simp only [exec, Operation.exec, Sql.exec, heq]
  | enqueueGapMarker cfg now =>
    have heq := @gapMarkerBy_eq sha o db cfg ends now h
    simp only [exec, Operation.exec, Sql.exec, heq]
  | _ => rfl

lemma Good.call (hnul : NulFree agent) (h : l.Good agent)
    {op : Operation} (hby : ∀ cfg, op.config = some cfg → cfg.agentId = agent) {ends : Bool}
    (hlooked : (Action.call op o ends).looked = true) :
    (l.step sha (.call op o ends)).Good agent := by
  rw [step, exec_eq hlooked]
  have hc := op.change sha o h.sound
  have hs := hc.sound h.sound
  have hnew := fun r hr => inserted_row (r := r) hnul hby hc hr
  refine ⟨hs, h.producers.exec h.sound op, fun g hg => ?_, fun g hg => ?_, ?_, fun r hr => ?_⟩
  · rcases mem_append.mp hg with hg | hg
    · exact h.ids g hg
    · exact (hnew g hg).2.2
  · rcases mem_append.mp hg with hg | hg
    · exact (h.fresh g hg).trans_le hc.next_le
    · rw [(hnew g hg).1]
      exact (hnew g hg).2.1
  · -- the counters given before are below the next one, and a call inserts one row
    rw [map_append, nodup_append]
    refine ⟨h.nodup, ?_, ?_⟩
    · refine List.Nodup.map_on (fun r hr r' hr' heq => ?_) ((rows_nodup _).filter _)
      exact hs.unique r (mem_filter.mp hr).1 r' (mem_filter.mp hr').1 heq
    · rintro c hc' c' hc'' rfl
      obtain ⟨g, hg, rfl⟩ := mem_map.mp hc'
      obtain ⟨r, hr, heq⟩ := mem_map.mp hc''
      exact (h.fresh g hg).ne (heq.symm.trans (hnew r hr).1)
  · rcases hc.origin r hr with ⟨r₀, hr₀, hd⟩ | ⟨hlt, cfg, x, now, hcfg, rfl⟩
    · obtain ⟨g, hg, hsame⟩ := h.known r₀ hr₀
      exact ⟨g, mem_append_left _ hg, hsame.trans hd.toSameEvent⟩
    · refine ⟨_, mem_append_right _ (mem_filter.mpr ⟨hr, ?_⟩), .refl _⟩
      rw [decide_eq_true_eq]
      intro hmem
      obtain ⟨r₀, hr₀, heq⟩ := mem_map.mp hmem
      exact (h.sound.fresh r₀ hr₀).ne heq

lemma Good.step (hnul : NulFree agent) (h : l.Good agent) {a : Action}
    (hby : a.By agent) (hlooked : a.looked = true) : (l.step sha a).Good agent := by
  cases a with
  | call op o ends => exact h.call hnul hby hlooked
  | reopen => exact h

lemma Good.coalesces (h : l.Good agent) {a : Action} (hlooked : a.looked = true) :
    l.Coalesces a := by
  match a with
  | .call (.enqueue cfg x now) o ends =>
    intro r hr hkey
    have heq := @enqueueEnding_eq o ⟨l.db, 0⟩ x cfg ends now hlooked
    simp only [Sql.exec, heq]
    have hids : ∀ r ∈ l.db.messages, r.eventId ≠ [] := fun r hr => h.eventId_ne_nil hr
    have hcases := enqueue_found cfg now (s := ⟨l.db, 0⟩) h.producers hr hkey hids hlooked
    refine ⟨hcases.imp id fun hrow => ⟨hrow.1, by rw [hrow.2]⟩, fun hfails => ?_⟩
    obtain ⟨id, hid⟩ := enqueue_found_returns cfg now (s := ⟨l.db, 0⟩) hr hkey hids hfails
    rcases hcases with ⟨e, herr, -⟩ | ⟨hok, -⟩
    · rw [hid] at herr
      cases herr
    · exact hok
  | .call (.nextReady _) _ _ | .call (.storeAttempt _ _ _) _ _ | .call (.markRetry _ _ _) _ _
  | .call (.markDeadLetter _ _) _ _ | .call (.markAcknowledged _ _ _) _ _
  | .call (.enqueueGapMarker _ _) _ _ | .call (.pruneAcknowledged _) _ _ | .reopen => trivial

/-- **Freshness.** In every sequence of calls and reopenings under one agent identifier, with
any failures but one, no event counter and no event identifier is given to two events, every row is
one of the events given, no two rows have the same producer key, and an `enqueue` for a producer
key that has a row returns the identifier of that row, or throws, and leaves the rows as they are.
The one failure is that of the `SELECT` for the producer key while it steps. -/
theorem identifiers_given_once (sha : Sha256) (agent : Text) (hnul : NulFree agent)
    (w : List Action) (hby : ∀ a ∈ w, a.By agent) (hlooked : ∀ a ∈ w, a.looked = true) :
    let l := run (step sha) start w
    (l.given.map Row.eventCounter).Nodup ∧ (l.given.map Row.eventId).Nodup ∧
      (∀ r ∈ l.db.messages, ∃ g ∈ l.given, SameEvent g r) ∧
      (l.db.messages.rows.map Row.producerKey).Nodup ∧
      Along (step sha) Coalesces start w := by
  intro l
  have hall : Along (step sha) (fun _ a => a.By agent ∧ a.looked = true) start w :=
    along_of_mem fun a ha => ⟨hby a ha, hlooked a ha⟩
  have hgood : l.Good agent :=
    inv_run (fun _ _ h ha => h.step hnul ha.1 ha.2) (good_start agent) hall
  refine ⟨hgood.nodup, ?_, hgood.known, ?_, ?_⟩
  · have hids : l.given.map Row.eventId = (l.given.map Row.eventCounter).map (idOf agent) := by
      rw [map_map]
      exact map_congr_left hgood.ids
    rw [hids]
    exact hgood.nodup.map (idOf_injective agent)
  · exact List.Nodup.map_on (fun r hr r' hr' => hgood.producers r hr r' hr') l.db.messages.rows_nodup
  · refine along_of_inv (I := Good agent) (fun l a h ha => ?_) (good_start agent) hall
    exact ⟨h.step hnul ha.1 ha.2, h.coalesces ha.2⟩

/-- Two findings of one producer, with the outbox opened again in between. -/
def repeated : List Action :=
  [.call (.enqueue ⟨"a", 600⟩ (History.lowFinding "p") 5) History.steady true, .reopen,
    .call (.enqueue ⟨"a", 600⟩ (History.lowFinding "p") 6) History.steady true]

theorem identifiers_given_once_repeated :
    (∀ a ∈ repeated, a.By "a") ∧ (∀ a ∈ repeated, a.looked = true) ∧
      ((run (step fun _ _ => 0) start repeated).given.map Row.eventId) = ["a:1"] ∧
      Along (step fun _ _ => 0) Coalesces start repeated := by
  have hby : ∀ a ∈ repeated, a.By "a" := by
    simp [repeated, Action.By, Operation.config]
  have hlooked : ∀ a ∈ repeated, a.looked = true := by simp [repeated, Action.looked, History.steady]
  exact ⟨hby, hlooked, by decide +kernel,
    (identifiers_given_once (fun _ _ => 0) "a" (by unfold NulFree; decide) repeated hby
      hlooked).2.2.2.2⟩

/-- The `SELECT` fails while it steps, the row with the producer key is evicted, and the
finding gets a second identifier, whether or not the transaction ends: if it does, the call throws
with the new row in the table. -/
theorem producer_key_given_again :
    let call := fun ends => Sql.exec (enqueueEnding ⟨"a", 600⟩ ends (History.lowFinding "p") 6)
      selectFails (run (step fun _ _ => 0) start
        [.call (.enqueue ⟨"a", 600⟩ (History.lowFinding "p") 5) History.steady true]).db
    (call false).1 = .ok "a:2" ∧
      (call true).1 = .error "cannot commit - no transaction is active" ∧
      ∀ ends, (call ends).2.messages.rows.map (fun r => (r.eventId, r.producerKey)) =
        [("a:2".toList, "p".toList)] := by
  decide +kernel

end Ledger

end NetaAgent.OutboundQueue
