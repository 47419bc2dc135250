import NetaAgent.OutboundDispatcher
import NetaAgent.OutboundRetention

/-!
Drains of several processes on one outbox.

Every queue method is one atomic step, and a drain reads a message in one step and writes
the new state of its row, by event identifier alone, in a later one. Between the two another
drain may have acknowledged the event. `overtaken` records that for each process; while no
overtaken drain writes, an acknowledged row stays acknowledged until it is deleted.
-/

namespace NetaAgent.OutboundDispatcher

open Decimal Crypto Sql Run OutboundQueue NapEnvelope Acknowledgement Option Phase Operation

def Phase.event : Phase → Option Text
  | .prepare job | .store job _ | .post job _ | .acknowledge job _ _ | .retry job _
  | .deadLetter job _ => some job.ready.eventId
  | _ => none

/-- The event whose state the next step writes, other than to acknowledge it. -/
def Phase.resetEvent : Phase → Option Text
  | .store job _ | .retry job _ | .deadLetter job _ => some job.ready.eventId
  | _ => none

/-- The event that a step between these phases has acknowledged. -/
def acknowledgedEvent : Phase → Phase → Option Text
  | .acknowledge _ message _, .next _ _ => some message.eventId
  | _, _ => none

def Phase.Consistent : Phase → Prop
  | .store job message | .post job message | .acknowledge job message _ =>
    message.eventId = job.ready.eventId
  | _ => True

variable {sha : Sha256} {cfg : Config} {env : Env} {db : Database}

def Phase.operation (cfg : Config) (env : Env) : Phase → Option Operation
  | .begin _ => some (.pruneAcknowledged
      (if acknowledgedRetentionNs < env.now then env.now - acknowledgedRetentionNs else 0))
  | .marker _ now => some (.enqueueGapMarker cfg now)
  | .next maximum result =>
    if result.attempted < maximum then some (.nextReady env.now) else none
  | .store job message => some (.storeAttempt cfg message job.now)
  | .acknowledge _ message ack =>
    some (.markAcknowledged message.eventId ⟨ack.status, ack.receivedAt⟩ env.now)
  | .retry job error =>
    some (.markRetry job.ready.eventId (plus job.now (retryDelayNs job.ready)) error)
  | .deadLetter job error => some (.markDeadLetter job.ready.eventId error)
  | .stopped _ | .prepare _ | .post _ _ => none

variable {ph ph' : Phase}

lemma Phase.operation_config {op : Operation} {c : Config}
    (h : ph.operation cfg env = some op) (hc : op.config = some c) : c = cfg := by
  cases ph with
  | stopped | prepare | post => cases h
  | next =>
    simp only [operation, ite_none_right_eq_some, some.injEq] at h
    obtain ⟨-, rfl⟩ := h
    cases hc
  | _ => cases h; cases hc; try rfl

lemma Phase.operation_stores {op : Operation} {r r' : Row}
    (h : ph.operation cfg env = some op) (hs : op.Stores r r') :
    ∃ job message, ph = .store job message := by
  cases ph with
  | stopped | prepare | post => cases h
  | next =>
    simp only [operation, ite_none_right_eq_some, some.injEq] at h
    obtain ⟨-, rfl⟩ := h
    exact hs.elim
  | store job message => exact ⟨job, message, rfl⟩
  | _ => cases h; exact hs.elim

lemma Phase.step_db (ph : Phase) : (ph.step sha cfg env db).1 =
    ((ph.operation cfg env).map (Operation.exec sha env.oracle db)).getD db := by
  cases ph with
  | stopped | marker | post => rfl
  | next =>
    simp only [Phase.step, Phase.operation]
    split
    · simp only [Operation.exec, map_some, getD_some]
      split <;> rename_i h <;> rw [h]
    · rfl
  | prepare =>
    simp only [Phase.step, Phase.operation]
    split
    · rfl
    · split <;> rfl
  | begin | store | acknowledge | retry | deadLetter =>
    simp only [Phase.step, Phase.operation, Operation.exec, map_some, getD_some]
    split <;> rename_i h <;> rw [h]

inductive Moves (env : Env) (db : Database) : Phase → Phase → Prop
  | stop (ph outcome) : Moves env db ph (.stopped outcome)
  | begin (maximum) : Moves env db (.begin maximum) (.marker maximum env.now)
  | marker (maximum now) : Moves env db (.marker maximum now) (.next maximum {})
  | ready (maximum result) {r : Row} : r ∈ db.messages → r.ready env.now →
      Moves env db (.next maximum result)
        (.prepare ⟨maximum, { result with attempted := result.attempted + 1 }, r.toMessage, env.now⟩)
  | reuse {job} : reusable job.ready job.now → Moves env db (.prepare job) (.post job job.ready)
  | fresh {job e} : ¬ reusable job.ready job.now → newAttempt env job.ready job.now = .ok e →
      Moves env db (.prepare job) (.store job (withEnvelope job.ready e))
  | unprepared (job error) : Moves env db (.prepare job) (.retry job error)
  | stored (job message) : Moves env db (.store job message) (.post job message)
  | unstored (job message error) : Moves env db (.store job message) (.retry job error)
  | answered (job message ack) :
      Moves env db (.post job message) (.acknowledge job message ack)
  | unanswered (job message error) : Moves env db (.post job message) (.retry job error)
  | rejected (job message error) : Moves env db (.post job message) (.deadLetter job error)
  | acknowledged (job message ack result) :
      Moves env db (.acknowledge job message ack) (.next job.maximum result)
  | unacknowledged (job message ack error) :
      Moves env db (.acknowledge job message ack) (.retry job error)

lemma moves_afterPost (job : Job) (message : OutboundMessage) (d : Delivery) :
    Moves env db (.post job message) (afterPost job message d) := by
  cases d with
  | failed => exact .unanswered _ _ _
  | httpError =>
    simp only [afterPost]
    split
    · exact .rejected _ _ _
    · exact .unanswered _ _ _
  | response =>
    simp only [afterPost]
    split
    · exact .unanswered _ _ _
    · split
      · exact .unanswered _ _ _
      · exact .answered _ _ _

variable (sha cfg env) in
lemma Phase.step_moves (ph : Phase) : Moves env db ph (ph.step sha cfg env db).2 := by
  cases ph with
  | stopped => exact .stop _ _
  | begin =>
    simp only [step]
    split
    · exact .begin _
    · exact .stop _ _
  | marker => exact .marker _ _
  | next =>
    simp only [step]
    split
    · split
      · next m db' h =>
        obtain ⟨r, hr, hready, rfl⟩ := nextReady_some (congrArg Prod.fst h)
        exact .ready _ _ hr hready
      · exact .stop _ _
      · exact .stop _ _
    · exact .stop _ _
  | prepare =>
    simp only [step]
    split
    · next h => exact .reuse h
    · next h =>
      split
      · next e he => exact .fresh h he
      · exact .unprepared _ _
  | store =>
    simp only [step]
    split
    · exact .stored _ _
    · exact .unstored _ _ _
  | post job message => exact moves_afterPost job message env.delivery
  | acknowledge =>
    simp only [step]
    split
    · exact .acknowledged _ _ _ _
    · exact .unacknowledged _ _ _ _
  | retry | deadLetter =>
    simp only [step]
    split <;> exact .stop _ _

lemma Moves.consistent (h : Moves env db ph ph') (hc : ph.Consistent) : ph'.Consistent := by
  cases h with
  | stored | answered => exact hc
  | reuse | fresh => rfl
  | _ => trivial

/-- A drain works on the event it worked on before, or on one it has just read from a row
that is not acknowledged. -/
lemma Moves.event {id : Text} (h : Moves env db ph ph')
    (hid : ph'.event = some id) : ph.event = some id ∨
      (∃ maximum result, ph = .next maximum result) ∧
        ∃ r ∈ db.messages, r.eventId = id ∧ r.state ≠ .acknowledged := by
  cases h with
  | stop | begin | marker | acknowledged => cases hid
  | ready maximum result hr hready =>
    refine .inr ⟨⟨maximum, result, rfl⟩, _, hr, some.inj hid, fun hack => ?_⟩
    simp [Row.ready, hack] at hready
  | _ => exact .inl hid

variable (sha cfg env) in
/-- What a step of a drain does to the rows: it acknowledges only the event it says, and
gives another state only to the event it is working on. -/
lemma Phase.step_change (ph : Phase) (hc : ph.Consistent) (hs : Sound db) : ∃ op,
    Change op db (ph.step sha cfg env db).1 ∧
      (∀ r, op.Acks r → ∃ id, acknowledgedEvent ph (ph.step sha cfg env db).2 = some id ∧
        r.eventId = bindText id) ∧
      ∀ r, op.Resets r → ∃ id, ph.resetEvent = some id ∧ r.eventId = bindText id := by
  have hidle : ∃ op, Change op db db ∧
      (∀ r, op.Acks r → ∃ id, acknowledgedEvent ph (ph.step sha cfg env db).2 = some id ∧
        r.eventId = bindText id) ∧
      ∀ r, op.Resets r → ∃ id, ph.resetEvent = some id ∧ r.eventId = bindText id :=
    ⟨.nextReady 0, .refl _ _, fun _ h => h.elim, fun _ h => h.elim⟩
  rw [Phase.step_db]
  rcases hop : ph.operation cfg env with _ | op
  · exact hidle
  have hchange := op.change sha env.oracle hs
  cases ph with
  | stopped outcome | prepare job | post job message => cases hop
  | begin | marker => cases hop; exact ⟨_, hchange, fun _ h => h.elim, fun _ h => h.elim⟩
  | next =>
    simp only [Phase.operation, ite_none_right_eq_some, Option.some.injEq] at hop
    obtain ⟨-, rfl⟩ := hop
    exact ⟨_, hchange, fun _ h => h.elim, fun _ h => h.elim⟩
  | store =>
    cases hop
    refine ⟨_, hchange, fun _ h => h.elim, fun r hr => ⟨_, rfl, ?_⟩⟩
    exact hr.trans (congrArg bindText hc)
  | acknowledge job message ack =>
    cases hop
    rcases markAcknowledged_cases message.eventId ⟨ack.status, ack.receivedAt⟩ env.now env.oracle
      ⟨db, 0⟩ with ⟨e, -, hdb⟩ | ⟨hok, -⟩
    · -- a failed acknowledgement changes nothing
      simp only [map_some, getD_some, Operation.exec, Sql.exec, hdb]
      exact hidle
    · refine ⟨_, hchange, fun r hr => ⟨_, ?_, hr⟩, fun _ h => h.elim⟩
      simp only [Phase.step, Sql.exec, hok, acknowledgedEvent]
  | retry => cases hop; exact ⟨_, hchange, fun _ h => h.elim, fun r hr => ⟨_, rfl, hr⟩⟩
  | deadLetter =>
    cases hop; exact ⟨_, hchange, fun _ h => h.elim, fun r hr => ⟨_, rfl, hr⟩⟩

lemma Phase.step_sound (hs : Sound db) (ph : Phase) : Sound (ph.step sha cfg env db).1 := by
  rw [step_db]
  cases ph.operation cfg env with
  | none => exact hs
  | some op => exact (op.change sha env.oracle hs).sound hs

/-! ### Several drains -/

/-- The outbox, where the drain of each process stands, and whether another process has
acknowledged the event that the process is working on since it read it. -/
structure Drains (P : Type*) where
  db : Database
  phase : P → Phase
  overtaken : P → Bool

/-- What happens next: a process starts a drain, takes a step of it or dies, or a producer
enqueues a finding. -/
inductive Drains.Action (P : Type*) where
  | start (p : P) (maximum : ℕ)
  | step (p : P) (env : Env)
  | crash (p : P)
  | enqueue (cfg : Config) (x : Finding) (now : ℕ) (oracle : Oracle Text)

/-- A step from `ph` to `ph'` acknowledges the event that a drain at `other` works on. -/
def overtakes (ph ph' other : Phase) : Bool :=
  match acknowledgedEvent ph ph', other.event with
  | some id, some id' => bindText id = bindText id'
  | _, _ => false

/-- Whether a drain that stood at `ph` is still overtaken after its own step. -/
def Phase.stillOvertaken (overtaken : Bool) : Phase → Bool
  | .next _ _ => false
  | _ => overtaken

namespace Drains

variable {P : Type*}

def start : Drains P := ⟨.initial, fun _ => .stopped none, fun _ => false⟩

section
variable [DecidableEq P]

def step (sha : Sha256) (cfg : P → Config) (s : Drains P) : Action P → Drains P
  | .start p maximum =>
    match s.phase p with
    | .stopped _ => { s with phase := Function.update s.phase p (.begin maximum) }
    | _ => s
  | .step p env =>
    let after := (s.phase p).step sha (cfg p) env s.db
    { db := after.1
      phase := Function.update s.phase p after.2
      overtaken := fun q =>
        if q = p then (s.phase p).stillOvertaken (s.overtaken p)
        else s.overtaken q || overtakes (s.phase p) after.2 (s.phase q) }
  | .crash p => { s with phase := Function.update s.phase p (.stopped none) }
  | .enqueue cfg x now oracle =>
    { s with db := (Operation.enqueue cfg x now).exec sha oracle s.db }

/-- The rows that are acknowledged before the action are so after it, if they are there. -/
def KeepsAcknowledged (sha : Sha256) (cfg : P → Config) (s : Drains P) (a : Action P) : Prop :=
  ∀ r ∈ s.db.messages.rows, r.state = .acknowledged →
    ∀ r' ∈ (s.step sha cfg a).db.messages.rows, r'.eventCounter = r.eventCounter →
      r'.state = .acknowledged

end

/-- No drain stores an attempt, schedules a retry or gives up for an event that another
drain has acknowledged since this one read it. -/
def Current (s : Drains P) : Action P → Prop
  | .step p _ => (s.phase p).resetEvent.isSome → s.overtaken p = false
  | _ => True

/-- The event of a drain that is not overtaken is not acknowledged. -/
structure Good (s : Drains P) : Prop where
  sound : Sound s.db
  consistent : ∀ p, (s.phase p).Consistent
  current : ∀ p id, (s.phase p).event = some id → s.overtaken p = false →
    ∀ r ∈ s.db.messages, r.eventId = bindText id → r.state ≠ .acknowledged

lemma good_start : (start : Drains P).Good := ⟨sound_initial, fun _ => trivial, nofun⟩

variable [DecidableEq P] {sha : Sha256} {cfg : P → Config} {s : Drains P} {ph ph' : Phase}

lemma Good.update_phase (h : s.Good) (p : P) (hc : ph.Consistent)
    (he : ph.event = none) : ({ s with phase := Function.update s.phase p ph } : Drains P).Good where
  sound := h.sound
  consistent q := by
    rcases eq_or_ne q p with rfl | hq
    · simpa using hc
    · simpa [hq] using h.consistent q
  current q id hid := by
    rcases eq_or_ne q p with rfl | hq
    · simp [he] at hid
    · simp only [Function.update_of_ne hq] at hid
      exact h.current q id hid

lemma Good.step_enqueue (h : s.Good) (c : Config) (x : Finding) (now : ℕ) (o : Oracle Text) :
    (s.step sha cfg (.enqueue c x now o)).Good := by
  have hc := (Operation.enqueue c x now).change sha o h.sound
  refine ⟨hc.sound h.sound, h.consistent, fun p id hid hcur r' hr' hkey hack => ?_⟩
  obtain ⟨r, hr, heq, hack | hack⟩ := hc.acked hr' hack
  · exact h.current p id hid hcur r hr (heq.trans hkey) hack
  · exact hack.elim

lemma resetEvent_event {id : Text} (h : ph.resetEvent = some id) : ph.event = some id := by
  cases ph <;> first | exact h | cases h

lemma acknowledgedEvent_event {id : Text}
    (h : acknowledgedEvent ph ph' = some id) : ph'.event = none := by
  unfold acknowledgedEvent at h
  split at h
  · rfl
  · cases h

lemma stillOvertaken_of_event {id : Text} (h : ph.event = some id) (b : Bool) :
    ph.stillOvertaken b = b := by
  cases ph <;> first | rfl | cases h

/-- The step of one drain: whoever works on an event that is acknowledged now was overtaken
before, or has been overtaken by this step. -/
lemma Good.step_step (h : s.Good) (p : P) (env : Env) : (s.step sha cfg (.step p env)).Good := by
  obtain ⟨op, hc, hacks, -⟩ := (s.phase p).step_change sha (cfg p) env (h.consistent p) h.sound
  have hmoves : Moves env s.db _ _ := (s.phase p).step_moves sha (cfg p) env
  refine ⟨hc.sound h.sound, fun q => ?_, fun q id hid hcur r' hr' hkey hack => ?_⟩
  · rcases eq_or_ne q p with rfl | hq
    · simpa [step] using hmoves.consistent (h.consistent q)
    · simpa [step, hq] using h.consistent q
  obtain ⟨r, hr, heq, hbefore⟩ := hc.acked hr' hack
  have hkey : r.eventId = bindText id := heq.trans hkey
  rcases eq_or_ne q p with rfl | hq
  · simp only [step, Function.update_self, if_true] at hid hcur
    rcases hbefore with hack | hack
    · rcases hmoves.event hid with hid₀ | ⟨-, r₀, hr₀, rfl, hstate⟩
      · rw [stillOvertaken_of_event hid₀] at hcur
        exact h.current q id hid₀ hcur r hr hkey hack
      · rw [(h.sound.bound r₀ hr₀).eventId] at hkey
        exact hstate (Table.eq_of_key_eq hr hr₀ hkey ▸ hack)
    · -- a drain that has just acknowledged an event works on none
      obtain ⟨id', hid', -⟩ := hacks r hack
      rw [acknowledgedEvent_event hid'] at hid
      cases hid
  · simp only [step, Function.update_of_ne hq, if_neg hq, Bool.or_eq_false_iff] at hid hcur
    rcases hbefore with hack | hack
    · exact h.current q id hid hcur.1 r hr hkey hack
    · obtain ⟨id', hid', hr'⟩ := hacks r hack
      have hover := hcur.2
      simp only [overtakes, hid', hid, decide_eq_false_iff_not] at hover
      exact hover (hr'.symm.trans hkey)

lemma Good.step (h : s.Good) (a : Action P) : (s.step sha cfg a).Good := by
  cases a with
  | start p =>
    simp only [Drains.step]
    split
    · exact h.update_phase p trivial rfl
    · exact h
  | step p env => exact h.step_step p env
  | crash p => exact h.update_phase p trivial rfl
  | enqueue c x now o => exact h.step_enqueue c x now o

lemma Good.keepsAcknowledged (h : s.Good) {a : Action P} (hcur : s.Current a) :
    s.KeepsAcknowledged sha cfg a := by
  intro r hr hack r' hr' hcounter
  cases a with
  | start p maximum =>
    have hdb : (s.step sha cfg (.start p maximum)).db = s.db := by
      simp only [Drains.step]
      split <;> rfl
    rw [hdb] at hr'
    rw [h.sound.unique r' hr' r hr hcounter, hack]
  | step p env =>
    obtain ⟨op, hc, -, hresets⟩ := (s.phase p).step_change sha (cfg p) env (h.consistent p) h.sound
    refine (hc.kept h.sound hr hack hr' hcounter).resolve_right fun hreset => ?_
    obtain ⟨id, hid, hkey⟩ := hresets r hreset
    have hfree := hcur (by rw [hid]; rfl)
    exact h.current p id (resetEvent_event hid) hfree r hr hkey hack
  | crash => rw [h.sound.unique r' hr' r hr hcounter, hack]
  | enqueue c x now o =>
    have hc := (Operation.enqueue c x now).change sha o h.sound
    exact (hc.kept h.sound hr hack hr' hcounter).resolve_right fun hreset => hreset.elim

/-- **Acknowledged rows.** While no drain writes to an event that another one has
acknowledged since it was read, a row that is acknowledged stays so until it is deleted. -/
theorem acknowledged_rows_stay (sha : Sha256) (cfg : P → Config) (actions : List (Action P))
    (h : Along (step sha cfg) Current start actions) :
    Along (step sha cfg) (KeepsAcknowledged sha cfg) start actions :=
  along_of_inv (fun _ a hg hcur => ⟨hg.step a, hg.keepsAcknowledged hcur⟩) good_start h

instance (s : Drains P) : ∀ a, Decidable (s.Current a)
  | .step _ _ => inferInstanceAs (Decidable (_ → _))
  | .start _ _ | .crash _ | .enqueue _ _ _ _ => inferInstanceAs (Decidable True)

/-- The answer of a coordinator that accepts the first attempt for the first event of the
agent `a`. -/
def accepted : Text :=
  "\x7b\"protocol\":\"neta-agent/1\",\"schemaVersion\":1,\"messageType\":\"Ack\"," ++
  "\"ackVersion\":1,\"messageId\":\"" ++ randomUuid (fun _ => 0) ++
  "\",\"sequence\":1,\"idempotencyKey\":\"a:1\",\"payloadHash\":\"sha256:0\"," ++
  "\"status\":\"ACCEPTED\",\"receivedAt\":\"now\"\x7d"

def calm (delivery : Delivery) : Env :=
  ⟨10, History.steady, .ok ⟨"a", "k"⟩, some fun _ => 0, .ok 1, delivery⟩

/-- Both drains read the first event; the second one posts it and acknowledges it while the
first one is waiting for its answer. -/
def raced : List (Action Bool) :=
  [.enqueue ⟨"a", 100000⟩ (History.lowFinding "p") 5 History.steady, .start false 1] ++
  List.replicate 5 (.step false (calm (.failed []))) ++ [.start true 1] ++
  List.replicate 6 (.step true (calm (.response accepted)))

theorem acknowledged_rows_stay_raced :
    let sys := step (fun _ _ => 0) fun _ => ⟨"a", 100000⟩
    let w := raced ++ [.crash false]
    Along sys Current start w ∧
      (run sys start w).db.messages.rows.map Row.state = [.acknowledged] ∧
      Along sys (KeepsAcknowledged (fun _ _ => 0) fun _ => ⟨"a", 100000⟩) start w := by
  intro sys w
  have hcur : Along sys Current start w := by decide +kernel
  exact ⟨hcur, by decide +kernel, acknowledged_rows_stay _ _ w hcur⟩

/-- The first drain's post fails after the second one has acknowledged the event: the row is
set back to pending. -/
theorem acknowledged_row_reset :
    let sys := step (fun _ _ => 0) fun _ => ⟨"a", 100000⟩
    let lost : Action Bool := .step false (calm (.failed "timeout"))
    (run sys start raced).db.messages.rows.map (fun r => (r.eventCounter, r.state)) =
        [(1, .acknowledged)] ∧
      (run sys start (raced ++ [lost, lost])).db.messages.rows.map
        (fun r => (r.eventCounter, r.state)) = [(1, .pending)] := by
  decide +kernel

end Drains

end NetaAgent.OutboundDispatcher
