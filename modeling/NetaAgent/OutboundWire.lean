import NetaAgent.OutboundDrains

/-!
What one drain at a time puts on the wire.

A history is a sequence of drains, one at a time, with a crash allowed between any two
steps, while producers enqueue findings. It records the envelopes in the order in which they
were created, and a log of what the drains did: which attempts they prepared, and what they
posted while which row was in the outbox.
-/

namespace NetaAgent.OutboundDispatcher

open Decimal Crypto Sql Run OutboundQueue NapEnvelope List Table Phase

/-- A queue opened for the stored identity. Its agent identifier comes from a string of the
coordinator's JSON answer to the enrolment, for which no `\u` escape is accepted: it has no
NUL. -/
structure Enrolled extends Config where
  nulFree : NulFree agentId

inductive Entry where
  /-- An attempt was prepared; `live` says whether the stored one had more than five seconds
  left. -/
  | prepared (event : Text) (live : Bool)
  /-- `text` was posted, with `row` in the outbox for the event. -/
  | posted (event : Text) (row : Option Row) (text : Text)

/-- There is a stored attempt and it has more than the margin left. -/
def live (m : OutboundMessage) (now : ℕ) : Bool :=
  m.attemptEnvelopeJson ≠ [] && now + attemptRefreshMarginNs < m.attemptExpiresAtNs

variable (created : List Envelope) (db : Database)

def Phase.entries : Phase → List Entry
  | .prepare job => [.prepared job.ready.eventId (live job.ready job.now)]
  | .post job message =>
    [.posted job.ready.eventId (db.messages.find job.ready.eventId) message.attemptEnvelopeJson]
  | _ => []

variable (env : Env)

def Phase.creates : Phase → List Envelope
  | .prepare job =>
    if reusable job.ready job.now then []
    else
      match newAttempt env job.ready job.now with
      | .ok e => [e]
      | .error _ => []
  | _ => []

lemma Phase.creates_eq {env : Env} {job : Job} {e : Envelope} (h : ¬ reusable job.ready job.now)
    (hnew : newAttempt env job.ready job.now = .ok e) : (prepare job).creates env = [e] := by
  simp only [creates, if_neg h, hnew]

lemma Phase.creates_cases (ph : Phase) : ph.creates env = [] ∨ ∃ e, ph.creates env = [e] := by
  cases ph with
  | prepare =>
    simp only [creates]
    split
    · exact .inl rfl
    · split
      · exact .inr ⟨_, rfl⟩
      · exact .inl rfl
  | _ => exact .inl rfl

/-- The value that a step of a drain gets from the allocator. -/
def Phase.allocates : Phase → List ℕ
  | .prepare job =>
    if reusable job.ready job.now then []
    else
      match env.identity, env.random, env.sequence with
      | .ok _, some _, .ok value => [value]
      | _, _, _ => []
  | _ => []

lemma Phase.map_sequence_creates (ph : Phase) :
    (ph.creates env).map Envelope.sequence = ph.allocates env := by
  cases ph with
  | prepare =>
    simp only [creates, allocates]
    split
    · rfl
    · simp only [newAttempt]
      cases env.identity <;> cases env.random <;> cases env.sequence <;> rfl
  | _ => rfl

lemma Phase.mem_allocates {env : Env} {ph : Phase} {v : ℕ} (h : v ∈ ph.allocates env) :
    env.sequence = .ok v := by
  unfold allocates at h
  split at h
  · split at h
    · cases h
    · split at h
      · next hseq => rw [hseq, mem_singleton.mp h]
      · cases h
  · cases h

structure Wire where
  db : Database
  phase : Phase
  /-- The envelopes in the order of their creation. -/
  created : List Envelope
  /-- The values the allocator has returned, to the drains and to other senders. -/
  allocated : List ℕ
  /-- The last entry first. -/
  log : List Entry

namespace Wire

inductive Action where
  | start (maximum : ℕ)
  | step (queue : Enrolled) (env : Env)
  | crash
  | allocate (value : ℕ)
  | enqueue (queue : Enrolled) (x : Finding) (now : ℕ) (oracle : Oracle Text)

def start : Wire := ⟨.initial, .stopped none, [], [], []⟩

def step (sha : Sha256) (s : Wire) : Action → Wire
  | .start maximum =>
    match s.phase with
    | .stopped _ => { s with phase := .begin maximum }
    | _ => s
  | .step queue env =>
    let after := s.phase.step sha queue.toConfig env s.db
    ⟨after.1, after.2, s.created ++ s.phase.creates env, s.allocated ++ s.phase.allocates env,
      s.phase.entries s.db ++ s.log⟩
  | .crash => { s with phase := .stopped none }
  | .allocate value => { s with allocated := s.allocated ++ [value] }
  | .enqueue queue x now oracle =>
    { s with db := (Operation.enqueue queue.toConfig x now).exec sha oracle s.db }

/-- The allocator returns only values that are larger than all before. -/
def Allocates (s : Wire) : Action → Prop
  | .step _ env => ∀ v ∈ s.phase.allocates env, ∀ u ∈ s.allocated, u < v
  | .allocate value => ∀ u ∈ s.allocated, u < value
  | _ => True

/-- `text` has been posted for the event, and whenever an attempt has been prepared for the
event since, the stored one was live. -/
def Pins (event text : Text) : List Entry → Prop
  | [] => False
  | .prepared event' live :: log => (event' = event → live) ∧ Pins event text log
  | .posted event' _ text' :: log => event' = event ∧ text' = text ∨ Pins event text log

def Repeats : List Entry → Prop
  | [] => True
  | .prepared _ _ :: log => Repeats log
  | .posted event _ text :: log => (∀ text', Pins event text' log → text = text') ∧ Repeats log

end Wire

/-! ### Events and their identifiers -/

lemma nulFree_of_bindText {t : Text} (h : bindText t = t) : NulFree t := fun hmem => by
  rw [← h] at hmem
  have := mem_takeWhile_imp (p := fun c => decide (c ≠ '\x00')) hmem
  simp at this

lemma eventIdOf_inj {cfg cfg' : Config} {c c' : ℕ} (h : eventIdOf cfg c = eventIdOf cfg' c') :
    c = c' := by
  have hdigits : ∀ (a : Text) (n : ℕ),
      ((a ++ ":" ++ decimal n).reverse.takeWhile Char.isDigit) = (decimal n).reverse := by
    intro a n
    rw [reverse_append, takeWhile_append_of_pos fun d hd =>
      isDigit_of_mem_decimal (mem_reverse.mp hd)]
    simp
  have hrev := congrArg (fun t : Text => t.reverse.takeWhile Char.isDigit) h
  simp only [eventIdOf, hdigits, reverse_inj] at hrev
  exact decimal_inj hrev

lemma Enrolled.bindText_eventIdOf (queue : Enrolled) (c : ℕ) :
    bindText (eventIdOf queue.toConfig c) = eventIdOf queue.toConfig c := by
  refine bindText_of_notMem (show NulFree _ from ?_)
  simp only [eventIdOf, nulFree_append, queue.nulFree, nulFree_decimal, true_and, and_true]
  unfold NulFree
  decide

def Known (event : Text) : Prop :=
  ∃ cfg c, event = eventIdOf cfg c ∧ c < db.nextEventCounter

lemma Known.ne_new {db : Database} {event : Text} (h : Known db event) (queue : Enrolled)
    (x : Finding) (now : ℕ) : (x.toRow queue.toConfig db.nextEventCounter now).eventId ≠ event := by
  obtain ⟨cfg, c, rfl, hc⟩ := h
  intro heq
  rw [Finding.toRow, queue.bindText_eventIdOf] at heq
  exact hc.ne (eventIdOf_inj heq).symm

/-! ### What the outbox stores -/

/-- The stored attempt is an envelope that was created for the event. -/
def Attempted (r : Row) : Prop :=
  ∀ text, r.attemptEnvelopeJson = some text → 0 < r.attemptCount ∧
    ∃ e ∈ created, text = e.render ∧ e.idempotencyKey = r.eventId ∧ e.payloadHash = r.payloadHash

structure Stored (created : List Envelope) (log : List Entry) (db : Database) : Prop where
  sound : Sound db
  known : ∀ r ∈ db.messages, Known db r.eventId
  attempted : ∀ r ∈ db.messages, Attempted created r
  pinned : ∀ event text, Wire.Pins event text log → Known db event ∧
    ∀ r ∈ db.messages, r.eventId = event → r.attemptEnvelopeJson = some text

/-- The row of the event is there, not acknowledged, with this attempt. -/
def Serves (event text : Text) : Prop :=
  ∃ r ∈ db.messages, r.eventId = event ∧ r.state ≠ .acknowledged ∧
    r.attemptEnvelopeJson = some text

/-- The message was read from the row of its event, if that is still there. -/
structure Fits (db : Database) (m : OutboundMessage) : Prop where
  eventId : NulFree m.eventId
  payloadJson : NulFree m.payloadJson
  payloadHash : NulFree m.payloadHash
  known : Known db m.eventId
  same : ∀ r ∈ db.messages, r.eventId = m.eventId →
    r.payloadHash = m.payloadHash ∧ r.state ≠ .acknowledged

def Phase.Holds (log : List Entry) (db : Database) : Phase → Prop
  | .prepare job => Fits db job.ready ∧
      (job.ready.attemptEnvelopeJson ≠ [] →
        Serves db job.ready.eventId job.ready.attemptEnvelopeJson)
  | .store job message => Fits db job.ready ∧ (∀ text, ¬ Wire.Pins job.ready.eventId text log) ∧
      ∃ e ∈ created, message = withEnvelope job.ready e ∧ NulFree e.render ∧
        e.idempotencyKey = job.ready.eventId ∧ e.payloadHash = job.ready.payloadHash
  | .post job message => Serves db job.ready.eventId message.attemptEnvelopeJson
  | _ => True

/-- A row that may be inserted gets the identifier of an enrolled agent. -/
def ByEnrolled (op : Operation) : Prop :=
  ∀ cfg, op.config = some cfg → ∃ queue : Enrolled, queue.toConfig = cfg

section
variable {op : Operation} {db db' : Database} {created : List Envelope} {log : List Entry}

lemma Known.mono {event : Text} (h : Known db event)
    (hle : db.nextEventCounter ≤ db'.nextEventCounter) : Known db' event := by
  obtain ⟨cfg, c, rfl, hc⟩ := h
  exact ⟨cfg, c, rfl, by omega⟩

lemma Known.descends {event : Text} (h : Known db event) (hc : Change op db db')
    (hq : ByEnrolled op) {r' : Row} (hr' : r' ∈ db'.messages) (hid : r'.eventId = event) :
    ∃ r ∈ db.messages, Descends op r r' := by
  refine (hc.origin r' hr').resolve_right ?_
  rintro ⟨-, cfg, x, now, hcfg, rfl⟩
  obtain ⟨queue, rfl⟩ := hq cfg hcfg
  exact h.ne_new queue x now hid

lemma Attempted.evictable {r : Row} {text : Text} (h : Attempted created r)
    (ht : r.attemptEnvelopeJson = some text) : r.evictable = false := by
  have := (h text ht).1
  simp only [Row.evictable, Bool.and_eq_false_iff, decide_eq_false_iff_not]
  omega

lemma Stored.change (h : Stored created log db) (hc : Change op db db')
    (hq : ByEnrolled op) (hstores : ∀ r r', ¬ op.Stores r r') : Stored created log db' where
  sound := hc.sound h.sound
  known r' hr' := by
    rcases hc.origin r' hr' with ⟨r, hr, hd⟩ | ⟨hlt, cfg, x, now, hcfg, rfl⟩
    · exact hd.eventId ▸ (h.known r hr).mono hc.next_le
    · obtain ⟨queue, rfl⟩ := hq cfg hcfg
      exact ⟨queue.toConfig, db.nextEventCounter, queue.bindText_eventIdOf _, hlt⟩
  attempted r' hr' text ht := by
    rcases hc.origin r' hr' with ⟨r, hr, hd⟩ | ⟨-, cfg, x, now, -, rfl⟩
    · have hsame := (hd.attempt.resolve_right (hstores r r')).1
      obtain ⟨hcount, hcreated⟩ := h.attempted r hr text (hsame ▸ ht)
      rw [hd.eventId, hd.payloadHash]
      exact ⟨hcount.trans_le hd.attempts, hcreated⟩
    · cases ht
  pinned event text hpins := by
    obtain ⟨hknown, hrows⟩ := h.pinned event text hpins
    refine ⟨hknown.mono hc.next_le, fun r' hr' hid => ?_⟩
    obtain ⟨r, hr, hd⟩ := hknown.descends hc hq hr' hid
    rw [(hd.attempt.resolve_right (hstores r r')).1]
    exact hrows r hr (hd.eventId ▸ hid)

lemma Serves.change {event text : Text} (h : Serves db event text) (hs : Stored created log db)
    (hc : Change op db db') (hstores : ∀ r r', ¬ op.Stores r r') (hacks : ∀ r, ¬ op.Acks r) :
    Serves db' event text := by
  obtain ⟨r, hr, hid, hstate, ht⟩ := h
  obtain ⟨r', hr', hd⟩ := hc.survives hs.sound hr hstate ((hs.attempted r hr).evictable ht)
  refine ⟨r', hr', hd.eventId.trans hid, fun hack => ?_, ?_⟩
  · exact (hd.acked hack).elim hstate (hacks r)
  · rw [(hd.attempt.resolve_right (hstores r r')).1, ht]

variable {m : OutboundMessage}

lemma Fits.change (h : Fits db m) (hc : Change op db db')
    (hq : ByEnrolled op) (hacks : ∀ r, ¬ op.Acks r) : Fits db' m where
  eventId := h.eventId
  payloadJson := h.payloadJson
  payloadHash := h.payloadHash
  known := h.known.mono hc.next_le
  same r' hr' hid := by
    obtain ⟨r, hr, hd⟩ := h.known.descends hc hq hr' hid
    obtain ⟨hhash, hstate⟩ := h.same r hr (hd.eventId ▸ hid)
    exact ⟨hd.payloadHash.trans hhash, fun hack => (hd.acked hack).elim hstate (hacks r)⟩

lemma Phase.Holds.change {ph : Phase} (h : ph.Holds created log db) (hs : Stored created log db)
    (hc : Change op db db') (hq : ByEnrolled op) (hstores : ∀ r r', ¬ op.Stores r r')
    (hacks : ∀ r, ¬ op.Acks r) : ph.Holds created log db' := by
  cases ph with
  | prepare => exact ⟨h.1.change hc hq hacks, fun ht => (h.2 ht).change hs hc hstores hacks⟩
  | store => exact ⟨h.1.change hc hq hacks, h.2⟩
  | post => exact Serves.change h hs hc hstores hacks
  | _ => trivial

/-! ### The steps of the drain -/

variable {now maximum : ℕ}

section

variable (h : Stored created log db)
include h

lemma Stored.read {r : Row} {result : DispatchResult}
    (hr : r ∈ db.messages) (hready : r.ready now) :
    (prepare ⟨maximum, result, r.toMessage, now⟩).Holds created log db := by
  have hb := h.sound.bound r hr
  have hstate : r.state ≠ .acknowledged := fun hack => by simp [Row.ready, hack] at hready
  refine ⟨⟨nulFree_of_bindText hb.eventId, nulFree_of_bindText hb.payloadJson,
    nulFree_of_bindText hb.payloadHash, h.known r hr, fun r' hr' hid => ?_⟩, fun hne => ?_⟩
  · rw [eq_of_key_eq hr' hr hid]
    exact ⟨rfl, hstate⟩
  · refine ⟨r, hr, rfl, hstate, ?_⟩
    simp only [Row.toMessage] at hne ⊢
    cases ht : r.attemptEnvelopeJson with
    | none => simp [ht] at hne
    | some => rfl

lemma Stored.store {job : Job} {message : OutboundMessage}
    (hh : (store job message).Holds created log db) (cfg : Config)
    (ha : Attempts message now db db') : Stored created log db' ∧
      (post job message).Holds created log db' := by
  obtain ⟨hfits, hunpinned, e, he, rfl, hnul, hkey, hhash⟩ := hh
  have hc := ha.change h.sound cfg
  have hq : ByEnrolled (.storeAttempt cfg (withEnvelope job.ready e) now) := fun _ h => nomatch h
  have hid : bindText (withEnvelope job.ready e).eventId = job.ready.eventId :=
    bindText_of_notMem hfits.eventId
  have htext : bindText (withEnvelope job.ready e).attemptEnvelopeJson = e.render :=
    bindText_of_notMem hnul
  refine ⟨⟨hc.sound h.sound, fun r' hr' => ?_, fun r' hr' text ht => ?_, fun event text hp => ?_⟩, ?_⟩
  · obtain ⟨r, hr, hd⟩ := hc.descends rfl hr'
    exact hd.eventId ▸ (h.known r hr).mono hc.next_le
  · obtain ⟨r, hr, hd⟩ := hc.descends rfl hr'
    rw [hd.eventId, hd.payloadHash]
    rcases hd.attempt with ⟨hsame, -⟩ | ⟨hrow, hnew, -, hcount⟩
    · obtain ⟨hcount, hcreated⟩ := h.attempted r hr text (hsame ▸ ht)
      exact ⟨hcount.trans_le hd.attempts, hcreated⟩
    · rw [hid] at hrow
      rw [hnew, htext] at ht
      refine ⟨by omega, e, he, (Option.some.inj ht).symm, hkey.trans hrow.symm, ?_⟩
      rw [hhash, (hfits.same r hr hrow).1]
  · obtain ⟨hknown, hrows⟩ := h.pinned event text hp
    refine ⟨hknown.mono hc.next_le, fun r' hr' hevent => ?_⟩
    obtain ⟨r, hr, hd⟩ := hknown.descends hc hq hr' hevent
    have hevent : r.eventId = event := hd.eventId ▸ hevent
    rcases hd.attempt with ⟨hsame, -⟩ | ⟨hrow, -⟩
    · rw [hsame, hrows r hr hevent]
    · rw [hid, hevent] at hrow
      exact absurd (hrow ▸ hp) (hunpinned text)
  · obtain ⟨r', hr', hkey', hstate, ht⟩ := ha.stored
    refine ⟨r', hr', hkey'.trans hid, by simp [hstate], ?_⟩
    rw [ht, htext]
    rfl

lemma Stored.created_mono (more : List Envelope) :
    Stored (created ++ more) log db where
  sound := h.sound
  known := h.known
  attempted r hr text ht := by
    obtain ⟨hcount, e, he, hrest⟩ := h.attempted r hr text ht
    exact ⟨hcount, e, mem_append_left _ he, hrest⟩
  pinned := h.pinned

lemma Stored.prepared (event : Text) (live : Bool) :
    Stored created (.prepared event live :: log) db :=
  ⟨h.sound, h.known, h.attempted, fun event' text hp => h.pinned event' text hp.2⟩

end

def Phase.Releases : Phase → Prop
  | .next _ _ | .prepare _ | .store _ _ => False
  | _ => True

lemma Moves.holds {env : Env} {ph ph' : Phase} (h : Moves env db ph ph') (hph : ph.Releases) :
    ph'.Holds created log db' := by
  cases h with
  | ready | reuse | fresh | stored => exact hph.elim
  | _ => trivial

lemma reusable_of_live (h : live m now) : reusable m now := by
  simp only [live, reusable, Bool.and_eq_true, decide_eq_true_eq] at h ⊢
  exact ⟨h.1, (Nat.mod_le _ _).trans_lt h.2⟩

/-- A new envelope carries the identifier and the hash of its event, and is stored whole. -/
lemma newAttempt_ok {env : Env} {e : Envelope}
    (h : newAttempt env m now = .ok e) : e.idempotencyKey = m.eventId ∧
      e.payloadHash = m.payloadHash ∧ e.payload = m.payloadJson ∧ NulFree e.messageId ∧
      ∃ identity random, env.identity = .ok identity ∧ env.random = some random ∧
        env.sequence = .ok e.sequence := by
  unfold newAttempt at h
  cases hid : env.identity with
  | error => rw [hid] at h; cases h
  | ok identity =>
    cases hrandom : env.random with
    | none => rw [hid, hrandom] at h; cases h
    | some random =>
      cases hseq : env.sequence with
      | error => rw [hid, hrandom, hseq] at h; cases h
      | ok =>
        rw [hid, hrandom, hseq] at h
        cases h
        exact ⟨rfl, rfl, rfl, nulFree_randomUuid random, identity, random, rfl, rfl, rfl⟩

end

namespace Wire

/-- Every post carried an envelope created for the event, with the identifier and the hash
of the row that was in the outbox. -/
def Carries (created : List Envelope) (log : List Entry) : Prop :=
  ∀ event row text, .posted event row text ∈ log → ∃ r e, row = some r ∧ r.eventId = event ∧
    e ∈ created ∧ text = e.render ∧ e.idempotencyKey = r.eventId ∧ e.payloadHash = r.payloadHash

structure Good (s : Wire) : Prop where
  stored : Stored s.created s.log s.db
  holds : s.phase.Holds s.created s.log s.db
  carries : Carries s.created s.log
  repeats : Repeats s.log

lemma good_start : start.Good where
  stored := ⟨sound_initial, fun r hr => absurd hr (not_mem_empty r),
    fun r hr => absurd hr (not_mem_empty r), fun _ _ h => h.elim⟩
  holds := trivial
  carries _ _ _ h := nomatch h
  repeats := trivial

variable {sha : Sha256} {s : Wire}

lemma Good.with_phase (h : s.Good) {ph : Phase} (hh : ph.Holds s.created s.log s.db) :
    ({ s with phase := ph } : Wire).Good := ⟨h.stored, hh, h.carries, h.repeats⟩

variable {created : List Envelope} {log : List Entry}

lemma Carries.created_mono
    (h : Carries created log) (more : List Envelope) : Carries (created ++ more) log := by
  intro event row text hmem
  obtain ⟨r, e, hrow, hid, he, hrest⟩ := h event row text hmem
  exact ⟨r, e, hrow, hid, mem_append_left _ he, hrest⟩

lemma Carries.prepared (h : Carries created log)
    (event : Text) (live : Bool) : Carries created (.prepared event live :: log) := by
  intro event' row text hmem
  exact h event' row text ((mem_cons.mp hmem).resolve_left nofun)

variable {db : Database} {allocated : List ℕ} {job : Job} {message : OutboundMessage}

lemma Good.step_prepare (h : (⟨db, .prepare job, created, allocated, log⟩ : Wire).Good)
    (queue : Enrolled) (env : Env) :
    (step sha ⟨db, .prepare job, created, allocated, log⟩ (.step queue env)).Good := by
  obtain ⟨hstored, ⟨hfits, hserves⟩, hcarries, hrepeats⟩ := h
  have hstored := (hstored.created_mono ((Phase.prepare job).creates env)).prepared
    job.ready.eventId (live job.ready job.now)
  have hcarries := (hcarries.created_mono ((Phase.prepare job).creates env)).prepared
    job.ready.eventId (live job.ready job.now)
  by_cases hre : reusable job.ready job.now
  · have hstep : (Phase.prepare job).step sha queue.toConfig env db = (db, .post job job.ready) := by
      simp only [Phase.step, if_pos hre]
    simp only [step, hstep]
    refine ⟨hstored, hserves ?_, hcarries, hrepeats⟩
    simp only [reusable, Bool.and_eq_true, decide_eq_true_eq] at hre
    exact hre.1
  · cases hnew : newAttempt env job.ready job.now with
    | error e =>
      have hstep : (Phase.prepare job).step sha queue.toConfig env db = (db, .retry job e) := by
        simp only [Phase.step, if_neg hre, hnew]
      simp only [step, hstep]
      exact ⟨hstored, trivial, hcarries, hrepeats⟩
    | ok e =>
      have hstep : (Phase.prepare job).step sha queue.toConfig env db =
          (db, .store job (withEnvelope job.ready e)) := by
        simp only [Phase.step, if_neg hre, hnew]
      obtain ⟨hkey, hhash, hpayload, hmessage, -⟩ := newAttempt_ok hnew
      have hnul : NulFree e.render :=
        nulFree_render hmessage (hhash ▸ hfits.payloadHash) (hpayload ▸ hfits.payloadJson)
      simp only [step, hstep]
      refine ⟨hstored, ⟨hfits, fun text hp => ?_, e, ?_, rfl, hnul, hkey, hhash⟩, hcarries, hrepeats⟩
      · exact hre (reusable_of_live (hp.1 rfl))
      · simp [Phase.creates_eq hre hnew]

lemma Good.step_post (h : (⟨db, .post job message, created, allocated, log⟩ : Wire).Good)
    (queue : Enrolled) (env : Env) :
    (step sha ⟨db, .post job message, created, allocated, log⟩ (.step queue env)).Good := by
  obtain ⟨hstored, hserves, hcarries, hrepeats⟩ := h
  obtain ⟨r, hr, hid, hstate, ht⟩ := hserves
  have hfind : db.messages.find job.ready.eventId = some r := find_eq_some.mpr ⟨hr, hid⟩
  obtain ⟨-, e, he, htext, hkey, hhash⟩ := hstored.attempted r hr _ ht
  have hmoves : Moves env db (.post job message) (afterPost job message env.delivery) :=
    moves_afterPost job message env.delivery
  simp only [step, step, creates, entries, hfind, append_nil, singleton_append]
  refine ⟨⟨hstored.sound, hstored.known, hstored.attempted, fun event text hp => ?_⟩,
    hmoves.holds trivial, fun event row text hmem => ?_, fun text hp => ?_, hrepeats⟩
  · rcases hp with ⟨rfl, rfl⟩ | hp
    · refine ⟨hid ▸ hstored.known r hr, fun r' hr' hid' => ?_⟩
      rw [eq_of_key_eq hr' hr (hid'.trans hid.symm), ht]
    · exact hstored.pinned event text hp
  · rcases mem_cons.mp hmem with hnew | hmem
    · cases hnew
      exact ⟨r, e, rfl, hid, he, htext, hkey, hhash⟩
    · exact hcarries event row text hmem
  · exact Option.some.inj (ht.symm.trans ((hstored.pinned _ text hp).2 r hr hid))

lemma Good.step_store (h : (⟨db, .store job message, created, allocated, log⟩ : Wire).Good)
    (queue : Enrolled) (env : Env) :
    (step sha ⟨db, .store job message, created, allocated, log⟩ (.step queue env)).Good := by
  obtain ⟨hstored, hholds, hcarries, hrepeats⟩ := h
  simp only [step, Phase.step, Phase.creates, Phase.entries, append_nil, nil_append, Sql.exec]
  rcases storeAttempt_cases queue.toConfig message job.now env.oracle ⟨db, 0⟩ with
    ⟨e, herr, hdb⟩ | ⟨hok, ha, -⟩
  · simp only [herr, hdb]
    exact ⟨hstored, trivial, hcarries, hrepeats⟩
  · obtain ⟨hstored', hholds'⟩ := hstored.store hholds queue.toConfig ha
    simp only [hok]
    exact ⟨hstored', hholds', hcarries, hrepeats⟩

/-- The calls other than `store_attempt` leave the stored attempts as they are. -/
lemma Good.step_other (h : s.Good) {queue : Enrolled} {env : Env}
    (hcreates : s.phase.creates env = []) (hentries : s.phase.entries s.db = [])
    (hph : ∀ job message, s.phase ≠ .store job message)
    (hholds : (s.phase.step sha queue.toConfig env s.db).2.Holds s.created s.log
      (s.phase.step sha queue.toConfig env s.db).1) : (s.step sha (.step queue env)).Good := by
  have hstored : Stored s.created s.log (s.phase.step sha queue.toConfig env s.db).1 := by
    rw [step_db]
    cases hop : s.phase.operation queue.toConfig env with
    | none => exact h.stored
    | some op =>
      refine h.stored.change (op.change sha env.oracle h.stored.sound) (fun cfg hcfg => ?_) ?_
      · exact ⟨queue, (operation_config hop hcfg).symm⟩
      · intro r r' hstores
        obtain ⟨job, message, hstore⟩ := operation_stores hop hstores
        exact hph job message hstore
  simp only [step, hcreates, hentries, append_nil, nil_append]
  exact ⟨hstored, hholds, h.carries, h.repeats⟩

lemma holds_step_next
    (h : Stored created log db) (maximum : ℕ) (result : DispatchResult) (cfg : Config) (env : Env) :
    ((next maximum result).step sha cfg env db).2.Holds created log
      ((next maximum result).step sha cfg env db).1 := by
  have hdb : ((next maximum result).step sha cfg env db).1 = db := by
    rw [step_db]
    simp only [operation]
    split
    · exact nextReady_db _ _ _
    · rfl
  rw [hdb]
  have hmoves : Moves env db _ _ := (next maximum result).step_moves sha cfg env
  generalize ((next maximum result).step sha cfg env db).2 = ph at hmoves
  cases hmoves with
  | stop => trivial
  | ready _ _ hr hready => exact h.read hr hready

lemma Good.step (h : s.Good) (a : Action) : (s.step sha a).Good := by
  cases a with
  | start =>
    simp only [Wire.step]
    split
    · exact h.with_phase trivial
    · exact h
  | crash => exact h.with_phase trivial
  | allocate => exact ⟨h.stored, h.holds, h.carries, h.repeats⟩
  | enqueue queue x now o =>
    have hc := (Operation.enqueue queue.toConfig x now).change sha o h.stored.sound
    have hq : ByEnrolled (.enqueue queue.toConfig x now) := by
      rintro cfg hcfg
      cases hcfg
      exact ⟨queue, rfl⟩
    exact ⟨h.stored.change hc hq fun _ _ => id,
      h.holds.change h.stored hc hq (fun _ _ => id) fun _ => id, h.carries, h.repeats⟩
  | step queue env =>
    have hmoves : Moves env s.db _ _ := s.phase.step_moves sha queue.toConfig env
    obtain ⟨db, ph, created, allocated, log⟩ := s
    cases ph with
    | prepare => exact h.step_prepare queue env
    | store => exact h.step_store queue env
    | post => exact h.step_post queue env
    | next maximum result =>
      exact h.step_other rfl rfl nofun (holds_step_next h.stored maximum result _ env)
    | _ => exact h.step_other rfl rfl nofun (hmoves.holds trivial)

/-! ### Sequence numbers -/

/-- The sequence numbers of the envelopes were allocated, and in this order. -/
structure Ordered (s : Wire) : Prop where
  allocated : ∀ e ∈ s.created, e.sequence ∈ s.allocated
  increasing : s.created.Pairwise fun e e' => e.sequence < e'.sequence

lemma Ordered.step (h : s.Ordered) {a : Action} (ha : s.Allocates a) : (s.step sha a).Ordered := by
  cases a with
  | start =>
    simp only [Wire.step]
    split
    · exact ⟨h.allocated, h.increasing⟩
    · exact h
  | crash | enqueue => exact ⟨h.allocated, h.increasing⟩
  | allocate => exact ⟨fun e he => mem_append_left _ (h.allocated e he), h.increasing⟩
  | step queue env =>
    have hnew : ∀ e ∈ s.phase.creates env, e.sequence ∈ s.phase.allocates env := by
      intro e he
      rw [← Phase.map_sequence_creates]
      exact mem_map_of_mem he
    constructor
    · intro e he
      rcases mem_append.mp he with he | he
      · exact mem_append_left _ (h.allocated e he)
      · exact mem_append_right _ (hnew e he)
    · refine pairwise_append.mpr ⟨h.increasing, ?_, fun e he e' he' => ?_⟩
      · rcases s.phase.creates_cases env with hc | ⟨e, hc⟩ <;> simp [hc]
      · exact ha _ (hnew e' he') _ (h.allocated e he)

/-- **The wire.** In every history, every envelope posted for an event carries its event
identifier as idempotency key and the payload hash stored in its row; a post repeats the
bytes of every earlier post for the event while the stored attempt stayed live; and where
the allocator returns increasing values, so are the sequence numbers of the envelopes in the
order of their creation. -/
theorem posts_faithful (sha : Sha256) (actions : List Action) :
    let s := run (step sha) start actions
    (∀ event row text, .posted event row text ∈ s.log → ∃ r e, row = some r ∧
      r.eventId = event ∧ e ∈ s.created ∧ text = e.render ∧ e.idempotencyKey = r.eventId ∧
      e.payloadHash = r.payloadHash) ∧
    Repeats s.log ∧
    (Along (step sha) Allocates start actions →
      s.created.Pairwise fun e e' => e.sequence < e'.sequence) := by
  intro s
  have hgood : s.Good := inv_run_all (fun _ a h => h.step a) good_start actions
  refine ⟨hgood.carries, hgood.repeats, fun halloc => ?_⟩
  have hordered : s.Ordered :=
    inv_run (fun _ _ h ha => h.step ha) ⟨nofun, List.Pairwise.nil⟩ halloc
  exact hordered.increasing

instance (s : Wire) : ∀ a, Decidable (s.Allocates a)
  | .step _ env => inferInstanceAs (Decidable (∀ v ∈ s.phase.allocates env, ∀ u ∈ s.allocated, u < v))
  | .allocate value => inferInstanceAs (Decidable (∀ u ∈ s.allocated, u < value))
  | .start _ | .crash | .enqueue _ _ _ _ => inferInstanceAs (Decidable True)

def Entry.text : Entry → Option Text
  | .posted _ _ text => some text
  | .prepared _ _ => none

/-- Two drains post the first event without getting an answer: they post one envelope. -/
theorem posts_faithful_retried :
    let queue : Enrolled := ⟨⟨"a", 100000⟩, by unfold NulFree; decide⟩
    let drain now := Action.start 1 ::
      replicate 7 (.step queue { Drains.calm (.failed []) with now := now })
    let actions := .enqueue queue (History.lowFinding "p") 5 History.steady ::
      (drain 10 ++ drain 6000000010)
    let s := run (step fun _ _ => 0) start actions
    Along (step fun _ _ => 0) Allocates start actions ∧
      s.log.filterMap Entry.text = replicate 2 ((s.created.map Envelope.render).headD []) ∧
      (s.created.Pairwise fun e e' => e.sequence < e'.sequence) ∧ s.created.length = 1 := by
  intro queue drain actions s
  have halloc : Along (step fun _ _ => 0) Allocates start actions := by decide +kernel
  exact ⟨halloc, by decide +kernel, (posts_faithful _ actions).2.2 halloc, by decide +kernel⟩

end Wire

end NetaAgent.OutboundDispatcher
