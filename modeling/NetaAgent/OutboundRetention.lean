import NetaAgent.OutboundEffects
import NetaAgent.Run

/-!
Which rows the outbox deletes, and what its counter of dropped events counts.

A history is a sequence of calls of the queue's methods, each atomic, by any number of
processes, with any failures. A row is identified by its event counter, which is never given
out twice. The history records the rows deleted so far, as they were when they were deleted,
and the event counters of the rows that have been acknowledged at some time.
-/

namespace NetaAgent.OutboundQueue

open Decimal Crypto Sql Run List Table

inductive Operation where
  | enqueue (cfg : Config) (x : Finding) (now : ℕ)
  | nextReady (now : ℕ)
  | storeAttempt (cfg : Config) (m : OutboundMessage) (now : ℕ)
  | markRetry (eventId : Text) (next : ℕ) (error : Text)
  | markDeadLetter (eventId error : Text)
  | markAcknowledged (eventId : Text) (ack : Receipt) (now : ℕ)
  | enqueueGapMarker (cfg : Config) (now : ℕ)
  | pruneAcknowledged (olderThan : ℕ)

variable (sha : Sha256)

def Operation.exec (o : Oracle Text) (db : Database) : Operation → Database
  | .enqueue cfg x now => (Sql.exec (OutboundQueue.enqueue cfg x now) o db).2
  | .nextReady now => (Sql.exec (OutboundQueue.nextReady now) o db).2
  | .storeAttempt cfg m now => (Sql.exec (OutboundQueue.storeAttempt cfg m now) o db).2
  | .markRetry eventId next error => (Sql.exec (OutboundQueue.markRetry eventId next error) o db).2
  | .markDeadLetter eventId error => (Sql.exec (OutboundQueue.markDeadLetter eventId error) o db).2
  | .markAcknowledged eventId ack now =>
    (Sql.exec (OutboundQueue.markAcknowledged eventId ack now) o db).2
  | .enqueueGapMarker cfg now => (Sql.exec (OutboundQueue.enqueueGapMarker sha cfg now) o db).2
  | .pruneAcknowledged olderThan => (Sql.exec (OutboundQueue.pruneAcknowledged olderThan) o db).2

def Operation.Acks (r : Row) : Operation → Prop
  | .markAcknowledged eventId _ _ => r.eventId = bindText eventId
  | _ => False

/-- The operation gives the row another state, whatever its state is. -/
def Operation.Resets (r : Row) : Operation → Prop
  | .storeAttempt _ m _ => r.eventId = bindText m.eventId
  | .markRetry eventId _ _ => r.eventId = bindText eventId
  | .markDeadLetter eventId _ => r.eventId = bindText eventId
  | _ => False

instance (r : Row) : DecidablePred (Operation.Resets r)
  | .storeAttempt _ m _ => inferInstanceAs (Decidable (r.eventId = bindText m.eventId))
  | .markRetry eventId _ _ => inferInstanceAs (Decidable (r.eventId = bindText eventId))
  | .markDeadLetter eventId _ => inferInstanceAs (Decidable (r.eventId = bindText eventId))
  | .enqueue _ _ _ | .nextReady _ | .markAcknowledged _ _ _ | .enqueueGapMarker _ _
  | .pruneAcknowledged _ => .isFalse id

/-- The operation has stored the attempt of `r'` in the row that was `r`. -/
def Operation.Stores (r r' : Row) : Operation → Prop
  | .storeAttempt _ m _ => r.eventId = bindText m.eventId ∧
      r'.attemptEnvelopeJson = some (bindText m.attemptEnvelopeJson) ∧
      r'.attemptSequence = some m.attemptSequence ∧ r.attemptCount < r'.attemptCount
  | _ => False

/-- The configuration of a queue that may insert a row. -/
def Operation.config : Operation → Option Config
  | .enqueue cfg _ _ | .enqueueGapMarker cfg _ => some cfg
  | _ => none

def counters (db : Database) : List ℕ := db.messages.rows.map Row.eventCounter

variable {db db' db'' : Database} {r r' r'' : Row}

lemma mem_counters (h : r ∈ db.messages) : r.eventCounter ∈ counters db := mem_map_of_mem h

/-- The rows of `db` that are not in `db'` any more. -/
def missing (db db' : Database) : List Row :=
  db.messages.rows.filter fun r => r.eventCounter ∉ counters db'

lemma mem_missing : r ∈ missing db db' ↔ r ∈ db.messages ∧ r.eventCounter ∉ counters db' := by
  simp [missing, mem_def]

structure Row.Bound (r : Row) : Prop where
  eventId : bindText r.eventId = r.eventId
  payloadJson : bindText r.payloadJson = r.payloadJson
  payloadHash : bindText r.payloadHash = r.payloadHash

lemma Finding.bound_toRow (x : Finding) (cfg : Config) (counter now : ℕ) :
    (x.toRow cfg counter now).Bound :=
  ⟨bindText_bindText _, bindText_bindText _, bindText_bindText _⟩

/-- Event counters identify rows and are below the next one. -/
structure Sound (db : Database) : Prop where
  fresh : ∀ r ∈ db.messages, r.eventCounter < db.nextEventCounter
  unique : ∀ r ∈ db.messages, ∀ r' ∈ db.messages, r.eventCounter = r'.eventCounter → r = r'
  bound : ∀ r ∈ db.messages, r.Bound

structure SameEvent (r r' : Row) : Prop where
  eventId : r'.eventId = r.eventId
  eventCounter : r'.eventCounter = r.eventCounter
  producerKey : r'.producerKey = r.producerKey
  findingType : r'.findingType = r.findingType
  findingKey : r'.findingKey = r.findingKey
  payloadJson : r'.payloadJson = r.payloadJson
  payloadHash : r'.payloadHash = r.payloadHash

lemma SameEvent.refl (r : Row) : SameEvent r r := ⟨rfl, rfl, rfl, rfl, rfl, rfl, rfl⟩

lemma SameEvent.trans (h : SameEvent r r') (h' : SameEvent r' r'') : SameEvent r r'' where
  eventId := h'.eventId.trans h.eventId
  eventCounter := h'.eventCounter.trans h.eventCounter
  producerKey := h'.producerKey.trans h.producerKey
  findingType := h'.findingType.trans h.findingType
  findingKey := h'.findingKey.trans h.findingKey
  payloadJson := h'.payloadJson.trans h.payloadJson
  payloadHash := h'.payloadHash.trans h.payloadHash

/-- The row `r` has become `r'` by a call of `op`. -/
structure Descends (op : Operation) (r r' : Row) : Prop extends SameEvent r r' where
  attempts : r.attemptCount ≤ r'.attemptCount
  attempt : r'.attemptEnvelopeJson = r.attemptEnvelopeJson ∧
    r'.attemptSequence = r.attemptSequence ∨ op.Stores r r'
  acked : r'.state = .acknowledged → r.state = .acknowledged ∨ op.Acks r
  kept : r.state = .acknowledged → r'.state = .acknowledged ∨ op.Resets r

lemma Descends.refl (op : Operation) (r : Row) : Descends op r r :=
  ⟨.refl r, le_rfl, .inl ⟨rfl, rfl⟩, .inl, .inl⟩

variable {op : Operation}

lemma Descends.bound (h : Descends op r r') (hr : r.Bound) : r'.Bound := by
  constructor
  · rw [h.eventId, hr.eventId]
  · rw [h.payloadJson, hr.payloadJson]
  · rw [h.payloadHash, hr.payloadHash]

/-- What one call does to the rows and to the counter of dropped events. -/
structure Change (op : Operation) (db db' : Database) : Prop where
  next_le : db.nextEventCounter ≤ db'.nextEventCounter
  origin : ∀ r' ∈ db'.messages, (∃ r ∈ db.messages, Descends op r r') ∨
    db.nextEventCounter < db'.nextEventCounter ∧ ∃ cfg x now, op.config = some cfg ∧
      r' = Finding.toRow x cfg db.nextEventCounter now
  deleted : ∀ r ∈ missing db db', r.state = .acknowledged ∨ r.evictable
  dropped : db'.droppedLowPriority = db.droppedLowPriority +
    (missing db db').countP fun r => r.state ≠ .acknowledged

lemma missing_eq_nil (h : ∀ r ∈ db.messages, r.eventCounter ∈ counters db') :
    missing db db' = [] := by
  simp only [missing, filter_eq_nil_iff, decide_eq_true_eq, not_not]
  exact h

lemma sound_initial : Sound .initial :=
  ⟨fun r hr => absurd hr (not_mem_empty r), fun r hr => absurd hr (not_mem_empty r),
    fun r hr => absurd hr (not_mem_empty r)⟩

lemma Change.refl (op : Operation) (db : Database) : Change op db db where
  next_le := le_rfl
  origin r hr := .inl ⟨r, hr, .refl op r⟩
  deleted r hr := absurd (mem_counters (mem_missing.mp hr).1) (mem_missing.mp hr).2
  dropped := by rw [missing_eq_nil fun r hr => mem_counters hr]; simp

lemma counters_updateEvent (eventId : Text) (f : Row → Row) {hf : ∀ r, (f r).eventId = r.eventId}
    (hc : ∀ r, (f r).eventCounter = r.eventCounter) (db : Database) :
    counters (updateEvent eventId f hf db) = counters db := by
  simp only [counters, updateEvent, update, map_map]
  refine map_congr_left fun r _ => ?_
  by_cases h : r.eventId = bindText eventId <;> simp [h, hc]

lemma Change.update {eventId : Text} (f : Row → Row) {hf : ∀ r, (f r).eventId = r.eventId}
    (hc : ∀ r, (f r).eventCounter = r.eventCounter)
    (hd : ∀ r, r.eventId = bindText eventId → Descends op r (f r)) :
    Change op db (updateEvent eventId f hf db) where
  next_le := le_rfl
  origin r' hr' := by
    obtain ⟨r, hr, rfl⟩ := mem_updateEvent.mp hr'
    refine .inl ⟨r, hr, ?_⟩
    by_cases h : r.eventId = bindText eventId
    · simpa [h] using hd r h
    · simpa [h] using Descends.refl op r
  deleted r hr := by
    rw [mem_missing, counters_updateEvent eventId f hc] at hr
    exact absurd (mem_counters hr.1) hr.2
  dropped := by
    rw [missing_eq_nil fun r hr => by rw [counters_updateEvent eventId f hc]; exact mem_counters hr]
    rfl

section

variable (h : Change op db db')
include h

/-- Only the rows, the next event counter and the counter of dropped events matter. -/
lemma Change.congr
    (hm : db''.messages = db'.messages) (hn : db''.nextEventCounter = db'.nextEventCounter)
    (hd : db''.droppedLowPriority = db'.droppedLowPriority) : Change op db db'' := by
  have hmiss : missing db db'' = missing db db' := by
    have hc : counters db'' = counters db' := by rw [counters, hm, counters]
    rw [missing, hc, missing]
  constructor
  · rw [hn]; exact h.next_le
  · rw [hm, hn]; exact h.origin
  · rw [hmiss]; exact h.deleted
  · rw [hmiss, hd]; exact h.dropped

lemma Change.sound (hs : Sound db) : Sound db' := by
  have hle := h.next_le
  constructor
  · intro r' hr'
    rcases h.origin r' hr' with ⟨r, hr, hd⟩ | ⟨hlt, cfg, x, now, -, rfl⟩
    · have := hs.fresh r hr
      rw [hd.eventCounter]
      omega
    · exact hlt
  · intro r₁' hr₁' r₂' hr₂' hc
    refine eq_of_key_eq hr₁' hr₂' ?_
    rcases h.origin r₁' hr₁' with ⟨r₁, hr₁, hd₁⟩ | ⟨-, cfg₁, x₁, now₁, hcfg₁, rfl⟩ <;>
      rcases h.origin r₂' hr₂' with ⟨r₂, hr₂, hd₂⟩ | ⟨-, cfg₂, x₂, now₂, hcfg₂, rfl⟩
    · have := hs.unique r₁ hr₁ r₂ hr₂ (by rw [← hd₁.eventCounter, hc, hd₂.eventCounter])
      rw [hd₁.eventId, hd₂.eventId, this]
    · exact absurd (hd₁.eventCounter.symm.trans hc) (hs.fresh r₁ hr₁).ne
    · exact absurd (hd₂.eventCounter.symm.trans hc.symm) (hs.fresh r₂ hr₂).ne
    · -- one call inserts with one configuration
      cases hcfg₁.symm.trans hcfg₂
      rfl
  · intro r' hr'
    rcases h.origin r' hr' with ⟨r, hr, hd⟩ | ⟨-, cfg, x, now, -, rfl⟩
    · exact hd.bound (hs.bound r hr)
    · exact x.bound_toRow _ _ _

/-- A row that is acknowledged after the call was so before, or the call acknowledged it. -/
lemma Change.acked
    (hr' : r' ∈ db'.messages) (hack : r'.state = .acknowledged) :
    ∃ r ∈ db.messages, r.eventId = r'.eventId ∧ (r.state = .acknowledged ∨ op.Acks r) := by
  rcases h.origin r' hr' with ⟨r, hr, hd⟩ | ⟨-, cfg, x, now, -, rfl⟩
  · exact ⟨r, hr, hd.eventId.symm, hd.acked hack⟩
  · cases hack

/-- An acknowledged row that is still there is acknowledged, unless the call resets it. -/
lemma Change.kept (hs : Sound db)
    (hr : r ∈ db.messages) (hack : r.state = .acknowledged)
    (hr' : r' ∈ db'.messages) (hc : r'.eventCounter = r.eventCounter) :
    r'.state = .acknowledged ∨ op.Resets r := by
  rcases h.origin r' hr' with ⟨r₁, hr₁, hd⟩ | ⟨-, cfg, x, now, -, rfl⟩
  · rw [hs.unique r₁ hr₁ r hr (hd.eventCounter.symm.trans hc)] at hd
    exact hd.kept hack
  · exact absurd hc (hs.fresh r hr).ne'

lemma Change.survives (hs : Sound db)
    (hr : r ∈ db.messages) (hack : r.state ≠ .acknowledged) (hlow : r.evictable = false) :
    ∃ r' ∈ db'.messages, Descends op r r' := by
  have hthere : r.eventCounter ∈ counters db' := by
    by_contra hgone
    rcases h.deleted r (mem_missing.mpr ⟨hr, hgone⟩) with h | h
    · exact hack h
    · simp [hlow] at h
  obtain ⟨r', hr', hc⟩ := mem_map.mp hthere
  rcases h.origin r' hr' with ⟨r₁, hr₁, hd⟩ | ⟨-, cfg, x, now, -, rfl⟩
  · rw [hs.unique r₁ hr₁ r hr (hd.eventCounter.symm.trans hc)] at hd
    exact ⟨r', hr', hd⟩
  · exact absurd hc (hs.fresh r hr).ne'

end

/-! ### Capacity enforcement -/

lemma Evicts.dropped (h : Evicts db db')
    (hu : ∀ r ∈ db.messages, ∀ r' ∈ db.messages, r.eventCounter = r'.eventCounter → r = r') :
    db'.droppedLowPriority = db.droppedLowPriority +
      (missing db db').countP fun r => r.state ≠ .acknowledged := by
  induction h with
  | refl db => rw [missing_eq_nil fun r hr => mem_counters hr]; rfl
  | acked p hp rest ih =>
    rw [ih fun r hr r' hr' => hu r (mem_delete.mp hr).1 r' (mem_delete.mp hr').1]
    -- the rows deleted here are acknowledged and do not count
    congr 1
    simp only [missing, delete, countP_filter, filter_filter]
    refine countP_congr fun r hr => ?_
    by_cases hpr : p r
    · simp [hp r hr hpr]
    · simp [hpr]
  | @low db db' x hx he rest ih =>
    rw [ih fun r hr r' hr' => hu r (mem_delete.mp hr).1 r' (mem_delete.mp hr').1]
    -- the row deleted here is missing at the end, and counts once
    have hx_gone : x.eventCounter ∉ counters db' := by
      intro hmem
      obtain ⟨r, hr, hc⟩ := mem_map.mp hmem
      obtain ⟨hr, hne⟩ := mem_delete.mp (rest.mem hr)
      rw [hu r hr x hx hc] at hne
      simp at hne
    have hx_state : x.state ≠ .acknowledged := by
      intro hack
      simp [Row.evictable, hack] at he
    let P : Row → Bool := fun r =>
      decide (r.state ≠ .acknowledged) && decide (r.eventCounter ∉ counters db')
    have hone : [x].countP P = 1 := by simp [P, hx_gone, hx_state]
    have hsplit := db.messages.rows.countP_eq_countP_filter_add P (fun r => r.eventId = x.eventId)
    rw [filter_key hx, hone] at hsplit
    rw [missing, missing, countP_filter, countP_filter]
    show db.droppedLowPriority + 1 +
      (db.messages.rows.filter fun r => !decide (r.eventId = x.eventId)).countP P = _ +
        db.messages.rows.countP P
    omega

lemma Evicts.change (h : Evicts db db') (hs : Sound db) (op : Operation) : Change op db db' where
  next_le := h.nextEventCounter.ge
  origin r hr := .inl ⟨r, h.mem hr, .refl op r⟩
  deleted r hr := by
    obtain ⟨hr, hgone⟩ := mem_missing.mp hr
    by_contra hkept
    rw [not_or, Bool.not_eq_true] at hkept
    exact hgone (mem_counters (h.mem_of_kept hr hkept.1 hkept.2))
  dropped := h.dropped hs.unique

/-! ### The calls -/

variable {now : ℕ} {cfg : Config} {m : OutboundMessage}

lemma Inserts.change {x : Finding}
    (h : Inserts cfg x now db db') (hs : Sound db) (hop : op.config = some cfg) :
    Change op db db' := by
  obtain ⟨mid, messages, hev, hins, -, -, rfl⟩ := h
  have hmid := hev.change hs op
  have hnext := hev.nextEventCounter
  have hcounters : counters { mid with messages, nextEventCounter := mid.nextEventCounter + 1 } =
      counters mid ++ [mid.nextEventCounter] := by
    simp [counters, insert_rows hins, Finding.toRow]
  -- the new row has no counter of a row that was there
  have hmissing : missing db { mid with messages, nextEventCounter := mid.nextEventCounter + 1 } =
      missing db mid := by
    refine filter_congr fun r hr => ?_
    have hlt := hs.fresh r hr
    have hne : r.eventCounter ≠ mid.nextEventCounter := by omega
    simp [hcounters, hne]
  constructor
  · exact hmid.next_le.trans (Nat.le_succ _)
  · intro r' hr'
    rcases (mem_insert hins).mp hr' with hr' | rfl
    · exact .inl ⟨r', hev.mem hr', .refl op r'⟩
    · rw [hnext]
      exact .inr ⟨Nat.lt_succ_self _, cfg, x, now, hop, rfl⟩
  · rw [hmissing]; exact hmid.deleted
  · rw [hmissing]; exact hmid.dropped

lemma Attempts.stored
    (h : Attempts m now db db') : ∃ r' ∈ db'.messages, r'.eventId = bindText m.eventId ∧
      r'.state = .inFlight ∧ r'.attemptEnvelopeJson = some (bindText m.attemptEnvelopeJson) := by
  obtain ⟨⟨r, hr, hid⟩, mid, hev, rfl⟩ := h
  refine ⟨Row.withAttempt m now (reserve r), ?_, hid, rfl, rfl⟩
  exact mem_updateEvent.mpr ⟨reserve r, Attempts.mem_reserved hev hr hid, if_pos hid⟩

lemma Attempts.change (h : Attempts m now db db') (hs : Sound db) (cfg : Config) :
    Change (.storeAttempt cfg m now) db db' := by
  set op := Operation.storeAttempt cfg m now with hop
  obtain ⟨-, mid, hev, rfl⟩ := h
  have hreserve : Change op db (updateEvent m.eventId reserve (fun _ => rfl) db) :=
    .update reserve (fun _ => rfl) fun r hr =>
      ⟨⟨rfl, rfl, rfl, rfl, rfl, rfl, rfl⟩, le_rfl, .inl ⟨rfl, rfl⟩, nofun, fun _ => .inr hr⟩
  have hcounters : counters (updateEvent m.eventId (Row.withAttempt m now) (fun _ => rfl) mid) =
      counters mid := counters_updateEvent m.eventId (Row.withAttempt m now) (fun _ => rfl) mid
  have hkept : ∀ r ∈ db.messages, r.eventId = bindText m.eventId → r.eventCounter ∈ counters mid :=
    fun r hr hid => mem_counters (r := reserve r) (Attempts.mem_reserved hev hr hid)
  have hev' := hev.change (hreserve.sound hs) op
  constructor
  · exact hev'.next_le
  · -- reserved and stored, or untouched
    intro r' hr'
    obtain ⟨r₁, hr₁, rfl⟩ := mem_updateEvent.mp hr'
    obtain ⟨r, hr, rfl⟩ := mem_updateEvent.mp (hev.mem hr₁)
    refine .inl ⟨r, hr, ?_⟩
    by_cases hid : r.eventId = bindText m.eventId
    · rw [if_pos hid, if_pos (show (reserve r).eventId = _ from hid)]
      exact ⟨⟨rfl, rfl, rfl, rfl, rfl, rfl, rfl⟩, Nat.le_succ _,
        .inr ⟨hid, rfl, rfl, Nat.lt_succ_self _⟩, nofun, fun _ => .inr hid⟩
    · simpa [hid] using Descends.refl op r
  · intro r hr
    rw [mem_missing, hcounters] at hr
    have hid : r.eventId ≠ bindText m.eventId := fun hid => hr.2 (hkept r hr.1 hid)
    exact hev'.deleted r (mem_missing.mpr ⟨mem_updateEvent.mpr ⟨r, hr.1, if_neg hid⟩, hr.2⟩)
  · show mid.droppedLowPriority = _
    rw [hev'.dropped, missing, missing, hcounters, countP_filter, countP_filter]
    congr 1
    simp only [updateEvent, update, countP_map]
    refine countP_congr fun r hr => ?_
    by_cases hid : r.eventId = bindText m.eventId
    · simp [hid, reserve, hkept r hr hid]
    · simp [hid]

/-- The call may insert a row for `x`. -/
def Operation.Offers (db : Database) (cfg : Config) (x : Finding) : Operation → Prop
  | .enqueue c y _ => cfg = c ∧ x = y
  | .enqueueGapMarker c _ => cfg = c ∧ x = gapFinding sha db.droppedLowPriority
  | _ => False

lemma Operation.Offers.config {sha : Sha256} {x : Finding}
    (h : op.Offers sha db cfg x) : op.config = some cfg := by
  cases op with
  | enqueue | enqueueGapMarker => rw [Operation.config, h.1]
  | _ => exact h.elim

/-- What a call can do to the database. -/
inductive Operation.Does (sha : Sha256) (db : Database) : Operation → Database → Prop
  | evicted {op : Operation} {db' : Database} (h : Evicts db db') : Does sha db op db'
  | coalesced {op : Operation} : Does sha db op { db with coalesced := db.coalesced + 1 }
  | inserted {op : Operation} {db' : Database} {cfg : Config} {x : Finding} {now : ℕ}
      (hoffer : op.Offers sha db cfg x) (h : Inserts cfg x now db db')
      (hroom : 0 < cfg.maxBytes → usedBytes db' ≤ cfg.maxBytes) : Does sha db op db'
  | attempted {db' : Database} {cfg : Config} {m : OutboundMessage} {now : ℕ}
      (h : Attempts m now db db') (hroom : 0 < cfg.maxBytes → usedBytes db' ≤ cfg.maxBytes ∨
        usedBytes db' ≤ usedBytes (updateEvent m.eventId reserve (fun _ => rfl) db)) :
      Does sha db (.storeAttempt cfg m now) db'
  | updated {op : Operation} {eventId : Text} {f : Row → Row} {hf : ∀ r, (f r).eventId = r.eventId}
      (hcounter : ∀ r, (f r).eventCounter = r.eventCounter) (hcfg : op.config = none)
      (h : ∀ r, r.eventId = bindText eventId →
        Descends op r (f r) ∧ op.Resets r ∧ (f r).logicalBytes = r.logicalBytes) :
      Does sha db op (updateEvent eventId f hf db)
  | acknowledged {eventId : Text} {ack : Receipt} {now : ℕ} :
      Does sha db (.markAcknowledged eventId ack now) (acknowledge eventId ack now db)

lemma Operation.exec_does (op : Operation) (o : Oracle Text) (db : Database) :
    op.Does sha db (op.exec sha o db) := by
  have henqueue : ∀ cfg x now s, op.Offers sha db cfg x → s.db = db →
      op.Does sha db (OutboundQueue.enqueue cfg x now o s).2.db := by
    rintro cfg x now s hoffer rfl
    rcases enqueue_cases cfg x now o s with ⟨e, -, h⟩ | ⟨r, -, -, -, h⟩ | ⟨-, h, hroom, -⟩
    · rw [h]; exact .evicted (.refl _)
    · rw [h]; exact .coalesced
    · exact .inserted hoffer h hroom
  -- a statement that updates a row, or fails
  have hmodify : ∀ f : Database → Database, op.Does sha db (f db) →
      op.Does sha db (Sql.modify f o ⟨db, 0⟩ : Except Text Unit × _).2.db := by
    intro f hf
    rcases modify_db f o ⟨db, 0⟩ with h | h <;> rw [h]
    · exact .evicted (.refl _)
    · exact hf
  cases op with
  | enqueue cfg x now => exact henqueue cfg x now _ ⟨rfl, rfl⟩ rfl
  | nextReady now =>
    rw [Operation.exec, Sql.exec, nextReady_db]
    exact .evicted (.refl _)
  | storeAttempt cfg m now =>
    rcases storeAttempt_cases cfg m now o ⟨db, 0⟩ with ⟨e, -, h⟩ | ⟨-, h, hroom⟩
    · rw [Operation.exec, Sql.exec, h]; exact .evicted (.refl _)
    · exact .attempted h hroom
  | markRetry | markDeadLetter =>
    exact hmodify _ (.updated (fun _ => rfl) rfl fun r hr =>
      ⟨⟨⟨rfl, rfl, rfl, rfl, rfl, rfl, rfl⟩, le_rfl, .inl ⟨rfl, rfl⟩, nofun, fun _ => .inr hr⟩,
        hr, rfl⟩)
  | markAcknowledged eventId ack now =>
    rcases markAcknowledged_cases eventId ack now o ⟨db, 0⟩ with ⟨e, -, h⟩ | ⟨-, h⟩ <;>
      rw [Operation.exec, Sql.exec, h]
    · exact .evicted (.refl _)
    · exact .acknowledged
  | enqueueGapMarker cfg now =>
    rcases enqueueGapMarker_cases sha cfg now o ⟨db, 0⟩ with
      ⟨e, -, h⟩ | ⟨-, dropped, reported, hcounts, ⟨h, -⟩ | ⟨hlt, s₁, id, hs₁, -, h⟩⟩ <;>
      rw [Operation.exec, Sql.exec, h]
    · exact .evicted (.refl _)
    · exact .evicted (.refl _)
    · obtain rfl := hcounts.dropped_eq.resolve_left (by omega)
      exact henqueue cfg _ now s₁ ⟨rfl, rfl⟩ hs₁
  | pruneAcknowledged olderThan =>
    refine hmodify _ (.evicted (.acked _ (fun r _ hp => ?_) (.refl _)))
    simp only [Bool.and_eq_true, decide_eq_true_eq] at hp
    exact hp.1

lemma Operation.Does.change {sha : Sha256} (h : op.Does sha db db') (hs : Sound db) :
    Change op db db' := by
  cases h with
  | evicted h => exact h.change hs op
  | coalesced => exact (Change.refl _ _).congr rfl rfl rfl
  | inserted hoffer h => exact h.change hs hoffer.config
  | attempted h => exact h.change hs _
  | updated hcounter _ h => exact .update _ hcounter fun r hr => (h r hr).1
  | @acknowledged eventId ack now =>
    have hack : Change (.markAcknowledged eventId ack now) db
        (updateEvent eventId (Row.withAck ack now) (fun _ => rfl) db) :=
      .update _ (fun _ => rfl) fun r hr =>
        ⟨⟨rfl, rfl, rfl, rfl, rfl, rfl, rfl⟩, le_rfl, .inl ⟨rfl, rfl⟩, fun _ => .inr hr,
          fun _ => .inl rfl⟩
    exact hack.congr rfl rfl rfl

lemma Operation.change (op : Operation) (o : Oracle Text)
    (hs : Sound db) : Change op db (op.exec sha o db) := (op.exec_does sha o db).change hs

/-- A call that inserts nothing. -/
lemma Change.descends (h : Change op db db') (hcfg : op.config = none) (hr' : r' ∈ db'.messages) :
    ∃ r ∈ db.messages, Descends op r r' := by
  refine (h.origin r' hr').resolve_right ?_
  rintro ⟨-, cfg, x, now, hsome, -⟩
  rw [hcfg] at hsome
  cases hsome

lemma Operation.Does.origin {sha : Sha256} (h : op.Does sha db db') (hs : Sound db)
    (hr' : r' ∈ db'.messages) :
    (∃ r ∈ db.messages, Descends op r r') ∨ ∃ cfg x now, op.Offers sha db cfg x ∧
      r' = Finding.toRow x cfg db.nextEventCounter now := by
  have hchange := h.change hs
  cases h with
  | evicted h => exact .inl ⟨r', h.mem hr', .refl _ r'⟩
  | coalesced => exact .inl ⟨r', hr', .refl _ r'⟩
  | inserted hoffer h =>
    obtain ⟨mid, messages, hev, hins, -, -, rfl⟩ := h
    rcases (mem_insert hins).mp hr' with hr | rfl
    · exact .inl ⟨r', hev.mem hr, .refl _ r'⟩
    · exact .inr ⟨_, _, _, hoffer, by rw [hev.nextEventCounter]⟩
  | attempted | acknowledged => exact .inl (hchange.descends rfl hr')
  | updated _ hcfg => exact .inl (hchange.descends hcfg hr')

/-! ### Histories -/

def Database.step (db : Database) (call : Operation × Oracle Text) : Database :=
  call.1.exec sha call.2 db

structure History where
  db : Database
  /-- The rows deleted so far, as they were when they were deleted. -/
  deleted : List Row
  /-- The event counters of the rows that have been acknowledged at some time. -/
  everAcked : List ℕ

namespace History

def start : History := ⟨.initial, [], []⟩

def step (sha : Sha256) (h : History) (call : Operation × Oracle Text) : History :=
  let db := call.1.exec sha call.2 h.db
  ⟨db, h.deleted ++ missing h.db db,
    h.everAcked ++ (db.messages.rows.filter fun r => r.state = .acknowledged).map Row.eventCounter⟩

def AcksAttempted (h : History) (call : Operation × Oracle Text) : Prop :=
  ∀ r ∈ h.db.messages, call.1.Acks r → 0 < r.attemptCount

structure Good (h : History) : Prop where
  sound : Sound h.db
  deleted : ∀ r ∈ h.deleted, r.state = .acknowledged ∨ r.evictable
  dropped : h.db.droppedLowPriority = h.deleted.countP fun r => r.state ≠ .acknowledged

lemma good_start : start.Good where
  sound := sound_initial
  deleted r hr := by simp [start] at hr
  dropped := rfl

variable {h : History}

lemma Good.step (hg : h.Good) (sha : Sha256) (call : Operation × Oracle Text) :
    (h.step sha call).Good := by
  have hc := call.1.change sha call.2 hg.sound
  constructor
  · exact hc.sound hg.sound
  · intro r hr
    rcases mem_append.mp hr with hr | hr
    · exact hg.deleted r hr
    · exact hc.deleted r hr
  · show (call.1.exec sha call.2 h.db).droppedLowPriority = _
    rw [hc.dropped, hg.dropped, History.step, countP_append]

/-- In a history that acknowledges only attempted rows, a row that has never been attempted
has never been acknowledged, and what was deleted unacknowledged never will be. -/
structure Strict (h : History) : Prop extends Good h where
  acked : ∀ r ∈ h.db.messages, r.state = .acknowledged → r.eventCounter ∈ h.everAcked
  unattempted : ∀ r ∈ h.db.messages, r.attemptCount = 0 → r.eventCounter ∉ h.everAcked
  fresh : ∀ c ∈ h.everAcked, c < h.db.nextEventCounter
  gone : ∀ d ∈ h.deleted, d.eventCounter < h.db.nextEventCounter ∧
    d.eventCounter ∉ counters h.db
  known : ∀ d ∈ h.deleted, d.state = .acknowledged ↔ d.eventCounter ∈ h.everAcked

variable {call : Operation × Oracle Text}

lemma mem_everAcked_step {sha : Sha256} {c : ℕ} :
    c ∈ (h.step sha call).everAcked ↔ c ∈ h.everAcked ∨
      ∃ r ∈ (h.step sha call).db.messages, r.state = .acknowledged ∧ r.eventCounter = c := by
  simp [step, mem_def, and_assoc]

lemma strict_start : start.Strict where
  toGood := good_start
  acked r hr := absurd hr (not_mem_empty r)
  unattempted r hr := absurd hr (not_mem_empty r)
  fresh c hc := by simp [start] at hc
  gone d hd := by simp [start] at hd
  known d hd := by simp [start] at hd

lemma Strict.step (hs : h.Strict) {sha : Sha256}
    (hacks : h.AcksAttempted call) : (h.step sha call).Strict := by
  have hgood := hs.toGood.step sha call
  have hc := call.1.change sha call.2 hs.sound
  have hle : h.db.nextEventCounter ≤ (h.step sha call).db.nextEventCounter := hc.next_le
  have hunattempted : ∀ r' ∈ (h.step sha call).db.messages, r'.attemptCount = 0 →
      r'.state ≠ .acknowledged ∧ r'.eventCounter ∉ h.everAcked := by
    intro r' hr' h0
    rcases hc.origin r' hr' with ⟨r, hr, hd⟩ | ⟨-, cfg, x, now, -, rfl⟩
    · have hr0 : r.attemptCount = 0 := by have := hd.attempts; omega
      have hnever := hs.unattempted r hr hr0
      refine ⟨fun hack => ?_, hd.eventCounter ▸ hnever⟩
      rcases hd.acked hack with hack | hack
      · exact hnever (hs.acked r hr hack)
      · have := hacks r hr hack
        omega
    · exact ⟨nofun, fun hmem => (hs.fresh _ hmem).ne rfl⟩
  have hgone : ∀ d ∈ (h.step sha call).deleted,
      d.eventCounter < (h.step sha call).db.nextEventCounter ∧
        d.eventCounter ∉ counters (h.step sha call).db := by
    intro d hd
    rcases mem_append.mp hd with hd | hd
    · obtain ⟨hlt, hnot⟩ := hs.gone d hd
      refine ⟨by omega, fun hmem => ?_⟩
      obtain ⟨r', hr', hcounter⟩ := mem_map.mp hmem
      rcases hc.origin r' hr' with ⟨r, hr, hdesc⟩ | ⟨-, cfg, x, now, -, rfl⟩
      · exact hnot (mem_map.mpr ⟨r, hr, hdesc.eventCounter.symm.trans hcounter⟩)
      · exact hlt.ne hcounter.symm
    · obtain ⟨hd, hnot⟩ := mem_missing.mp hd
      have := hs.sound.fresh d hd
      exact ⟨by omega, hnot⟩
  refine ⟨hgood, fun r hr hack => ?_, fun r hr h0 hmem => ?_, fun c hmem => ?_, hgone, fun d hd => ?_⟩
  · exact mem_everAcked_step.mpr (.inr ⟨r, hr, hack, rfl⟩)
  · obtain ⟨hstate, hnever⟩ := hunattempted r hr h0
    rcases mem_everAcked_step.mp hmem with hmem | ⟨r', hr', hack, hcounter⟩
    · exact hnever hmem
    · rw [hgood.sound.unique r' hr' r hr hcounter] at hack
      exact hstate hack
  · rcases mem_everAcked_step.mp hmem with hmem | ⟨r', hr', -, rfl⟩
    · have := hs.fresh c hmem
      omega
    · exact hgood.sound.fresh r' hr'
  · -- what was deleted is in the table no more, so nothing new is known about it
    have hstable : d.eventCounter ∈ (h.step sha call).everAcked ↔ d.eventCounter ∈ h.everAcked := by
      rw [mem_everAcked_step]
      refine or_iff_left fun ⟨r', hr', _, hcounter⟩ => ?_
      exact (hgone d hd).2 (mem_map.mpr ⟨r', hr', hcounter⟩)
    rw [hstable]
    rcases mem_append.mp hd with hd | hd
    · exact hs.known d hd
    · obtain ⟨hmem, -⟩ := mem_missing.mp hd
      rcases hc.deleted d hd with hack | hlow
      · exact iff_of_true hack (hs.acked d hmem hack)
      · simp only [Row.evictable, Bool.and_eq_true, decide_eq_true_eq] at hlow
        exact iff_of_false (by simp [hlow.1.1]) (hs.unattempted d hmem hlow.1.2)

/-- **Retention.** In every history a row is deleted only when it is acknowledged, or
pending, never attempted and of low priority, and the counter of dropped events is the
number of rows deleted while they were not acknowledged. Where only attempted rows are
acknowledged, as the dispatcher does it, that is the number of rows deleted without ever
having been acknowledged. -/
theorem dropped_counts_deletions (sha : Sha256) (calls : List (Operation × Oracle Text)) :
    let h := run (History.step sha) start calls
    (∀ r ∈ h.deleted, r.state = .acknowledged ∨
      r.state = .pending ∧ r.attemptCount = 0 ∧ r.priority ≤ 1) ∧
    h.db.droppedLowPriority = h.deleted.countP (fun r => r.state ≠ .acknowledged) ∧
    (Along (step sha) AcksAttempted start calls →
      h.db.droppedLowPriority = h.deleted.countP fun r => r.eventCounter ∉ h.everAcked) := by
  intro h
  have hgood : h.Good := inv_run_all (fun _ call hg => hg.step sha call) good_start calls
  refine ⟨fun r hr => ?_, hgood.dropped, fun hacks => ?_⟩
  · refine (hgood.deleted r hr).imp id fun hlow => ?_
    simpa [Row.evictable, and_assoc] using hlow
  · have hstrict : h.Strict := inv_run (fun _ _ hs hi => hs.step hi) strict_start hacks
    rw [hgood.dropped]
    refine countP_congr fun d hd => ?_
    simp [hstrict.known d hd]

def lowFinding (producer : String) : Finding :=
  ⟨producer.toList, "FindingAnnouncement", "CONNECTION", "k", 0,
    "\x7b\x7d", "sha256:0"⟩

def steady : Oracle Text := ⟨fun _ => none, fun _ _ => 0⟩

/-- Room for one finding: the second one evicts the first. -/
theorem dropped_counts_deletions_evicted :
    let calls := [(.enqueue ⟨"a", 600⟩ (lowFinding "p") 5, steady),
      (.enqueue ⟨"a", 600⟩ (lowFinding "q") 6, steady)]
    let h := run (step fun _ _ => 0) start calls
    Along (step fun _ _ => 0) AcksAttempted start calls ∧
      h.db.droppedLowPriority = 1 ∧
      h.db.droppedLowPriority = h.deleted.countP fun r => r.eventCounter ∉ h.everAcked := by
  intro calls h
  have hacks : Along (step fun _ _ => 0) AcksAttempted start calls :=
    ⟨fun _ _ h => h.elim, fun _ _ h => h.elim, trivial⟩
  exact ⟨hacks, by decide, (dropped_counts_deletions (fun _ _ => 0) calls).2.2 hacks⟩

/-- A row that is acknowledged without an attempt, set back to pending and evicted counts as
dropped although it has been acknowledged. -/
theorem dropped_counts_acknowledged :
    let calls := [(.enqueue ⟨"a", 600⟩ (lowFinding "p") 5, steady),
      (.markAcknowledged "a:1" ⟨"ACCEPTED", "now"⟩ 6, steady),
      (.markRetry "a:1" 7 [], steady),
      (.enqueue ⟨"a", 600⟩ (lowFinding "q") 8, steady)]
    let h := run (step fun _ _ => 0) start calls
    h.db.droppedLowPriority = 1 ∧ (h.deleted.countP fun r => r.eventCounter ∉ h.everAcked) = 0 := by
  decide

/-- An event that is attempted and not acknowledged in `h` is so in `h'`, with the same payload,
unless it has been acknowledged at some time. -/
def Retains (h h' : History) : Prop :=
  ∀ r ∈ h.db.messages, 0 < r.attemptCount → r.state ≠ .acknowledged →
    (∃ r' ∈ h'.db.messages, SameEvent r r' ∧ r.attemptCount ≤ r'.attemptCount ∧
      r'.state ≠ .acknowledged) ∨ r.eventCounter ∈ h'.everAcked

lemma Retains.step {h' : History} (hret : h.Retains h') (hg : h'.Good) (sha : Sha256)
    (call : Operation × Oracle Text) : h.Retains (h'.step sha call) := by
  intro r hr hattempted hack
  rcases hret r hr hattempted hack with ⟨r', hr', hsame, hle, hack'⟩ | hacked
  · have hlow : r'.evictable = false := by
      simp [Row.evictable, (hattempted.trans_le hle).ne']
    obtain ⟨r'', hr'', hd⟩ := (call.1.change sha call.2 hg.sound).survives hg.sound hr' hack' hlow
    by_cases hack'' : r''.state = .acknowledged
    · exact .inr (mem_everAcked_step.mpr (.inr ⟨r'', hr'', hack'',
        hd.eventCounter.trans hsame.eventCounter⟩))
    · exact .inl ⟨r'', hr'', hsame.trans hd.toSameEvent, hle.trans hd.attempts, hack''⟩
  · exact .inr (mem_everAcked_step.mpr (.inl hacked))

/-- **No attempted event is lost.** Whatever calls follow, by any number of processes and with any
failures, an event that was attempted stays in the outbox as it is until it is acknowledged. -/
theorem attempted_events_retained (sha : Sha256) (calls calls' : List (Operation × Oracle Text)) :
    (run (step sha) start calls).Retains (run (step sha) start (calls ++ calls')) := by
  have hgood : (run (step sha) start calls).Good :=
    inv_run_all (fun _ call hg => hg.step sha call) good_start calls
  simpa only [run, foldl_append] using (inv_run_all (I := fun h' => h'.Good ∧ Retains _ h')
    (fun _ call hI => ⟨hI.1.step sha call, hI.2.step hI.1 sha call⟩)
    ⟨hgood, fun r hr _ hack => .inl ⟨r, hr, .refl r, le_rfl, hack⟩⟩ calls').2

end History

end NetaAgent.OutboundQueue
