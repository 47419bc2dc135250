import Mathlib.Algebra.Order.BigOperators.Group.List
import NetaAgent.OutboundQueue

/-!
What each method of the outbox can do to the database, said once.

`Evicts` is what capacity enforcement does: it deletes acknowledged rows, and it deletes
evictable rows and counts them. Every other method either throws and changes nothing or
makes one change that its lemma names.
-/

namespace NetaAgent.OutboundQueue

open Decimal Crypto Sql List Table Row

variable {cfg : Config} {o : Oracle Text} {s s' : Session Database}

/-! ### Capacity -/

def Row.charge (r : Row) : ℕ := if r.state = .acknowledged then 0 else r.logicalBytes

lemma usedBytes_eq (db : Database) : usedBytes db = (db.messages.rows.map charge).sum := by
  unfold usedBytes
  induction db.messages.rows with
  | nil => rfl
  | cons r l ih => by_cases h : r.state = .acknowledged <;> simp [h, charge, ← ih]

lemma usedBytes_delete_le (db : Database) (p : Row → Bool) :
    usedBytes { db with messages := db.messages.delete p } ≤ usedBytes db := by
  rw [usedBytes_eq, usedBytes_eq]
  exact (filter_sublist.map _).sum_le_sum fun _ _ => Nat.zero_le _

variable {db db' mid : Database} {messages : Table Row.eventId} {r r' row : Row}

lemma usedBytes_insert (h : db.messages.insert row = some messages) :
    usedBytes { db with messages } = usedBytes db + row.charge := by
  simp [usedBytes_eq, insert_rows h]

variable {eventId : Text}

lemma usedBytes_update_le {f : Row → Row} {hf : ∀ r, (f r).eventId = r.eventId}
    (h : ∀ r ∈ db.messages, r.eventId = bindText eventId → (f r).charge ≤ r.charge) :
    usedBytes (updateEvent eventId f hf db) ≤ usedBytes db := by
  rw [usedBytes_eq, usedBytes_eq]
  simp only [updateEvent, update, map_map]
  refine sum_le_sum fun r hr => ?_
  by_cases hid : r.eventId = bindText eventId
  · simpa [hid] using h r hr hid
  · simp [hid]

/-- Capacity enforcement, one deletion after the other. -/
inductive Evicts : Database → Database → Prop
  | refl (db : Database) : Evicts db db
  | acked {db db' : Database} (p : Row → Bool)
      (hp : ∀ r ∈ db.messages, p r → r.state = .acknowledged)
      (rest : Evicts { db with messages := db.messages.delete p } db') : Evicts db db'
  | low {db db' : Database} (r : Row) (hr : r ∈ db.messages) (he : r.evictable)
      (rest : Evicts { db with
        messages := db.messages.delete fun x => x.eventId = r.eventId
        droppedLowPriority := db.droppedLowPriority + 1 } db') : Evicts db db'

section

variable (h : Evicts db db')
include h

lemma Evicts.nextEventCounter : db'.nextEventCounter = db.nextEventCounter := by
  induction h with
  | refl => rfl
  | acked _ _ _ ih => exact ih
  | low _ _ _ _ ih => exact ih

lemma Evicts.mem (hr : r ∈ db'.messages) : r ∈ db.messages := by
  induction h with
  | refl => exact hr
  | acked p _ _ ih => exact (mem_delete.mp (ih hr)).1
  | low _ _ _ _ ih => exact (mem_delete.mp (ih hr)).1

lemma Evicts.mem_of_kept
    (hr : r ∈ db.messages) (hack : r.state ≠ .acknowledged) (hlow : r.evictable = false) :
    r ∈ db'.messages := by
  induction h with
  | refl => exact hr
  | acked p hp _ ih =>
    refine ih (mem_delete.mpr ⟨hr, ?_⟩)
    by_contra hpr
    exact hack (hp r hr (by simpa using hpr))
  | low x hx he _ ih =>
    refine ih (mem_delete.mpr ⟨hr, ?_⟩)
    simp only [decide_eq_false_iff_not]
    intro hid
    rw [eq_of_key_eq hr hx hid, he] at hlow
    cases hlow

lemma Evicts.usedBytes_le : usedBytes db' ≤ usedBytes db := by
  induction h with
  | refl => exact le_rfl
  | acked p _ _ ih => exact ih.trans (usedBytes_delete_le _ p)
  | low _ _ _ _ ih => exact ih.trans (usedBytes_delete_le _ _)

end

variable {u : Unit}

lemma evictLow_ok {maxBytes required fuel used : ℕ}
    (h : evictLow maxBytes required fuel used o s = (.ok u, s')) :
    Evicts s.db s'.db ∧ (usedBytes s.db ≤ used → required + usedBytes s'.db ≤ maxBytes) := by
  induction fuel generalizing used s with
  | zero => exact absurd h throwing_ok
  | succ fuel ih =>
    unfold evictLow at h
    split at h
    · obtain ⟨changes, s₁, hdel, h⟩ := bind_ok.mp h
      have hdel := statement_ok hdel
      split at h
      · exact absurd h throwing_ok
      · next hne =>
        obtain ⟨u₁, s₂, hcount, h⟩ := bind_ok.mp h
        obtain ⟨used', s₃, hused, h⟩ := bind_ok.mp h
        have hcount := modify_ok hcount
        obtain ⟨hmeasured, hused⟩ := query_ok hused
        -- a deletion that changed something deleted the picked row
        simp only [removeLow] at hdel
        split at hdel <;> simp only [Except.ok.injEq, Prod.mk.injEq] at hdel
        · exact absurd hdel.1.symm hne
        · next low hpick =>
          obtain ⟨hmem, hev⟩ := mem_filter.mp (pick_mem hpick)
          obtain ⟨hrest, hroom⟩ := ih h
          refine ⟨?_, fun _ => hroom (by rw [hmeasured, hused])⟩
          rw [hused, hcount, ← hdel.2] at hrest
          exact .low low hmem hev hrest
    · next hfits =>
      obtain ⟨-, rfl⟩ := pure_ok.mp h
      simp only [exceeds, Bool.or_eq_true, decide_eq_true_eq, not_or, not_lt] at hfits
      exact ⟨.refl _, fun hle => by omega⟩

lemma enforceBudget_ok {required : ℕ} (h : enforceBudget cfg required o s = (.ok u, s')) :
    Evicts s.db s'.db ∧ (0 < cfg.maxBytes → required + usedBytes s'.db ≤ cfg.maxBytes) := by
  unfold enforceBudget at h
  split at h
  · next hzero =>
    obtain ⟨-, rfl⟩ := pure_ok.mp h
    exact ⟨.refl _, fun hpos => by omega⟩
  · obtain ⟨used, s₁, hused, h⟩ := bind_ok.mp h
    obtain ⟨rfl, hs₁⟩ := query_ok hused
    split at h
    · next hfits =>
      obtain ⟨-, rfl⟩ := pure_ok.mp h
      rw [hs₁]
      simp only [Bool.and_eq_true, decide_eq_true_eq] at hfits
      exact ⟨.refl _, fun _ => by omega⟩
    · obtain ⟨u₁, s₂, hacked, h⟩ := bind_ok.mp h
      obtain ⟨rows, s₃, hrows, h⟩ := bind_ok.mp h
      have hacked := statement_ok hacked
      simp only [Except.ok.injEq, Prod.mk.injEq, true_and] at hacked
      have hs₃ : s₃ = s₂ := by cases hrows; rfl
      obtain ⟨hrest, hroom⟩ := evictLow_ok h
      rw [hs₃, ← hacked, hs₁] at hrest hroom
      refine ⟨.acked _ (fun r hr hp => ?_) hrest, fun _ => hroom (usedBytes_delete_le _ _)⟩
      -- an acknowledged row with this key is this row
      obtain ⟨r', hr', hid⟩ := mem_map.mp (contains_iff_mem.mp hp)
      obtain ⟨hmem, hack⟩ := mem_filter.mp (pickMany_subset hr')
      rw [← eq_of_key_eq hmem hr hid]
      simpa using hack

/-! ### The methods -/

lemma mem_updateEvent {f : Row → Row} {hf : ∀ r, (f r).eventId = r.eventId}
    : r' ∈ (updateEvent eventId f hf db).messages ↔
      ∃ r ∈ db.messages, (if r.eventId = bindText eventId then f r else r) = r' := by
  simp [updateEvent]

lemma insertRow_ok (h : insertRow row db = .ok (u, db')) :
    ∃ messages, db.messages.insert row = some messages ∧ db' = { db with messages } ∧
      (∀ r ∈ db.messages, r.eventCounter ≠ row.eventCounter) ∧
      ∀ r ∈ db.messages, r.producerKey ≠ row.producerKey := by
  unfold insertRow at h
  split_ifs at h with hcounter hproducer
  split at h
  · cases h
  · next messages hinsert =>
    simp only [Except.ok.injEq, Prod.mk.injEq, true_and] at h
    refine ⟨messages, hinsert, h.symm, fun r hr he => hcounter ?_, fun r hr he => hproducer ?_⟩
    · exact any_eq_true.mpr ⟨r, hr, by simpa using he⟩
    · exact any_eq_true.mpr ⟨r, hr, by simpa using he⟩

/-- The insertion at the end of `enqueue`, after capacity enforcement. -/
def Inserts (cfg : Config) (x : Finding) (now : ℕ) (db db' : Database) : Prop :=
  ∃ mid messages, Evicts db mid ∧
    mid.messages.insert (x.toRow cfg mid.nextEventCounter now) = some messages ∧
    (∀ r ∈ mid.messages, r.eventCounter ≠ mid.nextEventCounter) ∧
    (∀ r ∈ mid.messages, r.producerKey ≠ bindText x.producerKey) ∧
    db' = { mid with messages, nextEventCounter := mid.nextEventCounter + 1 }

lemma usedBytes_inserted {x : Finding} {now next M : ℕ}
    (hins : db.messages.insert (x.toRow cfg db.nextEventCounter now) = some messages)
    (hroom : x.payloadJson.length + 512 + usedBytes db ≤ M) :
    usedBytes { db with messages, nextEventCounter := next } ≤ M := by
  have hcharge : (x.toRow cfg db.nextEventCounter now).charge ≤ x.payloadJson.length + 512 := by
    have := sqlLength_bindText_le x.payloadJson
    simp only [charge, logicalBytes, Finding.toRow, reduceCtorEq, if_false,
      Option.map_none, Option.getD_none]
    omega
  calc usedBytes { db with messages, nextEventCounter := next }
      = usedBytes db + (x.toRow cfg db.nextEventCounter now).charge := usedBytes_insert hins
    _ ≤ M := by omega

/-- `enqueue` throws and changes nothing, finds the producer's row, or inserts one. -/
lemma enqueue_cases (cfg : Config) (x : Finding) (now : ℕ) (o : Oracle Text)
    (s : Session Database) :
    (∃ e, (enqueue cfg x now o s).1 = .error e ∧ (enqueue cfg x now o s).2.db = s.db) ∨
      (∃ r ∈ s.db.messages, r.producerKey = bindText x.producerKey ∧
        (enqueue cfg x now o s).1 = .ok r.eventId ∧
        (enqueue cfg x now o s).2.db = { s.db with coalesced := s.db.coalesced + 1 }) ∨
      (enqueue cfg x now o s).1 = .ok (eventIdOf cfg s.db.nextEventCounter) ∧
        Inserts cfg x now s.db (enqueue cfg x now o s).2.db ∧
        (0 < cfg.maxBytes → usedBytes (enqueue cfg x now o s).2.db ≤ cfg.maxBytes) ∧
        ((o.fails (s.count + 1)).all Failure.atPrepare → (∀ r ∈ s.db.messages, r.eventId ≠ []) →
          ∀ r ∈ s.db.messages, r.producerKey ≠ bindText x.producerKey) := by
  rcases transaction_run _ o s with herr | ⟨id, s₂, hbody, hok, hdb⟩
  · exact .inl herr
  right
  rw [show enqueue cfg x now o s = transaction _ o s from rfl, hok, hdb]
  obtain ⟨existing, s₃, hlook, hbody⟩ := bind_ok.mp hbody
  unfold enqueueAfter at hbody
  have hs₃ : s₃.db = s.db := by
    rw [show s₃ = (lookup _ o ⟨s.db, s.count + 1⟩).2 by rw [hlook], lookup_db]
  split at hbody
  · next hne =>
    -- the producer has a row
    left
    obtain ⟨u, s₄, hcount, hret⟩ := bind_ok.mp hbody
    obtain ⟨rfl, rfl⟩ := pure_ok.mp hret
    rcases existing with _ | id
    · exact absurd rfl hne
    · have hfound := lookup_some hlook
      rw [existingEvent, Option.map_eq_some_iff] at hfound
      obtain ⟨r, hfind, rfl⟩ := hfound
      refine ⟨r, mem_of_find?_eq_some hfind, by simpa using find?_some hfind, rfl, ?_⟩
      rw [modify_ok hcount, hs₃]
  · next hnone =>
    right
    obtain ⟨u₁, s₄, hbudget, hbody⟩ := bind_ok.mp hbody
    obtain ⟨value, s₅, hvalue, hbody⟩ := bind_ok.mp hbody
    obtain ⟨u₂, s₆, hinsert, hbody⟩ := bind_ok.mp hbody
    obtain ⟨u₃, s₇, hbump, hret⟩ := bind_ok.mp hbody
    obtain ⟨rfl, rfl⟩ := pure_ok.mp hret
    obtain ⟨rfl, hs₅⟩ := query_ok hvalue
    obtain ⟨hevict, hroom⟩ := enforceBudget_ok hbudget
    obtain ⟨messages, hins, hs₆, hcounter, hproducer⟩ := insertRow_ok (statement_ok hinsert)
    rw [hs₃] at hevict
    rw [hs₅] at hins hs₆ hcounter hproducer
    have hdb : s₇.db = { s₄.db with messages, nextEventCounter := s₄.db.nextEventCounter + 1 } := by
      rw [modify_ok hbump, hs₆]
    refine ⟨by rw [hevict.nextEventCounter], ⟨s₄.db, messages, hevict, hins, hcounter, hproducer,
      hdb⟩, fun hpos => ?_, fun hselect hids r hr hkey => ?_⟩
    · rw [hdb]
      exact usedBytes_inserted hins (hroom hpos)
    · -- a lookup that does not fail has found the row
      rw [lookup_ok hlook hselect, ne_eq, not_not, existingEvent] at hnone
      cases hfind : s.db.messages.rows.find? fun r => r.producerKey = bindText x.producerKey with
      | none => simpa [hkey] using find?_eq_none.mp hfind r hr
      | some r₀ =>
        rw [hfind] at hnone
        exact hids r₀ (mem_of_find?_eq_some hfind) hnone

lemma makeRoom_ok {existing attempt : ℕ} (h : makeRoom cfg existing attempt o s = (.ok u, s')) :
    Evicts s.db s'.db ∧ (0 < cfg.maxBytes →
      attempt ≤ existing ∨ attempt - existing + usedBytes s'.db ≤ cfg.maxBytes) := by
  unfold makeRoom at h
  split at h
  · obtain ⟨hevict, hroom⟩ := enforceBudget_ok h
    exact ⟨hevict, fun hpos => .inr (hroom hpos)⟩
  · obtain ⟨-, rfl⟩ := pure_ok.mp h
    exact ⟨.refl _, fun _ => .inl (by omega)⟩

/-- The effect of `store_attempt`: the row is reserved, so capacity enforcement leaves it
alone, and then takes the attempt. -/
def Attempts (m : OutboundMessage) (now : ℕ) (db db' : Database) : Prop :=
  (∃ r ∈ db.messages, r.eventId = bindText m.eventId) ∧
    ∃ mid, Evicts (updateEvent m.eventId reserve reserve_eventId db) mid ∧
      db' = updateEvent m.eventId (Row.withAttempt m now) (Row.withAttempt_eventId m now) mid

lemma Attempts.mem_reserved (hev : Evicts (updateEvent eventId reserve (fun _ => rfl) db) mid)
    (hr : r ∈ db.messages) (hid : r.eventId = bindText eventId) : reserve r ∈ mid.messages := by
  refine hev.mem_of_kept ?_ (by simp [reserve]) (by simp [evictable, reserve])
  exact mem_updateEvent.mpr ⟨r, hr, if_pos hid⟩

lemma usedBytes_withAttempt {m : OutboundMessage} {now M : ℕ}
    (hr : r ∈ db.messages) (hid : r.eventId = bindText m.eventId)
    (hev : Evicts (updateEvent m.eventId reserve (fun _ => rfl) db) mid)
    (hroom : m.attemptEnvelopeJson.length ≤ sqlLength (r.attemptEnvelopeJson.getD []) ∨
      m.attemptEnvelopeJson.length - sqlLength (r.attemptEnvelopeJson.getD []) + usedBytes mid ≤ M) :
    usedBytes (updateEvent m.eventId (withAttempt m now) (fun _ => rfl) mid) ≤ M ∨
      usedBytes (updateEvent m.eventId (withAttempt m now) (fun _ => rfl) mid) ≤
        usedBytes (updateEvent m.eventId reserve (fun _ => rfl) db) := by
  have hreserved := Attempts.mem_reserved hev hr hid
  have hnew : (withAttempt m now (reserve r)).charge =
      sqlLength r.payloadJson + sqlLength (bindText m.attemptEnvelopeJson) + 512 := by
    simp [charge, logicalBytes, withAttempt, reserve]
  have hold : (reserve r).charge =
      sqlLength r.payloadJson + sqlLength (r.attemptEnvelopeJson.getD []) + 512 := by
    cases h : r.attemptEnvelopeJson <;>
      simp [charge, logicalBytes, reserve, h, sqlLength, sqlLengthFrom]
  have hle := sqlLength_bindText_le m.attemptEnvelopeJson
  have hsum := sum_update hreserved (withAttempt m now) (fun _ => rfl) charge
  rw [show (reserve r).eventId = bindText m.eventId from hid] at hsum
  have hafter : usedBytes (updateEvent m.eventId (withAttempt m now) (fun _ => rfl) mid) +
      (reserve r).charge = usedBytes mid + (withAttempt m now (reserve r)).charge := by
    rw [usedBytes_eq, usedBytes_eq]
    exact hsum
  rcases hroom with hshort | hroom
  · have := hev.usedBytes_le
    exact .inr (by omega)
  · exact .inl (by omega)

lemma storeAttempt_cases (cfg : Config) (m : OutboundMessage) (now : ℕ) (o : Oracle Text)
    (s : Session Database) :
    (∃ e, (storeAttempt cfg m now o s).1 = .error e ∧ (storeAttempt cfg m now o s).2.db = s.db) ∨
      (storeAttempt cfg m now o s).1 = .ok () ∧
        Attempts m now s.db (storeAttempt cfg m now o s).2.db ∧
        (0 < cfg.maxBytes → usedBytes (storeAttempt cfg m now o s).2.db ≤ cfg.maxBytes ∨
          usedBytes (storeAttempt cfg m now o s).2.db ≤
            usedBytes (updateEvent m.eventId reserve (fun _ => rfl) s.db)) := by
  rcases transaction_cases _ o s with herr | ⟨u, s₁, s₂, hs₁, hbody, hok, hdb⟩
  · exact .inl herr
  right
  rw [show storeAttempt cfg m now o s = transaction _ o s from rfl, hok, hdb]
  obtain ⟨changes, s₃, hreserve, hbody⟩ := bind_ok.mp hbody
  have hreserve := statement_ok hreserve
  simp only [Except.ok.injEq, Prod.mk.injEq, hs₁] at hreserve
  obtain ⟨rfl, hs₃⟩ := hreserve
  split at hbody
  · exact absurd hbody throwing_ok
  next hone =>
  simp only [ne_eq, not_not] at hone
  -- the reserved row is in the table
  obtain ⟨r, hr⟩ := length_eq_one_iff.mp hone
  have hmem : r ∈ s.db.messages.rows.filter fun x => x.eventId = bindText m.eventId := by
    rw [hr]; exact mem_singleton_self r
  obtain ⟨hmem, hid⟩ := mem_filter.mp hmem
  replace hid : r.eventId = bindText m.eventId := by simpa using hid
  obtain ⟨existing, s₄, hexisting, hbody⟩ := bind_ok.mp hbody
  have hexisting := statement_ok hexisting
  simp only [Except.ok.injEq, Prod.mk.injEq] at hexisting
  have hs₄ : s₄.db = _ := hexisting.2.symm.trans hs₃.symm
  split at hbody
  · exact absurd hbody throwing_ok
  next r' _ =>
  -- the row found is the reserved one
  have hfound := hexisting.1
  rw [← hs₃, find_eq_some] at hfound
  have hsame : r' = reserve r := by
    refine eq_of_key_eq hfound.1 (mem_updateEvent.mpr ⟨r, hmem, if_pos hid⟩) ?_
    exact hfound.2.trans hid.symm
  obtain ⟨u₁, s₅, hroom, hstore⟩ := bind_ok.mp hbody
  obtain ⟨hevict, hroom⟩ := makeRoom_ok hroom
  rw [hs₄] at hevict
  have hdb := modify_ok hstore
  refine ⟨rfl, ⟨⟨r, hmem, hid⟩, s₅.db, hevict, hdb⟩, fun hpos => ?_⟩
  rw [hsame] at hroom
  rw [hdb]
  exact usedBytes_withAttempt hmem hid hevict (hroom hpos)

/-- The effect of `mark_acknowledged`. -/
def acknowledge (eventId : Text) (ack : Receipt) (now : ℕ) (db : Database) : Database :=
  let db := updateEvent eventId (Row.withAck ack now) (Row.withAck_eventId ack now) db
  { db with
    reportedDroppedLowPriority := max db.reportedDroppedLowPriority (reportedBy eventId db)
    lastAckNs := now }

lemma markAcknowledged_cases (eventId : Text) (ack : Receipt) (now : ℕ) (o : Oracle Text)
    (s : Session Database) :
    (∃ e, (markAcknowledged eventId ack now o s).1 = .error e ∧
        (markAcknowledged eventId ack now o s).2.db = s.db) ∨
      (markAcknowledged eventId ack now o s).1 = .ok () ∧
        (markAcknowledged eventId ack now o s).2.db = acknowledge eventId ack now s.db := by
  rcases transaction_cases _ o s with herr | ⟨u, s₁, s₂, hs₁, hbody, hok, hdb⟩
  · exact .inl herr
  right
  rw [show markAcknowledged eventId ack now o s = transaction _ o s from rfl, hok, hdb]
  obtain ⟨u₁, s₃, hrow, hbody⟩ := bind_ok.mp hbody
  obtain ⟨u₂, s₄, hgap, hlast⟩ := bind_ok.mp hbody
  refine ⟨rfl, ?_⟩
  rw [modify_ok hlast, modify_ok hgap, modify_ok hrow, hs₁]
  rfl

/-- What a read of the two counters can give: each is 0 where its row was not reached. -/
structure GapCounts (o : Oracle Text) (s : Session Database) (dropped reported : ℕ) : Prop where
  dropped_eq : dropped = 0 ∨ dropped = s.db.droppedLowPriority
  reported_eq : reported = 0 ∨ reported = s.db.reportedDroppedLowPriority
  all : (∀ failure, o.fails s.count = some failure → failure.atPrepare) →
    dropped = s.db.droppedLowPriority ∧ reported = s.db.reportedDroppedLowPriority

lemma gapCounts_of_scan {rows : List (GapCounter × ℕ)} (h : scan gapRows o s = (.ok rows, s')) :
    GapCounts o s (rows.foldl readGapRow (0, 0)).1 (rows.foldl readGapRow (0, 0)).2 := by
  obtain ⟨⟨n, hn⟩, hall⟩ := scan_ok h
  generalize o.tie s.count = tie at hn hall
  -- no row, one of the two, or both
  have hcases : n = 0 ∨ n = 1 ∨ 2 ≤ n := by omega
  refine ⟨?_, ?_, fun hno => ?_⟩
  case refine_3 =>
    rw [hall hno]
    by_cases ht : tie 1 = 0 <;> simp [gapRows, ht, readGapRow]
  all_goals
    rw [hn]
    rcases hcases with rfl | rfl | h2
    · exact .inl rfl
    · by_cases ht : tie 1 = 0 <;> simp [gapRows, ht, readGapRow]
    · by_cases ht : tie 1 = 0 <;> simp [gapRows, ht, readGapRow, take_of_length_le, h2]

/-- `enqueue_gap_marker` throws and changes nothing, finds nothing to do, or is the `enqueue`
of a marker for the events dropped so far. -/
lemma enqueueGapMarker_cases (sha : Sha256) (cfg : Config) (now : ℕ) (o : Oracle Text)
    (s : Session Database) :
    (∃ e, (enqueueGapMarker sha cfg now o s).1 = .error e ∧
        (enqueueGapMarker sha cfg now o s).2.db = s.db) ∨
      (enqueueGapMarker sha cfg now o s).1 = .ok () ∧ ∃ dropped reported,
        GapCounts o s dropped reported ∧ ((enqueueGapMarker sha cfg now o s).2.db = s.db ∧
            (dropped ≤ reported ∨ ∃ r ∈ s.db.messages, r.waitingMarker) ∨
          reported < dropped ∧ ∃ s₁ id, s₁.db = s.db ∧
            (enqueue cfg (gapFinding sha dropped) now o s₁).1 = .ok id ∧
            (enqueueGapMarker sha cfg now o s).2.db =
              (enqueue cfg (gapFinding sha dropped) now o s₁).2.db) := by
  unfold enqueueGapMarker gapMarkerBy
  rcases bind_of_db scan_db with herr | ⟨rows, s₁, hscan, hs₁, hrun⟩
  · exact .inl herr
  rw [hrun]
  have hcounts := gapCounts_of_scan hscan
  generalize rows.foldl readGapRow (0, 0) = c at hcounts
  obtain ⟨dropped, reported⟩ := c
  by_cases hle : dropped ≤ reported
  · simp only [if_pos hle]
    exact .inr ⟨rfl, dropped, reported, hcounts, .inl ⟨hs₁, .inl hle⟩⟩
  simp only [if_neg hle]
  rcases bind_of_db lookup_db with ⟨e, herr, hdb⟩ | ⟨pending, s₂, hlook, hs₂, hrun⟩
  · exact .inl ⟨e, herr, hdb.trans hs₁⟩
  rw [hrun]
  rcases pending with _ | r
  · -- no marker is waiting
    simp only [Option.isSome_none, Bool.false_eq_true, if_false]
    have hdb : s₂.db = s.db := hs₂.trans hs₁
    rcases he : enqueue cfg (gapFinding sha dropped) now o s₂ with ⟨e | id, s₃⟩
    · rw [bind_apply_error he]
      rcases enqueue_cases cfg (gapFinding sha dropped) now o s₂ with
        ⟨_, -, h⟩ | ⟨_, -, -, h, -⟩ | ⟨h, -⟩ <;> rw [he] at h
      · exact .inl ⟨e, rfl, h.trans hdb⟩
      · cases h
      · cases h
    · rw [bind_apply_ok he]
      refine .inr ⟨rfl, dropped, reported, hcounts, .inr ⟨by omega, s₂, id, hdb, ?_, ?_⟩⟩ <;>
        rw [he]
      rfl
  · simp only [Option.isSome_some, if_true]
    have hfound := lookup_some hlook
    rw [hs₁] at hfound
    refine .inr ⟨rfl, dropped, reported, hcounts, .inl ⟨hs₂.trans hs₁, .inr ⟨r, ?_, ?_⟩⟩⟩
    · exact mem_of_find?_eq_some hfound
    · exact find?_some hfound

lemma nextReady_some {now : ℕ} {m : OutboundMessage} (h : (nextReady now o s).1 = .ok (some m)) :
    ∃ r ∈ s.db.messages, r.ready now ∧ m = r.toMessage := by
  rcases hl : nextReady now o s with ⟨r, s'⟩
  rw [hl] at h
  cases h
  have hfound := lookup_some hl
  rw [Option.map_eq_some_iff] at hfound
  obtain ⟨r, hpick, rfl⟩ := hfound
  obtain ⟨hmem, hready⟩ := mem_filter.mp (pick_mem hpick)
  exact ⟨r, hmem, hready, rfl⟩

lemma nextReady_db (now : ℕ) (o : Oracle Text) (s : Session Database) :
    (nextReady now o s).2.db = s.db := lookup_db

end NetaAgent.OutboundQueue
