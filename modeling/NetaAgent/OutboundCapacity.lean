import NetaAgent.OutboundRetention

/-!
The capacity bound of the outbox.

`enforce_budget` adds up SQLite's `length()` of the stored texts, which counts characters. In
that measure the rows that are not acknowledged stay below `max_bytes`, as long as no row
that is acknowledged is given another state. The bound is one of bytes only for texts whose
characters are one byte each.
-/

namespace NetaAgent.OutboundQueue

open Decimal Crypto Sql Run List Operation

/-- The bytes of a row, with the allowance for its other columns. -/
def Row.storedBytes (r : Row) : ℕ :=
  r.payloadJson.length + (r.attemptEnvelopeJson.map List.length).getD 0 + 512

def pendingBytes (db : Database) : ℕ :=
  ((db.messages.rows.filter fun r => r.state ≠ .acknowledged).map Row.storedBytes).sum

def SingleByte (t : Text) : Prop := ∀ c ∈ t, c.toNat < 0x80

instance (t : Text) : Decidable (SingleByte t) := List.decidableBAll (fun c : Char => c.toNat < 0x80) t

lemma SingleByte.sqlLength {t : Text} (h : SingleByte t) : sqlLength t = t.length := by
  unfold Sql.sqlLength
  induction t with
  | nil => rfl
  | cons c t ih =>
    have hc : c.toNat < 0x80 := h c mem_cons_self
    have hlead : ¬ 0xc0 ≤ c.toNat := by omega
    rw [sqlLengthFrom, if_neg hlead, Bool.false_and, if_neg Bool.false_ne_true,
      ih fun d hd => h d (mem_cons_of_mem c hd), length_cons]

lemma SingleByte.bindText {t : Text} (h : SingleByte t) : SingleByte (bindText t) :=
  fun c hc => h c ((takeWhile_sublist _).subset hc)

lemma singleByte_decimal (n : ℕ) : SingleByte (decimal n) := fun c hc => by
  have h := isDigit_of_mem_decimal hc
  simp only [Char.isDigit, Bool.and_eq_true, decide_eq_true_eq, UInt32.le_iff_toNat_le] at h
  change _ ∧ c.toNat ≤ 57 at h
  omega

lemma singleByte_append {s t : Text} : SingleByte (s ++ t) ↔ SingleByte s ∧ SingleByte t := by
  simp only [SingleByte, mem_append, or_imp, forall_and]

lemma singleByte_gapPayload (n : ℕ) : SingleByte (gapPayload n) :=
  singleByte_append.mpr ⟨singleByte_append.mpr ⟨by decide +kernel, singleByte_decimal n⟩,
    by decide +kernel⟩

/-- The texts that are stored for the event have one byte for each character. -/
structure Row.Plain (r : Row) : Prop where
  payload : SingleByte r.payloadJson
  envelope : ∀ text, r.attemptEnvelopeJson = some text → SingleByte text

lemma Row.Plain.storedBytes_eq {r : Row} (h : r.Plain) : r.storedBytes = r.logicalBytes := by
  rw [storedBytes, logicalBytes, h.payload.sqlLength]
  cases hr : r.attemptEnvelopeJson with
  | none => rfl
  | some text => simp [(h.envelope text hr).sqlLength]

variable {db : Database}

lemma pendingBytes_eq (h : ∀ r ∈ db.messages, r.Plain) : pendingBytes db = usedBytes db := by
  unfold pendingBytes usedBytes
  congr 1
  exact map_congr_left fun r hr => (h r (mem_filter.mp hr).1).storedBytes_eq

/-- The call works on a queue that was opened with the capacity `M`. -/
def Operation.Opens (M : ℕ) : Operation → Prop
  | .enqueue cfg _ _ | .storeAttempt cfg _ _ | .enqueueGapMarker cfg _ => cfg.maxBytes = M
  | _ => True

/-- The texts that the call stores have one byte for each character. -/
def Operation.Plain : Operation → Prop
  | .enqueue _ x _ => SingleByte x.payloadJson
  | .storeAttempt _ m _ => SingleByte m.attemptEnvelopeJson
  | _ => True

instance : DecidablePred Operation.Plain
  | .enqueue _ x _ => inferInstanceAs (Decidable (SingleByte x.payloadJson))
  | .storeAttempt _ m _ => inferInstanceAs (Decidable (SingleByte m.attemptEnvelopeJson))
  | .nextReady _ | .markRetry _ _ _ | .markDeadLetter _ _ | .markAcknowledged _ _ _
  | .enqueueGapMarker _ _ | .pruneAcknowledged _ => .isTrue trivial

def Operation.KeepsAcked (db : Database) (op : Operation) : Prop :=
  ∀ r ∈ db.messages.rows, r.state = .acknowledged → ¬ op.Resets r

instance (db : Database) (op : Operation) : Decidable (op.KeepsAcked db) :=
  inferInstanceAs (Decidable (∀ r ∈ db.messages.rows, r.state = .acknowledged → ¬ op.Resets r))

variable (sha : Sha256) {op : Operation} {call : Operation × Oracle Text}

lemma Operation.plain_rows (o : Oracle Text)
    (hs : Sound db) (hop : op.Plain) (h : ∀ r ∈ db.messages, r.Plain) {r' : Row}
    (hr' : r' ∈ (op.exec sha o db).messages) : r'.Plain := by
  rcases (op.exec_does sha o db).origin hs hr' with ⟨r, hr, hd⟩ | ⟨cfg, x, now, hx, rfl⟩
  · refine ⟨hd.payloadJson ▸ (h r hr).payload, fun text ht => ?_⟩
    rcases hd.attempt with ⟨hsame, -⟩ | hstores
    · exact (h r hr).envelope text (hsame ▸ ht)
    · cases op with
      | storeAttempt =>
        cases ht.symm.trans hstores.2.1
        exact SingleByte.bindText hop
      | _ => exact hstores.elim
  · refine ⟨?_, fun text ht => by cases ht⟩
    cases op with
    | enqueue =>
      obtain ⟨rfl, rfl⟩ := hx
      exact SingleByte.bindText hop
    | enqueueGapMarker =>
      obtain ⟨rfl, rfl⟩ := hx
      exact (singleByte_gapPayload _).bindText
    | _ => exact hx.elim

/-! ### The bound in characters -/

lemma Row.charge_le {r r' : Row} (hack : r.state = .acknowledged → r'.state = .acknowledged)
    (hbytes : r'.logicalBytes = r.logicalBytes) : r'.charge ≤ r.charge := by
  unfold Row.charge
  split
  · exact Nat.zero_le _
  · next hr' => rw [if_neg fun hr => hr' (hack hr), hbytes]

variable {M : ℕ} {o : Oracle Text}

/-- In characters the bound is kept by every call that leaves acknowledged rows alone. -/
lemma Operation.usedBytes_le (hM : 0 < M)
    (hop : op.Opens M) (hacked : op.KeepsAcked db) (hle : usedBytes db ≤ M) :
    usedBytes (op.exec sha o db) ≤ M := by
  have hdoes := op.exec_does sha o db
  generalize op.exec sha o db = db' at hdoes
  cases hdoes with
  | evicted h => exact h.usedBytes_le.trans hle
  | coalesced => exact hle
  | @inserted _ _ cfg _ _ hoffer h hroom =>
    obtain rfl : cfg.maxBytes = M := by
      cases op with
      | enqueue | enqueueGapMarker =>
        obtain ⟨rfl, -⟩ := hoffer
        exact hop
      | _ => exact hoffer.elim
    exact hroom hM
  | @attempted _ cfg _ _ h hroom =>
    obtain rfl : cfg.maxBytes = M := hop
    refine (hroom hM).elim id fun hbound => hbound.trans ((usedBytes_update_le ?_).trans hle)
    exact fun r hr hid => Row.charge_le (fun hack => (hacked r hr hack hid).elim) rfl
  | updated _ _ h =>
    refine (usedBytes_update_le fun r hr hid => ?_).trans hle
    obtain ⟨-, hresets, hbytes⟩ := h r hid
    exact Row.charge_le (fun hack => (hacked r hr hack hresets).elim) hbytes
  | acknowledged =>
    refine le_trans ?_ hle
    exact @usedBytes_update_le _ _ (Row.withAck _ _) (fun _ => rfl) fun r _ _ =>
      Row.charge_le (fun _ => rfl) rfl

/-! ### The bound in bytes -/

/-- The call stores texts with one byte for each character, and gives no acknowledged row
another state. -/
def Operation.Measured (db : Database) (call : Operation × Oracle Text) : Prop :=
  call.1.Plain ∧ call.1.KeepsAcked db

instance (db : Database) (call : Operation × Oracle Text) : Decidable (Operation.Measured db call) :=
  inferInstanceAs (Decidable (call.1.Plain ∧ call.1.KeepsAcked db))

/-- The bytes of the rows that are not acknowledged are at most `M` after the call, if it is
an `enqueue` that inserts a row or a `store_attempt` that succeeds. -/
def Operation.Bounded (M : ℕ) (db : Database) (call : Operation × Oracle Text) : Prop :=
  let db' := call.1.exec sha call.2 db
  match call.1 with
  | .enqueue _ _ _ | .enqueueGapMarker _ _ =>
    (∃ r ∈ db'.messages, r.eventCounter ∉ counters db) → pendingBytes db' ≤ M
  | .storeAttempt cfg m now =>
    (Sql.exec (OutboundQueue.storeAttempt cfg m now) call.2 db).1 = .ok () → pendingBytes db' ≤ M
  | _ => True

lemma Operation.bounded_of_le {sha : Sha256}
    (h : pendingBytes (call.1.exec sha call.2 db) ≤ M) : Operation.Bounded sha M db call := by
  obtain ⟨op, o⟩ := call
  cases op with
  | enqueue | enqueueGapMarker | storeAttempt => exact fun _ => h
  | _ => trivial

/-- The rows have one byte for each character, and fit. -/
structure Capped (M : ℕ) (db : Database) : Prop where
  sound : Sound db
  plain : ∀ r ∈ db.messages, r.Plain
  le : usedBytes db ≤ M

lemma Capped.step (h : Capped M db) (hM : 0 < M) (sha : Sha256) (hop : call.1.Opens M) (hm : Operation.Measured db call) :
    Capped M (db.step sha call) where
  sound := (call.1.change sha call.2 h.sound).sound h.sound
  plain _ hr := plain_rows sha call.2 h.sound hm.1 h.plain hr
  le := usedBytes_le sha hM hop hm.2 h.le

/-- **Capacity.** In every history of an outbox with `max_bytes` `M` whose texts have one byte
for each character, and that gives no acknowledged row another state, the bytes of the rows
that are not acknowledged are at most `M` after every insertion and every stored attempt. -/
theorem pending_bytes_bounded (sha : Sha256) (M : ℕ) (hM : 0 < M)
    (calls : List (Operation × Oracle Text)) (hopens : ∀ call ∈ calls, call.1.Opens M)
    (hmeasured : Along (Database.step sha) Operation.Measured .initial calls) :
    Along (Database.step sha) (Operation.Bounded sha M) .initial calls := by
  have hall : Along (Database.step sha) (fun db call => Operation.Measured db call ∧
      call.1.Opens M) .initial calls := along_and_mem hmeasured hopens
  refine along_of_inv (I := Capped M) (fun db call hc hok => ?_) ?_ hall
  · have hnext := hc.step hM sha hok.2 hok.1
    refine ⟨hnext, bounded_of_le ?_⟩
    exact (pendingBytes_eq hnext.plain).trans_le hnext.le
  · exact ⟨sound_initial, fun r hr => absurd hr (Table.not_mem_empty r), Nat.zero_le M⟩

/-- A finding, and an attempt for it that fills the outbox. -/
def attemptedOnce : List (Operation × Oracle Text) :=
  [(.enqueue ⟨"a", 520⟩ (History.lowFinding "p") 5, History.steady),
    (.storeAttempt ⟨"a", 520⟩
      ⟨"a:1", 1, [], [], [], [], 0, [], [], .pending, "m", 1, "123456", 9, 0⟩ 6,
      History.steady)]

theorem pending_bytes_bounded_attempted :
    Along (Database.step fun _ _ => 0) Operation.Measured .initial attemptedOnce ∧
      pendingBytes (run (Database.step fun _ _ => 0) .initial attemptedOnce) = 520 ∧
      Along (Database.step fun _ _ => 0) (Operation.Bounded (fun _ _ => 0) 520) .initial
        attemptedOnce := by
  have hmeasured : Along (Database.step fun _ _ => 0) Operation.Measured .initial attemptedOnce := by
    decide +kernel
  exact ⟨hmeasured, by decide +kernel, pending_bytes_bounded _ 520 (by decide) attemptedOnce
    (by simp [attemptedOnce, Operation.Opens]) hmeasured⟩

/-- A payload of a hundred characters of two bytes: with the next finding the rows have more
bytes than the capacity. -/
theorem pending_bytes_exceeded :
    let wide : Text := (List.replicate 100 ['\xc3', '\xa9']).flatten
    let calls : List (Operation × Oracle Text) :=
      [(.enqueue ⟨"a", 1200⟩ { History.lowFinding "p" with payloadJson := wide } 5, History.steady),
        (.enqueue ⟨"a", 1200⟩ (History.lowFinding "q") 6, History.steady)]
    let db := run (Database.step fun _ _ => 0) .initial calls
    db.messages.rows.map Row.eventCounter = [1, 2] ∧ usedBytes db = 1126 ∧ pendingBytes db = 1226 := by
  decide +kernel

end NetaAgent.OutboundQueue
