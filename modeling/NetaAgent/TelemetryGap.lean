import NetaAgent.NapEnvelope
import NetaAgent.OutboundRetention

/-!
The marker that reports dropped events.

A marker is an event of the outbox like any other. Its finding key is the number of events
dropped when it was made, and its producer key is made of that number, so there is one marker
for each number. When it is acknowledged the number counts as reported. `enqueue` takes a
producer key that is there for the event itself, whatever the state of the row: a marker that
became a dead letter stands in the way of the next one for the same number.
-/

namespace NetaAgent.OutboundQueue

open Decimal Crypto Sql Run NapEnvelope Table Operation

def markerKeys : Text := "EvidenceSummary:TelemetryGap:"

def markerKey (dropped : ℕ) : Text := markerKeys ++ decimal dropped

lemma markerKey_inj {m n : ℕ} (h : markerKey m = markerKey n) : m = n :=
  decimal_inj (List.append_cancel_left h)

lemma bindText_markerKey (n : ℕ) : bindText (markerKey n) = markerKey n := by
  have hnul : NulFree (markerKey n) :=
    nulFree_append.mpr ⟨by unfold NulFree; decide +kernel, nulFree_decimal n⟩
  exact bindText_of_notMem hnul

lemma bindText_telemetryGap : bindText telemetryGap = telemetryGap := by decide +kernel

/-- The finding is no marker, and its producer key is none of a marker. -/
def Finding.Foreign (x : Finding) : Prop :=
  bindText x.findingType ≠ telemetryGap ∧ ¬ markerKeys <+: bindText x.producerKey

instance (x : Finding) : Decidable x.Foreign := inferInstanceAs (Decidable (_ ∧ ¬ _))

/-- Markers, and only they, have the producer keys of markers; what an acknowledged marker
reports counts as reported; and no more is reported than was dropped. -/
structure Marked (db : Database) : Prop where
  sound : Sound db
  marker : ∀ r ∈ db.messages, r.findingType = telemetryGap →
    ∃ n ≤ db.droppedLowPriority, r.findingKey = decimal n ∧ r.producerKey = markerKey n
  reserved : ∀ r ∈ db.messages, markerKeys <+: r.producerKey → r.findingType = telemetryGap
  acked : ∀ r ∈ db.messages, r.findingType = telemetryGap → r.state = .acknowledged →
    (castInteger r.findingKey).toNat ≤ db.reportedDroppedLowPriority
  reported : db.reportedDroppedLowPriority ≤ db.droppedLowPriority

lemma marked_initial : Marked .initial := ⟨sound_initial, fun r hr => absurd hr (not_mem_empty r),
    fun r hr => absurd hr (not_mem_empty r), fun r hr => absurd hr (not_mem_empty r), le_rfl⟩

/-- The producers of the call other than `enqueue_gap_marker` leave the markers alone. -/
def Operation.Foreign : Operation → Prop
  | .enqueue _ x _ => x.Foreign
  | _ => True

variable {sha : Sha256} {db db' : Database} {o : Oracle Text}

/-- An inserted row is a marker for the events dropped so far, or foreign to markers. -/
lemma Operation.Offers.row {op : Operation} {cfg : Config} {x : Finding} (hop : op.Foreign)
    (h : op.Offers sha db cfg x) (now : ℕ) : let r := x.toRow cfg db.nextEventCounter now
    (r.findingType = telemetryGap → r.findingKey = decimal db.droppedLowPriority ∧
      r.producerKey = markerKey db.droppedLowPriority) ∧
    (markerKeys <+: r.producerKey → r.findingType = telemetryGap) := by
  intro r
  cases op with
  | enqueue =>
    obtain ⟨rfl, rfl⟩ := h
    exact ⟨fun hr => absurd hr hop.1, fun hr => absurd hr hop.2⟩
  | enqueueGapMarker =>
    obtain ⟨rfl, rfl⟩ := h
    exact ⟨fun _ => ⟨bindText_of_notMem (nulFree_decimal _), bindText_markerKey _⟩,
      fun _ => bindText_telemetryGap⟩
  | _ => exact h.elim

/-- The counter of reported events rises to at most what was dropped, and counts every marker
that the call acknowledges. -/
lemma Marked.change {op : Operation} (h : Marked db) (hop : op.Foreign)
    (hge : db.reportedDroppedLowPriority ≤ (op.exec sha o db).reportedDroppedLowPriority)
    (hle : (op.exec sha o db).reportedDroppedLowPriority ≤ db.droppedLowPriority)
    (hacks : ∀ r r', op.Acks r → Descends op r r' → r' ∈ (op.exec sha o db).messages →
      r'.findingType = telemetryGap → (castInteger r'.findingKey).toNat ≤
        (op.exec sha o db).reportedDroppedLowPriority) : Marked (op.exec sha o db) := by
  have hc := op.change sha o h.sound
  have hmono : db.droppedLowPriority ≤ (op.exec sha o db).droppedLowPriority := by
    rw [hc.dropped]
    exact Nat.le_add_right _ _
  refine ⟨hc.sound h.sound, fun r' hr' hgap => ?_, fun r' hr' hkey => ?_,
    fun r' hr' hgap hack => ?_, hle.trans hmono⟩
  all_goals rcases (op.exec_does sha o db).origin h.sound hr' with
    ⟨r, hr, hd⟩ | ⟨cfg, x, now, hx, rfl⟩
  · obtain ⟨n, hn, hkey, hproducer⟩ := h.marker r hr (hd.findingType ▸ hgap)
    exact ⟨n, hn.trans hmono, hd.findingKey.trans hkey, hd.producerKey.trans hproducer⟩
  · exact ⟨_, hmono, (hx.row hop now).1 hgap⟩
  · exact hd.findingType.trans (h.reserved r hr (hd.producerKey ▸ hkey))
  · exact (hx.row hop now).2 hkey
  · rcases hd.acked hack with hack | hack
    · rw [hd.findingKey]
      exact (h.acked r hr (hd.findingType ▸ hgap) hack).trans hge
    · exact hacks r r' hack hd hr' hgap
  · cases hack

lemma Marked.reportedBy_le (h : Marked db) (eventId : Text) (ack : Receipt) (now : ℕ) :
    reportedBy eventId (updateEvent eventId (Row.withAck ack now) (fun _ => rfl) db) ≤
      db.droppedLowPriority := by
  unfold reportedBy
  split
  · exact Nat.zero_le _
  next r' hfind =>
  split
  · next hgap =>
    obtain ⟨hr', hid⟩ := find_eq_some.mp hfind
    obtain ⟨r, hr, rfl⟩ := mem_updateEvent.mp hr'
    -- the row found is the acknowledged one
    have hr_id : r.eventId = bindText eventId := by
      by_contra hne
      rw [if_neg hne] at hid
      exact hne hid
    rw [if_pos hr_id] at hgap ⊢
    obtain ⟨n, hn, hkey, -⟩ := h.marker r hr hgap
    have hcast : castInteger (Row.withAck ack now r).findingKey = min (n : ℤ) 9223372036854775807 := by
      rw [show (Row.withAck ack now r).findingKey = decimal n from hkey, castInteger_decimal]
    rw [hcast]
    omega
  · exact Nat.zero_le _

lemma Evicts.reported (h : Evicts db db') :
    db'.reportedDroppedLowPriority = db.reportedDroppedLowPriority := by
  induction h with
  | refl => rfl
  | acked _ _ _ ih => exact ih
  | low _ _ _ _ ih => exact ih

lemma Operation.reported (sha : Sha256) (op : Operation) (o : Oracle Text) (db : Database)
    (hop : ∀ eventId ack now, op ≠ .markAcknowledged eventId ack now) :
    (op.exec sha o db).reportedDroppedLowPriority = db.reportedDroppedLowPriority := by
  have hdoes := op.exec_does sha o db
  generalize op.exec sha o db = db' at hdoes
  cases hdoes with
  | evicted h => exact h.reported
  | inserted _ h =>
    obtain ⟨mid, messages, hev, -, -, -, rfl⟩ := h
    exact hev.reported
  | attempted h =>
    obtain ⟨-, mid, hev, rfl⟩ := h
    exact hev.reported
  | acknowledged => exact absurd rfl (hop _ _ _)
  | coalesced | updated => rfl

lemma Marked.step (h : Marked db) {call : Operation × Oracle Text} (hop : call.1.Foreign) :
    Marked (db.step sha call) := by
  obtain ⟨op, o⟩ := call
  by_cases hack : ∃ eventId ack now, op = .markAcknowledged eventId ack now
  · obtain ⟨eventId, ack, now, rfl⟩ := hack
    rcases markAcknowledged_cases eventId ack now o ⟨db, 0⟩ with ⟨e, -, hdb⟩ | ⟨-, hdb⟩
    · rw [Database.step, Operation.exec, Sql.exec, hdb]
      exact h
    have hexec : Operation.exec sha o db (.markAcknowledged eventId ack now) =
      acknowledge eventId ack now db := hdb
    refine h.change trivial ?_ ?_ fun r r' hacks hd hr' hgap => ?_ <;> rw [hexec] at *
    · exact Nat.le_max_left _ _
    · exact max_le h.reported (h.reportedBy_le eventId ack now)
    · -- the acknowledged marker is the row that is looked up
      have hfind : (acknowledge eventId ack now db).messages.find (bindText eventId) = some r' :=
        find_eq_some.mpr ⟨hr', hd.eventId.trans hacks⟩
      refine le_trans (le_of_eq ?_) (Nat.le_max_right _ _)
      show _ = reportedBy eventId (updateEvent eventId (Row.withAck ack now) (fun _ => rfl) db)
      rw [reportedBy, show (updateEvent eventId (Row.withAck ack now) (fun _ => rfl) db).messages.find
        (bindText eventId) = some r' from hfind]
      exact (if_pos hgap).symm
  · have hrep := op.reported sha o db fun eventId ack now heq => hack ⟨eventId, ack, now, heq⟩
    refine h.change hop hrep.ge (hrep.trans_le h.reported) fun r r' hacks => ?_
    cases op with
    | markAcknowledged eventId ack now => exact absurd ⟨eventId, ack, now, rfl⟩ hack
    | _ => exact hacks.elim

/-! ### The marker -/

/-- The condition on a call of `enqueue_gap_marker`: the read of the counters does not fail
while it steps, the counter of dropped events is an integer of the database, and where there
is something to report, the marker for it is no dead letter unless another one is waiting. -/
def Database.Reportable (db : Database) (o : Oracle Text) : Prop :=
  (o.fails 0).all Failure.atPrepare ∧ db.droppedLowPriority ≤ 9223372036854775807 ∧
    (db.reportedDroppedLowPriority < db.droppedLowPriority →
      (∃ r ∈ db.messages.rows, r.waitingMarker) ∨
        ∀ r ∈ db.messages.rows, r.producerKey = markerKey db.droppedLowPriority →
          r.state ≠ .deadLetter)

instance (db : Database) (o : Oracle Text) : Decidable (db.Reportable o) :=
  inferInstanceAs (Decidable (_ ∧ _ ∧ (_ → (∃ r ∈ db.messages.rows, _) ∨ ∀ r ∈ db.messages.rows, _)))

/-- Producers leave the names of markers alone, and markers are made in reportable states. -/
def Database.Careful (db : Database) (call : Operation × Oracle Text) : Prop :=
  match call.1 with
  | .enqueue _ x _ => x.Foreign
  | .enqueueGapMarker _ _ => db.Reportable call.2
  | _ => True

instance (db : Database) : DecidablePred db.Careful
  | (.enqueue _ x _, _) => inferInstanceAs (Decidable x.Foreign)
  | (.enqueueGapMarker _ _, o) => inferInstanceAs (Decidable (db.Reportable o))
  | (.nextReady _, _) | (.storeAttempt _ _ _, _) | (.markRetry _ _ _, _) | (.markDeadLetter _ _, _)
  | (.markAcknowledged _ _ _, _) | (.pruneAcknowledged _, _) => .isTrue trivial

/-- No more is reported than was dropped, and where something is left to report after a call
of `enqueue_gap_marker` that returns, a marker is waiting that is sent when its time comes. -/
def Database.Reports (sha : Sha256) (db : Database) (call : Operation × Oracle Text) : Prop :=
  let db' := db.step sha call
  db'.reportedDroppedLowPriority ≤ db'.droppedLowPriority ∧
    match call.1 with
    | .enqueueGapMarker cfg now =>
      (Sql.exec (OutboundQueue.enqueueGapMarker sha cfg now) call.2 db).1 = .ok () →
        db'.droppedLowPriority ≤ db'.reportedDroppedLowPriority ∨
          ∃ r ∈ db'.messages, r.waitingMarker ∧
            ∀ now, int64 r.nextAttemptAtNs ≤ int64 now → r.ready now
    | _ => True

lemma Row.ready_of_waitingMarker {r : Row} (h : r.waitingMarker) {now : ℕ}
    (hnow : int64 r.nextAttemptAtNs ≤ int64 now) : r.ready now := by
  simp only [Row.waitingMarker, Bool.and_eq_true] at h
  simp [Row.ready, hnow, h.2]

lemma waitingMarker_toRow (sha : Sha256) (cfg : Config) (dropped counter now : ℕ) :
    ((gapFinding sha dropped).toRow cfg counter now).waitingMarker := by
  rw [Row.waitingMarker, show ((gapFinding sha dropped).toRow cfg counter now).findingType =
    telemetryGap from bindText_telemetryGap, decide_eq_true rfl]
  rfl

/-- The marker for the events dropped so far, where something is left to report: it is not
acknowledged. -/
lemma Marked.not_acked (h : Marked db) {r : Row} (hr : r ∈ db.messages)
    (hkey : r.producerKey = markerKey db.droppedLowPriority)
    (hbound : db.droppedLowPriority ≤ 9223372036854775807)
    (hlt : db.reportedDroppedLowPriority < db.droppedLowPriority) :
    r.findingType = telemetryGap ∧ r.state ≠ .acknowledged := by
  have hgap := h.reserved r hr (hkey ▸ List.prefix_append _ _)
  refine ⟨hgap, fun hack => ?_⟩
  obtain ⟨n, -, hn, hproducer⟩ := h.marker r hr hgap
  obtain rfl := markerKey_inj (hkey.symm.trans hproducer)
  have hle := h.acked r hr hgap hack
  rw [hn, castInteger_decimal] at hle
  omega

/-- After `enqueue_gap_marker` returned in a reportable state, nothing is left to report or a
marker is waiting. -/
lemma Marked.waiting (h : Marked db) (hr : db.Reportable o) (sha : Sha256) (cfg : Config) (now : ℕ)
    (hok : (Sql.exec (OutboundQueue.enqueueGapMarker sha cfg now) o db).1 = .ok ()) :
    let db' := Operation.exec sha o db (.enqueueGapMarker cfg now)
    db'.droppedLowPriority ≤ db'.reportedDroppedLowPriority ∨
      ∃ r ∈ db'.messages, r.waitingMarker := by
  obtain ⟨hread, hbound, hdead⟩ := hr
  simp only [Operation.exec, Sql.exec] at hok ⊢
  rcases enqueueGapMarker_cases sha cfg now o ⟨db, 0⟩ with
    ⟨e, herr, -⟩ | ⟨-, dropped, reported, hcounts, hcases⟩
  · rw [herr] at hok
    cases hok
  obtain ⟨rfl, rfl⟩ := hcounts.all fun failure hfail => by simpa [hfail] using hread
  rcases hcases with ⟨hdb, hle | hwaiting⟩ | ⟨hlt, s₁, id, hs₁, hid, hdb⟩
  · rw [hdb]
    exact .inl hle
  · rw [hdb]
    exact .inr hwaiting
  right
  rw [hdb]
  rcases enqueue_cases cfg (gapFinding sha db.droppedLowPriority) now o s₁ with
    ⟨e, herr, -⟩ | ⟨r, hr, hkey, -, hsame⟩ | ⟨-, ⟨mid, messages, -, hins, -, -, hnew⟩, -⟩
  · rw [herr] at hid
    cases hid
  · -- the marker for this number is there already
    rw [hsame, hs₁]
    rw [hs₁] at hr
    replace hkey : r.producerKey = markerKey db.droppedLowPriority :=
      hkey.trans (bindText_markerKey _)
    rcases hdead hlt with hwaiting | hdead
    · exact hwaiting
    obtain ⟨hgap, hack⟩ := h.not_acked hr hkey hbound hlt
    refine ⟨r, hr, ?_⟩
    cases hstate : r.state with
    | pending | inFlight => simp [Row.waitingMarker, hgap, hstate]
    | acknowledged => exact absurd hstate hack
    | deadLetter => exact absurd hstate (hdead r hr hkey)
  · rw [hnew]
    refine ⟨_, (mem_insert hins).mpr (.inr rfl), ?_⟩
    exact waitingMarker_toRow _ _ _ _ _

/-- **Telemetry gaps.** In every history whose producers leave the names of markers alone and
that makes markers in reportable states, no more is ever reported than was dropped, and
after every call of `enqueue_gap_marker` that returns, everything dropped is reported or a
marker is waiting to be sent. -/
theorem gap_marker_waits (sha : Sha256) (calls : List (Operation × Oracle Text))
    (hcareful : Along (Database.step sha) Database.Careful .initial calls) :
    Along (Database.step sha) (Database.Reports sha) .initial calls := by
  refine along_of_inv (I := Marked) (fun db call h hok => ?_) marked_initial hcareful
  obtain ⟨op, o⟩ := call
  have hforeign : op.Foreign := by
    cases op with
    | enqueue => exact hok
    | _ => trivial
  have hnext : Marked (db.step sha (op, o)) := h.step hforeign
  refine ⟨hnext, hnext.reported, ?_⟩
  cases op with
  | enqueueGapMarker cfg now =>
    intro hreturns
    refine (h.waiting hok sha cfg now hreturns).imp id fun ⟨r, hr, hwaiting⟩ => ?_
    exact ⟨r, hr, hwaiting, fun _ => Row.ready_of_waitingMarker hwaiting⟩
  | _ => trivial

namespace Gap

/-- A finding of 200 bytes is evicted by one of high priority, and a marker is made. -/
def evicted : List (Operation × Oracle Text) :=
  [(.enqueue ⟨"a", 1200⟩
      { History.lowFinding "p" with payloadJson := List.replicate 200 'x' } 5, History.steady),
    (.enqueue ⟨"a", 1200⟩ { History.lowFinding "q" with priority := 3 } 6, History.steady),
    (.enqueueGapMarker ⟨"a", 1200⟩ 7, History.steady)]

end Gap

theorem gap_marker_waits_evicted :
    Along (Database.step fun _ _ => 0) Database.Careful .initial Gap.evicted ∧
      (run (Database.step fun _ _ => 0) .initial Gap.evicted).droppedLowPriority = 1 ∧
      Along (Database.step fun _ _ => 0) (Database.Reports fun _ _ => 0) .initial Gap.evicted := by
  have hcareful : Along (Database.step fun _ _ => 0) Database.Careful .initial Gap.evicted := by
    decide +kernel
  exact ⟨hcareful, by decide +kernel, gap_marker_waits _ Gap.evicted hcareful⟩

/-- The marker became a dead letter: the next call finds its producer key, returns, and leaves
nothing that reports the dropped event. -/
theorem gap_marker_swallowed :
    let db := run (Database.step fun _ _ => 0) .initial
      (Gap.evicted ++ [(.markDeadLetter "a:3" "HTTP 413", History.steady)])
    let after := Sql.exec (OutboundQueue.enqueueGapMarker (fun _ _ => 0) ⟨"a", 1200⟩ 8)
      History.steady db
    after.1.toOption = some () ∧
      after.2.reportedDroppedLowPriority < after.2.droppedLowPriority ∧
      ∀ r ∈ after.2.messages.rows, r.waitingMarker = false := by
  decide +kernel

end NetaAgent.OutboundQueue
