import NetaAgent.ConnectionTracker
import NetaAgent.HistoryQueries
import NetaAgent.Verdict

/-!
The samples of a connection that `persist_sample` stores, against all that it is given.
-/

namespace NetaAgent.ConnectionTracker

open Decimal Crypto Sql Observation HistoryStore Verdict List TcpSnapshot

variable (rtt : TcpSnapshot → TcpSnapshot → Bool) (sha : Sha256) (previous current : TcpSnapshot)

/-- `meaningful_change`, with any test of the round trip times. -/
def meaningfulChangeBy (lastPersistNs : ℕ) : Bool :=
  current.totalRetrans ≠ previous.totalRetrans || current.lost ≠ previous.lost ||
    current.state ≠ previous.state || rtt previous current ||
    1000000000 ≤ (current.observedNs + twoPow64 - lastPersistNs) % twoPow64

/-- What `persist_sample` writes: the entry of the connection and its rows of samples. -/
def persistBy (s : TrackedConnection × Store) (sample : TcpSnapshot) : TrackedConnection × Store :=
  let t := s.1
  let needs :=
    !t.hasTransportSample || meaningfulChangeBy rtt t.lastPersisted sample t.lastPersistNs
  let sampled := if needs then { t with
      hasTransportSample := true
      lastPersisted := sample
      lastPersistNs := sample.observedNs } else t
  ({ sampled with lastSeen := sample, presentInSnapshot := true },
    if needs then s.2.insertSample sha t.connectionId sample else s.2)

/-- The test of the source. -/
def rttMaterial : Bool :=
  material previous.rttUs current.rttUs 1 2000 ||
    material previous.rttVarianceUs current.rttVarianceUs 2 2000

lemma persistBy_rttMaterial (t : TrackedConnection) (db : Store) (sample : TcpSnapshot) :
    persistBy rttMaterial sha (t, db) sample = (t.sampled sample,
        if needsSample t sample then db.insertSample sha t.connectionId sample else db) := by
  have h : meaningfulChangeBy rttMaterial t.lastPersisted sample t.lastPersistNs =
      meaningfulChange t.lastPersisted sample t.lastPersistNs := by
    simp [meaningfulChangeBy, meaningfulChange, rttMaterial, Bool.or_assoc]
  simp only [persistBy, TrackedConnection.sampled, needsSample, h]
  rfl

/-- The stored samples of a connection, in the order of their rows. -/
def keptSamples (db : Store) (id : ℕ) : List TcpSnapshot :=
  (db.transportSamples.rows.filter fun r => r.connectionId = id).map TransportSample.snapshot

lemma keptSamples_insertSample (db : Store) (sha : Sha256) (id : ℕ) (sample : TcpSnapshot) :
    keptSamples (db.insertSample sha id sample) id = keptSamples db id ++ [sample] := by
  simp [keptSamples, Store.insertSample, Table.add]

/-- What is stored of the samples seen: the first, and a last one with the same retransmissions. -/
structure Stored (t : TrackedConnection) (db : Store) (seen : List TcpSnapshot) : Prop where
  sublist : keptSamples db t.connectionId <+ seen
  head : (keptSamples db t.connectionId).head? = seen.head?
  flag : t.hasTransportSample = false → seen = []
  last : t.hasTransportSample = true →
    (keptSamples db t.connectionId).getLast? = some t.lastPersisted ∧
      seen.getLast?.map TcpSnapshot.totalRetrans = some t.lastPersisted.totalRetrans

section
variable {t : TrackedConnection} {db : Store} {seen : List TcpSnapshot}
  (rtt : TcpSnapshot → TcpSnapshot → Bool) (sha : Sha256)

lemma Stored.persist (h : Stored t db seen) (sample : TcpSnapshot) :
    Stored (persistBy rtt sha (t, db) sample).1 (persistBy rtt sha (t, db) sample).2
      (seen ++ [sample]) := by
  simp only [persistBy]
  split
  · have hkept := keptSamples_insertSample db sha t.connectionId sample
    refine ⟨?_, ?_, by simp, fun _ => ?_⟩
    · exact hkept ▸ h.sublist.append (Sublist.refl _)
    · rw [hkept, head?_append, head?_append, h.head]
    · simp [hkept]
  · next hneeds =>
    simp only [meaningfulChangeBy, Bool.or_eq_true, not_or, Bool.not_eq_true', decide_eq_true_eq,
      ne_eq, not_not] at hneeds
    obtain ⟨hflag, ⟨⟨⟨⟨hretrans, -⟩, -⟩, -⟩, -⟩⟩ := hneeds
    have hflag := Bool.not_eq_false _ |>.mp hflag
    obtain ⟨hlast, hseen⟩ := h.last hflag
    refine ⟨h.sublist.trans (sublist_append_left _ _), ?_, fun hf => ?_, fun _ => ⟨hlast, ?_⟩⟩
    · rw [head?_append, h.head]
      cases seen with
      | nil => cases hseen
      | cons => rfl
    · rw [hflag] at hf
      cases hf
    · simp [hretrans]

lemma Stored.last_eq (h : Stored t db seen) :
    (keptSamples db t.connectionId).getLast?.map totalRetrans = seen.getLast?.map totalRetrans := by
  cases hflag : t.hasTransportSample with
  | false =>
    obtain rfl := h.flag hflag
    rw [sublist_nil.mp h.sublist]
  | true => rw [(h.last hflag).1, (h.last hflag).2, Option.map_some]

/-- A connection as it is created, and the sample it is created with: by a lifecycle event without
one, by a snapshot with the one that is stored. -/
def Created (t : TrackedConnection) (db : Store) (seen : List TcpSnapshot) : Prop :=
  keptSamples db t.connectionId = seen ∧
    (t.hasTransportSample = false ∧ seen = [] ∨
      t.hasTransportSample = true ∧ seen = [t.lastPersisted])

lemma Created.stored (h : Created t db seen) : Stored t db seen := by
  obtain ⟨hkept, ⟨hflag, rfl⟩ | ⟨hflag, rfl⟩⟩ := h
  · exact ⟨hkept ▸ .refl _, by rw [hkept], fun _ => rfl, by simp [hflag]⟩
  · exact ⟨hkept ▸ .refl _, by rw [hkept], by simp [hflag], fun _ => ⟨by simp [hkept], rfl⟩⟩

lemma Stored.run (h : Stored t db seen) (samples : List TcpSnapshot) :
    Stored (samples.foldl (persistBy rtt sha) (t, db)).1 (samples.foldl (persistBy rtt sha) (t, db)).2
      (seen ++ samples) ∧
      (samples.foldl (persistBy rtt sha) (t, db)).1.connectionId = t.connectionId := by
  induction samples generalizing t db seen with
  | nil => exact ⟨by simpa using h, rfl⟩
  | cons sample rest ih =>
    obtain ⟨hkept, hid⟩ := ih (h.persist rtt sha sample)
    rw [append_assoc] at hkept
    refine ⟨hkept, hid.trans ?_⟩
    simp only [persistBy]
    split <;> rfl

end

def retransmissionDelta (samples : List TcpSnapshot) : ℕ :=
  (aggregateMetrics samples).retransmissionDelta

lemma retransmissionDelta_eq (l : List TcpSnapshot) :
    retransmissionDelta l = (l.getLast?.map totalRetrans).getD 0 -
      (l.head?.map totalRetrans).getD 0 := by
  cases l with
  | nil => rfl
  | cons a l => rw [getLast?_eq_some_getLast (cons_ne_nil a l)]; rfl

lemma samplesForConnection_eq {db : Store} {id : ℕ}
    (h : (keptSamples db id).Pairwise fun a b => int64 a.observedNs ≤ int64 b.observedNs) :
    db.samplesForConnection id = keptSamples db id := by
  unfold Store.samplesForConnection byTime
  rw [(pairwise_map.mp h).insertionSort_eq, keptSamples]

/-- **The retransmissions told by the samples that were stored are those told by all samples,
whatever the test of the round trip times answers.** The times are nanoseconds of a monotonic
clock since the boot; the store orders them as signed numbers. -/
theorem stored_samples_same_delta {t : TrackedConnection} {db : Store}
    (seen samples : List TcpSnapshot) (hcreated : Created t db seen)
    (hsorted : (seen ++ samples).Pairwise fun a b => a.observedNs < b.observedNs)
    (hclock : ∀ s ∈ seen ++ samples, s.observedNs < 2 ^ 63) :
    retransmissionDelta ((samples.foldl (persistBy rtt sha) (t, db)).2.samplesForConnection
      t.connectionId) = retransmissionDelta (seen ++ samples) := by
  obtain ⟨hkept, hid⟩ := hcreated.stored.run rtt sha samples
  rw [← hid, samplesForConnection_eq, retransmissionDelta_eq, retransmissionDelta_eq, hkept.head,
    hkept.last_eq]
  refine (hsorted.sublist hkept.sublist).imp_of_mem fun {a b} ha hb hab => ?_
  have ha := hclock a (hkept.sublist.subset ha)
  have hb := hclock b (hkept.sublist.subset hb)
  unfold int64
  split_ifs <;> omega

/-- Three samples of a new connection, the second of which is not stored. -/
theorem stored_samples_same_delta_skipped :
    retransmissionDelta (([{ observedNs := 1 }, { observedNs := 2 },
        { observedNs := 3, totalRetrans := 4 }].foldl (persistBy rttMaterial fun _ _ => 0)
          (⟨0, 0, {}, {}, 0, false, false, 0, none, none, .lifecycleExact⟩, .initial)).2
            |>.samplesForConnection 0) = 4 :=
  stored_samples_same_delta rttMaterial (fun _ _ => 0) []
    [{ observedNs := 1 }, { observedNs := 2 }, { observedNs := 3, totalRetrans := 4 }]
    ⟨rfl, .inl ⟨rfl, rfl⟩⟩ (by decide) (by decide)

end NetaAgent.ConnectionTracker
