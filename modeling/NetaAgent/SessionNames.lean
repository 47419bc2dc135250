import NetaAgent.SessionFrames

/-!
Name resolution evidence of a session.

Ambiguity is judged on the observations that are kept: those of the last five seconds before the
newest one, at most 4096 of them. Everything that was received is kept, or has expired, or was
dropped for its number, and what has expired is older than the newest observation by more than five
seconds. So evidence is attached for the only candidate among all that was received, as long as no
candidate has been dropped; otherwise a connection that was ambiguous may get evidence later.
-/

namespace NetaAgent.ObservationSession

open Decimal Sql Observation HistoryStore ConnectionTracker AdmissionPolicy NameResolution Locals Triple
open NetaAgent.Process Process.Proc List

/-! ### The newest observation -/

variable {l l' : List NameResolutionObservation} {o : NameResolutionObservation}

lemma le_newestNs (h : o ∈ l) : o.completedNs ≤ newestNs l := by
  induction l with
  | nil => cases h
  | cons x l ih =>
    rcases mem_cons.mp h with rfl | h
    · exact Nat.le_max_left _ _
    · exact (ih h).trans (Nat.le_max_right _ _)

lemma newestNs_le {b : ℕ} (h : ∀ o ∈ l, o.completedNs ≤ b) : newestNs l ≤ b := by
  induction l with
  | nil => exact Nat.zero_le b
  | cons x l ih =>
    exact Nat.max_le.mpr ⟨h x mem_cons_self, ih fun o ho => h o (mem_cons_of_mem x ho)⟩

lemma newestNs_mono (h : l ⊆ l') : newestNs l ≤ newestNs l' :=
  newestNs_le fun _ ho => le_newestNs (h ho)

/-! ### The buffer -/

/-- The evidence comes from the only candidate that was received, unless a candidate is older than
the newest observation by more than the maximal age or was dropped for its number. -/
def NameAttachment.Justified (a : NameAttachment) : Prop :=
  (∀ o ∈ a.received, isCandidate a.connection o defaultMaxAgeNs = true →
    newestNs a.received ≤ o.completedNs + defaultMaxAgeNs ∧ o ∉ a.overflowed) →
  a.received.filter (fun o => isCandidate a.connection o defaultMaxAgeNs) = [a.evidence.observation]

/-- What was received is kept, expired or dropped for its number. -/
structure Buffered (t : Told) : Prop where
  parts : (t.nameObservations ++ (t.expired ++ t.overflowed)).Perm (t.received.filter timed)
  old : ∀ o ∈ t.expired, o.completedNs + defaultMaxAgeNs < newestNs t.received
  attached : ∀ a, .nameAttached a ∈ t.log → a.Justified

variable {policy : AdmissionPolicyConfig} {s : Locals policy}

lemma current_append_expired (l : List NameResolutionObservation) :
    (currentNames l ++ expiredNames l).Perm l := by
  have hrest : expiredNames l = l.filter fun x => !decide (thresholdNs l ≤ x.completedNs) :=
    filter_congr fun x _ => by
      rw [← decide_not, decide_eq_decide]
      omega
  rw [hrest]
  exact filter_append_perm _ l

lemma mergedNames_perm (s : Locals policy) (sorted names : List NameResolutionObservation) :
    (s.mergedNames sorted names).Perm (s.nameObservations ++ names.filter timed) :=
  (perm_insertionSort _ _).trans (arranged_perm _ _)

/-- What has expired is older than the newest observation by more than the maximal age. -/
lemma expired_old (h : o ∈ expiredNames l) : o.completedNs + defaultMaxAgeNs < newestNs l := by
  have hlt := of_decide_eq_true (mem_filter.mp h).2
  unfold thresholdNs at hlt
  omega

lemma Buffered.drainNames (h : Buffered s.told) (sorted names : List NameResolutionObservation) :
    Buffered (s.drainNames sorted names).told := by
  obtain ⟨hparts, hold, hattached⟩ := h
  have hmerged := mergedNames_perm s sorted names
  have hsub : s.mergedNames sorted names ⊆ s.received ++ names := by
    intro o ho
    rcases mem_append.mp (hmerged.subset ho) with ho | ho
    · exact mem_append_left _ (mem_of_mem_filter (hparts.subset (mem_append_left _ ho)))
    · exact mem_append_right _ (mem_of_mem_filter ho)
  refine ⟨perm_iff_count.mpr fun o => ?_, fun o ho => ?_, hattached⟩
  · have hcount := hmerged.count_eq o
    have hbefore := hparts.count_eq o
    have hsplit := (current_append_expired (s.mergedNames sorted names)).count_eq o
    have hcut := congrArg (List.count o) (take_append_drop
      (excess (currentNames (s.mergedNames sorted names))) (currentNames (s.mergedNames sorted names)))
    simp only [Locals.told, Locals.drainNames, count_append, filter_append]
      at hcount hbefore hsplit hcut ⊢
    omega
  · have hlater : newestNs s.received ≤ newestNs (s.received ++ names) :=
      newestNs_mono (subset_append_left _ _)
    rcases mem_append.mp ho with ho | ho
    · exact (hold o ho).trans_le hlater
    · exact (expired_old ho).trans_le (newestNs_mono hsub)

/-! ### Evidence -/

variable {c : ConnectionSummary} {e : NameResolutionEvidence}

/-- The candidates among the kept observations are those among all that was received, if none was
dropped. -/
lemma Buffered.justified {t : Told} (h : Buffered t) {id : ℕ}
    (he : (correlateNameResolution c t.nameObservations defaultMaxAgeNs).evidence = some e) :
    NameAttachment.Justified ⟨id, c, e, t.received, t.overflowed⟩ := by
  intro hkept
  have hexpired : t.expired.filter (fun o => isCandidate c o defaultMaxAgeNs) = [] := by
    refine filter_eq_nil_iff.mpr fun o ho hcandidate => ?_
    have hreceived : o ∈ t.received :=
      mem_of_mem_filter (h.parts.subset (mem_append_right _ (mem_append_left _ ho)))
    exact absurd (hkept o hreceived hcandidate).1 (Nat.not_le.mpr (h.old o ho))
  have hoverflowed : t.overflowed.filter (fun o => isCandidate c o defaultMaxAgeNs) = [] := by
    refine filter_eq_nil_iff.mpr fun o ho hcandidate => ?_
    have hreceived : o ∈ t.received :=
      mem_of_mem_filter (h.parts.subset (mem_append_right _ (mem_append_right _ ho)))
    exact (hkept o hreceived hcandidate).2 ho
  -- a candidate has a time
  have htimed : (t.received.filter timed).filter (fun o => isCandidate c o defaultMaxAgeNs) =
      t.received.filter fun o => isCandidate c o defaultMaxAgeNs := by
    rw [filter_filter]
    refine filter_congr fun o _ => ?_
    rw [Bool.and_eq_left_iff_imp]
    intro hcandidate
    unfold isCandidate at hcandidate
    simp only [Bool.and_eq_true] at hcandidate
    exact hcandidate.1.1.1.1.1.1.1.1.1.2
  have hperm := h.parts.filter fun o => isCandidate c o defaultMaxAgeNs
  rw [filter_append, filter_append, hexpired, hoverflowed, append_nil, append_nil,
    correlateNameResolution_evidence he, htimed] at hperm
  exact (singleton_perm.mp hperm).symm

lemma Buffered.logged {t t' : Told} (h : Buffered t)
    (hnames : t'.nameObservations = t.nameObservations ∧ t'.received = t.received ∧
      t'.expired = t.expired ∧ t'.overflowed = t.overflowed)
    (hlog : ∀ a, .nameAttached a ∈ t'.log → .nameAttached a ∈ t.log) : Buffered t' where
  parts := by
    rw [hnames.1, hnames.2.1, hnames.2.2.1, hnames.2.2.2]
    exact h.parts
  old := by
    rw [hnames.2.1, hnames.2.2.1]
    exact h.old
  attached a ha := h.attached a (hlog a ha)

abbrev Names : World → Told → Prop := fun _ => Buffered

variable {cfg : Setup}
  (f : Locals policy → Locals policy) (first later : List NameResolutionObservation)

lemma names_setLocals (hf : ∀ s, Buffered s.told → Buffered (f s).told) :
    Preserves (Facing Names) (setLocals f : SessionM policy Unit) :=
  facing_assign fun s h => hf s.2 h

lemma names_keep (hf : ∀ s, (f s).told = s.told) :
    Preserves (Facing Names) (setLocals f : SessionM policy Unit) :=
  names_setLocals f fun s h => (hf s).symm ▸ h

lemma names_logging (entry : Locals policy → Entry) (hentry : ∀ s a, entry s ≠ .nameAttached a) :
    Preserves (Facing Names) (logging entry : SessionM policy Unit) := by
  refine preserves_modify fun s h => h.logged ⟨rfl, rfl, rfl, rfl⟩ fun a ha => ?_
  rcases mem_append.mp ha with ha | ha
  · exact ha
  · exact absurd (mem_singleton.mp ha).symm (hentry s.2 a)

lemma told_noteAmbiguousName (s : Locals policy) (id : ℕ) :
    (s.noteAmbiguousName id).told = s.told := by
  unfold noteAmbiguousName
  split
  · rfl
  · rfl

lemma names_addNameResolutionEvidence {id : ℕ} (s : Locals policy)
    (he : (correlateNameResolution c s.nameObservations defaultMaxAgeNs).evidence = some e) :
    Triple (fun _ => True) (fun x : World × Locals policy => x.2 = s ∧ Buffered x.2.told)
      (addNameResolutionEvidence id c e) (fun _ => Facing Names) fun _ => Facing Names := by
  refine bind (Q := fun _ => Facing Names) ?_ fun _ => preserves_reading _
  refine Triple.modify ?_ fun _ _ _ h => h.2
  rintro ⟨w, _⟩ ⟨rfl, h⟩
  refine ⟨h.parts, h.old, fun a ha => ?_⟩
  rcases mem_append.mp ha with ha | ha
  · exact h.attached a ha
  · cases mem_singleton.mp ha
    exact h.justified he

lemma names_attachNameResolution (id : ℕ) (direction : ConnectionDirection) :
    Preserves (Facing Names) (attachNameResolution cfg id direction) := by
  refine bind facing_here fun s => ?_
  split
  · exact pure fun _ h => h.2
  -- reading the connection changes nothing
  refine bind (Q := fun _ x => x.2 = s ∧ Buffered x.2.told)
    (lookup (fun _ _ h => h) (fun _ h => h) fun _ _ _ h => h.2) fun c => ?_
  cases c with
  | none => exact pure fun _ h => h.2
  | some =>
    dsimp only
    split
    · exact (names_keep _ fun s => told_noteAmbiguousName s id).pre fun _ h => h.2
    · next he =>
      exact (names_addNameResolutionEvidence s he).bind fun _ => names_keep _ fun _ => rfl
    · exact pure fun _ h => h.2

lemma Buffered.closed (h : Buffered s.told) (queuedAt : ℕ → ℕ) (id : ℕ) :
    Buffered (s.closed queuedAt id).told := h.logged ⟨rfl, rfl, rfl, rfl⟩ fun _ ha => ha

lemma Buffered.report (h : Buffered s.told) (ids : List ℕ) : Buffered (s.report ids).told :=
  h.logged ⟨rfl, rfl, rfl, rfl⟩ fun a ha => by
    rcases mem_append.mp ha with ha | ha
    · exact ha
    · obtain ⟨id, -, hid⟩ := mem_map.mp ha
      cases hid

lemma Buffered.prompt (h : Buffered s.told) (id now : ℕ) : Buffered (s.prompt id now).told := by
  unfold Locals.prompt
  split
  · exact h.logged ⟨rfl, rfl, rfl, rfl⟩ fun _ ha => ha
  · split
    · exact h.logged ⟨rfl, rfl, rfl, rfl⟩ fun _ ha => ha
    · exact h

lemma Buffered.dispatch (h : Buffered s.told) (id : ℕ) : Buffered (s.dispatch id).told := by
  unfold Locals.dispatch
  dsimp only
  split
  · refine h.logged ⟨rfl, rfl, rfl, rfl⟩ fun a ha => ?_
    rcases mem_append.mp ha with ha | ha
    · exact ha
    · cases mem_singleton.mp ha
  · exact h.logged ⟨rfl, rfl, rfl, rfl⟩ fun _ ha => ha

lemma names_correlateTlsObservation (d : Answer) (connections : List ConnectionSummary)
    (watermarkNs : ℕ) (o : TlsSession.TlsSessionObservation) :
    Preserves (Facing Names) (correlateTlsObservation cfg d connections watermarkNs o) := by
  unfold correlateTlsObservation
  split
  · exact preserves_pure _
  dsimp only
  split
  · exact (names_keep noteAmbiguousTls fun _ => rfl).bind fun _ => preserves_pure _
  · refine preserves_locals.bind fun s => ?_
    split
    · exact preserves_pure _
    · refine (names_setLocals (fun s => { s with attachedTlsKeys := _ :: s.attachedTlsKeys })
        fun _ h => h.logged ⟨rfl, rfl, rfl, rfl⟩ fun _ ha => ha).bind fun _ => ?_
      exact (names_logging (fun _ => .tlsAttached _ _) fun _ _ => nofun).bind fun _ =>
        (names_keep noteAttachedTls fun _ => rfl).bind fun _ =>
          (names_setLocals (·.prompt _ _) fun _ h => h.prompt _ _).bind fun _ => preserves_pure _
  · exact preserves_pure _

theorem names_program (a : Action cfg.policy) (d : Answer) :
    Preserves (Facing Names) (a.program cfg d) := by
  by_cases hquiet : a.quiet = true
  · exact quiet_program a hquiet d
  cases a with
  | callback => exact facing_notify (P := Names) (fun _ t => preserves_const (Buffered t) _) d
  | drainNameResolution =>
    exact (preserves_external d).bind fun _ => names_setLocals _ fun _ h => h.drainNames _ _
  | attachNameResolution id direction => exact names_attachNameResolution id direction
  | retryNameResolution id =>
    exact preserves_retryNameResolution id (names_attachNameResolution id)
  | correlateTlsSession connections watermarkNs o =>
    exact names_correlateTlsObservation d connections watermarkNs o
  | clearCompleted =>
    exact names_setLocals (fun s => { s with pendingCompleted := .empty }) fun _ h =>
      h.logged ⟨rfl, rfl, rfl, rfl⟩ fun _ ha => ha
  | complete id =>
    refine preserves_locals.bind fun s => Preserves.bind
      (names_setLocals _ fun _ h => h.dispatch id) fun _ => ?_
    split
    · exact facing_notify (P := Names) (fun _ t => preserves_const (Buffered t) _) d
    · exact preserves_pure _
  | endSnapshot =>
    refine (facing_beside _).bind fun inactive => Preserves.bind
      (names_setLocals _ fun _ h => h.report inactive) fun _ => names_setLocals _ fun s h => ?_
    induction inactive generalizing s with
    | nil => exact h
    | cons id inactive ih => exact ih _ (h.closed d.queuedAt id)
  | observeLifecycle =>
    refine (facing_beside _).bind fun admission => Preserves.bind
      (names_setLocals _ fun _ h => h.report _) fun _ => ?_
    cases admission with
    | none => exact preserves_pure _
    | some =>
      dsimp only
      split
      · exact (names_setLocals _ fun _ h => h.closed _ _).bind fun _ => preserves_pure _
      · exact preserves_pure _
  | beginSnapshot | observeSocket | finishObservation => exact facing_beside _
  | maintain =>
    unfold Action.program
    split
    · exact preserves_runIfDue (fun _ h => h) (names_keep _ fun _ => rfl)
    · exact preserves_pure _
  | _ => exact absurd rfl hquiet

lemma buffered_initial (cfg : Setup) : Buffered (initial cfg).told where
  parts := .refl []
  old _ h := absurd h not_mem_nil
  attached _ h := absurd h not_mem_nil

/-- **The only candidate.** In every run of the session, evidence of a name resolution is attached
to a connection only if exactly one of all observations received until then is a candidate for it,
as long as every candidate is within five seconds of the newest observation and was not dropped for
its number. -/
theorem evidence_from_only_candidate (cfg : Setup) (n : ℕ) (world : World) (w : List Answer)
    (a : NameAttachment)
    (ha : .nameAttached a ∈ (Run.run advance (run cfg n, (world, .initial cfg)) w).2.2.log)
    (hkept : ∀ o ∈ a.received, isCandidate a.connection o defaultMaxAgeNs = true →
      newestNs a.received ≤ o.completedNs + defaultMaxAgeNs ∧ o ∉ a.overflowed) :
    a.received.filter (fun o => isCandidate a.connection o defaultMaxAgeNs) =
      [a.evidence.observation] :=
  (invariant_run (P := Facing Names) (fun a d _ => names_program a d)
    (c := (run cfg n, (world, .initial cfg))) (obeys_run n) (buffered_initial cfg) w).2.attached a ha
      hkept

/-! ### A connection with two candidates -/

def attachments (log : List Entry) : List NameAttachment :=
  log.filterMap fun entry => match entry with
    | .nameAttached a => some a
    | _ => none

lemma mem_attachments {log : List Entry} {a : NameAttachment} :
    a ∈ attachments log ↔ .nameAttached a ∈ log := by
  unfold attachments
  rw [mem_filterMap]
  constructor
  · rintro ⟨entry, hentry, heq⟩
    cases entry with
    | nameAttached => cases heq; exact hentry
    | reported | completed | tlsAttached => cases heq
  · exact fun h => ⟨_, h, rfl⟩

/-- Outgoing connections with lifecycle events and name resolutions. -/
def watching : Setup where
  policy := { mode := .outbound }
  tracker := plain
  lifecycle := ⟨true, true, true⟩
  nameResolution := some { systemResolverEvents := true }

def connecting : ConnectionLifecycleEvent where
  timestampNs := 5600000000
  process := { agentVisible := { tgid := some 1 } }
  protocol := .tcp
  endpointKind := .connection
  localEndpoint := some ⟨['l'], some 5000⟩
  remoteEndpoint := some ⟨['r'], some 443⟩
  socketCookie := some 7

/-- A resolution of the remote address by the same process. -/
def resolved (completedNs : ℕ) : NameResolutionObservation where
  completedNs
  queryKind := .forward
  process := { agentVisible := { tgid := some 1 } }
  queryName := ['n']
  addresses := [{ address := ['r'] }]

def uneventful : Answer := {}

/-- The answers up to the retry in the sample after the connection: `first` is received before the
connection is admitted, `later` after it. -/
def untilRetry : List Answer :=
  List.replicate 17 uneventful ++ [{ lifecycleEvents := [connecting] }, { names := first }] ++
    List.replicate 6 uneventful ++ [{ names := later }, uneventful, uneventful]

def retried : List Entry :=
  (Run.run advance (run watching 1, fresh watching) (untilRetry first later)).2.2.log

theorem evidence_from_only_candidate_attached :
    ∃ a, .nameAttached a ∈ retried [resolved 1000000000] [resolved 5700000000] ∧
      a.received.filter (fun o => isCandidate a.connection o defaultMaxAgeNs) =
        [a.evidence.observation] := by
  have hkept : ∃ a ∈ attachments (retried [resolved 1000000000] [resolved 5700000000]),
      ∀ o ∈ a.received, isCandidate a.connection o defaultMaxAgeNs = true →
        newestNs a.received ≤ o.completedNs + defaultMaxAgeNs ∧ o ∉ a.overflowed := by
    decide +kernel
  obtain ⟨a, ha, hkept⟩ := hkept
  have ha := mem_attachments.mp ha
  exact ⟨a, ha, evidence_from_only_candidate watching 1 (.initial, .initial) (untilRetry _ _) a ha hkept⟩

/-- Two candidates make the connection ambiguous; an observation at 7 s drops the older one, and the
retry attaches the other. -/
theorem ambiguous_connection_attached :
    ∃ a ∈ attachments (retried [resolved 1000000000, resolved 5500000000] [resolved 7000000000]),
      (a.received.filter fun o => isCandidate a.connection o defaultMaxAgeNs).length = 2 := by
  decide +kernel

end NetaAgent.ObservationSession
