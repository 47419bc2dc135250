import Mathlib.Data.List.Induction
import NetaAgent.SessionFrames
import NetaAgent.TrackerReports
import NetaAgent.TrackerPruning

/-!
The `connection_completed` callbacks of a session.

For one connection the log of a run is read by a small automaton: it is reported by the tracker, its
callback is called, and from then on a callback is due again only after a TLS session was attached.
The pending and the dispatched connections are the states of that automaton, at every point of a
run; and a run that returns has nothing pending.
-/

namespace NetaAgent.ObservationSession

open Decimal Sql Observation HistoryStore ConnectionTracker AdmissionPolicy TlsSession Locals Triple
open NetaAgent.Process Process.Proc List Option Table

/-! ### The log of one connection -/

inductive Phase where
  | unreported
  | due
  | dispatched
  deriving DecidableEq

variable (id : ℕ) (d : Answer)

/-- What an entry does to the phase of the connection `id`; `none` if it must not come then. -/
def Phase.next (p : Phase) : Entry → Option Phase
  | .reported i => if i = id then if p = .unreported then some .due else none else some p
  | .completed i => if i = id then if p = .due then some .dispatched else none else some p
  | .tlsAttached i _ => if i = id ∧ p = .dispatched then some .due else some p
  | .nameAttached _ => some p

def phase (log : List Entry) : Option Phase := log.foldlM (Phase.next id) .unreported

lemma phase_append (l l' : List Entry) :
    phase id (l ++ l') = (phase id l).bind fun p => l'.foldlM (Phase.next id) p := by
  unfold phase
  rw [foldlM_append]
  rfl

lemma phase_snoc (l : List Entry) (entry : Entry) :
    phase id (l ++ [entry]) = (phase id l).bind fun p => p.next id entry := by
  rw [phase_append]
  refine congrArg _ (funext fun p => ?_)
  cases h : p.next id entry with
  | none | some => simp [h]

variable {id : ℕ} {l' log : List Entry} {p : Phase}

lemma phase_spec (h : phase id log = some p) :
    (p = .unreported ↔ .reported id ∉ log) ∧ (p = .dispatched → .completed id ∈ log) := by
  induction log using reverseRecOn generalizing p with
  | nil =>
    cases h
    exact ⟨⟨fun _ => not_mem_nil, fun _ => rfl⟩, nofun⟩
  | append_singleton l entry ih =>
    rw [phase_snoc] at h
    obtain ⟨q, hq, hnext⟩ := bind_eq_some_iff.mp h
    obtain ⟨hreported, hcompleted⟩ := ih hq
    simp only [mem_append, mem_singleton, not_or]
    cases entry with
    | reported i =>
      simp only [Phase.next] at hnext
      by_cases hi : i = id
      · subst hi
        simp only [if_true] at hnext
        split at hnext
        · cases hnext
          simp
        · cases hnext
      · simp only [hi, if_false, some.injEq] at hnext
        subst hnext
        simpa [hreported, Ne.symm hi] using hcompleted
    | completed i =>
      simp only [Phase.next] at hnext
      by_cases hi : i = id
      · subst hi
        simp only [if_true] at hnext
        split at hnext
        · next hdue =>
          cases hnext
          have : Entry.reported i ∈ l := by
            by_contra hnot
            rw [hreported.mpr hnot] at hdue
            cases hdue
          simp [this]
        · cases hnext
      · simp only [hi, if_false, some.injEq] at hnext
        subst hnext
        simpa [hreported] using fun hd => .inl (hcompleted hd)
    | tlsAttached =>
      simp only [Phase.next] at hnext
      split at hnext
      · next hd =>
        cases hnext
        have : Entry.reported id ∈ l := by
          by_contra hnot
          rw [hreported.mpr hnot] at hd
          cases hd.2
        simp [this]
      · cases hnext
        simpa [hreported] using hcompleted
    | nameAttached =>
      cases hnext
      simpa [hreported] using hcompleted

lemma reported_before_completed {l : List Entry}
    (h : phase id (l ++ .completed id :: l') = some p) : .reported id ∈ l := by
  rw [phase_append] at h
  obtain ⟨q, hq, hrest⟩ := bind_eq_some_iff.mp h
  rw [foldlM_cons] at hrest
  obtain ⟨q', hnext, -⟩ := bind_eq_some_iff.mp hrest
  simp only [Phase.next, if_true] at hnext
  split at hnext
  · next hdue =>
    by_contra hnot
    rw [(phase_spec hq).1.mpr hnot] at hdue
    cases hdue
  · cases hnext

lemma attached_of_dispatched {l : List Entry}
    (h : l.foldlM (Phase.next id) .dispatched = some p) (hp : p ≠ .dispatched) :
    ∃ e, .tlsAttached id e ∈ l := by
  induction l with
  | nil =>
    cases h
    exact absurd rfl hp
  | cons entry l ih =>
    rw [foldlM_cons] at h
    obtain ⟨q, hnext, hrest⟩ := bind_eq_some_iff.mp h
    have hlater (hq : q = .dispatched) : ∃ e, .tlsAttached id e ∈ entry :: l := by
      rw [hq] at hrest
      obtain ⟨e, he⟩ := ih hrest
      exact ⟨e, mem_cons_of_mem _ he⟩
    cases entry with
    | reported | completed =>
      simp only [Phase.next] at hnext
      split at hnext
      · cases hnext
      · exact hlater (some.inj hnext).symm
    | tlsAttached i e =>
      simp only [Phase.next, and_true] at hnext
      split at hnext
      · next hi =>
        subst hi
        exact ⟨e, mem_cons_self⟩
      · exact hlater (some.inj hnext).symm
    | nameAttached => exact hlater (some.inj hnext).symm

lemma attached_between {l₁ l₂ l₃ : List Entry}
    (h : phase id (l₁ ++ .completed id :: (l₂ ++ .completed id :: l₃)) = some p) :
    ∃ e, .tlsAttached id e ∈ l₂ := by
  rw [phase_append] at h
  obtain ⟨q, -, hrest⟩ := bind_eq_some_iff.mp h
  rw [foldlM_cons] at hrest
  obtain ⟨q', hfirst, hrest⟩ := bind_eq_some_iff.mp hrest
  have hq' : q' = .dispatched := by
    simp only [Phase.next, if_true] at hfirst
    split at hfirst
    · exact (some.inj hfirst).symm
    · cases hfirst
  rw [foldlM_append] at hrest
  obtain ⟨q'', hmiddle, hrest⟩ := bind_eq_some_iff.mp hrest
  rw [foldlM_cons] at hrest
  obtain ⟨q₃, hsecond, -⟩ := bind_eq_some_iff.mp hrest
  rw [hq'] at hmiddle
  refine attached_of_dispatched hmiddle fun hd => ?_
  rw [hd] at hsecond
  simp [Phase.next] at hsecond

/-! ### The keys of the TLS sessions that were attached -/

/-- The keys of the TLS sessions that were attached, as the log tells them. -/
def tlsKeys (cfg : Setup) (log : List Entry) : List Text :=
  log.filterMap fun entry => match entry with
    | .tlsAttached _ e => some (tlsSessionIdentityKey cfg.tracker.sha e.observation)
    | _ => none

lemma tlsKeys_append (cfg : Setup) (l l' : List Entry) :
    tlsKeys cfg (l ++ l') = tlsKeys cfg l ++ tlsKeys cfg l' := filterMap_append

/-! ### What is pending -/

/-- The phase of a connection from the pending and the dispatched ones. -/
def phaseOf (pending : Table Completion.connectionId) (dispatched : List ℕ) (id : ℕ) : Phase :=
  if (pending.find id).isSome then .due
  else if id ∈ dispatched then .dispatched
  else .unreported

section
variable {pending : Table Completion.connectionId} {dispatched : List ℕ} {id i due : ℕ}

lemma phaseOf_eq_due : phaseOf pending dispatched id = .due ↔ (pending.find id).isSome := by
  unfold phaseOf
  split
  · simp [*]
  · split <;> simp [*]

lemma phaseOf_replace : phaseOf (pending.replace ⟨i, due⟩) dispatched id =
    if id = i then .due else phaseOf pending dispatched id := by
  unfold phaseOf
  simp only [isSome_find_replace]
  by_cases h : id = i <;> simp [h]

lemma phaseOf_recall : phaseOf (pending.replace ⟨i, due⟩) (dispatched.filter (· ≠ i)) id =
    if id = i then .due else phaseOf pending dispatched id := by
  unfold phaseOf
  simp only [isSome_find_replace]
  by_cases h : id = i <;> simp [h]

lemma phaseOf_dispatch :
    phaseOf (pending.delete fun c => c.connectionId = i) (i :: dispatched) id =
      if id = i then .dispatched else phaseOf pending dispatched id := by
  unfold phaseOf
  simp only [isSome_find_delete]
  by_cases h : id = i <;> simp [h]

lemma phaseOf_delete (h : ¬ (pending.find i).isSome) :
    phaseOf (pending.delete fun c => c.connectionId = i) dispatched id =
      phaseOf pending dispatched id := by
  unfold phaseOf
  simp only [isSome_find_delete]
  by_cases hi : id = i
  · subst hi
    simp [h]
  · simp [hi]

end

/-- At every point of a run the pending and the dispatched connections are those that the log makes
due and dispatched; the tracker does not track them any more, and does not again. -/
structure Tidy (cfg : Setup) (w : World) (t : Told) : Prop where
  sound : Sound w
  phases : ∀ id, phase id t.log = some (phaseOf t.pendingCompleted t.dispatchedCompleted id)
  disjoint : ∀ id ∈ t.dispatchedCompleted, ¬ (t.pendingCompleted.find id).isSome
  finished : ∀ id, phaseOf t.pendingCompleted t.dispatchedCompleted id ≠ .unreported →
    w.1.Held id ∧ ¬ Tracks w id
  keys : ∀ key ∈ tlsKeys cfg t.log, key ∈ t.attachedTlsKeys
  keysOnce : (tlsKeys cfg t.log).Nodup

variable {cfg : Setup} {w w' : World} {t t' : Told}

lemma Tidy.world (h : Tidy cfg w t) (hs : Sound w') (hheld : ∀ id, w.1.Held id → w'.1.Held id)
    (htracked : ∀ id, w.1.Held id → Tracks w' id → Tracks w id) : Tidy cfg w' t := { h with
    sound := hs
    finished := fun id hid => ⟨hheld id (h.finished id hid).1, fun ht =>
      (h.finished id hid).2 (htracked id (h.finished id hid).1 ht)⟩ }

lemma Tidy.outcome {new gone : List ℕ} (h : Tidy cfg w t) (ho : Outcome w w' new gone)
    (hs : Sound w') : Tidy cfg w' t := h.world hs ho.held fun id hid ht =>
    (ho.tracked id ht).resolve_right fun hnew => (ho.fresh id hnew).1 hid

section
variable (h : Tidy cfg w t) (said : Entry) (id : ℕ) (p : Phase)
  (hlog : t'.log = t.log ++ [said])
  (hafter : ∀ i, phaseOf t'.pendingCompleted t'.dispatchedCompleted i =
    if i = id then p else phaseOf t.pendingCompleted t.dispatchedCompleted i)
  (hnext : (phaseOf t.pendingCompleted t.dispatchedCompleted id).next id said = some p)
  (hothers : ∀ i, i ≠ id → ∀ q : Phase, q.next i said = some q)
  (hdisjoint : ∀ i ∈ t'.dispatchedCompleted, ¬ (t'.pendingCompleted.find i).isSome)
  (hover : p ≠ .unreported → w.1.Held id ∧ ¬ Tracks w id)

include h hlog hafter hnext hothers hdisjoint hover

/-- An entry of the log about the connection `id`, which leaves it in the phase `p`. -/
lemma Tidy.entry (hkeys : ∀ key ∈ tlsKeys cfg (t.log ++ [said]), key ∈ t'.attachedTlsKeys)
    (honce : (tlsKeys cfg (t.log ++ [said])).Nodup) : Tidy cfg w t' where
  sound := h.sound
  phases i := by
    rw [hlog, phase_snoc, h.phases i, bind_some, hafter i]
    split
    · next heq =>
      rw [heq]
      exact hnext
    · next hne => exact hothers i hne _
  disjoint := hdisjoint
  finished i hi := by
    rw [hafter i] at hi
    split at hi
    · next heq =>
      rw [heq]
      exact hover hi
    · exact h.finished i hi
  keys := hlog ▸ hkeys
  keysOnce := hlog ▸ honce

lemma Tidy.plainEntry (hentry : tlsKeys cfg [said] = [])
    (hkeys : t'.attachedTlsKeys = t.attachedTlsKeys) : Tidy cfg w t' := by
  have hsame : tlsKeys cfg (t.log ++ [said]) = tlsKeys cfg t.log := by
    rw [tlsKeys_append, hentry, append_nil]
  refine h.entry said id p hlog hafter hnext hothers hdisjoint hover ?_ ?_
  · rw [hsame, hkeys]
    exact h.keys
  · rw [hsame]
    exact h.keysOnce

end

lemma Tidy.names (h : Tidy cfg w t) (hpending : t'.pendingCompleted = t.pendingCompleted)
    (hdispatched : t'.dispatchedCompleted = t.dispatchedCompleted)
    (hkeys : t'.attachedTlsKeys = t.attachedTlsKeys) (hlog : t'.log = t.log) : Tidy cfg w t' := by
  obtain ⟨pending, dispatched, names, received, expired, overflowed, keys, log⟩ := t'
  subst hpending hdispatched hkeys hlog
  exact ⟨h.sound, h.phases, h.disjoint, h.finished, h.keys, h.keysOnce⟩

/-! ### Reports -/

variable {s : Locals cfg.policy}

lemma Tidy.closed (h : Tidy cfg w s.told) (queuedAt : ℕ → ℕ)
    (hphase : phaseOf s.pendingCompleted s.dispatchedCompleted id = .unreported)
    (hheld : w.1.Held id) (hnot : ¬ Tracks w id) :
    Tidy cfg w ((s.closed queuedAt id).report [id]).told := by
  refine h.plainEntry (.reported id) id _ rfl (fun i => phaseOf_replace) ?_
    (fun i hne q => if_neg (Ne.symm hne)) (fun i hi hsome => ?_) (fun _ => ⟨hheld, hnot⟩) rfl rfl
  · simp [Phase.next, told, hphase]
  · -- what was dispatched was reported, so it is another one
    rcases isSome_find_replace.mp hsome with rfl | hsome
    · have hi : i ∈ s.dispatchedCompleted := hi
      unfold phaseOf at hphase
      simp only [hi, if_true] at hphase
      split at hphase <;> cases hphase
    · exact h.disjoint i hi hsome

/-- What a call of the tracker reports was tracked and no longer is. -/
def Reports (w : World) (gone : List ℕ) (w' : World) : Prop :=
  ∃ new, Outcome w w' new gone ∧ Sound w'

variable {l gone : List ℕ}

lemma Reports.tidy (hr : Reports w gone w') (h : Tidy cfg w t) : Tidy cfg w' t := by
  obtain ⟨new, ho, hs⟩ := hr
  exact h.outcome ho hs

lemma report_nil (s : Locals cfg.policy) : s.report [] = s := by
  simp [Locals.report]

/-- The connections are reported together and queued one by one. -/
lemma Tidy.closeAll (queuedAt : ℕ → ℕ) (h : Tidy cfg w s.told) (honce : gone.Nodup)
    (hgone : ∀ id ∈ gone, phaseOf s.pendingCompleted s.dispatchedCompleted id = .unreported ∧
      w.1.Held id ∧ ¬ Tracks w id) :
    Tidy cfg w (gone.foldl (Locals.closed · queuedAt) (s.report gone)).told := by
  induction gone generalizing s with
  | nil =>
    rw [report_nil]
    exact h
  | cons id gone ih =>
    obtain ⟨hphase, hheld, hnot⟩ := hgone id mem_cons_self
    obtain ⟨hid, honce⟩ := nodup_cons.mp honce
    have hone : (s.report (id :: gone)).closed queuedAt id =
        ((s.closed queuedAt id).report [id]).report gone := by
      simp [Locals.report, Locals.closed]
    rw [foldl_cons, hone]
    refine ih (h.closed queuedAt hphase hheld hnot) honce fun i hi => ?_
    have hne : i ≠ id := fun heq => hid (heq ▸ hi)
    have hafter : phaseOf ((s.closed queuedAt id).report [id]).pendingCompleted
        ((s.closed queuedAt id).report [id]).dispatchedCompleted i = _ := phaseOf_replace
    rw [hafter, if_neg hne]
    exact hgone i (mem_cons_of_mem id hi)

/-- **Reports.** The connections that a call reports were tracked before it, so none of them was
reported earlier. -/
lemma Tidy.reports (h : Tidy cfg w s.told) (hr : Reports w gone w')
    (queuedAt : ℕ → ℕ) :
    Tidy cfg w' (gone.foldl (Locals.closed · queuedAt) (s.report gone)).told := by
  obtain ⟨new, ho, hs⟩ := hr
  refine (h.outcome ho hs).closeAll queuedAt ho.goneOnce fun id hid => ?_
  obtain ⟨⟨e, he, rfl⟩, hnot⟩ := ho.gone id hid
  refine ⟨?_, ho.held _ (h.sound.held he), hnot⟩
  by_contra hphase
  exact (h.finished _ hphase).2 ⟨e, he, rfl⟩

/-! ### Callbacks and TLS sessions -/

lemma Tidy.dispatch (h : Tidy cfg w s.told) (id : ℕ) : Tidy cfg w (s.dispatch id).told := by
  unfold Locals.dispatch
  dsimp only
  split
  · next hcalls =>
    obtain ⟨hpending, hnot⟩ := Bool.and_eq_true_iff.mp hcalls
    have hdue : phaseOf s.pendingCompleted s.dispatchedCompleted id = .due :=
      phaseOf_eq_due.mpr hpending
    refine h.plainEntry (.completed id) id _ rfl (fun i => phaseOf_dispatch) ?_
      (fun i hne q => if_neg (Ne.symm hne)) (fun i hi hsome => ?_)
      (fun _ => h.finished id ?_) rfl rfl
    · simp [Phase.next, Locals.told, hdue]
    · obtain ⟨hne, hsome⟩ := isSome_find_delete.mp hsome
      exact h.disjoint i ((mem_cons.mp hi).resolve_left hne) hsome
    · simp [Locals.told, hdue]
  · next hcalls =>
    -- a pending connection was not dispatched, so there is nothing to delete
    have hnone : ¬ (s.pendingCompleted.find id).isSome := by
      intro hsome
      refine hcalls (Bool.and_eq_true_iff.mpr ⟨hsome, ?_⟩)
      rw [Bool.not_eq_true', ← Bool.not_eq_true, contains_iff_mem]
      exact fun hmem => h.disjoint id hmem hsome
    refine ⟨h.sound, fun i => ?_, fun i hi hsome => ?_, fun i hi => ?_, h.keys, h.keysOnce⟩
    · exact (h.phases i).trans (congrArg some (phaseOf_delete hnone).symm)
    · exact h.disjoint i hi (isSome_find_delete.mp hsome).2
    · exact h.finished i fun hun => hi ((phaseOf_delete hnone).trans hun)

variable {e : TlsSessionEvidence}

/-- A TLS session with a new key is attached: the callback of its connection is moved forward, or is
due again. -/
lemma Tidy.attached (h : Tidy cfg w s.told) (id now : ℕ)
    (hkey : tlsSessionIdentityKey cfg.tracker.sha e.observation ∈ s.attachedTlsKeys)
    (hnew : tlsSessionIdentityKey cfg.tracker.sha e.observation ∉ tlsKeys cfg s.log) :
    Tidy cfg w (prompt { s with log := s.log ++ [.tlsAttached id e] } id now).told := by
  have hkeys : ∀ key ∈ tlsKeys cfg (s.log ++ [.tlsAttached id e]), key ∈ s.attachedTlsKeys := by
    intro key hmem
    rw [tlsKeys_append] at hmem
    rcases mem_append.mp hmem with hmem | hmem
    · exact h.keys key hmem
    · cases mem_singleton.mp hmem
      exact hkey
  have honce : (tlsKeys cfg (s.log ++ [.tlsAttached id e])).Nodup := by
    rw [tlsKeys_append]
    refine h.keysOnce.append (nodup_singleton _) fun key hold hmem => ?_
    cases mem_singleton.mp hmem
    exact hnew hold
  have hothers : ∀ i, i ≠ id → ∀ q : Phase, q.next i (.tlsAttached id e) = some q :=
    fun i hne q => if_neg fun heq => hne heq.1.symm
  unfold prompt
  split
  · next hpending =>
    have hdue : phaseOf s.pendingCompleted s.dispatchedCompleted id = .due :=
      phaseOf_eq_due.mpr hpending
    refine h.entry _ id .due rfl (fun i => phaseOf_replace) ?_ hothers
      (fun i hi hsome => ?_) (fun _ => h.finished id ?_) hkeys honce
    · simp [Phase.next, told, hdue]
    · rcases isSome_find_replace.mp hsome with rfl | hsome
      · exact h.disjoint i hi hpending
      · exact h.disjoint i hi hsome
    · simp [told, hdue]
  · next hpending =>
    split
    · next hdispatched =>
      have hphase : phaseOf s.pendingCompleted s.dispatchedCompleted id = .dispatched := by
        have hmem : id ∈ s.dispatchedCompleted := contains_iff_mem.mp hdispatched
        unfold phaseOf
        rw [if_neg hpending, if_pos hmem]
      refine h.entry _ id .due rfl (fun i => phaseOf_recall) ?_ hothers
        (fun i hi hsome => ?_) (fun _ => h.finished id ?_) hkeys honce
      · simp [Phase.next, told, hphase]
      · obtain ⟨hi, hne⟩ := mem_filter.mp hi
        rcases isSome_find_replace.mp hsome with heq | hsome
        · exact of_decide_eq_true hne heq
        · exact h.disjoint i hi hsome
      · simp [told, hphase]
    · next hdispatched =>
      have hphase : phaseOf s.pendingCompleted s.dispatchedCompleted id = .unreported := by
        have hmem : id ∉ s.dispatchedCompleted := fun hmem =>
          hdispatched (contains_iff_mem.mpr hmem)
        unfold phaseOf
        rw [if_neg hpending, if_neg hmem]
      refine h.entry _ id .unreported rfl (fun i => ?_) ?_ hothers h.disjoint
        (fun hne => absurd rfl hne) hkeys honce
      · split
        · next heq => exact heq ▸ hphase
        · rfl
      · simp [Phase.next, told, hphase]

/-! ### The calls of the tracker -/

/-- The call reports the connections `gone` of what it returns. -/
abbrev Reporting {α : Type} (m : TrackerM α) (gone : α → List ℕ) : Prop :=
  ∀ ⦃w⦄, Sound w → Triple (fun _ => True) (· = w) m (fun a => Reports w (gone a))
    fun _ => Reports w []

lemma reports_observeLifecycle (now : ℕ) (event : ConnectionLifecycleEvent)
    (direction : ConnectionDirection) :
    Reporting (observeLifecycle cfg.tracker now event direction)
      fun r => reportedIds (.ok (.admission r)) := fun _ hs =>
  (observeLifecycle_triple cfg.tracker hs now direction).weaken
    (fun _ _ h => ⟨_, h.tells hs, h.effect.sound hs⟩)
    fun _ _ h => ⟨[], h.2.outcome, h.2.effect.sound hs⟩

lemma reports_observeSocket (now : ℕ) (process : Option ProcessIdentity)
    (socket : SocketObservation) (direction : ConnectionDirection) (allowNew : Bool)
    (origin : ConnectionObservationOrigin) :
    Reporting
      (observeSocket cfg.tracker now process socket direction allowNew origin)
      fun r => reportedIds (.ok (.admission r)) := fun _ hs =>
  (observeSocket_triple cfg.tracker hs now direction allowNew origin).weaken
    (fun _ _ h => ⟨_, h.tells hs, h.effect.sound hs⟩)
    fun _ _ h => ⟨[], h.2.outcome, h.2.effect.sound hs⟩

lemma reports_endSnapshot (order : List Text) (polling incomplete : Bool) :
    Reporting (ConnectionTracker.endSnapshot order polling incomplete) fun gone => gone := by
  intro w hs
  have houtcome : Triple (fun _ => True) (· = w)
      (ConnectionTracker.endSnapshot order polling incomplete)
      (fun gone w' => Outcome w w' [] gone) fun _ w' => Outcome w w' [] [] := by
    refine Triple.bind tracker_triple fun tr => Triple.start fun w₁ hw₁ => ?_
    rw [hw₁.2]
    exact endSnapshotLoop_outcome hs polling incomplete _
  exact (houtcome.and (endSnapshot_triple hs order polling incomplete)).weaken
    (fun _ _ h => ⟨[], h.1, Sweep.sound h.2 hs⟩) fun _ _ h => ⟨[], h.1, Sweep.sound h.2.2 hs⟩

lemma reports_finishObservation (order : List Text) (polling : Bool) :
    Reporting (finishObservation order polling) fun _ => [] := fun _ hs =>
  (finishObservation_triple hs order polling).weaken
    (fun _ _ h => ⟨[], Sweep.outcome hs h, Sweep.sound h hs⟩)
    fun _ _ h => ⟨[], Sweep.outcome hs h.2, Sweep.sound h.2 hs⟩

section
variable {α : Type} {m : TrackerM α} {gone : α → List ℕ} (hm : Reporting m gone)
include hm

lemma tidy_call (t : Told) : Preserves (Tidy cfg · t) m :=
  Triple.start fun _ h => (hm h.sound).weaken (fun _ _ hr => hr.tidy h) fun _ _ hr => hr.tidy h

lemma tidy_reports :
    Triple (fun _ => True) (Facing (Tidy cfg)) (onDb m : SessionM cfg.policy α)
      (fun a x => ∃ w, Tidy cfg w x.2.told ∧ Reports w (gone a) x.1) fun _ => Facing (Tidy cfg) :=
  Triple.onDb fun _ => Triple.start fun w h =>
    (hm h.sound).weaken (fun _ _ hr => ⟨w, h, hr⟩) fun _ _ hr => hr.tidy h

end

/-- Of a call that leaves the connections `gone`, the log has just got the reports of `ids`. -/
def Logged (cfg : Setup) (ids gone : List ℕ) (x : World × Locals cfg.policy) : Prop :=
  ∃ (s : Locals cfg.policy) (w : World), x.2 = s.report ids ∧ Tidy cfg w s.told ∧ Reports w gone x.1

lemma logged_report (ids : List ℕ) {gone : List ℕ} {F : StoreError → Prop}
    {E : StoreError → World × Locals cfg.policy → Prop} :
    Triple F (fun x => ∃ w, Tidy cfg w x.2.told ∧ Reports w gone x.1) (setLocals (·.report ids))
      (fun _ => Logged cfg ids gone) E :=
  Triple.assign fun x ⟨w, h, hr⟩ => ⟨x.2, w, rfl, h, hr⟩

lemma Tidy.writes {db db' : Store} {tr : Tracker} {c : Option ℕ}
    (h : Tidy cfg (db, tr) t) (hw : Writes id c db db') : Tidy cfg (db', tr) t :=
  h.world (ConnectionTracker.Session.sound_writes h.sound hw) (fun _ h => h.writes hw) fun _ _ h => h

lemma tidy_saveVerdict (v : Verdict) (t : Told) :
    Preserves (Tidy cfg · t) (onDb (saveVerdict v) : TrackerM Unit) := by
  refine onDb fun tr => Preserves.bind ?_ fun _ => ?_
  · refine preserves_statement fun _ db _ _ h hok => ?_
    split at hok
    · cases hok
      exact h.world (ConnectionTracker.Session.sound_quiet h.sound ⟨rfl, rfl, rfl, rfl, rfl, rfl⟩)
        (fun _ h => h)
        fun _ _ h => h
    · cases hok
  · exact preserves_modify fun db h => h.writes (writes_updateConnections (c := none) fun r _ =>
      continues_ite of_decide_eq_true rfl rfl rfl)

lemma tidy_notify : Preserves (Facing (Tidy cfg)) (notify d : SessionM cfg.policy _) :=
  facing_notify tidy_saveVerdict d

/-! ### Every action -/

lemma tidy_logName (entry : Locals cfg.policy → NameAttachment) :
    Preserves (Facing (Tidy cfg)) (logging fun s => .nameAttached (entry s)) := by
  refine preserves_modify fun x h => ?_
  exact h.plainEntry (.nameAttached (entry x.2)) 0 _ rfl
    (fun i => (ite_eq_right_iff.mpr fun heq => heq ▸ rfl).symm) rfl (fun _ _ _ => rfl) h.disjoint
    (h.finished 0) rfl rfl

lemma tidy_beside (f : Locals cfg.policy → Locals cfg.policy)
    (hpending : ∀ s, (f s).pendingCompleted = s.pendingCompleted)
    (hdispatched : ∀ s, (f s).dispatchedCompleted = s.dispatchedCompleted)
    (hkeys : ∀ s, (f s).attachedTlsKeys = s.attachedTlsKeys) (hlog : ∀ s, (f s).log = s.log) :
    Preserves (Facing (Tidy cfg)) (setLocals f) :=
  facing_assign fun x h => Tidy.names h (hpending x.2) (hdispatched x.2) (hkeys x.2) (hlog x.2)

lemma tidy_noteAmbiguousName (id : ℕ) :
    Preserves (Facing (Tidy cfg)) (setLocals fun s : Locals cfg.policy => s.noteAmbiguousName id) := by
  refine tidy_beside _ ?_ ?_ ?_ ?_ <;>
  · intro s
    unfold noteAmbiguousName
    split <;> rfl

lemma tidy_attachNameResolution (id : ℕ) (direction : ConnectionDirection) :
    Preserves (Facing (Tidy cfg)) (attachNameResolution cfg id direction) := by
  refine preserves_locals.bind fun s => ?_
  split
  · exact preserves_pure _
  refine (preserves_storedConnection id).bind fun c => ?_
  cases c with
  | none => exact preserves_pure _
  | some =>
    dsimp only
    split
    · exact tidy_noteAmbiguousName id
    · refine Preserves.bind ((tidy_logName _).bind fun _ => preserves_reading _) fun _ => ?_
      exact tidy_beside (noteAttachedName · id) (fun _ => rfl) (fun _ => rfl) (fun _ => rfl)
        fun _ => rfl
    · exact preserves_pure _

lemma told_prompt_noteAttachedTls (s : Locals cfg.policy) (id now : ℕ) :
    (s.noteAttachedTls.prompt id now).told = (s.prompt id now).told := by
  unfold prompt noteAttachedTls
  dsimp only
  split
  · rfl
  · split
    · rfl
    · rfl

lemma tidy_correlateTlsObservation (connections : List ConnectionSummary)
    (watermarkNs : ℕ) (o : TlsSessionObservation) :
    Preserves (Facing (Tidy cfg)) (correlateTlsObservation cfg d connections watermarkNs o) := by
  unfold correlateTlsObservation
  split
  · exact preserves_pure _
  dsimp only
  split
  · refine Preserves.bind ?_ fun _ => preserves_pure _
    exact facing_assign fun _ h => h
  · next id e _ _ _ =>
    refine bind facing_here fun s => ?_
    split
    · exact pure fun _ h => h.2
    next hkey =>
    -- the key is there now, and no entry has it yet
    refine bind (Q := fun _ x => Tidy cfg x.1 x.2.told ∧
      tlsSessionIdentityKey cfg.tracker.sha e.observation ∈ x.2.attachedTlsKeys ∧
        tlsSessionIdentityKey cfg.tracker.sha e.observation ∉ tlsKeys cfg x.2.log) ?_ fun _ => ?_
    · refine assign ?_
      rintro ⟨w, _⟩ ⟨rfl, h⟩
      refine ⟨⟨h.sound, h.phases, h.disjoint, h.finished,
        fun key hmem => mem_cons_of_mem _ (h.keys key hmem), h.keysOnce⟩,
        mem_cons_self, fun hmem => hkey (contains_iff_mem.mpr (h.keys _ hmem))⟩
    -- from the entry on, until the callback is prompted
    refine bind (Q := fun _ x => Tidy cfg x.1 (x.2.prompt id d.clock).told) ?_ fun _ => ?_
    · unfold addTlsSessionEvidence logging
      exact Triple.modify (fun x h => h.1.attached id d.clock h.2.1 h.2.2) fun _ _ _ h => h.1
    refine bind (Q := fun _ x => Tidy cfg x.1 (x.2.prompt id d.clock).told) ?_ fun _ => ?_
    · refine assign fun x h => ?_
      rwa [told_prompt_noteAttachedTls]
    · exact bind (Q := fun _ => Facing (Tidy cfg)) (assign fun _ h => h) fun _ =>
        pure fun _ h => h
  · exact preserves_pure _

/-- **Every action of a run with a callback and without maintenance keeps what is told tidy.** -/
theorem tidy_program (hcallback : cfg.callbacks.connectionCompleted = true)
    (hmaintenance : cfg.maintenance = none) (a : Action cfg.policy) (d : Answer)
    (ha : Decided cfg a) : Preserves (Facing (Tidy cfg)) (a.program cfg d) := by
  by_cases hquiet : a.quiet = true
  · exact quiet_program a hquiet d
  cases a with
  | callback => exact tidy_notify d
  | drainNameResolution =>
    exact (preserves_external d).bind fun _ => tidy_beside _ (fun _ => rfl) (fun _ => rfl)
      (fun _ => rfl) fun _ => rfl
  | attachNameResolution id direction => exact tidy_attachNameResolution id direction
  | retryNameResolution id =>
    exact preserves_retryNameResolution id (tidy_attachNameResolution id)
  | correlateTlsSession connections watermarkNs o =>
    exact tidy_correlateTlsObservation d connections watermarkNs o
  | clearCompleted =>
    rw [show cfg.callbacks.connectionCompleted = false from ha] at hcallback
    cases hcallback
  | complete id =>
    refine preserves_locals.bind fun s => Preserves.bind ?_ fun _ => ?_
    · exact facing_assign fun x h => Tidy.dispatch h id
    · split
      · exact tidy_notify d
      · exact preserves_pure _
  | beginSnapshot =>
    refine facing_onDb fun t => ?_
    unfold ConnectionTracker.beginSnapshot setTracker
    exact Triple.assign fun w h => h.outcome (outcome_unmarked w) h.sound.unmarked
  | observeSocket =>
    exact facing_onDb (tidy_call (reports_observeSocket _ _ _ _ _ _))
  | endSnapshot =>
    refine Triple.bind (tidy_reports (reports_endSnapshot _ _ _)) fun inactive => ?_
    refine Triple.bind (logged_report inactive) fun _ => Triple.assign ?_
    rintro ⟨w', _⟩ ⟨s, w, rfl, h, hr⟩
    exact h.reports hr d.queuedAt
  | observeLifecycle =>
    refine Triple.bind (tidy_reports (reports_observeLifecycle _ _ _))
      fun admission => ?_
    refine Triple.bind (logged_report _) fun _ => ?_
    have hkept : ∀ x : World × Locals cfg.policy, Logged cfg [] (reportedIds
        (.ok (.admission admission))) x → Tidy cfg x.1 x.2.told := by
      rintro ⟨w', _⟩ ⟨s, w, rfl, h, hr⟩
      rw [report_nil]
      exact hr.tidy h
    cases admission with
    | none => exact Triple.pure hkept
    | some a =>
      dsimp only
      split
      · next hclosed =>
        refine Triple.bind (Q := fun _ => Facing (Tidy cfg)) ?_ fun _ => preserves_pure _
        refine Triple.assign ?_
        rintro ⟨w', _⟩ ⟨s, w, rfl, h, hr⟩
        simp only [reportedIds, hclosed, if_true] at hr
        simp only [Option.toList_some, filter_cons, hclosed, if_true, filter_nil, map_cons, map_nil]
        exact h.reports hr d.queuedAt
      · next hopen =>
        refine Triple.pure fun x hx => hkept x ?_
        simpa [hopen] using hx
  | finishObservation =>
    exact facing_onDb (tidy_call (reports_finishObservation _ _))
  | maintain =>
    rw [Decided, hmaintenance] at ha
    cases ha
  | _ => exact absurd rfl hquiet

lemma tidy_initial (world : World) (htracker : world.2 = .initial)
    (hpending : world.1.PendingHeld) : Tidy cfg world (initial cfg).told where
  sound := by
    have hnone : ∀ e, e ∉ world.2.connections := fun e => by
      rw [htracker]
      exact not_mem_empty e
    exact ⟨fun e he => absurd he (hnone e), fun e he => absurd he (hnone e), hpending⟩
  phases _ := rfl
  disjoint _ h := absurd h not_mem_nil
  finished _ h := absurd rfl h
  keys _ h := absurd h not_mem_nil
  keysOnce := nodup_nil

/-! ### The end of a run -/

lemma yields_op {a : Action cfg.policy} {Q : a.Reply → State cfg → Prop} {x : State cfg}
    (h : ∀ d, Triple (fun _ => True) (· = x) (a.program cfg d) Q fun _ _ => True) :
    Yields (fun _ _ _ => True) Q (op cfg a) x := by
  refine yields_act fun d r hr => ?_
  rcases (h d).exec (fun _ _ _ => trivial) rfl with ⟨r', hr', hQ⟩ | ⟨e, he, -⟩
  · cases hr'.symm.trans hr
    exact hQ
  · cases he.symm.trans hr

/-- The pending connections are among those of the list. -/
def PendingIn (l : List ℕ) (s : Locals cfg.policy) : Prop :=
  ∀ c ∈ s.pendingCompleted, c.connectionId ∈ l

abbrev OnlyPending (l : List ℕ) : State cfg → Prop := fun x => PendingIn l x.2

lemma onlyPending_notify : Preserves (OnlyPending l) (notify d : SessionM cfg.policy Unit) := by
  refine Preserves.bind ?_ fun _ => ?_
  · unfold storeVerdict
    split
    · exact onDb fun mem => preserves_const (PendingIn l mem) _
    · exact preserves_pure _
  · unfold external
    split
    · exact throwing fun _ h => h
    · exact preserves_pure _

lemma PendingIn.dispatch (h : PendingIn (id :: l) s) : PendingIn l (s.dispatch id) := by
  intro c hc
  have hc : c ∈ s.pendingCompleted.delete fun c => c.connectionId = id := by
    unfold Locals.dispatch at hc
    dsimp only at hc
    split at hc
    · exact hc
    · exact hc
  obtain ⟨hc, hne⟩ := mem_delete.mp hc
  exact (mem_cons.mp (h c hc)).resolve_left (of_decide_eq_false hne)

lemma onlyPending_complete {x : State cfg} (h : OnlyPending (id :: l) x) :
    Yields (fun _ _ _ => True) (fun _ => OnlyPending l) (op cfg (.complete id)) x := by
  refine yields_op fun d => ?_
  refine bind (Q := fun _ y => y = x) ?_ fun s => ?_
  · exact bind (state (Q := fun _ y => y = x) fun _ h => h) fun _ =>
      pure fun _ h => h
  refine bind (Q := fun _ => OnlyPending l) (assign ?_) fun _ => ?_
  · rintro _ rfl
    exact PendingIn.dispatch h
  split
  · exact (onlyPending_notify d).relax fun _ _ _ => trivial
  · exact pure fun _ h => h

section

variable (hcallback : cfg.callbacks.connectionCompleted = true)
include hcallback

lemma onlyPending_dispatchCompleted
    (x : State cfg) : Yields (fun _ _ _ => True) (fun _ => OnlyPending []) (dispatchCompleted cfg true) x := by
  unfold dispatchCompleted
  rw [hcallback]
  refine Yields.bind (yields_anything _ _) fun now x _ => ?_
  refine Yields.bind (A := fun due => OnlyPending due)
    (yields_op (a := .dueCompleted true now) fun d => ?_) fun due x h =>
    yields_forM (I := OnlyPending) (fun id l x h => onlyPending_complete h) h
  refine bind (Q := fun s y => y.2 = s) ?_ fun s => pure ?_
  · exact bind (state (Q := fun z y => y = z) fun _ _ => rfl) fun z =>
      pure fun _ h => congrArg Prod.snd h
  · rintro y rfl c hc
    refine (arranged_perm _ _).mem_iff.mpr (mem_map.mpr ⟨c, ?_, rfl⟩)
    exact mem_filter.mpr ⟨hc, rfl⟩

lemma onlyPending_shutdown (x : State cfg) :
    Yields (fun _ _ _ => True) (fun _ => OnlyPending []) (shutdown cfg) x := by
  refine Yields.bind (yields_anything _ _) fun _ x _ => Yields.bind (yields_anything _ _) fun _ x _ =>
    Yields.bind (yields_anything _ _) fun _ x _ => Yields.bind (yields_anything _ _) fun _ x _ =>
      Yields.bind (yields_anything _ _) fun _ x _ => ?_
  refine (onlyPending_dispatchCompleted hcallback x).bind fun _ x h => ?_
  -- what comes after it leaves the variables alone
  refine Yields.bind (A := fun _ => OnlyPending [])
    (yields_op (a := .finishObservation _) fun d => ?_) fun _ x h =>
      Yields.bind (A := fun _ => OnlyPending []) (yields_op (a := .view) fun d => ?_)
        fun _ x h => yields_ret h
  · refine conseq (P := OnlyPending []) (Q := fun _ => OnlyPending []) (E := fun _ => OnlyPending [])
      (onDb fun mem => preserves_const (PendingIn [] mem) _) ?_ (fun _ _ h => h)
      fun _ _ _ => trivial
    rintro _ rfl
    exact h
  · exact bind (state (Q := fun _ y => y = x) fun _ h => h) fun _ =>
      pure fun _ hy => hy ▸ h

/-- **A run that returns has nothing pending.** -/
theorem onlyPending_run (n : ℕ)
    (x : State cfg) : Yields (fun _ _ _ => True) (fun _ => OnlyPending []) (run cfg n) x :=
  Yields.bind (yields_anything _ _) fun _ _ _ => Yields.bind (yields_anything _ _) fun _ x _ =>
    onlyPending_shutdown hcallback x

end

/-! ### Whole runs -/

lemma Tidy.completions (h : Tidy cfg w t) (hnone : ¬ (t.pendingCompleted.find id).isSome)
    (hreported : .reported id ∈ t.log) : .completed id ∈ t.log := by
  have hspec := phase_spec (h.phases id)
  refine hspec.2 ?_
  have hne : phaseOf t.pendingCompleted t.dispatchedCompleted id ≠ .unreported := fun heq =>
    hspec.1.mp heq hreported
  unfold phaseOf at hne ⊢
  rw [if_neg hnone] at hne ⊢
  split at hne
  · next hmem => rw [if_pos hmem]
  · exact absurd rfl hne

lemma Tidy.newKey (h : Tidy cfg w t) (id : ℕ) (l l' : List Entry)
    (hlog : t.log = l ++ .tlsAttached id e :: l') :
    tlsSessionIdentityKey cfg.tracker.sha e.observation ∉ tlsKeys cfg l := by
  have honce := h.keysOnce
  rw [hlog, tlsKeys_append] at honce
  exact fun hmem => disjoint_of_nodup_append honce hmem mem_cons_self

/-- A session with a store and a tracker, as far as the answers go. -/
def runOn (cfg : Setup) (n : ℕ) (world : World) (w : List Answer) :
    SessionP cfg ObservationRunResult × State cfg :=
  Run.run advance (run cfg n, (world, .initial cfg)) w

/-- **The callbacks of completed connections.** In every run with a `connection_completed` callback,
without maintenance, that returns: every connection the tracker reported closed or inactive got a
callback; only reported connections got one; and between two callbacks for a connection a TLS
session was attached to it whose key no session had that was attached before. -/
theorem completions_delivered (cfg : Setup) (n : ℕ) (world : World) (w : List Answer)
    (result : ObservationRunResult)
    (hcallback : cfg.callbacks.connectionCompleted = true) (hmaintenance : cfg.maintenance = none)
    (htracker : world.2 = .initial) (hpending : world.1.PendingHeld)
    (hreturns : (runOn cfg n world w).1.result = some (.ok result)) :
    (∀ id, .reported id ∈ (runOn cfg n world w).2.2.log →
      .completed id ∈ (runOn cfg n world w).2.2.log) ∧
    (∀ id l l', (runOn cfg n world w).2.2.log = l ++ .completed id :: l' → .reported id ∈ l) ∧
    ∀ id l₁ l₂ l₃,
      (runOn cfg n world w).2.2.log = l₁ ++ .completed id :: (l₂ ++ .completed id :: l₃) →
        ∃ e l l', l₂ = l ++ .tlsAttached id e :: l' ∧
          tlsSessionIdentityKey cfg.tracker.sha e.observation ∉
            tlsKeys cfg (l₁ ++ .completed id :: l) := by
  have htidy : Facing (Tidy cfg) (runOn cfg n world w).2 := (invariant_run
    (fun a d ha => tidy_program hcallback hmaintenance a d ha) (c := (run cfg n, (world, .initial cfg)))
    (obeys_run n) (tidy_initial world htracker hpending) w).2
  have hnone : OnlyPending [] (runOn cfg n world w).2 :=
    yields_run (onlyPending_run hcallback n (world, .initial cfg)) along_allowed hreturns
  generalize runOn cfg n world w = c at htidy hnone
  refine ⟨fun id hid => htidy.completions ?_ hid, fun id l l' hlog => ?_, fun id l₁ l₂ l₃ hlog => ?_⟩
  · rw [isSome_find]
    rintro ⟨a, ha, -⟩
    exact absurd (hnone a ha) not_mem_nil
  · have hphase := htidy.phases id
    rw [show c.2.2.told.log = _ from hlog] at hphase
    exact reported_before_completed hphase
  · have hphase := htidy.phases id
    rw [show c.2.2.told.log = _ from hlog] at hphase
    obtain ⟨e, he⟩ := attached_between hphase
    obtain ⟨l, l', rfl⟩ := append_of_mem he
    refine ⟨e, l, l', rfl, htidy.newKey id _ (l' ++ .completed id :: l₃) ?_⟩
    rw [show c.2.2.told.log = _ from hlog]
    simp

/-! ### A session that is attached late -/

/-- Outgoing connections with lifecycle events, TLS sessions and the callback. -/
def completing : Setup where
  policy := { mode := .outbound }
  tracker := plain
  lifecycle := ⟨true, true, true⟩
  tlsSession := some ⟨true, true⟩
  callbacks := { connectionCompleted := true }

def lifecycleEvent (type : ConnectionLifecycleEventType) (timestampNs : ℕ) :
    ConnectionLifecycleEvent where
  type
  timestampNs
  process := { agentVisible := { tgid := some 1 } }
  protocol := .tcp
  endpointKind := .connection
  localEndpoint := some ⟨['l'], some 5000⟩
  remoteEndpoint := some ⟨['r'], some 443⟩
  socketCookie := some 7

def handshake : TlsSessionObservation where
  observedNs := 2
  localRole := .client
  process := { pid := 1 }
  socketCookie := some 7

def idle (n : ℕ) : List Answer := List.replicate n {}

/-- The connection is opened and closed, and completed once the grace is over; its TLS session is
seen only after the loop. -/
def lateSession : List Answer :=
  idle 20 ++ [{ lifecycleEvents := [lifecycleEvent .connect 1, lifecycleEvent .close 3] }] ++
    idle 26 ++ [{ clock := completionEvidenceGrace * EvidenceScheduler.millisecond }] ++ idle 4 ++
    [{ stop := true }] ++ idle 1 ++ [{ tlsSessions := [handshake] }] ++ idle 12

theorem completions_delivered_twice :
    (runOn completing 2 (.initial, .initial) lateSession).2.2.log =
        [.reported 1, .completed 1, .tlsAttached 1 ⟨handshake, .outboundTlsSession, .contextual⟩,
          .completed 1] ∧
      .completed 1 ∈ (runOn completing 2 (.initial, .initial) lateSession).2.2.log := by
  have hreturns : (runOn completing 2 (.initial, .initial) lateSession).1.result = some (.ok
      { connectionIds := [1], admittedConnections := 1, tlsSessionEventsObserved := 1,
        tlsSessionEvidenceAttached := 1 }) := by decide +kernel
  have hlog : (runOn completing 2 (.initial, .initial) lateSession).2.2.log = [.reported 1,
      .completed 1, .tlsAttached 1 ⟨handshake, .outboundTlsSession, .contextual⟩, .completed 1] := by
    decide +kernel
  refine ⟨hlog, (completions_delivered completing 2 (.initial, .initial) lateSession _ rfl rfl rfl
    (fun _ hp => nomatch hp) hreturns).1 1 ?_⟩
  rw [hlog]
  exact mem_cons_self

end NetaAgent.ObservationSession
