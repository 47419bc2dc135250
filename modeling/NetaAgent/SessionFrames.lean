import NetaAgent.SessionLabels

/-!
What the actions of a session leave alone.

Most actions change neither the store nor the part of the variables that a run tells about: the
completed connections, the observed names and the log. The others are few, and a condition on that
part is kept by every run if those few keep it.
-/

namespace NetaAgent.ObservationSession

open Decimal Sql Observation HistoryStore HistoryMaintenance ConnectionTracker AdmissionPolicy Triple
open EvidenceScheduler NameResolution

/-! ### Operations that change nothing -/

section
variable {policy : AdmissionPolicyConfig} {R : World × Locals policy → Prop} {α : Type}

lemma preserves_locals : Preserves R (locals : SessionM policy _) :=
  preserves_state.bind fun _ => preserves_pure _

lemma preserves_throwing (e : StoreError) : Preserves R (throwing e : SessionM policy α) :=
  throwing fun _ h => h

lemma preserves_external (d : Answer) : Preserves R (external d : SessionM policy _) := by
  unfold external
  split
  · exact preserves_throwing _
  · exact preserves_pure _

lemma preserves_storedConnection (id : ℕ) :
    Preserves R (storedConnection id : SessionM policy _) :=
  lookup (fun _ _ h => h) (fun _ h => h) fun _ _ _ h => h

lemma preserves_reading {β : Type} (f : World × Locals policy → β) :
    Preserves R (query f : SessionM policy β) := query (fun _ h => h) fun _ _ _ h => h

lemma preserves_notify (hv : ∀ v, Preserves R (onDb (onDb (saveVerdict v)))) (d : Answer) :
    Preserves R (notify d : SessionM policy _) := by
  refine Preserves.bind ?_ fun _ => preserves_external d
  unfold storeVerdict
  split
  · exact hv _
  · exact preserves_pure _

lemma preserves_runIfDue {m : Maintenance} {answers : List HistoryMaintenance.Answer} {now : ℕ}
    (hm : ∀ s, R s → R (((pruneToBudget m.maxBytes answers s.1.1).1, s.1.2), s.2))
    (hset : Preserves R (setLocals fun s => { s with nextRun := now + m.interval })) :
    Preserves R (runIfDue m answers now : SessionM policy _) := by
  refine preserves_locals.bind fun s => ?_
  split
  · exact preserves_pure _
  refine preserves_state.bind fun s => Preserves.bind (assign hm) fun _ => ?_
  split
  · exact hset
  · exact preserves_throwing _
  · exact preserves_throwing _

lemma preserves_retryNameResolution {cfg : Setup} {R : World × Locals cfg.policy → Prop} (id : ℕ)
    (h : ∀ direction, Preserves R (attachNameResolution cfg id direction)) :
    Preserves R (retryNameResolution cfg id) := by
  refine preserves_locals.bind fun s => ?_
  split
  · exact preserves_pure _
  refine (preserves_storedConnection id).bind fun c => ?_
  cases c with
  | none => exact preserves_pure _
  | some => exact h _

end

/-! ### Conditions on what a run tells -/

/-- The completed connections, the observed names, the TLS sessions attached and the log. -/
structure Told where
  pendingCompleted : Table Completion.connectionId
  dispatchedCompleted : List ℕ
  nameObservations : List NameResolutionObservation
  received : List NameResolutionObservation
  expired : List NameResolutionObservation
  overflowed : List NameResolutionObservation
  attachedTlsKeys : List Text
  log : List Entry

section
variable {policy : AdmissionPolicyConfig} {α : Type} {P : World → Told → Prop}

def Locals.told (s : Locals policy) : Told where
  pendingCompleted := s.pendingCompleted
  dispatchedCompleted := s.dispatchedCompleted
  nameObservations := s.nameObservations
  received := s.received
  expired := s.expired
  overflowed := s.overflowed
  attachedTlsKeys := s.attachedTlsKeys
  log := s.log

/-- A condition on the store, the tracker and what is told. -/
abbrev Facing (P : World → Told → Prop) : World × Locals policy → Prop := fun s => P s.1 s.2.told

lemma facing_assign {f : World × Locals policy → World × Locals policy}
    (hf : ∀ s, P s.1 s.2.told → P (f s).1 (f s).2.told) :
    Preserves (Facing P) (assign f : SessionM policy Unit) := assign hf

lemma facing_here : Triple (fun _ => True) (Facing P) (locals : SessionM policy _)
    (fun s x => x.2 = s ∧ P x.1 x.2.told) fun _ => Facing P :=
  bind (state (Q := fun y x => x = y ∧ P x.1 x.2.told) fun _ h => ⟨rfl, h⟩)
    fun _ => pure fun _ h => ⟨h.1 ▸ rfl, h.2⟩

lemma facing_onDb {m : TrackerM α} (h : ∀ t, Preserves (P · t) m) :
    Preserves (Facing P) (onDb m : SessionM policy α) := onDb fun mem => h mem.told

/-- A condition on what is told alone is kept by every call of the store and the tracker. -/
lemma facing_beside {Q : Told → Prop} (m : TrackerM α) :
    Preserves (Facing fun _ => Q) (onDb m : SessionM policy α) :=
  facing_onDb fun _ => preserves_const _ m

lemma facing_notify (hv : ∀ v t, Preserves (P · t) (onDb (saveVerdict v))) (d : Answer) :
    Preserves (Facing P) (notify d : SessionM policy _) :=
  preserves_notify (fun v => facing_onDb (hv v)) d

/-- The action changes neither the store and the tracker nor what is told. -/
def Action.quiet : Action policy → Bool
  | .callback _ => false
  | .drainNameResolution => false
  | .attachNameResolution _ _ => false
  | .retryNameResolution _ => false
  | .correlateTlsSession _ _ _ => false
  | .clearCompleted => false
  | .complete _ => false
  | .beginSnapshot => false
  | .observeSocket _ _ _ _ => false
  | .endSnapshot _ _ => false
  | .observeLifecycle _ _ => false
  | .finishObservation _ => false
  | .maintain _ => false
  | _ => true

variable {cfg : Setup}

theorem quiet_program (a : Action cfg.policy) (h : a.quiet = true) (d : Answer) :
    Preserves (Facing P) (a.program cfg d) := by
  cases a with
  | view => exact preserves_locals
  | clock => exact preserves_pure _
  | stopRequested | lifecycleHealth | pollLifecycle | snapshot | resolve =>
    exact (preserves_external d).bind fun _ => preserves_pure _
  | connection id => exact preserves_storedConnection id
  | drainTlsSessions => exact (preserves_external d).bind fun _ => facing_assign fun _ h => h
  | dueCompleted | unseenCandidates => exact preserves_locals.bind fun _ => preserves_pure _
  | keepTlsSessions | recordAdmission | recordPromotion | eraseCandidate
  | trimCandidates | transportSampled =>
    exact facing_assign fun _ h => h
  | offerCandidate | takeRoutes =>
    refine preserves_locals.bind fun _ => Preserves.bind ?_ fun _ => preserves_pure _
    exact facing_assign fun _ h => h
  | observeRoute =>
    refine preserves_locals.bind fun s => ?_
    split
    · exact (preserves_external d).bind fun _ => (preserves_reading _).bind fun _ =>
        facing_assign fun _ h => h
    · exact preserves_pure _
  | _ => cases h

end

/-! ### Conditions on the store and the tracker -/

section
variable {policy : AdmissionPolicyConfig} {P : World → Prop} {α : Type}

/-- A condition on the store and the tracker, beside any variables. -/
abbrev OnWorld (P : World → Prop) : World × Locals policy → Prop := fun s => P s.1

lemma preserves_assign {f : World × Locals policy → World × Locals policy}
    (hf : ∀ s, (f s).1 = s.1) : Preserves (OnWorld P) (assign f : SessionM policy Unit) := by
  refine assign fun s h => ?_
  rw [OnWorld, hf s]
  exact h

lemma preserves_setLocals (f : Locals policy → Locals policy) :
    Preserves (OnWorld P) (setLocals f) := preserves_assign fun _ => rfl

lemma preserves_onWorld {m : TrackerM α} (h : Preserves P m) :
    Preserves (OnWorld P) (onDb m : SessionM policy α) := onDb fun _ => h

lemma preserves_logging (entry : Locals policy → Entry) : Preserves (OnWorld P) (logging entry) :=
  preserves_modify fun _ h => h

variable {cfg : Setup}

lemma preserves_attachNameResolution (id : ℕ) (direction : ConnectionDirection) :
    Preserves (OnWorld P) (attachNameResolution cfg id direction) := by
  refine preserves_locals.bind fun s => ?_
  split
  · exact preserves_pure _
  refine (preserves_storedConnection id).bind fun c => ?_
  cases c with
  | none => exact preserves_pure _
  | some =>
    dsimp only
    split
    · exact preserves_setLocals _
    · refine Preserves.bind ?_ fun _ => preserves_setLocals _
      exact (preserves_logging _).bind fun _ => preserves_reading _
    · exact preserves_pure _

lemma preserves_correlateTlsObservation (d : Answer) (connections : List ConnectionSummary)
    (watermarkNs : ℕ) (o : TlsSession.TlsSessionObservation) :
    Preserves (OnWorld P) (correlateTlsObservation cfg d connections watermarkNs o) := by
  unfold correlateTlsObservation
  split
  · exact preserves_pure _
  dsimp only
  split
  · exact (preserves_setLocals _).bind fun _ => preserves_pure _
  · refine preserves_locals.bind fun s => ?_
    split
    · exact preserves_pure _
    · exact (preserves_setLocals _).bind fun _ => (preserves_logging _).bind fun _ =>
        (preserves_setLocals _).bind fun _ => (preserves_setLocals _).bind fun _ =>
          preserves_pure _
  · exact preserves_pure _

/-- The calls of the tracker and the maintenance keep `P`. -/
structure Lasting (cfg : Setup) (P : World → Prop) : Prop where
  verdict : ∀ v, Preserves P (onDb (saveVerdict v))
  beginSnapshot : Preserves P ConnectionTracker.beginSnapshot
  observeSocket : ∀ now process socket direction allowNew origin,
    Decided cfg (.observeSocket socket direction allowNew origin) →
      Preserves P
        (ConnectionTracker.observeSocket cfg.tracker now process socket direction allowNew origin)
  observeLifecycle : ∀ now event direction, Decided cfg (.observeLifecycle event direction) →
    Preserves P (ConnectionTracker.observeLifecycle cfg.tracker now event direction)
  endSnapshot : ∀ order polling incomplete,
    Preserves P (ConnectionTracker.endSnapshot order polling incomplete)
  finishObservation : ∀ order polling,
    Preserves P (ConnectionTracker.finishObservation order polling)
  maintain : ∀ m ∈ cfg.maintenance, ∀ answers (s : World), P s →
    P ((pruneToBudget m.maxBytes answers s.1).1, s.2)

theorem Lasting.program (h : Lasting cfg P) (a : Action cfg.policy) (d : Answer)
    (ha : Decided cfg a) : Preserves (OnWorld P) (a.program cfg d) := by
  by_cases hq : a.quiet = true
  · exact quiet_program (P := fun w _ => P w) a hq d
  have hverdict v : Preserves (OnWorld P) (onDb (onDb (saveVerdict v)) : SessionM cfg.policy _) :=
    preserves_onWorld (h.verdict v)
  cases a with
  | callback => exact preserves_notify hverdict d
  | drainNameResolution => exact (preserves_external d).bind fun _ => preserves_setLocals _
  | attachNameResolution id direction => exact preserves_attachNameResolution id direction
  | retryNameResolution id =>
    exact preserves_retryNameResolution id (preserves_attachNameResolution id)
  | correlateTlsSession connections watermarkNs o =>
    exact preserves_correlateTlsObservation d connections watermarkNs o
  | clearCompleted => exact preserves_assign fun _ => rfl
  | complete =>
    refine preserves_locals.bind fun s => (preserves_setLocals _).bind fun _ => ?_
    split
    · exact preserves_notify hverdict d
    · exact preserves_pure _
  | beginSnapshot => exact preserves_onWorld h.beginSnapshot
  | observeSocket => exact preserves_onWorld (h.observeSocket _ _ _ _ _ _ ha)
  | endSnapshot =>
    exact (preserves_onWorld (h.endSnapshot _ _ _)).bind fun _ =>
      (preserves_setLocals _).bind fun _ => preserves_setLocals _
  | observeLifecycle =>
    refine (preserves_onWorld (h.observeLifecycle _ _ _ ha)).bind fun admission =>
      (preserves_setLocals _).bind fun _ => ?_
    cases admission with
    | none => exact preserves_pure _
    | some =>
      dsimp only
      split
      · exact (preserves_setLocals _).bind fun _ => preserves_pure _
      · exact preserves_pure _
  | finishObservation => exact preserves_onWorld (h.finishObservation _ _)
  | maintain now =>
    unfold Action.program
    split
    · next m hm =>
      exact preserves_runIfDue (fun s => h.maintain m hm d.maintenance s.1) (preserves_setLocals _)
    · exact preserves_pure _
  | _ => exact absurd rfl hq

end

end NetaAgent.ObservationSession
