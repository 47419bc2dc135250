import NetaAgent.ObservationSession
import NetaAgent.TrackerFrames

/-!
What the actions of a run may be: only what the policy decided goes to the tracker. The process is
walked through once here; what every such action keeps then holds at every point of every run.
-/

namespace NetaAgent.ObservationSession

open Decimal Sql Observation HistoryStore ConnectionTracker AdmissionPolicy EvidenceScheduler
open NetaAgent.Process Process.Proc

variable (cfg : Setup)

def Decided : Action cfg.policy → Prop
  | .observeLifecycle event direction => evaluate cfg.policy event = ⟨true, direction⟩
  | .observeSocket _ direction allowNew _ => direction = .unknown ∧
    (allowNew = true → cfg.policy.mode = .target ∨ cfg.policy.mode = .all)
  | .clearCompleted => cfg.callbacks.connectionCompleted = false
  | .maintain _ => cfg.maintenance.isSome = true
  | _ => True

abbrev Obeys {α : Type} (p : SessionP cfg α) : Prop := Follows (perform cfg) (Decided cfg) p

variable {cfg} {α : Type} (a : Action cfg.policy) (event : ConnectionLifecycleEvent)

lemma obeys_op (h : Decided cfg a) : Obeys cfg (op cfg a) := follows_act h fun _ _ => rfl

lemma obeys_step (h : Decided cfg a) {f : a.Reply → SessionP cfg α}
    (hf : ∀ r, Obeys cfg (f r)) : Obeys cfg (op cfg a >>= f) := (obeys_op a h).bind hf

lemma obeys_drainNames : Obeys cfg (drainNames cfg) :=
  Follows.onlyIf fun _ => obeys_op .drainNameResolution trivial

lemma obeys_retryNames : Obeys cfg (retryNames cfg) :=
  obeys_step .view trivial fun _ => Follows.onlyIf fun _ =>
    follows_forM (fun id => obeys_op (.retryNameResolution id) trivial) _

lemma obeys_correlateTlsSessions : Obeys cfg (correlateTlsSessions cfg) := by
  refine obeys_step .view trivial fun s => ?_
  split
  · exact follows_ret _
  refine (follows_foldlM (fun _ id => obeys_step (.connection id) trivial fun _ => follows_ret _)
    _ _).bind fun connections => ?_
  split
  · exact follows_ret _
  refine (follows_foldlM (fun l o => ?_) _ _).bind fun _ => obeys_op (.keepTlsSessions _) trivial
  refine obeys_step (.correlateTlsSession _ _ _) trivial fun unresolved => ?_
  cases unresolved with
  | false | true => exact follows_ret _

lemma obeys_drainTlsSessions : Obeys cfg (drainTlsSessions cfg) :=
  (Follows.onlyIf fun _ => obeys_op .drainTlsSessions trivial).bind fun _ =>
    Follows.onlyIf fun _ => obeys_correlateTlsSessions

lemma obeys_dispatchCompleted (force : Bool) : Obeys cfg (dispatchCompleted cfg force) := by
  unfold dispatchCompleted
  split
  · next h =>
    rw [Bool.not_eq_true'] at h
    exact obeys_op .clearCompleted h
  · exact obeys_step .clock trivial fun _ => obeys_step (.dueCompleted _ _) trivial fun _ =>
      follows_forM (fun id => obeys_op (.complete id) trivial) _

lemma obeys_recordAdmission (admission : ConnectionAdmission) (remoteAddress : Text)
    (direction : ConnectionDirection) :
    Obeys cfg (recordAdmission cfg admission remoteAddress direction) := by
  unfold recordAdmission
  split
  · exact follows_ret _
  · exact obeys_step (.recordAdmission _ _ _) trivial fun _ =>
      obeys_step (.attachNameResolution _ _) trivial fun _ => obeys_correlateTlsSessions

lemma obeys_recordDirectionPromotion (admission : ConnectionAdmission) (remoteAddress : Text) :
    Obeys cfg (recordDirectionPromotion cfg admission remoteAddress) := by
  unfold recordDirectionPromotion
  split
  · exact follows_ret _
  · exact obeys_step (.recordPromotion _ _ _) trivial fun _ =>
      obeys_op (.attachNameResolution _ _) trivial

lemma obeys_eraseCandidateForLifecycle : Obeys cfg (eraseCandidateForLifecycle cfg event) :=
  (Follows.onlyIf fun _ => obeys_op (.eraseCandidate _) trivial).bind fun _ =>
    Follows.onlyIf fun _ => obeys_op (.eraseCandidate _) trivial

lemma obeys_transportObserved (admission : ConnectionAdmission) (snapshot : TcpSnapshot) :
    Obeys cfg (transportObserved cfg admission snapshot) :=
  Follows.onlyIf fun _ => obeys_op (.callback _) trivial

lemma obeys_admitted (admission : Option ConnectionAdmission) (socket : SocketObservation)
    (direction : ConnectionDirection) : Obeys cfg (admitted cfg admission socket direction) := by
  cases admission with
  | none => exact follows_ret _
  | some a => exact (obeys_transportObserved _ _).bind fun _ => obeys_recordAdmission _ _ _

lemma obeys_reconcile (c : PendingSnapshotCandidate cfg.policy) (degraded : Bool) :
    Obeys cfg (reconcile cfg c degraded) := obeys_step (.observeSocket _ _ _ _)
    ⟨rfl, fun _ => mode_of_evaluateReconciliationSocket c.admitted⟩ fun _ => obeys_admitted _ _ _

lemma obeys_sampleBesideEvents (startup degraded : Bool) (seen : List Text)
    (socket : SocketObservation) (process : Option ProcessIdentity) :
    Obeys cfg (sampleBesideEvents cfg startup degraded seen socket process) := by
  refine obeys_step (.observeSocket _ _ false _) ⟨rfl, nofun⟩ fun enrichment => ?_
  cases enrichment with
  | some a =>
    exact (obeys_transportObserved _ _).bind fun _ => obeys_step (.eraseCandidate _) trivial
      fun _ => follows_ret _
  | none =>
    dsimp only
    split
    · exact obeys_step (.offerCandidate _ _ _ _ _) trivial fun _ =>
        (Follows.onlyIf fun _ => obeys_reconcile _ _).bind fun _ =>
          (Follows.onlyIf fun _ => obeys_op (.eraseCandidate _) trivial).bind fun _ => follows_ret _
    · exact follows_ret _

lemma obeys_ownerOf (socket : SocketObservation) : Obeys cfg (ownerOf cfg socket) := by
  unfold ownerOf
  split
  · exact obeys_op (.resolve _) trivial
  · exact follows_ret _

lemma obeys_sampleSocket (startup degraded : Bool) (seen : List Text)
    (socket : SocketObservation) : Obeys cfg (sampleSocket cfg startup degraded seen socket) := by
  refine (obeys_ownerOf socket).bind fun process => ?_
  split
  · exact obeys_sampleBesideEvents _ _ _ _ _
  · exact obeys_step (.observeSocket _ _ _ _)
      ⟨evaluateNewSocket_direction _ _, fun h => .inl (target_of_evaluateNewSocket h)⟩
      fun _ => (obeys_admitted _ _ _).bind fun _ => follows_ret _

lemma obeys_sweepCandidates (degraded : Bool) (seen : List Text) :
    Obeys cfg (sweepCandidates cfg degraded seen) :=
  obeys_step (.unseenCandidates _) trivial fun _ =>
    (follows_forM (fun _ => (Follows.onlyIf fun _ => obeys_reconcile _ _).bind fun _ =>
      obeys_op (.eraseCandidate _) trivial) _).bind fun _ => obeys_op .trimCandidates trivial

lemma obeys_lifecycleDegraded : Obeys cfg (lifecycleDegraded cfg) := by
  unfold lifecycleDegraded
  split
  · exact obeys_op .lifecycleHealth trivial
  · exact follows_ret _

lemma obeys_sampleTransport (startup : Bool) : Obeys cfg (sampleTransport cfg startup) :=
  obeys_drainNames.bind fun _ => obeys_retryNames.bind fun _ =>
    obeys_step .beginSnapshot trivial fun _ => obeys_lifecycleDegraded.bind fun _ =>
      obeys_step .snapshot trivial fun _ =>
        (follows_foldlM (fun _ _ => obeys_sampleSocket _ _ _ _) _ _).bind fun _ =>
          (Follows.onlyIf fun _ => obeys_sweepCandidates _ _).bind fun _ =>
            obeys_step (.endSnapshot _ _) trivial fun _ => obeys_drainTlsSessions.bind fun _ =>
              obeys_dispatchCompleted _

lemma obeys_sample (startup : Bool) : Obeys cfg (sample cfg startup) :=
  (obeys_sampleTransport _).bind fun _ => obeys_step .clock trivial fun _ =>
    obeys_step (.transportSampled _) trivial fun _ => obeys_step .takeRoutes trivial fun _ =>
      follows_forM (fun id => obeys_op (.observeRoute id) trivial) _

lemma obeys_observeEvent : Obeys cfg (observeEvent cfg event) := by
  refine (obeys_eraseCandidateForLifecycle event).bind fun _ => ?_
  dsimp only
  split
  · exact follows_ret _
  next hadmits =>
  have hdecided : evaluate cfg.policy event = ⟨true, (evaluate cfg.policy event).direction⟩ := by
    rw [Bool.not_eq_true', Bool.not_eq_false] at hadmits
    rw [← hadmits]
  refine obeys_step (.observeLifecycle _ _) hdecided fun admission => ?_
  split
  · exact (obeys_recordDirectionPromotion _ _).bind fun _ => (obeys_recordAdmission _ _ _).bind
      fun _ => Follows.onlyIf fun _ => obeys_sample _
  · exact follows_ret _

variable (deadline : Option ℕ)

lemma obeys_observeEvents : Obeys cfg (observeEvents cfg deadline) :=
  obeys_step .clock trivial fun _ => obeys_step .view trivial fun _ =>
    obeys_step (.pollLifecycle _) trivial fun _ => obeys_drainNames.bind fun _ =>
      obeys_retryNames.bind fun _ => (follows_forM obeys_observeEvent _).bind fun _ =>
        obeys_drainTlsSessions.bind fun _ => obeys_dispatchCompleted _

lemma obeys_iteration : Obeys cfg (iteration cfg deadline) :=
  (Follows.onlyIf fun _ => obeys_observeEvents _).bind fun _ => obeys_step .clock trivial fun _ =>
    obeys_step .view trivial fun _ => (Follows.onlyIf fun _ => obeys_sample _).bind fun _ =>
      (Follows.onlyIf fun h => obeys_op (.maintain _) h).bind fun _ =>
        Follows.onlyIf fun _ => obeys_op (.callback _) trivial

lemma obeys_goesOn : Obeys cfg (goesOn cfg deadline) := by
  unfold goesOn
  split
  · exact obeys_step .stopRequested trivial fun _ => follows_ret _
  · refine obeys_step .clock trivial fun _ => ?_
    split
    · exact obeys_step .stopRequested trivial fun _ => follows_ret _
    · exact follows_ret _

lemma obeys_loop (n : ℕ) : Obeys cfg (loop cfg deadline n) := by
  induction n with
  | zero => exact follows_fail _
  | succ n ih =>
    refine (obeys_goesOn _).bind fun on => ?_
    cases on with
    | false => exact follows_ret _
    | true => exact (obeys_iteration _).bind fun _ => ih

lemma obeys_deadlineOf : Obeys cfg (deadlineOf cfg) := by
  unfold deadlineOf
  split
  · exact follows_ret _
  · exact obeys_step .clock trivial fun _ => follows_ret _

lemma obeys_start : Obeys cfg (start cfg) :=
  obeys_deadlineOf.bind fun _ => (Follows.onlyIf fun _ => obeys_op (.callback _) trivial).bind
    fun _ => obeys_drainNames.bind fun _ => obeys_retryNames.bind fun _ =>
      obeys_drainTlsSessions.bind fun _ => (Follows.onlyIf fun _ => obeys_sample _).bind fun _ =>
        follows_ret _

lemma obeys_shutdown : Obeys cfg (shutdown cfg) :=
  obeys_drainNames.bind fun _ => obeys_retryNames.bind fun _ => obeys_drainTlsSessions.bind
    fun _ => (obeys_dispatchCompleted _).bind fun _ => obeys_correlateTlsSessions.bind fun _ =>
      (obeys_dispatchCompleted _).bind fun _ => obeys_step (.finishObservation _) trivial fun _ =>
        obeys_step .view trivial fun _ => follows_ret _

/-- **A run does only what the policy decided.** -/
theorem obeys_run (n : ℕ) : Obeys cfg (run cfg n) :=
  obeys_start.bind fun _ => (obeys_loop _ _).bind fun _ => obeys_shutdown

/-- **The invariant rule of a session.** What every action that the policy decided keeps, whether
it returns or throws, holds from any point of a run on. -/
theorem invariant_run {P : State cfg → Prop}
    (hP : ∀ (a : Action cfg.policy) d, Decided cfg a → Preserves P (a.program cfg d))
    {c : SessionP cfg ObservationRunResult × State cfg} (hobeys : Obeys cfg c.1) (hc : P c.2)
    (w : List Answer) : Obeys cfg (Run.run advance c w).1 ∧ P (Run.run advance c w).2 :=
  follows_run hobeys (fun a ha d _ hs => (hP a d ha).exec (d.oracle.map .failed) hs) hc w

end NetaAgent.ObservationSession
