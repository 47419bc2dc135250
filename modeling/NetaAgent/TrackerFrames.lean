import NetaAgent.TrackerRuns

/-!
What the tracker does to the store and to its maps, statement by statement.

The calls write on connections through six operations of the store, and on the maps through four.
Whatever those operations keep, each on its own, every call keeps, whether it returns or throws, and
so it holds after every statement of it.
-/

namespace NetaAgent.ConnectionTracker

open Decimal Crypto Sql Observation HistoryStore Triple

/-- The program keeps `P`, whether it returns or throws. -/
def Preserves {D α : Type} (P : D → Prop) (m : SqlM D StoreError α) : Prop :=
  Triple (fun _ => True) P m (fun _ => P) fun _ => P

section
variable {D α β : Type} {P : D → Prop}

lemma preserves_pure (a : α) : Preserves P (pure a : SqlM D StoreError α) := pure fun _ h => h

lemma preserves_const (c : Prop) (m : SqlM D StoreError α) : Preserves (fun _ => c) m := by
  intro o s _ hc
  rcases m o s with ⟨e | a, s'⟩
  · exact hc
  · exact hc

lemma Preserves.bind {m : SqlM D StoreError α} {k : α → SqlM D StoreError β}
    (hm : Preserves P m) (hk : ∀ a, Preserves P (k a)) : Preserves P (m >>= k) := Triple.bind hm hk

lemma preserves_state : Preserves P (state : SqlM D StoreError D) := state fun _ h => h

lemma preserves_statement {f : (ℕ → ℕ) → D → Except StoreError (α × D)}
    (h : ∀ t d a d', P d → f t d = .ok (a, d') → P d') : Preserves P (statement f) :=
  statement h (fun _ _ _ hd _ => hd) fun _ _ _ hd => hd

lemma preserves_modify {f : D → D} (h : ∀ d, P d → P (f d)) :
    Preserves P (Sql.modify f : SqlM D StoreError Unit) := Triple.modify h fun _ _ _ hd => hd

lemma Preserves.exec {m : SqlM D StoreError α} (h : Preserves P m) (o : Oracle StoreError) {d : D}
    (hd : P d) : P (Sql.exec m o d).2 := by
  rcases Triple.exec h (fun _ _ _ => trivial) hd with ⟨a, -, hP⟩ | ⟨e, -, hP⟩
  · exact hP
  · exact hP

end

abbrev OnStore (P : Store → Prop) : World → Prop := fun s => P s.1

/-- The condition survives the writes on a connection that is there. -/
structure Steady (P : Store → Prop) : Prop where
  touch : ∀ id ns state, Preserves P (touchConnection id ns state)
  cookie : ∀ id c, Preserves P (updateSocketCookie id c)
  sample : ∀ sha id s, Preserves P (addTcpSample sha id s)
  event : ∀ id e, Preserves P (addLifecycleEvent id e)

/-- It survives the admission of a connection in this direction. -/
def Admits (P : Store → Prop) (direction : ConnectionDirection) : Prop :=
  ∀ socket process host firstSeenNs now,
    Preserves P (beginConnection socket process host firstSeenNs now direction)

/-- The condition survives the writes on a connection that is there, and those on its entry. -/
structure Keeping (P : World → Prop) : Prop where
  touch : ∀ id ns state, Preserves P (onDb (touchConnection id ns state))
  cookie : ∀ id c, Preserves P (onDb (updateSocketCookie id c))
  sample : ∀ sha id s, Preserves P (onDb (addTcpSample sha id s))
  event : ∀ id e, Preserves P (onDb (addLifecycleEvent id e))
  put : ∀ k t, Preserves P (setTracker (·.put k t))
  drop : ∀ k, Preserves P (setTracker (·.drop k))
  rekey : ∀ k c, Preserves P (rekeyIdentity k c)

abbrev Untracked (P : World → Prop) (identity : Text) : World → Prop :=
  fun s => P s ∧ s.2.find identity = none

/-- The program keeps `P` where no connection is tracked under the identity. -/
def AdmitsAs (P : World → Prop) (identity : Text) {α : Type} (m : TrackerM α) : Prop :=
  Triple (fun _ => True) (Untracked P identity) m (fun _ => P) fun _ => P

/-- It survives the admission of a connection in this direction that is not tracked yet. -/
structure Opens (P : World → Prop) (direction : ConnectionDirection) : Prop where
  event : ∀ cfg now event process identity a b port,
    AdmitsAs P identity (admitEvent cfg now event direction process identity a b port)
  socket : ∀ cfg now socket process origin identity key,
    AdmitsAs P identity (admitSocket cfg now socket process direction origin identity key)

section
variable {P : World → Prop}

lemma preserves_tracker : Preserves P tracker := preserves_state.bind fun _ => preserves_pure _

/-- The maps that are read are those that are there. -/
lemma tracker_read : Triple (fun _ => True) P tracker (fun tr s => P s ∧ s.2 = tr) fun _ => P :=
  bind (Q := fun a s => P s ∧ s = a) (state fun _ h => ⟨h, rfl⟩) fun _ =>
    pure fun _ h => ⟨h.1, congrArg Prod.snd h.2⟩

variable (h : Keeping P)
include h

lemma Keeping.promoteSocketCookieIdentity (previous canonical : Text) (cookie : ℕ) :
    Preserves P (promoteSocketCookieIdentity previous canonical cookie) := by
  refine preserves_tracker.bind fun tr => ?_
  split
  · exact preserves_pure _
  · refine (h.cookie _ _).bind fun promoted => ?_
    cases promoted with
    | false => exact preserves_pure _
    | true => exact h.rekey _ _

lemma Keeping.adoptIdentity (existing identity : Text) (cookie : Option ℕ) :
    Preserves P (adoptIdentity existing identity cookie) := by
  unfold ConnectionTracker.adoptIdentity
  split
  · exact preserves_pure _
  · refine Preserves.bind ?_ fun _ => preserves_pure _
    cases cookie with
    | none => exact h.rekey _ _
    | some c => exact h.promoteSocketCookieIdentity _ _ _

lemma Keeping.closeConnection (event : ConnectionLifecycleEvent) (identity existing : Text) :
    Preserves P (closeConnection event identity existing) := by
  refine (h.adoptIdentity _ _ _).bind fun key => preserves_tracker.bind fun tr => ?_
  split
  · exact preserves_pure _
  · exact (h.touch _ _ _).bind fun _ => (h.event _ _).bind
      fun _ => (h.drop _).bind fun _ => preserves_pure _

variable {direction : ConnectionDirection}

lemma Keeping.continueConnection
    (hpromote : ∀ id, Preserves P (onDb (promoteConnectionDirection id direction)))
    (event : ConnectionLifecycleEvent) (process : ProcessIdentity) (identity existing : Text) :
    Preserves P (continueConnection event direction process identity existing) := by
  refine (h.adoptIdentity _ _ _).bind fun key => preserves_tracker.bind fun tr => ?_
  split
  · exact preserves_pure _
  · exact (h.event _ _).bind fun _ => (hpromote _).bind fun _ =>
      (h.put _ _).bind fun _ => preserves_pure _

/-- **`observe_lifecycle`.** A close admits and promotes nothing. -/
theorem Keeping.observeLifecycle {event : ConnectionLifecycleEvent}
    (hopen : event.type ≠ .close → Opens P direction ∧
      ∀ id, Preserves P (onDb (promoteConnectionDirection id direction))) (cfg : Config) (now : ℕ) :
    Preserves P (observeLifecycle cfg now event direction) := by
  have hnone : ∀ {tr : Tracker}, Triple (fun _ => True) (fun s => P s ∧ s.2 = tr)
      (Pure.pure none : TrackerM (Option ConnectionAdmission)) (fun _ => P) fun _ => P :=
    Triple.pure fun _ hs => hs.1
  unfold ConnectionTracker.observeLifecycle
  split
  · exact preserves_pure _
  split
  · exact preserves_pure _
  refine Triple.bind tracker_read fun tr => ?_
  split
  · split
    · exact hnone
    · exact Triple.pre (h.closeConnection _ _ _) fun _ hs => hs.1
  next htype =>
  obtain ⟨hopens, hpromote⟩ := hopen htype
  split
  · exact hnone
  split
  · split
    · exact hnone
    split
    · exact Triple.pre (h.continueConnection hpromote _ _ _ _) fun _ hs => hs.1
    · next hmatch =>
      exact Triple.pre (hopens.event _ _ _ _ _ _ _ _) fun _ hs =>
        ⟨hs.1, hs.2 ▸ Tracker.free_of_eventMatch_none hmatch⟩
  · exact hnone

lemma Keeping.sampleConnection (cfg : Config) (socket : SocketObservation)
    (direction : ConnectionDirection) (identity : Text) :
    Preserves P (sampleConnection cfg socket direction identity) := by
  refine preserves_tracker.bind fun tr => ?_
  split
  · exact preserves_pure _
  refine Preserves.bind ?_ fun _ => (h.put _ _).bind fun _ => preserves_pure _
  refine Preserves.bind ?_ fun _ => (h.put _ _).bind fun _ => h.touch _ _ _
  unfold storeSample
  split
  · exact (h.sample _ _ _).bind fun _ => preserves_pure _
  · exact preserves_pure _

/-- **`observe_socket`.** -/
theorem Keeping.observeSocket {allowNew : Bool}
    (hopen : allowNew = true → Opens P direction) (cfg : Config) (now : ℕ)
    (process : Option ProcessIdentity) (socket : SocketObservation)
    (origin : ConnectionObservationOrigin) :
    Preserves P (observeSocket cfg now process socket direction allowNew origin) := by
  unfold ConnectionTracker.observeSocket
  refine Triple.bind tracker_read fun tr => ?_
  split
  · split
    · exact Triple.pure fun _ hs => hs.1
    · exact Triple.pre (h.sampleConnection _ _ _ _) fun _ hs => hs.1
  · refine Triple.pre (P := P) ?_ fun _ hs => hs.1
    split
    · refine (h.promoteSocketCookieIdentity _ _ _).bind fun promoted => ?_
      cases promoted with
      | false => exact preserves_pure _
      | true => exact h.sampleConnection _ _ _ _
    · exact h.sampleConnection _ _ _ _
  · next hfind _ =>
    split
    · exact Triple.pure fun _ hs => hs.1
    next hallowed =>
    split
    · exact Triple.pure fun _ hs => hs.1
    have hnew : allowNew = true := by
      rw [Bool.or_eq_true, not_or] at hallowed
      simpa using hallowed.1
    exact Triple.pre ((hopen hnew).socket _ _ _ _ _ _ _) fun _ hs => ⟨hs.1, hs.2 ▸ hfind⟩

lemma Keeping.endSnapshotLoop (polling incomplete : Bool) (ids : List Text) :
    Preserves P (endSnapshotLoop polling incomplete ids) := by
  induction ids with
  | nil => exact preserves_pure _
  | cons identity ids ih =>
    refine preserves_tracker.bind fun tr => ?_
    split
    · exact ih
    split
    · exact (h.put _ _).bind fun _ => ih
    refine (h.put _ _).bind fun _ => ?_
    split
    · exact (h.touch _ _ _).bind fun _ => (h.drop _).bind fun _ =>
        ih.bind fun _ => preserves_pure _
    · exact ih

/-- **`end_snapshot`.** -/
theorem Keeping.endSnapshot (order : List Text) (polling incomplete : Bool) :
    Preserves P (endSnapshot order polling incomplete) :=
  preserves_tracker.bind fun _ => h.endSnapshotLoop _ _ _

lemma Keeping.finishLoop (polling : Bool) (ids : List Text) :
    Preserves P (finishLoop polling ids) := by
  induction ids with
  | nil => exact preserves_pure _
  | cons identity ids ih =>
    refine preserves_tracker.bind fun tr => ?_
    split
    · exact ih
    · exact (h.touch _ _ _).bind fun _ => ih

/-- **`finish_observation`.** -/
theorem Keeping.finishObservation (order : List Text) (polling : Bool) :
    Preserves P (finishObservation order polling) :=
  preserves_tracker.bind fun _ => h.finishLoop _ _

/-- **Every call**, where any admission and any promotion keep the condition too. -/
theorem Keeping.program (hopens : ∀ direction, Opens P direction)
    (hpromote : ∀ id direction, Preserves P (onDb (promoteConnectionDirection id direction)))
    (hunmarked : Preserves P beginSnapshot) (cfg : Config) (call : Call) :
    Preserves P (call.program cfg) := by
  cases call with
  | observeLifecycle now event direction =>
    exact (h.observeLifecycle (fun _ => ⟨hopens direction, fun id => hpromote id direction⟩)
      cfg now).bind fun _ => preserves_pure _
  | observeSocket now process socket direction allowNew origin =>
    exact (h.observeSocket (fun _ => hopens direction) cfg now process socket origin).bind
      fun _ => preserves_pure _
  | beginSnapshot => exact hunmarked.bind fun _ => preserves_pure _
  | endSnapshot order polling incomplete =>
    exact (h.endSnapshot order polling incomplete).bind fun _ => preserves_pure _
  | finishObservation order polling =>
    exact (h.finishObservation order polling).bind fun _ => preserves_pure _

end

/-! ### Conditions on the store -/

section
variable {P : Store → Prop} {α : Type}

lemma preserves_onDb {m : StoreM α} (h : Preserves P m) :
    Preserves (OnStore P) (onDb m : TrackerM α) := onDb fun _ => h

lemma preserves_setTracker (f : Tracker → Tracker) : Preserves (OnStore P) (setTracker f) :=
  assign fun _ h => h

variable (h : Steady P)
include h

lemma Steady.keeping : Keeping (OnStore P) where
  touch id ns state := preserves_onDb (h.touch id ns state)
  cookie id c := preserves_onDb (h.cookie id c)
  sample sha id s := preserves_onDb (h.sample sha id s)
  event id e := preserves_onDb (h.event id e)
  put _ _ := preserves_setTracker _
  drop _ := preserves_setTracker _
  rekey _ _ := preserves_tracker.bind fun _ => (preserves_setTracker _).bind fun _ =>
    preserves_pure _

lemma Steady.touchOrigin (id observedNs : ℕ) (origin : ConnectionObservationOrigin) :
    Preserves P (touchOrigin id observedNs origin) := by
  unfold ConnectionTracker.touchOrigin
  split
  · exact h.touch _ _ _
  · exact h.touch _ _ _
  · exact preserves_pure _

lemma Steady.opens {direction : ConnectionDirection} (hadmits : Admits P direction) :
    Opens (OnStore P) direction := by
  constructor <;> intros <;> refine pre (P := OnStore P) ?_ fun _ hs => hs.1
  · exact preserves_state.bind fun _ => (preserves_onDb (hadmits _ _ _ _ _)).bind fun _ =>
      (preserves_onDb (h.event _ _)).bind fun _ => (preserves_setTracker _).bind fun _ =>
        preserves_pure _
  · exact preserves_state.bind fun _ => (preserves_onDb (hadmits _ _ _ _ _)).bind fun _ =>
      (preserves_onDb (h.sample _ _ _)).bind fun _ =>
        (preserves_onDb (h.touchOrigin _ _ _)).bind fun _ =>
          (preserves_setTracker _).bind fun _ => preserves_pure _

end

end NetaAgent.ConnectionTracker
