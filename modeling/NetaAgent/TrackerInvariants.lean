import NetaAgent.TrackerCalls

/-!
What every call of the tracker keeps: the tracked connections and their rows fit together
(`Sound`), and an identity made of a cookie belongs to a row with that cookie (`Named`).
-/

namespace NetaAgent.ConnectionTracker

open Decimal Crypto Sql Observation HistoryStore Tracker Triple

variable {ev : Evidence} {s₀ s : World} {e₀ e : Entry} {c : Option ℕ} {F : StoreError → Prop}

/-! ### Soundness -/

lemma Sound.serving (h : Sound s₀) (he₀ : e₀ ∈ s₀.2.connections) (hs : Serving s₀ e₀ c e s) :
    Sound s where
  rows x hx := by
    have hold : ∃ r ∈ s₀.1.connections,
        r.id = x.tracked.connectionId ∧ r.serial = x.tracked.serial := by
      rcases (hs.entries x).mp hx with ⟨hx, -⟩ | rfl
      · exact h.rows x hx
      · rw [hs.connectionId, hs.serial]
        exact h.rows e₀ he₀
    obtain ⟨r, hr, hid, hserial⟩ := hold
    obtain ⟨r', hr', hc⟩ := hs.writes.forth r hr
    exact ⟨r', hr', hc.sameId.trans hid, hc.serial.trans hserial⟩
  distinct x hx y hy hxy := by
    -- an entry that was there has another id than the one that is served
    have hne : ∀ z, z ∈ s₀.2.connections ∧ z.identity ≠ e₀.identity →
        z.tracked.connectionId ≠ e.tracked.connectionId := by
      rintro z ⟨hz, hne⟩ heq
      exact hne (congrArg Entry.identity (h.distinct z hz e₀ he₀ (heq.trans hs.connectionId)))
    rcases (hs.entries x).mp hx with hx | rfl <;> rcases (hs.entries y).mp hy with hy | rfl
    · exact h.distinct x hx.1 y hy.1 hxy
    · exact absurd hxy (hne x hx)
    · exact absurd hxy.symm (hne y hy)
    · rfl
  pending p hp := by
    rw [hs.writes.tls]
    exact h.pending p (hs.writes.pending ▸ hp)

lemma Sound.subset (h : Sound s) {tr : Tracker}
    (hsub : ∀ e ∈ tr.connections, e ∈ s.2.connections) : Sound (s.1, tr) where
  rows e he := h.rows e (hsub e he)
  distinct e he e' he' := h.distinct e (hsub e he) e' (hsub e' he')
  pending := h.pending

lemma Sound.kept (h : Sound s₀) (he₀ : e₀ ∈ s₀.2.connections) (hk : Kept ev s₀ e₀ s) : Sound s :=
  let ⟨_, _, _, hs⟩ := hk
  h.serving he₀ hs

lemma Sound.dropped (h : Sound s₀) (he₀ : e₀ ∈ s₀.2.connections) (hd : Dropped ev s₀ e₀ s) :
    Sound s := by
  obtain ⟨c, e, s₁, -, hs, rfl⟩ := hd
  exact (h.serving he₀ hs).subset fun x hx => (mem_drop.mp hx).1

variable {id raw : ℕ}

lemma Sound.begun (h : Sound s₀) (hb : Begun s₀.1 id raw s.1) (htr : s.2 = s₀.2) : Sound s where
  rows e he := by
    obtain ⟨r, hr, hid⟩ := h.rows e (htr ▸ he)
    exact ⟨r, hb.forth r hr, hid⟩
  distinct := htr ▸ h.distinct
  pending p hp := by
    rw [hb.tls]
    exact h.pending p (hb.pending ▸ hp)

lemma Sound.admitted (h : Sound s₀) (ha : Admitted ev s₀ id s) : Sound s := by
  obtain ⟨t, key, hb, hfree, hid, hserial, htr⟩ := ha
  have hmem : ∀ x, x ∈ s.2.connections ↔ x ∈ s₀.2.connections ∨ x = ⟨ev.identity, t⟩ := by
    intro x
    rw [htr, mem_track hfree]
  -- the rows of the tracked connections have other ids than the new one
  have hne : ∀ x ∈ s₀.2.connections, x.tracked.connectionId ≠ t.connectionId := by
    rintro x hx heq
    obtain ⟨r, hr, hrid, -⟩ := h.rows x hx
    exact hb.fresh r hr (hrid.trans (heq.trans hid))
  refine ⟨fun x hx => ?_, fun x hx y hy hxy => ?_, fun p hp => ?_⟩
  · rcases (hmem x).mp hx with hx | rfl
    · obtain ⟨r, hr, hrid⟩ := h.rows x hx
      exact ⟨r, hb.forth r hr, hrid⟩
    · obtain ⟨r, hr, hrid, hrserial, -⟩ := hb.made
      exact ⟨r, hr, hrid.trans hid.symm, hrserial.trans hserial.symm⟩
  · rcases (hmem x).mp hx with hx | rfl <;> rcases (hmem y).mp hy with hy | rfl
    · exact h.distinct x hx y hy hxy
    · exact absurd hxy (hne x hx)
    · exact absurd hxy.symm (hne y hy)
    · rfl
  · rw [hb.tls]
    exact h.pending p (hb.pending ▸ hp)

/-- **Every call of the tracker keeps the tracked connections sound.** -/
theorem Effect.sound (h : Effect ev s₀ s) (hs : Sound s₀) : Sound s := by
  cases h with
  | quiet h htr =>
    refine ⟨?_, htr ▸ hs.distinct, fun p hp => ?_⟩
    · rw [htr, h.connections]
      exact hs.rows
    · rw [h.tls]
      exact hs.pending p (h.pending ▸ hp)
  | kept he _ h => exact hs.kept he h
  | dropped he _ h => exact hs.dropped he h
  | begun h htr => exact hs.begun h htr
  | admitted h => exact hs.admitted h

/-! ### Identities of cookies -/

/-- A connection whose identity is a cookie has a row with that cookie. -/
def Named (s : World) : Prop :=
  ∀ e ∈ s.2.connections, ∀ v, e.identity = cookieIdentity v →
    ∀ r ∈ s.1.connections, r.id = e.tracked.connectionId → r.socketCookie = v

lemma cookieIdentity_inj {v w : ℕ} (h : cookieIdentity v = cookieIdentity w) : v = w := by
  unfold cookieIdentity at h
  exact decimal_inj (by simpa using h)

/-- The identity of an observation is a cookie just when it has that valid cookie, which is
also what a new row gets. -/
structure Evidence.Faithful (ev : Evidence) : Prop where
  cookie : ∀ v, ev.cookie = some v → ev.identity = cookieIdentity v ∧ ev.raw = v ∧ validCookie v
  none : ∀ v, ev.cookie = none → ev.identity ≠ cookieIdentity v
  raw : ev.cookie = Option.none → validCookie ev.raw = false

variable {r r' : Connection}

/-- A tracked connection and its row: one that was not served, with the row it had, or the one
that was served. -/
lemma Serving.row_cases (hs : Serving s₀ e₀ c e s) (hsound : Sound s₀)
    (he₀ : e₀ ∈ s₀.2.connections) {x : Entry} (hx : x ∈ s.2.connections)
    (hr' : r' ∈ s.1.connections) (hid : r'.id = x.tracked.connectionId) :
    x ∈ s₀.2.connections ∧ r' ∈ s₀.1.connections ∨
      x = e ∧ ∃ r ∈ s₀.1.connections, r.id = e₀.tracked.connectionId ∧
        r'.socketCookie = c.getD r.socketCookie := by
  obtain ⟨r, hr, hc⟩ := hs.writes.back r' hr'
  rcases (hs.entries x).mp hx with ⟨hx, hne⟩ | rfl
  · have hother : r.id ≠ e₀.tracked.connectionId := by
      rintro heq
      have hxid : x.tracked.connectionId = e₀.tracked.connectionId :=
        hid.symm.trans (hc.sameId.trans heq)
      exact hne (congrArg Entry.identity (hsound.distinct x hx e₀ he₀ hxid))
    exact .inl ⟨hx, hc.other hother ▸ hr⟩
  · have hrid : r.id = e₀.tracked.connectionId := hc.sameId.symm.trans (hid.trans hs.connectionId)
    exact .inr ⟨rfl, r, hr, hrid, hc.cookie hrid⟩

lemma Sound.row_of_begun (hsound : Sound s₀) {db : Store}
    (hb : Begun s₀.1 id raw db) {x : Entry} (hx : x ∈ s₀.2.connections)
    (hr : r ∈ db.connections) (hid : r.id = x.tracked.connectionId) : r ∈ s₀.1.connections := by
  refine (hb.back r hr).resolve_right fun hnew => ?_
  obtain ⟨r₀, hr₀, hid₀, -⟩ := hsound.rows x hx
  exact hb.fresh r₀ hr₀ (hid₀.trans (hid.symm.trans hnew.1))

lemma Admitted.row_cases (h : Admitted ev s₀ id s) (hsound : Sound s₀) {x : Entry}
    (hx : x ∈ s.2.connections) (hr : r ∈ s.1.connections) (hid : r.id = x.tracked.connectionId) :
    x ∈ s₀.2.connections ∧ r ∈ s₀.1.connections ∨
      x.identity = ev.identity ∧ r.socketCookie = ev.raw := by
  obtain ⟨t, key, hb, hfree, htid, -, htr⟩ := h
  rw [htr, mem_track hfree] at hx
  rcases hx with hx | rfl
  · exact .inl ⟨hx, hsound.row_of_begun hb hx hr hid⟩
  · rcases hb.back r hr with hold | ⟨-, -, hraw⟩
    · exact absurd (hid.trans htid) (hb.fresh r hold)
    · exact .inr ⟨rfl, hraw⟩

lemma Named.serving (h : Named s₀) (hsound : Sound s₀) (he₀ : e₀ ∈ s₀.2.connections)
    (hs : Serving s₀ e₀ c e s)
    (hkey : ∀ v, e.identity = cookieIdentity v → e.identity = e₀.identity ∧ c = none ∨ c = some v) :
    Named s := by
  intro x hx v hv r' hr' hid
  rcases hs.row_cases hsound he₀ hx hr' hid with ⟨hx, hr⟩ | ⟨rfl, r, hr, hrid, hcookie⟩
  · exact h x hx v hv r' hr hid
  · rw [hcookie]
    rcases hkey v hv with ⟨heq, rfl⟩ | rfl
    · exact h e₀ he₀ v (heq.symm.trans hv) r hr hrid
    · rfl

lemma Evidence.Adopts.named (hev : ev.Faithful) (h : ev.Adopts e₀ c e.identity) (v : ℕ)
    (hv : e.identity = cookieIdentity v) : e.identity = e₀.identity ∧ c = none ∨ c = some v := by
  rcases h with ⟨hid, hc, -⟩ | ⟨hid, rfl, -⟩
  · exact .inl ⟨hid, hc⟩
  · rw [hid] at hv
    cases hcookie : ev.cookie with
    | none => exact absurd hv (hev.none v hcookie)
    | some w =>
      rw [cookieIdentity_inj ((hev.cookie w hcookie).1.symm.trans hv)]
      exact .inr rfl

/-- **Every call of the tracker keeps the identities of cookies true.** -/
theorem Effect.named (h : Effect ev s₀ s) (hev : ev.Faithful) (hsound : Sound s₀)
    (hs : Named s₀) : Named s := by
  cases h with
  | quiet h htr =>
    intro e he v hv r hr
    exact hs e (htr ▸ he) v hv r (h.connections ▸ hr)
  | kept he _ h =>
    obtain ⟨c, e, hc, h⟩ := h
    exact hs.serving hsound he h (hc.named hev)
  | dropped he _ h =>
    obtain ⟨c, e, s₁, hc, h, rfl⟩ := h
    exact fun x hx => hs.serving hsound he h (hc.named hev) x (mem_drop.mp hx).1
  | begun h htr =>
    intro e he v hv r hr hid
    rw [htr] at he
    exact hs e he v hv r (hsound.row_of_begun h he hr hid) hid
  | admitted h =>
    intro x hx v hv r hr hid
    rcases h.row_cases hsound hx hr hid with ⟨hx, hr⟩ | ⟨hident, hraw⟩
    · exact hs x hx v hv r hr hid
    · rw [hraw]
      rw [hident] at hv
      cases hcookie : ev.cookie with
      | none => exact absurd hv (hev.none v hcookie)
      | some w =>
        obtain ⟨hw, hrawv, -⟩ := hev.cookie w hcookie
        exact hrawv.trans (cookieIdentity_inj (hw.symm.trans hv))

lemma eventEvidence_faithful (tr : Tracker) (event : ConnectionLifecycleEvent) :
    (eventEvidence tr event).Faithful where
  cookie v hv := by
    have hv : eventCookie event = some v := hv
    obtain ⟨hsome, hvalid⟩ := Option.filter_eq_some_iff.mp hv
    refine ⟨?_, ?_, hvalid⟩
    · simp [eventEvidence, eventIdentity, hv]
    · simp [eventEvidence, hsome]
  none v hv := by
    have hv : eventCookie event = none := hv
    simp only [eventEvidence, eventIdentity, hv, fallbackIdentity]
    -- the other identities start with another letter
    split
    · simp [cookieIdentity]
    · split <;> simp [cookieIdentity]
  raw hv := by
    have hv : eventCookie event = none := hv
    unfold eventEvidence
    cases hc : event.socketCookie with
    | none => rfl
    | some v => simpa [eventCookie, hc] using hv

lemma socketEvidence_faithful (tr : Tracker) (socket : SocketObservation)
    (process : Option ProcessIdentity) : (socketEvidence tr socket process).Faithful where
  cookie v hv := by
    have hv : (some socket.socketCookie).filter validCookie = some v := hv
    obtain ⟨hsome, hvalid⟩ := Option.filter_eq_some_iff.mp hv
    cases hsome
    exact ⟨if_pos hvalid, rfl, hvalid⟩
  none v hv := by
    have hinvalid : validCookie socket.socketCookie = false := by
      simpa [socketEvidence, Option.filter] using hv
    simp [socketEvidence, socketIdentity, hinvalid, cookieIdentity]
  raw hv := by simpa [socketEvidence, Option.filter] using hv

/-! ### Sweeps over the tracked connections -/

/-- One tracked connection is served under its own identity, and perhaps dropped. -/
def Tends (a b : World) : Prop :=
  ∃ e₀ ∈ a.2.connections, ∃ e s, e.identity = e₀.identity ∧ Serving a e₀ none e s ∧
    (b = s ∨ b = (s.1, s.2.drop e.identity))

/-- Tracked connections are served one after the other. -/
abbrev Sweep : World → World → Prop := Relation.ReflTransGen Tends

variable {a b : World}

lemma Tends.sound (h : Tends a b) (ha : Sound a) : Sound b := by
  obtain ⟨e₀, he₀, e, s, -, hs, rfl | rfl⟩ := h
  · exact ha.serving he₀ hs
  · exact (ha.serving he₀ hs).subset fun x hx => (mem_drop.mp hx).1

lemma Tends.named (h : Tends a b) (hsound : Sound a) (ha : Named a) : Named b := by
  obtain ⟨e₀, he₀, e, s, hid, hs, rfl | rfl⟩ := h
  · exact ha.serving hsound he₀ hs fun _ _ => .inl ⟨hid, rfl⟩
  · exact fun x hx => ha.serving hsound he₀ hs (fun _ _ => .inl ⟨hid, rfl⟩) x
      (mem_drop.mp hx).1

lemma Sweep.sound (h : Sweep a b) (ha : Sound a) : Sound b := by
  induction h with
  | refl => exact ha
  | tail _ ht ih => exact ht.sound ih

lemma Sweep.keeps {I : World → Prop} (hI : ∀ a b, Sound a → I a → Tends a b → I b)
    (h : Sweep a b) (hsound : Sound a) (ha : I a) : I b := by
  induction h with
  | refl => exact ha
  | tail hab ht ih => exact hI _ _ (Sweep.sound hab hsound) ih ht

/-- What holds of the connections dropped so far when tracked connections are served and dropped. -/
structure Sweeps (J : List ℕ → World → Prop) : Prop where
  sound {g s} (h : J g s) : Sound s
  serve {g s s' identity t t'} (h : J g s) (he : ⟨identity, t⟩ ∈ s.2.connections)
    (hs : Serving s ⟨identity, t⟩ none ⟨identity, t'⟩ s') : J g s'
  drop {g s s' identity t t'} (h : J g s) (he : ⟨identity, t⟩ ∈ s.2.connections)
    (hs : Serving s ⟨identity, t⟩ none ⟨identity, t'⟩ s') :
    J (g ++ [t.connectionId]) (s'.1, s'.2.drop identity)

lemma sweeps_sweep (hsound : Sound s₀) : Sweeps fun _ => Sweep s₀ where
  sound h := Sweep.sound h hsound
  serve {_ _ s' identity _ t'} h he hs := h.tail ⟨_, he, ⟨identity, t'⟩, s', rfl, hs, .inl rfl⟩
  drop {_ _ s' identity _ t'} h he hs := h.tail ⟨_, he, ⟨identity, t'⟩, s', rfl, hs, .inr rfl⟩

lemma loop_triple {identity : Text} {α : Type} {P : World → Prop} {Q : α → World → Prop}
    {E : StoreError → World → Prop} {missing : TrackerM α} {found : TrackedConnection → TrackerM α}
    (hmissing : Triple F P missing Q E)
    (hfound : ∀ s t, P s → ⟨identity, t⟩ ∈ s.2.connections → Triple F (· = s) (found t) Q E) :
    Triple F P (do match (← tracker).find identity with
        | none => missing
        | some t => found t) Q E := by
  refine start fun s hs => bind tracker_triple fun tr => start fun s' hs' => ?_
  rw [hs'.1, hs'.2]
  split
  · exact hmissing.here hs
  · next t ht => exact hfound s t hs (find_eq_some.mp ht)

/-- **The loop of `end_snapshot`** returns the connections that it drops. -/
lemma endSnapshotLoop_triple {J : List ℕ → World → Prop} (hJ : Sweeps J)
    (polling incomplete : Bool) (ids : List Text) (g : List ℕ) :
    Triple F (J g) (endSnapshotLoop polling incomplete ids) (fun gone => J (g ++ gone))
      fun x s => F x ∧ ∃ g, J g s := by
  induction ids generalizing g with
  | nil => exact pure fun _ h => by rwa [List.append_nil]
  | cons identity ids ih =>
    unfold endSnapshotLoop
    refine loop_triple (ih g) fun s t hs he => ?_
    have hput : ∀ t' : TrackedConnection, t'.connectionId = t.connectionId →
        t'.serial = t.serial → Triple F (· = s) (setTracker (·.put identity t'))
          (fun _ => Serving s ⟨identity, t⟩ none ⟨identity, t'⟩)
          fun x s => F x ∧ ∃ g, J g s :=
      fun t' hid hserial => (Serving.setPut (e := ⟨identity, t⟩) hid hserial).here (.refl he)
    split
    · -- the connection was in the snapshot
      refine bind (hput _ rfl rfl) fun _ => ?_
      exact (ih g).pre fun s' h => hJ.serve hs he h
    · refine bind (hput _ rfl rfl) fun _ => ?_
      split
      · refine bind ((Serving.onDb (onlyWrites_touchConnection _ _ _)
          ((hJ.sound hs).held he)).relax fun x s' h => ⟨h.1, g, hJ.serve hs he h.2⟩) fun _ => ?_
        refine bind (assign (Q := fun _ => J (g ++ [t.connectionId]))
          fun s' h => hJ.drop hs he h) fun _ => ?_
        refine bind (ih _) fun gone => pure fun _ h => ?_
        rw [List.append_assoc] at h
        exact h
      · exact (ih g).pre fun s' h => hJ.serve hs he h

lemma finishLoop_triple (hsound : Sound s₀) (polling : Bool) (ids : List Text) :
    Triple F (Sweep s₀) (finishLoop polling ids) (fun _ => Sweep s₀)
      fun x s => F x ∧ Sweep s₀ s := by
  induction ids with
  | nil => exact pure fun _ h => h
  | cons identity ids ih =>
    unfold finishLoop
    refine loop_triple ih fun s t hs he => ?_
    refine bind (Q := fun _ => Sweep s₀) ?_ fun _ => ih
    have hserve s' (h : Serving s ⟨identity, t⟩ none ⟨identity, t⟩ s') : Sweep s₀ s' :=
      (sweeps_sweep hsound).serve (g := []) hs he h
    exact ((Serving.onDb (e := ⟨identity, t⟩) (onlyWrites_touchConnection _ _ _)
      ((Sweep.sound hs hsound).held he)).here (.refl he)).weaken (fun _ => hserve)
        fun _ s' h => ⟨h.1, hserve s' h.2⟩

/-- **What `end_snapshot` does.** -/
theorem endSnapshot_triple (hsound : Sound s₀) (order : List Text) (polling incomplete : Bool) :
    Triple F (· = s₀) (endSnapshot order polling incomplete) (fun _ => Sweep s₀)
      fun x s => F x ∧ Sweep s₀ s := by
  refine bind tracker_triple fun tr => start fun s hs => ?_
  rw [hs.2]
  exact ((endSnapshotLoop_triple (sweeps_sweep hsound) polling incomplete _ []).relax
    fun _ _ h => ⟨h.1, h.2.choose_spec⟩).here .refl

theorem finishObservation_triple (hsound : Sound s₀) (order : List Text) (polling : Bool) :
    Triple F (· = s₀) (finishObservation order polling) (fun _ => Sweep s₀)
      fun x s => F x ∧ Sweep s₀ s := by
  refine bind tracker_triple fun tr => start fun s hs => ?_
  rw [hs.2]
  exact (finishLoop_triple hsound polling _).here .refl

end NetaAgent.ConnectionTracker
