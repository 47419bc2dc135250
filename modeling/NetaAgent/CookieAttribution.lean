import NetaAgent.Run
import NetaAgent.TrackerRuns

/-!
Cookies and connections.

A socket cookie names a socket for as long as it lives, a tuple does not. Over runs of the
tracker two things are proved of cookies, each under the condition the code lacks a check for.

- An observation with a valid cookie leaves every connection with another valid cookie alone,
  while no lifecycle event with a cookie falls back to the tuple of such a connection.
- A snapshot with the cookie of a tracked connection is recorded for it, and no second
  connection is admitted with that cookie, while no lifecycle event without a cookie moves a
  connection that has one to an identity of its own.
-/

namespace NetaAgent.ConnectionTracker

open Decimal Crypto Sql Observation Run HistoryStore Tracker Effect Triple

variable (cfg : Config) (s : World) (a : Call × Oracle Text)

/-- A call of the tracker, with the failures of its statements. -/
def step : World := (a.1.exec cfg a.2 s).2

variable (tr : Tracker) (e : Entry)

/-- The row of the tracked connection `e` has a valid cookie. -/
def HasCookie : Prop :=
  ∃ r ∈ s.1.connections.rows, r.id = e.tracked.connectionId ∧ validCookie r.socketCookie

/-- The row of the tracked connection `e` has a valid cookie other than `v`. -/
def HasOtherCookie (v : ℕ) : Prop :=
  ∃ r ∈ s.1.connections.rows,
    r.id = e.tracked.connectionId ∧ validCookie r.socketCookie ∧ r.socketCookie ≠ v

/-- No tracked connection has the identity of the event, and `e` is the only one with its
tuple: for a close the tuple may be reversed, and another event only joins a connection first
seen in a snapshot. -/
def Correlates (event : ConnectionLifecycleEvent) (e : Entry) : Prop :=
  (∀ identity ∈ eventIdentity event, tr.find identity = none) ∧
    ∃ a ∈ event.localEndpoint, ∃ b ∈ event.remoteEndpoint,
      tr.uniqueActiveCorrelationMatch (eventKey event a b) = some e.identity ∧
          (event.type = .close ∨ e.tracked.origin.snapshotOwned) ∨
        tr.uniqueActiveCorrelationMatch (eventKey event a b) = none ∧
          tr.uniqueActiveCorrelationMatch (eventKey event b a) = some e.identity ∧
          event.type = .close

lemma correlates_of_target {tr : Tracker} {event : ConnectionLifecycleEvent} {e : Entry}
    (he : e ∈ tr.connections) (h : (eventEvidence tr event).target e) :
    e.identity = (eventEvidence tr event).identity ∨ Correlates tr event e := by
  rcases eventMatch_eq_some h with ⟨hid, -⟩ | ⟨hfree, a, b, ha, hb, hmatch⟩
  · exact .inl hid
  refine .inr ⟨fun identity hid => ?_, a, ha, b, hb, ?_⟩
  · rwa [Option.mem_def.mp hid] at hfree
  · refine hmatch.imp_left fun ⟨hk, hor⟩ => ⟨hk, hor.imp_right fun hown => ?_⟩
    rwa [find_of_mem he, Option.any_some] at hown

/-! ### Other cookies -/

def Call.cookie : Call → Option ℕ
  | .observeLifecycle _ event _ => eventCookie event
  | .observeSocket _ _ socket _ _ _ => some socket.socketCookie |>.filter validCookie
  | _ => none

/-- The tracked connection `e` with the row `r` is as it was: no sample and no event was
stored for it, and it was not closed. -/
structure Untouched (s s' : World) (e : Entry) (r : Connection) : Prop where
  entry : e ∈ s'.2.connections
  row : r ∈ s'.1.connections
  samples : ∀ x : TransportSample, x.connectionId = r.id →
    (x ∈ s'.1.transportSamples ↔ x ∈ s.1.transportSamples)
  events : ∀ x : LifecycleEvent, x.connectionId = r.id →
    (x ∈ s'.1.lifecycleEvents ↔ x ∈ s.1.lifecycleEvents)

/-- A call with a valid cookie leaves the connections with other valid cookies alone. -/
def KeptApart : Prop :=
  ∀ v, a.1.cookie = some v → ∀ e ∈ s.2.connections, ∀ r ∈ s.1.connections,
    r.id = e.tracked.connectionId → validCookie r.socketCookie → r.socketCookie ≠ v →
    Untouched s (step cfg s a) e r

/-- A lifecycle event with a valid cookie that is not tracked does not correlate with a
connection that has another one. -/
def CookiesAgree : Call → Prop
  | .observeLifecycle _ event _ => ∀ v ∈ eventCookie event,
    ∀ e ∈ s.2.connections.rows, Correlates s.2 event e → ¬ HasOtherCookie s e v
  | _ => True

section
variable {ev : Evidence} {s s' : World} {e e₀ : Entry} {r : Connection} {c : Option ℕ} {v : ℕ}

lemma Untouched.of_serving (hsound : Sound s) (he₀ : e₀ ∈ s.2.connections)
    (he : e ∈ s.2.connections) (hr : r ∈ s.1.connections) (hid : r.id = e.tracked.connectionId)
    {e₁ : Entry} (h : Serving s e₀ c e₁ s') (hne : e.identity ≠ e₀.identity) :
    Untouched s s' e r := by
  have hother : r.id ≠ e₀.tracked.connectionId := fun heq =>
    hne (congrArg Entry.identity (hsound.distinct e he e₀ he₀ (hid.symm.trans heq)))
  refine ⟨(h.entries e).mpr (.inl ⟨he, hne⟩), ?_, fun x hx => ?_, fun x hx => ?_⟩
  · obtain ⟨r', hr', hc⟩ := h.writes.forth r hr
    rwa [← hc.other hother]
  · exact h.writes.samples x (hx ▸ hother)
  · exact h.writes.events x (hx ▸ hother)

lemma Untouched.of_begun {id raw : ℕ} (hr : r ∈ s.1.connections)
    (hb : Begun s.1 id raw s'.1) (he : e ∈ s'.2.connections) : Untouched s s' e r where
  entry := he
  row := hb.forth r hr
  samples x hx := hb.samples x (hx ▸ hb.fresh r hr)
  events x hx := hb.events x (hx ▸ hb.fresh r hr)

/-- A connection that an observation with a valid cookie is stored for has that cookie or no
valid one. -/
lemma Evidence.Adopts.cookie_eq (hev : ev.Faithful) (hcookie : ev.cookie = some v)
    (hnamed : Named s) (he : e ∈ s.2.connections) (hr : r ∈ s.1.connections)
    (hid : r.id = e.tracked.connectionId) (hlenient : ev.lenient → e.identity = ev.identity)
    {key : Text} (hc : ev.Adopts e c key) {s' : Store}
    (hw : Writes e.tracked.connectionId c s.1 s') : r.socketCookie = v ∨ r.socketCookie = 0 := by
  rcases hc with ⟨-, -, hkeep⟩ | ⟨-, rfl, -⟩
  · have hsame : e.identity = ev.identity := by
      rcases hkeep with h | h | h
      · exact hlenient h
      · rw [hcookie] at h
        cases h
      · exact h
    exact .inl (hnamed e he v (hsame.trans (hev.cookie v hcookie).1) r hr hid)
  · obtain ⟨r', -, hcont⟩ := hw.forth r hr
    exact .inr (hcont.promoted hid (by simp [hcookie]))

/-- An observation with a valid cookie leaves a connection with another one alone, unless it
falls back to its tuple. -/
lemma Effect.untouched (h : Effect ev s s') (hev : ev.Faithful) (hcookie : ev.cookie = some v)
    (hsound : Sound s) (hnamed : Named s) (he : e ∈ s.2.connections)
    (hr : r ∈ s.1.connections) (hid : r.id = e.tracked.connectionId)
    (hvalid : validCookie r.socketCookie) (hne : r.socketCookie ≠ v)
    (hlenient : ev.lenient → ev.target e → e.identity = ev.identity) : Untouched s s' e r := by
  -- the connection that is served is another one
  have hserved : ∀ {e₀ : Entry} {c : Option ℕ} {e₁ : Entry} {s₁ : World},
      e₀ ∈ s.2.connections → ev.target e₀ → ev.Adopts e₀ c e₁.identity →
      Serving s e₀ c e₁ s₁ → e.identity ≠ e₀.identity := by
    intro e₀ c e₁ s₁ he₀ ht hc hs heq
    cases Table.eq_of_key_eq he he₀ heq
    rcases hc.cookie_eq hev hcookie hnamed he hr hid (fun hl => hlenient hl ht) hs.writes
      with h | h
    · exact hne h
    · rw [h] at hvalid
      cases hvalid
  cases h with
  | quiet h htr =>
    exact ⟨htr ▸ he, h.connections ▸ hr, fun _ _ => by rw [h.samples], fun _ _ => by rw [h.events]⟩
  | kept he₀ ht h =>
    obtain ⟨c, e₁, hc, h⟩ := h
    exact .of_serving hsound he₀ he hr hid h (hserved he₀ ht hc h)
  | dropped he₀ ht h =>
    obtain ⟨c, e₁, s₁, hc, h, rfl⟩ := h
    have hne := hserved he₀ ht hc h
    exact { Untouched.of_serving hsound he₀ he hr hid h hne with
      entry := h.mem_drop.mpr ⟨he, hne⟩ }
  | begun h htr => exact .of_begun hr h (htr ▸ he)
  | admitted h =>
    obtain ⟨t, key, hb, hfree, -, -, htr⟩ := h
    refine .of_begun hr hb ?_
    rw [htr, mem_track hfree]
    exact .inl he

end

lemma keptApart_call {s : World} (hsound : Sound s) (hnamed : Named s)
    {a : Call × Oracle Text} (hagree : CookiesAgree s a.1) : KeptApart cfg s a := by
  obtain ⟨call, o⟩ := a
  intro v hv e he r hr hid hvalid hne
  have hleaves := call.exec_leaves cfg o hsound
  cases call with
  | observeLifecycle now event =>
    refine untouched hleaves (eventEvidence_faithful s.2 event) hv hsound hnamed he hr hid
      hvalid hne fun _ ht => ?_
    refine (correlates_of_target he ht).resolve_right fun hcorr => ?_
    exact hagree v hv e he hcorr ⟨r, hr, hid, hvalid, hne⟩
  | observeSocket now process socket =>
    exact untouched hleaves (socketEvidence_faithful s.2 socket process) hv hsound hnamed
      he hr hid hvalid hne fun h => h.elim
  | _ => cases hv

/-- **Cookies are kept apart.** While no lifecycle event with a valid cookie falls back to the
tuple of a connection that has another one, an observation with a valid cookie is never stored
for, never samples and never closes a connection that has another one. -/
theorem cookies_kept_apart (cfg : Config) {s : World} (hs : Started s)
    (w : List (Call × Oracle Text))
    (hw : Along (step cfg) (fun s a => CookiesAgree s a.1) s w) :
    Along (step cfg) (KeptApart cfg) s w := by
  refine along_of_inv (I := fun s => Sound s ∧ Named s) (fun s a hI ha => ?_)
    ⟨hs.sound, hs.named⟩ hw
  have hleaves := a.1.exec_leaves cfg a.2 hI.1
  exact ⟨⟨hleaves.sound hI.1, hleaves.named hI.1 hI.2⟩, keptApart_call cfg hI.1 hI.2 ha⟩

instance (s : World) (e : Entry) (v : ℕ) : Decidable (HasOtherCookie s e v) :=
  inferInstanceAs (Decidable (∃ r ∈ s.1.connections.rows, _))

instance (tr : Tracker) (event : ConnectionLifecycleEvent) (e : Entry) :
    Decidable (Correlates tr event e) :=
  inferInstanceAs (Decidable (_ ∧ _))

instance (s : World) : ∀ call, Decidable (CookiesAgree s call)
  | .observeLifecycle _ event _ => inferInstanceAs (Decidable (∀ v ∈ eventCookie event,
      ∀ e ∈ s.2.connections.rows, Correlates s.2 event e → ¬ HasOtherCookie s e v))
  | .observeSocket _ _ _ _ _ _ | .beginSnapshot | .endSnapshot _ _ _ | .finishObservation _ _ =>
    inferInstanceAs (Decidable True)

/-- Two connections, each with events and samples of its own cookie. -/
def twoSockets : List (Call × Oracle Text) :=
  [snapshotOf 7 1 0, eventOf .connect (some 8) 2, eventOf .connect (some 7) 1, snapshotOf 8 2 1,
    eventOf .close (some 8) 2].map (·, steady)

theorem cookies_kept_apart_twoSockets :
    Started (.initial, .initial) ∧
      Along (step plain) (fun s a => CookiesAgree s a.1) (.initial, .initial) twoSockets ∧
      (run (step plain) (.initial, .initial) twoSockets).1.connections.rows.map
        (fun r => (r.id, r.socketCookie, r.lifecycleState)) =
          [(1, 7, .preexisting), (2, 8, .closed)] ∧
      Along (step plain) (KeptApart plain) (.initial, .initial) twoSockets := by
  have hstarted : Started (.initial, .initial) := ⟨rfl, rfl⟩
  have hagree : Along (step plain) (fun s a => CookiesAgree s a.1) (.initial, .initial)
      twoSockets := by decide +kernel
  exact ⟨hstarted, hagree, by decide +kernel, cookies_kept_apart plain hstarted twoSockets hagree⟩

/-- The connection with cookie 7 is tracked. An event with cookie 8 and the same tuple is
stored for it, and a close with cookie 8 closes it. -/
theorem cookie_falls_back_to_tuple :
    let s := step plain (.initial, .initial) (snapshotOf 7 1 0, steady)
    let joined := step plain s (eventOf .connect (some 8) 1, steady)
    let closed := step plain s (eventOf .close (some 8) 1, steady)
    s.1.connections.rows.map (fun r => (r.id, r.socketCookie)) = [(1, 7)] ∧
      s.1.lifecycleEvents.rows = [] ∧
      joined.1.lifecycleEvents.rows.map (·.connectionId) = [1] ∧
      closed.1.connections.rows.map (fun r => (r.id, r.socketCookie, r.lifecycleState)) =
        [(1, 7, .closed)] ∧
      closed.2.connections.rows = [] := by
  refine ⟨?_, ?_, ?_, ?_, ?_⟩ <;> decide +kernel

/-! ### The same cookie -/

/-- A connection whose row has a valid cookie is tracked under that cookie. -/
def Keyed : Prop :=
  ∀ e ∈ s.2.connections, ∀ r ∈ s.1.connections, r.id = e.tracked.connectionId →
    validCookie r.socketCookie → e.identity = cookieIdentity r.socketCookie

/-- A lifecycle event without a valid cookie does not correlate with a connection that has
one, unless it closes the connection and no statement fails on the way. -/
def CookiesStay : Call × Oracle Text → Prop
  | (.observeLifecycle _ event _, o) => eventCookie event = none →
    ∀ e ∈ s.2.connections.rows, Correlates s.2 event e → HasCookie s e →
      event.type = .close ∧ ∀ n, o.fails n = none
  | _ => True

section
variable {ev : Evidence} {s s' : World} {e e₀ : Entry} {c : Option ℕ}

lemma Keyed.serving (h : Keyed s) (hsound : Sound s) (he₀ : e₀ ∈ s.2.connections)
    (hs : Serving s e₀ c e s') (hkey : ∀ r ∈ s.1.connections, r.id = e₀.tracked.connectionId →
      validCookie (c.getD r.socketCookie) → e.identity = cookieIdentity (c.getD r.socketCookie)) :
    Keyed s' := by
  intro x hx r' hr' hid hvalid
  rcases hs.row_cases hsound he₀ hx hr' hid with ⟨hx, hr⟩ | ⟨rfl, r, hr, hrid, hcookie⟩
  · exact h x hx r' hr hid hvalid
  · rw [hcookie] at hvalid ⊢
    exact hkey r hr hrid hvalid

lemma Keyed.same (h : Keyed s) (hsound : Sound s) (he₀ : e₀ ∈ s.2.connections)
    (hs : Serving s e₀ none e s') (hid : e.identity = e₀.identity) : Keyed s' :=
  h.serving hsound he₀ hs fun r hr hrid hvalid => hid.trans (h e₀ he₀ r hr hrid hvalid)

/-- An observation keeps the connection it belongs to under its cookie, unless it has none
itself and moves a connection that has one. -/
lemma Keyed.kept (h : Keyed s) (hsound : Sound s) (hev : ev.Faithful)
    (he₀ : e₀ ∈ s.2.connections) (hk : Kept ev s e₀ s')
    (hmove : ev.lenient → ev.cookie = none → e₀.identity = ev.identity ∨ ¬ HasCookie s e₀) :
    Keyed s' := by
  obtain ⟨c, e, hc, hs⟩ := hk
  rcases hc with ⟨hid, rfl, -⟩ | ⟨hid, rfl, hwhen⟩
  · exact h.same hsound he₀ hs hid
  cases hcookie : ev.cookie with
  | some v =>
    rw [hcookie] at hs
    exact h.serving hsound he₀ hs fun _ _ _ _ => hid.trans (hev.cookie v hcookie).1
  | none =>
    rw [hcookie] at hs hwhen
    rcases hmove (hwhen.resolve_right fun hne => hne rfl) hcookie with hsame | hnone
    · exact h.same hsound he₀ hs (hid.trans hsame.symm)
    · exact h.serving hsound he₀ hs fun r hr hrid hvalid =>
        absurd ⟨r, hr, hrid, hvalid⟩ hnone

/-- Whatever became of the connection that is dropped, the others are as they were. -/
lemma Keyed.drop (h : Keyed s) (hsound : Sound s) (he₀ : e₀ ∈ s.2.connections)
    (hs : Serving s e₀ c e s') : Keyed (s'.1, s'.2.drop e.identity) := by
  intro x hx r hr hid hvalid
  obtain ⟨hx, hne⟩ := mem_drop.mp hx
  rcases hs.row_cases hsound he₀ hx hr hid with ⟨hx, hr⟩ | ⟨rfl, -⟩
  · exact h x hx r hr hid hvalid
  · exact absurd rfl hne

lemma Keyed.admitted (h : Keyed s) (hsound : Sound s) (hev : ev.Faithful) {id : ℕ}
    (ha : Admitted ev s id s') : Keyed s' := by
  intro x hx r hr hid hvalid
  rcases ha.row_cases hsound hx hr hid with ⟨hx, hr⟩ | ⟨hident, hraw⟩
  · exact h x hx r hr hid hvalid
  · rw [hraw] at hvalid ⊢
    cases hcookie : ev.cookie with
    | none => rw [hev.raw hcookie] at hvalid; cases hvalid
    | some v =>
      obtain ⟨hv, hrawv, -⟩ := hev.cookie v hcookie
      rw [hident, hv, hrawv]

lemma Effect.keyed (h : Effect ev s s') (hev : ev.Faithful) (hsound : Sound s) (hs : Keyed s)
    (hmove : ∀ e₀ ∈ s.2.connections, ev.target e₀ → ev.lenient → ev.cookie = none →
      e₀.identity = ev.identity ∨ ¬ HasCookie s e₀) : Keyed s' := by
  cases h with
  | quiet h htr =>
    intro e he r hr
    exact hs e (htr ▸ he) r (h.connections ▸ hr)
  | kept he ht h => exact hs.kept hsound hev he h (hmove _ he ht)
  | dropped he ht h =>
    obtain ⟨c, e, s₁, -, h, rfl⟩ := h
    exact hs.drop hsound he h
  | begun h htr =>
    intro e he r hr hid
    rw [htr] at he
    exact hs e he r (hsound.row_of_begun h he hr hid) hid
  | admitted h => exact hs.admitted hsound hev h

lemma Returns.keyed {x : Option ConnectionAdmission} (h : Returns ev s x s')
    (hclosing : ev.closing) (hev : ev.Faithful) (hsound : Sound s) (hs : Keyed s) : Keyed s' := by
  cases h with
  | ignored => exact hs
  | kept e₀ promoted direction hopen => exact absurd hclosing hopen
  | dropped e₀ _ he ht h =>
    obtain ⟨c, e, s₁, -, h, rfl⟩ := h
    exact hs.drop hsound he h
  | admitted direction h => exact hs.admitted hsound hev h

lemma Tends.keyed {a b : World} (h : Tends a b) (hsound : Sound a) (ha : Keyed a) : Keyed b := by
  obtain ⟨e₀, he₀, e, s, hid, hs, rfl | rfl⟩ := h
  · exact ha.same hsound he₀ hs hid
  · exact ha.drop hsound he₀ hs

lemma Keyed.unmarked (h : Keyed s) : Keyed (s.1, unmarked s.2) := by
  intro e he
  obtain ⟨e', he', rfl⟩ := mem_unmarked.mp he
  exact h e' he'

end

lemma keyed_step {s : World} (hsound : Sound s) (hkeyed : Keyed s)
    {a : Call × Oracle Text} (hstay : CookiesStay s a) : Keyed (step cfg s a) := by
  obtain ⟨call, o⟩ := a
  have hleaves := call.exec_leaves cfg o hsound
  cases call with
  | observeLifecycle now event direction =>
    by_cases hclose : event.type = .close ∧ ∀ n, o.fails n = none
    · obtain ⟨r, -, x, -, hret⟩ :=
        (Call.observeLifecycle now event direction).exec_ok cfg hsound hclose.2
      exact hret.keyed hclose.1 (eventEvidence_faithful s.2 event) hsound hkeyed
    · refine keyed hleaves (eventEvidence_faithful s.2 event) hsound hkeyed
        fun e₀ he₀ ht _ hcookie => ?_
      refine (correlates_of_target he₀ ht).imp_right fun hcorr hhas => ?_
      exact hclose (hstay hcookie e₀ he₀ hcorr hhas)
  | observeSocket now process socket =>
    exact keyed hleaves (socketEvidence_faithful s.2 socket process) hsound hkeyed
      fun _ _ _ hlenient => hlenient.elim
  | beginSnapshot => exact (show step cfg s (.beginSnapshot, o) = _ from hleaves) ▸ hkeyed.unmarked
  | endSnapshot | finishObservation =>
    exact Sweep.keeps (fun _ _ hs hk ht => ht.keyed hs hk) hleaves hsound hkeyed

/-- No tracked connection other than `e` has the tuple. -/
def OnlyTuple (tuple : Text) (e : Entry) : Prop :=
  ∀ p ∈ tr.correlationIndex, p.1 = tuple → (tr.find p.2).isSome → p.2 = e.identity

/-- The snapshot is recorded for the tracked connection `e`: the call returns its id, its
entry has seen the snapshot, and so has its row, with the sample where one is needed. -/
def RecordedFor (sample : TcpSnapshot) (direction : ConnectionDirection) : Prop :=
  (a.1.exec cfg a.2 s).1 =
      .ok (.admission (some ⟨e.tracked.connectionId, false, false, false, direction⟩)) ∧
    ⟨e.identity, e.tracked.observed sample⟩ ∈ (step cfg s a).2.connections ∧
    Recorded cfg e.tracked sample (step cfg s a).1

/-- The call throws the message of a statement that failed. -/
def StatementFails : Prop :=
  ∃ n x, a.2.fails n = some x ∧ (a.1.exec cfg a.2 s).1 = .error (.failed x.error)

/-- A snapshot without an owner, with the valid cookie of a tracked connection and a tuple
that no other one has, is recorded for it. -/
def Records : Call × Oracle Text → Prop
  | (.observeSocket now process socket direction allowNew origin, o) =>
    socket.owningPid = none → validCookie socket.socketCookie →
    ∀ e ∈ s.2.connections, ∀ r ∈ s.1.connections, r.id = e.tracked.connectionId →
      r.socketCookie = socket.socketCookie → OnlyTuple s.2 (socketTuple socket) e →
      RecordedFor cfg s (.observeSocket now process socket direction allowNew origin, o) e
          socket.transport direction ∨
        StatementFails cfg s (.observeSocket now process socket direction allowNew origin, o)
  | _ => True

/-- A connection that a call admits does not have the valid cookie of a tracked one. -/
def AdmitsApart : Prop :=
  ∀ x, (a.1.exec cfg a.2 s).1 = .ok (.admission (some x)) → x.newlyAdmitted →
    ∀ r' ∈ (step cfg s a).1.connections, r'.id = x.connectionId →
    ∀ e ∈ s.2.connections, ∀ r ∈ s.1.connections, r.id = e.tracked.connectionId →
      validCookie r.socketCookie → r'.socketCookie ≠ r.socketCookie

section
variable {cfg : Config} {s : World} {F : StoreError → Prop}

lemma observeSocket_own_triple {e : Entry} (hsound : Sound s) (he : e ∈ s.2.connections)
    {socket : SocketObservation} (hid : e.identity = socketIdentity socket)
    (howner : socket.owningPid = none) (honly : OnlyTuple s.2 (socketTuple socket) e)
    (now : ℕ) (process : Option ProcessIdentity) (direction : ConnectionDirection)
    (allowNew : Bool) (origin : ConnectionObservationOrigin) :
    Triple F (· = s) (observeSocket cfg now process socket direction allowNew origin)
      (fun x s' => x = some ⟨e.tracked.connectionId, false, false, false, direction⟩ ∧
        ⟨e.identity, e.tracked.observed socket.transport⟩ ∈ s'.2.connections ∧
        Recorded cfg e.tracked socket.transport s'.1)
      fun x _ => F x := by
  unfold observeSocket
  refine bind tracker_triple fun tr => start fun s' htr => ?_
  rw [htr.1, htr.2, ← hid, find_of_mem he]
  -- the tuple is that of no other connection
  have hmatch : (s.2.uniqueActiveCorrelationMatch (socketKey socket process)).any
      (· ≠ e.identity) = false := by
    have hkey : socketKey socket process = socketTuple socket := by
      unfold socketKey
      rw [howner]
    rw [hkey]
    cases hk : s.2.uniqueActiveCorrelationMatch (socketTuple socket) with
    | none => rfl
    | some k =>
      obtain ⟨hmem, htracked⟩ := uniqueActive_eq_some hk
      have hk : k = e.identity := honly (_, k) hmem rfl htracked
      simp [hk]
  simp only [hmatch]
  refine ((sampleConnection_triple (hsound.held he) socket direction).here
    (.refl he)).weaken ?_ fun _ _ h => h.1
  rintro x s' ⟨rfl, hs, hrec⟩
  exact ⟨rfl, hs.mem, hrec⟩

lemma records_call (hsound : Sound s) (hkeyed : Keyed s) (a : Call × Oracle Text) :
    Records cfg s a := by
  obtain ⟨call, o⟩ := a
  cases call with
  | observeSocket now process socket direction allowNew origin =>
    intro howner hvalid e he r hr hid hcookie honly
    have hident : e.identity = socketIdentity socket := by
      rw [hkeyed e he r hr hid (hcookie ▸ hvalid), hcookie]
      exact (if_pos hvalid).symm
    have hfails : ∀ n x, (o.map StoreError.failed).fails n = some x →
        ∃ n y, o.fails n = some y ∧ x.error = .failed y.error := by
      intro n x hx
      obtain ⟨y, hy, rfl⟩ := Option.map_eq_some_iff.mp hx
      exact ⟨n, y, hy, rfl⟩
    have htriple : Triple (fun x => ∃ n y, o.fails n = some y ∧ x = .failed y.error) (· = s)
        ((Call.observeSocket now process socket direction allowNew origin).program cfg)
        (fun x s' => x = .admission (some ⟨e.tracked.connectionId, false, false, false,
            direction⟩) ∧ ⟨e.identity, e.tracked.observed socket.transport⟩ ∈ s'.2.connections ∧
          Recorded cfg e.tracked socket.transport s'.1)
        fun x _ => ∃ n y, o.fails n = some y ∧ x = .failed y.error :=
      bind (observeSocket_own_triple hsound he hident howner honly now process direction
        allowNew origin) fun x => pure fun s' hs' => ⟨congrArg _ hs'.1, hs'.2⟩
    rcases htriple.exec hfails rfl with ⟨y, hy, rfl, hs'⟩ | ⟨x, hx, n, y, hn, rfl⟩
    · exact .inl ⟨hy, hs'⟩
    · exact .inr ⟨n, y, hn, hx⟩
  | _ => trivial

lemma Admitted.apart {ev : Evidence} {s' : World} {id : ℕ} (h : Admitted ev s id s')
    (hev : ev.Faithful) (hkeyed : Keyed s) {r' : Connection} (hr' : r' ∈ s'.1.connections)
    (hid' : r'.id = id) {e : Entry} (he : e ∈ s.2.connections) {r : Connection}
    (hr : r ∈ s.1.connections) (hid : r.id = e.tracked.connectionId)
    (hvalid : validCookie r.socketCookie) : r'.socketCookie ≠ r.socketCookie := by
  obtain ⟨t, key, hb, hfree, -⟩ := h
  intro heq
  have hraw : r.socketCookie = ev.raw := by
    rcases hb.back r' hr' with hold | ⟨-, -, hraw⟩
    · exact absurd hid' (hb.fresh r' hold)
    · exact heq.symm.trans hraw
  -- the connection is tracked under its cookie, which the new one would have had to be
  cases hcookie : ev.cookie with
  | none => rw [hraw, hev.raw hcookie] at hvalid; cases hvalid
  | some v =>
    obtain ⟨hv, hrawv, -⟩ := hev.cookie v hcookie
    refine find_eq_none.mp hfree e he ?_
    rw [hkeyed e he r hr hid hvalid, hv, hraw, hrawv]

lemma admitsApart_call (hsound : Sound s) (hkeyed : Keyed s) (a : Call × Oracle Text) :
    AdmitsApart cfg s a := by
  obtain ⟨call, o⟩ := a
  intro x hx hnew r' hr' hid' e he r hr hid hvalid
  obtain ⟨y, hy, hanswers⟩ | ⟨e, he, -⟩ := call.exec_cases cfg o hsound
  swap
  · cases hx.symm.trans he
  cases hx.symm.trans hy
  have happart : ∀ {ev : Evidence}, ev.Faithful →
      Returns ev s (some x) (call.exec cfg o s).2 → r'.socketCookie ≠ r.socketCookie := by
    intro ev hev hret
    cases hret with
    | kept | dropped => cases hnew
    | admitted direction h => exact h.apart hev hkeyed hr' hid' he hr hid hvalid
  cases call with
  | observeLifecycle now event =>
    obtain ⟨z, hz, hret⟩ := hanswers
    cases hz
    exact happart (eventEvidence_faithful s.2 event) hret
  | observeSocket now process socket =>
    obtain ⟨z, hz, hret⟩ := hanswers
    cases hz
    exact happart (socketEvidence_faithful s.2 socket process) hret
  | beginSnapshot | endSnapshot | finishObservation => exact absurd rfl (hanswers.1 _)

end

/-- **A cookie stays with its connection.** While no lifecycle event without a cookie moves a
connection that has one, other than to close it, every snapshot with the cookie of a tracked
connection is recorded for that connection, and no other one is admitted with its cookie. -/
theorem cookie_stays_with_connection (cfg : Config) {s : World} (hs : Started s)
    (w : List (Call × Oracle Text)) (hw : Along (step cfg) CookiesStay s w) :
    Along (step cfg) (fun s a => Records cfg s a ∧ AdmitsApart cfg s a) s w := by
  refine along_of_inv (I := fun s => Sound s ∧ Keyed s) (fun s a hI ha => ?_)
    ⟨hs.sound, fun e he => absurd he (hs.not_tracked e)⟩ hw
  have hleaves := a.1.exec_leaves cfg a.2 hI.1
  exact ⟨⟨hleaves.sound hI.1, keyed_step cfg hI.1 hI.2 ha⟩, records_call hI.1 hI.2 a,
    admitsApart_call hI.1 hI.2 a⟩

/-- The connection with cookie 7 is sampled after an event of another tuple and one of its
own, and it is closed by an event without a cookie. -/
def oneSocket : List (Call × Oracle Text) :=
  [snapshotOf 7 1 0, eventOf .accept none 2, eventOf .connect (some 7) 1, snapshotOf 7 1 1,
    eventOf .close none 1].map (·, steady)

theorem cookie_stays_with_connection_oneSocket :
    Started (.initial, .initial) ∧
      Along (step plain) CookiesStay (.initial, .initial) oneSocket ∧
      (run (step plain) (.initial, .initial) oneSocket).1.transportSamples.rows.map
        (fun x => (x.connectionId, x.snapshot.totalRetrans)) = [(1, 0), (1, 1)] ∧
      Along (step plain) (fun s a => Records plain s a ∧ AdmitsApart plain s a)
        (.initial, .initial) oneSocket := by
  have hstarted : Started (.initial, .initial) := ⟨rfl, rfl⟩
  have hstay : Along (step plain) CookiesStay (.initial, .initial) oneSocket := by
    refine ⟨trivial, fun _ e he hcorr => absurd hcorr ?_, fun h => absurd h (by decide), trivial,
      fun _ _ _ _ _ => ⟨rfl, fun _ => rfl⟩, trivial⟩
    revert e
    decide +kernel
  exact ⟨hstarted, hstay, by decide +kernel,
    cookie_stays_with_connection plain hstarted oneSocket hstay⟩

/-- An event without a cookie moves the connection with cookie 7 to an identity of its own. The
next snapshot of it is ignored, and a snapshot with cookie 7 and another tuple is admitted as a
second connection with that cookie. -/
theorem cookie_leaves_connection :
    let s := run (step plain) (.initial, .initial)
      [(snapshotOf 7 1 0, steady), (eventOf .accept none 1, steady)]
    let s' := step plain s (snapshotOf 7 2 0, steady)
    s.2.connections.rows.map (·.tracked.connectionId) = [1] ∧
      s.1.connections.rows.map (fun r => (r.id, r.socketCookie)) = [(1, 7)] ∧
      ((snapshotOf 7 1 1).exec plain steady s).1.toOption = some (.admission none) ∧
      s'.2.connections.rows.map (·.tracked.connectionId) = [1, 2] ∧
      s'.1.connections.rows.map (fun r => (r.id, r.socketCookie)) = [(1, 7), (2, 7)] := by
  refine ⟨?_, ?_, ?_, ?_, ?_⟩ <;> decide +kernel

end NetaAgent.ConnectionTracker
