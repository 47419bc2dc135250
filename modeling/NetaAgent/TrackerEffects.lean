import NetaAgent.ConnectionTracker
import NetaAgent.HistoryEffects

/-!
What a call of the tracker can do to the store and to the tracked connections, said once for
all of them, whether it returns or throws.

An observation belongs to one tracked connection, or to none. A call for a tracked connection
writes on that connection only and may give it another identity (`Serving`); it leaves it
tracked or drops it (`Served`). A call for a new connection begins one and tracks it, and a
throw in between leaves a row that is not tracked.
-/

namespace NetaAgent.ConnectionTracker

open Decimal Crypto Sql Observation HistoryStore List Option Table Triple

/-! ### The maps -/

namespace Tracker

variable {tr : Tracker} {k : Text} {t : TrackedConnection}

lemma find_eq_some : tr.find k = some t ↔ ⟨k, t⟩ ∈ tr.connections := by
  unfold find
  rw [map_eq_some_iff]
  constructor
  · rintro ⟨e, he, rfl⟩
    obtain ⟨hmem, rfl⟩ := find_eq_some.mp he
    exact hmem
  · intro h
    exact ⟨⟨k, t⟩, Table.find_eq_some.mpr ⟨h, rfl⟩, rfl⟩

variable {e : Entry}

lemma find_of_mem (h : e ∈ tr.connections) : tr.find e.identity = some e.tracked :=
  find_eq_some.mpr h

lemma find_eq_none : tr.find k = none ↔ ∀ e ∈ tr.connections, e.identity ≠ k := by
  rw [find, map_eq_none_iff, Table.find_eq_none]

lemma exists_of_find_isSome (h : (tr.find k).isSome) : ∃ t, ⟨k, t⟩ ∈ tr.connections := by
  obtain ⟨t, ht⟩ := isSome_iff_exists.mp h
  exact ⟨t, find_eq_some.mp ht⟩

lemma mem_put : e ∈ (tr.put k t).connections ↔
    e ∈ tr.connections ∧ e.identity ≠ k ∨ e = ⟨k, t⟩ ∧ ∃ e' ∈ tr.connections, e'.identity = k := by
  unfold put
  simp only [mem_update, decide_eq_true_eq]
  constructor
  · rintro ⟨a, ha, rfl⟩
    by_cases hk : a.identity = k
    · rw [if_pos hk]
      exact .inr ⟨by rw [hk], a, ha, hk⟩
    · rw [if_neg hk]
      exact .inl ⟨ha, hk⟩
  · rintro (⟨he, hk⟩ | ⟨rfl, a, ha, rfl⟩)
    · exact ⟨e, he, if_neg hk⟩
    · exact ⟨a, ha, if_pos rfl⟩

@[simp] lemma connections_removeCorrelationIdentity :
    (tr.removeCorrelationIdentity k).connections = tr.connections := by
  unfold removeCorrelationIdentity
  split <;> rfl

@[simp] lemma mem_drop : e ∈ (tr.drop k).connections ↔ e ∈ tr.connections ∧ e.identity ≠ k := by
  simp [drop]

variable {c key : Text}

lemma mem_track (h : tr.find k = none) :
    e ∈ (tr.track k t key).connections ↔ e ∈ tr.connections ∨ e = ⟨k, t⟩ := by
  obtain ⟨u, hu⟩ := exists_insert (a := (⟨k, t⟩ : Entry)) (map_eq_none_iff.mp h)
  unfold track indexCorrelation
  rw [hu]
  exact mem_insert hu

@[simp] lemma connections_moveCorrelation :
    (tr.moveCorrelation k c).connections = tr.connections := by
  unfold moveCorrelation
  split <;> rfl

lemma rekeyIdentity_spec (hne : k ≠ c) (ht : tr.find k = some t)
    (hc : tr.find c = none) : (tr.rekeyIdentity k c).1 = true ∧
      ∀ e, e ∈ (tr.rekeyIdentity k c).2.connections ↔
        e ∈ tr.connections ∧ e.identity ≠ k ∨ e = ⟨c, t⟩ := by
  unfold rekeyIdentity
  rw [if_neg hne, hc, ht]
  refine ⟨rfl, fun e => ?_⟩
  have hfree := find_eq_none.mp hc
  have : e ∈ tr.connections → e.identity ≠ c := hfree e
  simp only [isSome_none, Bool.false_eq_true, if_false, connections_moveCorrelation,
    moveEntry, mem_replace, mem_delete, decide_eq_false_iff_not]
  tauto

lemma uniqueMatch_eq_some {found : Option Text} {l : List Text}
    (h : tr.uniqueMatch found l = some k) : found = some k ∨ k ∈ l ∧ (tr.find k).isSome := by
  induction l generalizing found with
  | nil => exact .inl h
  | cons i l ih =>
    unfold uniqueMatch at h
    split at h
    · exact (ih h).imp_right fun ⟨hk, ht⟩ => ⟨mem_cons_of_mem i hk, ht⟩
    · next htracked =>
      split at h
      · cases h
      · rcases ih h with hi | ⟨hk, ht⟩
        · cases hi
          exact .inr ⟨mem_cons_self, isSome_iff_ne_none.mpr (by simpa using htracked)⟩
        · exact .inr ⟨mem_cons_of_mem i hk, ht⟩

lemma uniqueActive_eq_some (h : tr.uniqueActiveCorrelationMatch key = some k) :
    (key, k) ∈ tr.correlationIndex ∧ (tr.find k).isSome := by
  rcases uniqueMatch_eq_some h with h | ⟨hk, ht⟩
  · cases h
  · obtain ⟨p, hp, rfl⟩ := mem_map.mp hk
    obtain ⟨hp, hkey⟩ := mem_filter.mp hp
    rw [← of_decide_eq_true hkey]
    exact ⟨hp, ht⟩

variable {event : ConnectionLifecycleEvent} {identity : Text}

section

variable (h : tr.eventMatch event identity = some k)
include h

lemma eventMatch_eq_some :
    k = identity ∧ (tr.find identity).isSome ∨
    tr.find identity = none ∧ ∃ a b, event.localEndpoint = some a ∧ event.remoteEndpoint = some b ∧
      (tr.uniqueActiveCorrelationMatch (eventKey event a b) = some k ∧
          (event.type = .close ∨ (tr.find k).any (·.origin.snapshotOwned)) ∨
        tr.uniqueActiveCorrelationMatch (eventKey event a b) = none ∧
          tr.uniqueActiveCorrelationMatch (eventKey event b a) = some k ∧ event.type = .close) := by
  unfold eventMatch at h
  split at h
  · next ht =>
    cases h
    exact .inl ⟨rfl, ht⟩
  · next ht =>
    refine .inr ⟨by simpa using ht, ?_⟩
    split at h
    · next a b ha hb =>
      refine ⟨a, b, ha, hb, ?_⟩
      split at h
      · next k' hk' =>
        cases h
        obtain ⟨hk', hp⟩ := filter_eq_some_iff.mp hk'
        exact .inl ⟨hk', by simpa using hp⟩
      · next hnone =>
        split at h
        · next hclose =>
          refine .inr ⟨eq_none_iff_forall_ne_some.mpr fun k' hk' => ?_, h, hclose⟩
          exact absurd hnone (by simp [hk', hclose])
        · cases h
    · cases h

lemma tracked_of_eventMatch : (tr.find k).isSome := by
  rcases eventMatch_eq_some h with ⟨rfl, ht⟩ | ⟨-, a, b, -, -, ⟨hk, -⟩ | ⟨-, hk, -⟩⟩
  · exact ht
  · exact (uniqueActive_eq_some hk).2
  · exact (uniqueActive_eq_some hk).2

lemma free_of_eventMatch : k = identity ∨ tr.find identity = none :=
  (eventMatch_eq_some h).imp And.left And.left

end

lemma free_of_eventMatch_none
    (h : tr.eventMatch event identity = none) : tr.find identity = none := by
  unfold eventMatch at h
  split at h
  · cases h
  · next ht => simpa using ht

end Tracker

/-! ### A call for a tracked connection -/

abbrev World := Store × Tracker

/-- Since `s₀` the connection of the entry `e₀` was served, and nothing else: its entry is now
`e`, and its row has the cookie `c` or the one it had. -/
structure Serving (s₀ : World) (e₀ : Entry) (c : Option ℕ) (e : Entry) (s : World) : Prop where
  entries : ∀ x, x ∈ s.2.connections ↔ x ∈ s₀.2.connections ∧ x.identity ≠ e₀.identity ∨ x = e
  connectionId : e.tracked.connectionId = e₀.tracked.connectionId
  serial : e.tracked.serial = e₀.tracked.serial
  free : e.identity = e₀.identity ∨ s₀.2.find e.identity = none
  writes : Writes e₀.tracked.connectionId c s₀.1 s.1

/-- The identity `key` and the cookie change `c` of a connection after an observation with
this identity and this valid cookie. Only a `lenient` observation is stored for a connection
that cannot take its cookie, or moves the connection to an identity without a cookie. -/
def Adopts (lenient : Prop) (identity : Text) (cookie : Option ℕ) (e₀ : Entry) (c : Option ℕ)
    (key : Text) : Prop :=
  key = e₀.identity ∧ c = none ∧ (lenient ∨ cookie = none ∨ e₀.identity = identity) ∨
    key = identity ∧ c = cookie ∧ (lenient ∨ cookie ≠ none)

section
variable {F : StoreError → Prop} {s₀ s : World} {e₀ e : Entry} {c : Option ℕ}

lemma Serving.refl (h : e₀ ∈ s₀.2.connections) : Serving s₀ e₀ none e₀ s₀ where
  entries x := by
    constructor
    · intro hx
      by_cases hi : x.identity = e₀.identity
      · exact .inr (eq_of_key_eq hx h hi)
      · exact .inl ⟨hx, hi⟩
    · rintro (⟨hx, -⟩ | rfl)
      exacts [hx, h]
  connectionId := rfl
  serial := rfl
  free := .inl rfl
  writes := .refl _ _

section

variable (h : Serving s₀ e₀ c e s)
include h

lemma Serving.mem : e ∈ s.2.connections := (h.entries e).mpr (.inr rfl)

lemma Serving.find : s.2.find e.identity = some e.tracked := Tracker.find_of_mem h.mem

lemma Serving.write {db : Store}
    (hw : Writes e₀.tracked.connectionId none s.1 db) : Serving s₀ e₀ c e (db, s.2) :=
  { h with writes := h.writes.trans hw }

lemma Serving.other_ne {x : Entry} (hx : x ∈ s₀.2.connections)
    (hne : x.identity ≠ e₀.identity) : x.identity ≠ e.identity := by
  rcases h.free with hfree | hfree
  · rwa [hfree]
  · exact Tracker.find_eq_none.mp hfree x hx

lemma Serving.put {t : TrackedConnection}
    (hid : t.connectionId = e₀.tracked.connectionId) (hserial : t.serial = e₀.tracked.serial) :
    Serving s₀ e₀ c ⟨e.identity, t⟩ (s.1, s.2.put e.identity t) where
  entries x := by
    rw [Tracker.mem_put, h.entries]
    constructor
    · rintro (⟨hx | rfl, hne⟩ | ⟨rfl, -⟩)
      · exact .inl hx
      · exact absurd rfl hne
      · exact .inr rfl
    · rintro (hx | rfl)
      · exact .inl ⟨.inl hx, h.other_ne hx.1 hx.2⟩
      · exact .inr ⟨rfl, e, h.mem, rfl⟩
  connectionId := hid
  serial := hserial
  free := h.free
  writes := h.writes

lemma Serving.mem_drop {x : Entry} :
    x ∈ (s.2.drop e.identity).connections ↔ x ∈ s₀.2.connections ∧ x.identity ≠ e₀.identity := by
  rw [Tracker.mem_drop, h.entries]
  constructor
  · rintro ⟨hx | rfl, hne⟩
    · exact hx
    · exact absurd rfl hne
  · exact fun hx => ⟨.inl hx, h.other_ne hx.1 hx.2⟩

lemma Serving.held (hheld : s₀.1.Held e₀.tracked.connectionId) :
    s.1.Held e.tracked.connectionId := h.connectionId ▸ hheld.writes h.writes

end

lemma Serving.onDb {α : Type} {m : StoreM α} (hm : OnlyWrites e.tracked.connectionId m)
    (hheld : s₀.1.Held e₀.tracked.connectionId) :
    Triple F (Serving s₀ e₀ c e) (onDb m) (fun _ => Serving s₀ e₀ c e)
      fun x s => F x ∧ Serving s₀ e₀ c e s := by
  refine Triple.onDb fun tr => Triple.start fun db hs => ?_
  refine (hm F db (hs.held hheld)).weaken ?_ ?_
  · intro _ d hw
    exact hs.write (hs.connectionId ▸ hw)
  · rintro x _ ⟨hx, rfl⟩
    exact ⟨hx, hs⟩

variable {E : StoreError → World → Prop}

lemma Serving.setPut {t : TrackedConnection}
    (hid : t.connectionId = e.tracked.connectionId) (hserial : t.serial = e.tracked.serial) :
    Triple F (Serving s₀ e₀ c e) (setTracker (·.put e.identity t))
      (fun _ => Serving s₀ e₀ c ⟨e.identity, t⟩) E :=
  assign fun _ hs => hs.put (hid.trans hs.connectionId) (hserial.trans hs.serial)

lemma Serving.tracker :
    Triple F (Serving s₀ e₀ c e) tracker
      (fun tr s => tr.find e.identity = some e.tracked ∧ Serving s₀ e₀ c e s) E :=
  bind (state (Q := fun a s => a = s ∧ Serving s₀ e₀ c e s)
    fun _ hs => ⟨rfl, hs⟩) fun _ => pure fun _ ⟨ha, hs⟩ => ⟨ha ▸ hs.find, hs⟩

/-! ### Identities -/

lemma tracker_triple : Triple F (· = s₀) tracker (fun tr s => tr = s₀.2 ∧ s = s₀) E :=
  bind (state (Q := fun a s => a = s₀ ∧ s = s₀) fun _ hs => ⟨hs, hs⟩)
    fun _ => pure fun _ ⟨ha, hs⟩ => ⟨by rw [ha], hs⟩

variable {previous canonical : Text}

lemma rekeyIdentity_triple :
    Triple F (· = s₀) (rekeyIdentity previous canonical)
      (fun b s => b = (s₀.2.rekeyIdentity previous canonical).1 ∧
        s = (s₀.1, (s₀.2.rekeyIdentity previous canonical).2)) E := by
  refine bind tracker_triple fun tr => start ?_
  rintro _ ⟨rfl, rfl⟩
  exact bind (assign (Q := fun _ s => s = (_, _)) (by rintro _ rfl; rfl))
    fun _ => pure fun _ hs => ⟨rfl, hs⟩

section

variable (he : e₀ ∈ s₀.2.connections)
include he

lemma Serving.rekey
    (hne : e₀.identity ≠ canonical) (hfree : s₀.2.find canonical = none) {db : Store}
    (hw : Writes e₀.tracked.connectionId c s₀.1 db) :
    Serving s₀ e₀ c ⟨canonical, e₀.tracked⟩ (db, (s₀.2.rekeyIdentity e₀.identity canonical).2) where
  entries := (Tracker.rekeyIdentity_spec hne (Tracker.find_of_mem he) hfree).2
  connectionId := rfl
  serial := rfl
  free := .inr hfree
  writes := hw

/-- The promotion to a cookie moves the entry and sets the cookie of its row, which is 0, or
does nothing. -/
lemma promoteSocketCookieIdentity_triple {v : ℕ} (hne : e₀.identity ≠ canonical)
    (hfree : s₀.2.find canonical = none) :
    Triple F (· = s₀) (promoteSocketCookieIdentity e₀.identity canonical v)
      (fun b s => if b then Serving s₀ e₀ (some v) ⟨canonical, e₀.tracked⟩ s else s = s₀)
      fun x s => F x ∧ s = s₀ := by
  unfold promoteSocketCookieIdentity
  refine Triple.bind tracker_triple fun tr => Triple.start fun s hs => ?_
  rw [hs.1, hs.2, Tracker.find_of_mem he]
  refine Triple.bind (Q := fun b s' => s'.2 = s₀.2 ∧
    if b then Writes e₀.tracked.connectionId (some v) s₀.1 s'.1 else s'.1 = s₀.1) ?_ fun b => ?_
  · refine Triple.onDb fun tr => Triple.start fun db hdb => ?_
    obtain ⟨rfl, rfl⟩ : db = s₀.1 ∧ tr = s₀.2 := Prod.ext_iff.mp hdb
    refine (updateSocketCookie_triple F _ e₀.tracked.connectionId v).weaken ?_ ?_
    · intro b d hd
      refine ⟨rfl, ?_⟩
      cases b
      · exact hd.1
      · exact hd
    · rintro x _ ⟨hx, rfl⟩
      exact ⟨hx, rfl⟩
  refine Triple.start fun s' hs' => ?_
  cases b
  · exact Triple.pure fun s hs => hs ▸ Prod.ext hs'.2 hs'.1
  · refine rekeyIdentity_triple.weaken ?_ fun _ _ h => h
    rintro b s ⟨rfl, rfl⟩
    rw [hs'.1, (Tracker.rekeyIdentity_spec hne (Tracker.find_of_mem he) hfree).1]
    exact Serving.rekey he hne hfree hs'.2

lemma adoptIdentity_triple {identity : Text} {cookie : Option ℕ}
    (hfree : e₀.identity = identity ∨ s₀.2.find identity = none) :
    Triple F (· = s₀) (adoptIdentity e₀.identity identity cookie)
      (fun key s => ∃ c, Adopts True identity cookie e₀ c key ∧ Serving s₀ e₀ c ⟨key, e₀.tracked⟩ s)
      fun x s => F x ∧ s = s₀ := by
  unfold adoptIdentity
  split
  · refine Triple.pure fun s hs => ⟨none, .inl ⟨rfl, rfl, .inl trivial⟩, ?_⟩
    rw [hs]
    exact .refl he
  next hne =>
  have hfree := hfree.resolve_left hne
  refine Triple.bind (Q := fun b s =>
    if b then Serving s₀ e₀ cookie ⟨identity, e₀.tracked⟩ s else s = s₀) ?_ fun b => ?_
  · cases cookie with
    | some v => exact promoteSocketCookieIdentity_triple he hne hfree
    | none =>
      refine rekeyIdentity_triple.weaken ?_ fun _ _ h => h
      rintro b s ⟨rfl, rfl⟩
      rw [(Tracker.rekeyIdentity_spec hne (Tracker.find_of_mem he) hfree).1]
      exact Serving.rekey he hne hfree (.refl _ _)
  · refine Triple.pure fun s hs => ?_
    cases b
    · rw [show s = s₀ from hs]
      exact ⟨none, .inl ⟨rfl, rfl, .inl trivial⟩, .refl he⟩
    · exact ⟨cookie, .inr ⟨rfl, rfl, .inl trivial⟩, hs⟩

end

end

end NetaAgent.ConnectionTracker
