import NetaAgent.Run
import NetaAgent.TrackerInvariants

/-!
The tracker as a system of calls. A call is given, beside its arguments, what the clock, the
process resolver and the order of the maps are, and which of its statements fail; a failure
of SQLite is a message, so that a foreign key can only fail on the rows.
-/

namespace NetaAgent.ConnectionTracker

open Decimal Crypto Sql Observation HistoryStore Triple

inductive Call where
  | observeLifecycle (now : ℕ) (event : ConnectionLifecycleEvent)
      (direction : ConnectionDirection)
  | observeSocket (now : ℕ) (process : Option ProcessIdentity) (socket : SocketObservation)
      (direction : ConnectionDirection) (allowNewConnection : Bool)
      (origin : ConnectionObservationOrigin)
  | beginSnapshot
  | endSnapshot (order : List Text) (pollingControlsLifecycle lifecycleEvidenceIncomplete : Bool)
  | finishObservation (order : List Text) (pollingControlsLifecycle : Bool)

inductive Result where
  | admission (a : Option ConnectionAdmission)
  | inactive (ids : List ℕ)
  | done
  deriving DecidableEq

section
variable (cfg : Config)

def Call.program : Call → TrackerM Result
  | .observeLifecycle now event direction => do
    return .admission (← ConnectionTracker.observeLifecycle cfg now event direction)
  | .observeSocket now process socket direction allowNew origin => do
    return .admission
      (← ConnectionTracker.observeSocket cfg now process socket direction allowNew origin)
  | .beginSnapshot => do
    ConnectionTracker.beginSnapshot
    return .done
  | .endSnapshot order polling incomplete => do
    return .inactive (← ConnectionTracker.endSnapshot order polling incomplete)
  | .finishObservation order polling => do
    ConnectionTracker.finishObservation order polling
    return .done

def Call.exec (call : Call) (o : Oracle Text) (s : World) : Except StoreError Result × World :=
  Sql.exec (call.program cfg) (o.map .failed) s

end

def Call.Leaves (s : World) : Call → World → Prop
  | .observeLifecycle _ event _, s' => Effect (eventEvidence s.2 event) s s'
  | .observeSocket _ process socket _ _ _, s' => Effect (socketEvidence s.2 socket process) s s'
  | .beginSnapshot, s' => s' = (s.1, unmarked s.2)
  | .endSnapshot _ _ _, s' => Sweep s s'
  | .finishObservation _ _, s' => Sweep s s'

/-- What a call leaves that returns `r`. -/
def Call.Answers (s : World) : Call → Result → World → Prop
  | .observeLifecycle _ event _, r, s' =>
    ∃ a, r = .admission a ∧ Returns (eventEvidence s.2 event) s a s'
  | .observeSocket _ process socket _ _ _, r, s' =>
    ∃ a, r = .admission a ∧ Returns (socketEvidence s.2 socket process) s a s'
  | call, r, s' => (∀ a, r ≠ .admission a) ∧ call.Leaves s s'

variable {s s' : World}

lemma Call.Answers.leaves {r : Result} {call : Call} (h : call.Answers s r s') :
    call.Leaves s s' := by
  cases call with
  | observeLifecycle | observeSocket =>
    obtain ⟨a, -, h⟩ := h
    exact h.effect
  | beginSnapshot | endSnapshot | finishObservation => exact h.2

lemma beginSnapshot_triple {F : StoreError → Prop} {E : StoreError → World → Prop} :
    Triple F (· = s) beginSnapshot (fun _ s' => s' = (s.1, unmarked s.2)) E := by
  unfold beginSnapshot setTracker
  refine assign ?_
  rintro _ rfl
  rfl

variable (cfg : Config) (call : Call)

/-- **What every call of the tracker does.** -/
theorem Call.triple (F : StoreError → Prop) (hs : Sound s) :
    Triple F (· = s) (call.program cfg) (fun r s' => call.Answers s r s')
      fun x s' => F x ∧ call.Leaves s s' := by
  cases call with
  | observeLifecycle now event direction =>
    exact bind ((observeLifecycle_triple cfg hs now direction).relax
      fun _ _ h => ⟨h.1, h.2.effect⟩) fun a => pure fun _ h => ⟨a, rfl, h⟩
  | observeSocket now process socket direction allowNew origin =>
    exact bind ((observeSocket_triple cfg hs now direction allowNew origin).relax
      fun _ _ h => ⟨h.1, h.2.effect⟩) fun a =>
        pure fun _ h => ⟨a, rfl, h⟩
  | beginSnapshot =>
    exact bind beginSnapshot_triple fun _ => pure fun _ h => ⟨nofun, h⟩
  | endSnapshot order polling incomplete =>
    exact bind (endSnapshot_triple hs order polling incomplete) fun _ =>
      pure fun _ h => ⟨nofun, h⟩
  | finishObservation order polling =>
    exact bind (finishObservation_triple hs order polling) fun _ =>
      pure fun _ h => ⟨nofun, h⟩

/-- An error that one of the statements threw. -/
def Threw (o : Oracle Text) (e : StoreError) : Prop :=
  ∃ n x, o.fails n = some x ∧ e = .failed x.error

lemma threw_of_fails {o : Oracle Text} (n : ℕ) (x : Failure StoreError)
    (h : (o.map StoreError.failed).fails n = some x) : Threw o x.error := by
  obtain ⟨y, hy, rfl⟩ := Option.map_eq_some_iff.mp h
  exact ⟨n, y, hy, rfl⟩

theorem Call.exec_cases (o : Oracle Text) (hs : Sound s) :
    (∃ r, (call.exec cfg o s).1 = .ok r ∧ call.Answers s r (call.exec cfg o s).2) ∨
      ∃ e, (call.exec cfg o s).1 = .error e ∧ Threw o e ∧
        call.Leaves s (call.exec cfg o s).2 :=
  (call.triple cfg (Threw o) hs).exec threw_of_fails rfl

lemma Call.exec_leaves (o : Oracle Text) (hs : Sound s) : call.Leaves s (call.exec cfg o s).2 := by
  rcases call.exec_cases cfg o hs with ⟨r, -, h⟩ | ⟨e, -, -, h⟩
  · exact h.leaves
  · exact h

theorem Call.exec_ok {o : Oracle Text} (hs : Sound s) (ho : ∀ n, o.fails n = none) :
    ∃ r, (call.exec cfg o s).1 = .ok r ∧ call.Answers s r (call.exec cfg o s).2 := by
  have hnever : ∀ n x, (o.map StoreError.failed).fails n = some x → False := by
    intro n x h
    simp [Oracle.map, ho n] at h
  rcases (call.triple cfg (fun _ => False) hs).exec hnever rfl with h | ⟨e, -, hfalse, -⟩
  · exact h
  · exact hfalse.elim

/-! ### What every call keeps -/

/-- A store that was just opened, and a tracker of it. -/
def Started (s : World) : Prop := s.1.pendingTls = none ∧ s.2 = .initial

lemma Started.not_tracked (h : Started s) (e : Entry) : e ∉ s.2.connections := by
  rw [h.2]
  exact Table.not_mem_empty e

lemma Started.sound (h : Started s) : Sound s where
  rows e he := absurd he (h.not_tracked e)
  distinct e he := absurd he (h.not_tracked e)
  pending p hp := by
    rw [h.1] at hp
    cases hp

lemma Started.named (h : Started s) : Named s :=
  fun e he => absurd he (h.not_tracked e)

lemma mem_unmarked {tr : Tracker} {e : Entry} : e ∈ (unmarked tr).connections ↔
    ∃ e' ∈ tr.connections,
      (⟨e'.identity, { e'.tracked with presentInSnapshot := false }⟩ : Entry) = e := by
  unfold unmarked
  simp [Table.mem_update]

lemma Sound.unmarked (h : Sound s) : Sound (s.1, unmarked s.2) where
  rows e he := by
    obtain ⟨e', he', rfl⟩ := mem_unmarked.mp he
    exact h.rows e' he'
  distinct e he e' he' heq := by
    obtain ⟨x, hx, rfl⟩ := mem_unmarked.mp he
    obtain ⟨y, hy, rfl⟩ := mem_unmarked.mp he'
    rw [h.distinct x hx y hy heq]
  pending := h.pending

lemma Named.unmarked (h : Named s) : Named (s.1, unmarked s.2) := by
  intro e he v hv
  obtain ⟨e', he', rfl⟩ := mem_unmarked.mp he
  exact h e' he' v hv

theorem Call.Leaves.sound {call : Call} (h : call.Leaves s s') (hs : Sound s) : Sound s' := by
  cases call with
  | observeLifecycle | observeSocket => exact Effect.sound h hs
  | beginSnapshot => exact (show s' = _ from h) ▸ hs.unmarked
  | endSnapshot | finishObservation => exact Sweep.sound h hs

theorem Call.Leaves.named {call : Call} (h : call.Leaves s s') (hs : Sound s)
    (hn : Named s) : Named s' := by
  cases call with
  | observeLifecycle now event =>
    exact Effect.named h (eventEvidence_faithful s.2 event) hs hn
  | observeSocket now process socket =>
    exact Effect.named h (socketEvidence_faithful s.2 socket process) hs hn
  | beginSnapshot => exact (show s' = _ from h) ▸ hn.unmarked
  | endSnapshot | finishObservation =>
    exact Sweep.keeps (fun _ _ hs hn ht => ht.named hs hn) h hs hn

/-- **No failure spoils the tracker.** Along every run of calls on a store that was just opened,
whatever statements fail, every tracked connection has its row, a call throws only what a statement
threw, and a call of which no statement fails returns. -/
theorem calls_recover (db : Store) (calls : List (Call × Oracle Text)) :
    Run.Along (fun s c => (c.1.exec cfg c.2 s).2) (fun s c => Sound s ∧
        (∀ e, (c.1.exec cfg c.2 s).1 = .error e →
          ∃ n x, c.2.fails n = some x ∧ e = .failed x.error) ∧
        ((∀ n, c.2.fails n = none) → ∃ r, (c.1.exec cfg c.2 s).1 = .ok r))
      ({ db with pendingTls := none }, .initial) calls := by
  refine Run.along_of_inv (I := Sound) (fun s c hs _ => ⟨(c.1.exec_leaves cfg c.2 hs).sound hs, hs,
    fun e he => ?_, fun ho => ?_⟩) (Started.sound ⟨rfl, rfl⟩)
    (Run.along_of_mem (Q := fun _ => True) fun _ _ => trivial)
  · rcases c.1.exec_cases cfg c.2 hs with ⟨r, hr, -⟩ | ⟨e', he', hthrew, -⟩
    · cases hr.symm.trans he
    · exact Except.error.inj (he'.symm.trans he) ▸ hthrew
  · obtain ⟨r, hr, -⟩ := c.1.exec_ok cfg hs ho
    exact ⟨r, hr⟩

/-! ### Calls of a test -/

def plain : Config := ⟨fun _ _ => 0, []⟩

def steady : Oracle Text := ⟨fun _ => none, fun _ _ => 0⟩

/-- A snapshot of a socket, with as many retransmissions. -/
def snapshotOf (cookie localPort retrans : ℕ) : Call :=
  .observeSocket 50 (some { pid := 1 })
    { socketCookie := cookie, localPort := localPort, remotePort := 443,
      endpointKind := .connection, transport := { observedNs := 10, totalRetrans := retrans } }
    .outbound true .snapshotPreexisting

def eventOf (type : ConnectionLifecycleEventType) (cookie : Option ℕ) (localPort : ℕ) : Call :=
  .observeLifecycle 60
    { type := type, timestampNs := 20, process := { agentVisible := { tgid := some 1 } },
      protocol := .tcp, endpointKind := .connection,
      localEndpoint := some ⟨[], some localPort⟩, remoteEndpoint := some ⟨[], some 443⟩,
      socketCookie := cookie }
    .outbound

end NetaAgent.ConnectionTracker
