import NetaAgent.OutboundEffects
import NetaAgent.SqlTriple

/-!
Calls of the outbox that throw.

A transaction that throws is rolled back, so `store_attempt` changes nothing wherever it throws.
`enqueue` takes a failing `SELECT` for no row. Where that failure has ended the transaction, the
statements after it are committed one by one, and the call throws at its `COMMIT` all the same:
whether it has changed something by then depends on how far they came.
-/

namespace NetaAgent.OutboundQueue

open Decimal Sql List Table

/-! ### Changes that are not undone -/

section
variable {db d d' : Database}

/-- An acknowledged row is gone, or a row was counted as dropped. -/
def Lost (db d : Database) : Prop :=
  (∃ r ∈ db.messages, r.state = .acknowledged ∧ r ∉ d.messages) ∨
    db.droppedLowPriority < d.droppedLowPriority

lemma Lost.ne (h : Lost db d) : d ≠ db := by
  rintro rfl
  rcases h with ⟨r, hr, -, hgone⟩ | hcount
  · exact hgone hr
  · exact hcount.false

lemma Lost.later (h : Lost db d)
    (hrows : ∀ r ∈ d'.messages, r.state = .acknowledged → r ∈ d.messages)
    (hcount : d.droppedLowPriority ≤ d'.droppedLowPriority) : Lost db d' :=
  h.imp (fun ⟨r, hr, hack, hgone⟩ => ⟨r, hr, hack, fun hmem => hgone (hrows r hmem hack)⟩)
    fun hlt => hlt.trans_le hcount

/-- Nothing the program does, to wherever it comes, makes up for the loss. -/
def StaysLost {α : Type} (db : Database) (m : QueueM α) : Prop :=
  Triple (fun _ => True) (Lost db) m (fun _ => Lost db) fun _ => Lost db

lemma StaysLost.ne {α : Type} {m : QueueM α} (h : StaysLost db m) (o : Oracle Text)
    {s : Session Database} (hs : Lost db s.db) : (m o s).2.db ≠ db := by
  have hleaves := h o s (fun _ _ _ => trivial) hs
  rcases hr : m o s with ⟨e | a, s'⟩ <;> rw [hr] at hleaves
  · exact hleaves.ne
  · exact hleaves.ne

lemma StaysLost.bind {α β : Type} {m : QueueM α} {k : α → QueueM β} (h : StaysLost db m)
    (hk : ∀ a, StaysLost db (k a)) : StaysLost db (m >>= k) :=
  Triple.bind (Q := fun _ => Lost db) h hk

lemma staysLost_query {α : Type} (f : Database → α) : StaysLost db (query f : QueueM α) :=
  Triple.query (fun _ h => h) fun _ _ _ h => h

lemma staysLost_modify {f : Database → Database}
    (hrows : ∀ d : Database, ∀ r ∈ (f d).messages, r.state = .acknowledged → r ∈ d.messages)
    (hcount : ∀ d : Database, d.droppedLowPriority ≤ (f d).droppedLowPriority) :
    StaysLost db (modify f : QueueM Unit) :=
  Triple.modify (fun d hd => hd.later (hrows d) (hcount d)) fun _ _ _ h => h

lemma staysLost_evictLow (maxBytes required fuel used : ℕ) :
    StaysLost db (evictLow maxBytes required fuel used) := by
  induction fuel generalizing used with
  | zero => exact Triple.throwing fun _ h => h
  | succ fuel ih =>
    unfold evictLow
    split
    · refine StaysLost.bind (Triple.statement ?_ ?_ fun _ _ _ h => h) fun changes => ?_
      · intro tie d a d' hd h
        obtain rfl : (removeLow tie d).2 = d' := by rw [Except.ok.inj h]
        unfold removeLow
        split
        · exact hd
        · exact hd.later (fun r hr _ => (mem_delete.mp hr).1) le_rfl
      · intro _ _ _ _ h
        cases h
      · split
        · exact Triple.throwing fun _ h => h
        · exact StaysLost.bind (staysLost_modify (fun _ _ hr _ => hr) fun _ => Nat.le_succ _)
            fun _ => (staysLost_query _).bind ih
    · exact Triple.pure fun _ h => h

lemma staysLost_insertNew (cfg : Config) (x : Finding) (now : ℕ) :
    StaysLost db (insertNew cfg x now) := by
  refine (staysLost_query _).bind fun value => StaysLost.bind
    (Triple.statement ?_ (fun _ _ _ h _ => h) fun _ _ _ h => h) fun _ => StaysLost.bind
      (staysLost_modify (fun _ _ hr _ => hr) fun _ => le_rfl) fun _ => Triple.pure fun _ h => h
  intro tie d u d' hd hins
  obtain ⟨messages, hinsert, rfl, -, -⟩ := insertRow_ok hins
  -- the new row is not acknowledged
  refine hd.later (fun r hr hack => ((mem_insert hinsert).mp hr).resolve_right ?_) le_rfl
  rintro rfl
  cases hack

end

/-! ### Where the rest of the call stops -/

section
variable (cfg : Config) (x : Finding) (o : Oracle Text) (n : ℕ) (db : Database)

/-- The row to be inserted has a counter, a producer key or an identifier that is taken. -/
def Clashes : Prop :=
  ∃ r ∈ db.messages.rows, r.eventCounter = db.nextEventCounter ∨
    r.producerKey = bindText x.producerKey ∨
    r.eventId = bindText (eventIdOf cfg db.nextEventCounter)

instance : Decidable (Clashes cfg x db) := inferInstanceAs (Decidable (∃ r ∈ _, _))

/-- The counter is not read, or the row is not inserted, by the statements from the `n`th on. -/
def NotInserted : Prop :=
  (o.fails n).isSome ∨ (o.fails (n + 1)).isSome ∨ Clashes cfg x db

instance : Decidable (NotInserted cfg x o n db) := inferInstanceAs (Decidable (_ ∨ _))

def fits : Bool :=
  x.payloadJson.length + 512 ≤ cfg.maxBytes &&
    usedBytes db ≤ cfg.maxBytes - (x.payloadJson.length + 512)

/-- The statements from the `n`th on stop before the first of them that changes something. -/
def Stopped : Prop :=
  if cfg.maxBytes = 0 then NotInserted cfg x o n db
  else (o.fails n).isSome ∨
    if fits cfg x db then NotInserted cfg x o (n + 1) db
    else (o.fails (n + 1)).isSome ∨ (∀ r ∈ db.messages.rows, r.state ≠ .acknowledged) ∧
      ((o.fails (n + 2)).isSome ∨ ∀ r ∈ db.messages.rows, r.evictable = false)

instance : Decidable (Stopped cfg x o n db) := by
  unfold Stopped
  infer_instance

end

section
variable {cfg : Config} {x : Finding} {now : ℕ} {o : Oracle Text} {s : Session Database}
  {db : Database} {α γ : Type}

lemma statement_of_fails {f : (ℕ → ℕ) → Database → Except Text (α × Database)}
    (h : (o.fails s.count).isSome) :
    ∃ e, statement f o s = (.error e, ⟨s.db, s.count + 1⟩) := by
  obtain ⟨failure, h⟩ := Option.isSome_iff_exists.mp h
  exact ⟨failure.error, by rw [statement, h]⟩

/-- A failing statement ends the program where it stands. -/
lemma bind_of_fails {f : (ℕ → ℕ) → Database → Except Text (α × Database)} {k : α → QueueM γ}
    (h : (o.fails s.count).isSome) : ((statement f >>= k) o s).2.db = s.db := by
  obtain ⟨e, he⟩ := statement_of_fails (f := f) h
  rw [bind_apply_error he]

lemma statement_of_steady {f : (ℕ → ℕ) → Database → Except Text (α × Database)} {a : α}
    (h : ¬ (o.fails s.count).isSome) (hf : f (o.tie s.count) s.db = .ok (a, db)) :
    statement f o s = (.ok a, ⟨db, s.count + 1⟩) := by
  rw [Option.not_isSome_iff_eq_none] at h
  simp only [statement, h, hf]

lemma insertRow_error_iff {row : Row} :
    (∃ e, insertRow row db = .error e) ↔ ∃ r ∈ db.messages.rows, r.eventCounter = row.eventCounter ∨
      r.producerKey = row.producerKey ∨ r.eventId = row.eventId := by
  constructor
  · rintro ⟨e, h⟩
    unfold insertRow at h
    split_ifs at h with hcounter hproducer
    · obtain ⟨r, hr, heq⟩ := any_eq_true.mp hcounter
      exact ⟨r, hr, .inl (by simpa using heq)⟩
    · obtain ⟨r, hr, heq⟩ := any_eq_true.mp hproducer
      exact ⟨r, hr, .inr (.inl (by simpa using heq))⟩
    · split at h
      · next hinsert =>
        obtain ⟨r, hr, heq⟩ := insert_eq_none.mp hinsert
        exact ⟨r, hr, .inr (.inr heq)⟩
      · cases h
  · rintro ⟨r, hr, h⟩
    cases hins : insertRow row db with
    | error e => exact ⟨e, rfl⟩
    | ok p =>
      obtain ⟨messages, hinsert, -, hcounter, hproducer⟩ := insertRow_ok hins
      have hkey : ¬ ∃ b ∈ db.messages, b.eventId = row.eventId := fun h =>
        Option.some_ne_none _ (hinsert.symm.trans (insert_eq_none.mpr h))
      rcases h with h | h | h
      · exact absurd h (hcounter r hr)
      · exact absurd h (hproducer r hr)
      · exact absurd ⟨r, hr, h⟩ hkey

lemma insertNew_unchanged :
    (insertNew cfg x now o s).2.db = s.db ↔ NotInserted cfg x o s.count s.db := by
  unfold insertNew NotInserted
  by_cases h0 : (o.fails s.count).isSome
  · simp only [h0, true_or, iff_true, query]
    exact bind_of_fails h0
  rw [query, bind_apply_ok (statement_of_steady h0 rfl)]
  by_cases h1 : (o.fails (s.count + 1)).isSome
  · simp only [h1, true_or, or_true, iff_true]
    exact bind_of_fails h1
  simp only [h0, h1]
  have hclash : Clashes cfg x s.db ↔
      ∃ e, insertRow (x.toRow cfg s.db.nextEventCounter now) s.db = .error e :=
    (@insertRow_error_iff s.db (x.toRow cfg s.db.nextEventCounter now)).symm
  rw [hclash]
  cases hins : insertRow (x.toRow cfg s.db.nextEventCounter now) s.db with
  | error e =>
    have hrefused : statement (fun _ => insertRow (x.toRow cfg s.db.nextEventCounter now)) o
        ⟨s.db, s.count + 1⟩ = (.error e, ⟨s.db, s.count + 2⟩) := by
      rw [Option.not_isSome_iff_eq_none] at h1
      simp only [statement, h1, hins]
    rw [bind_apply_error hrefused]
    simp
  | ok p =>
    obtain ⟨messages, hinsert, hdb, -⟩ := insertRow_ok hins
    obtain ⟨a, db⟩ := p
    dsimp only at hdb
    rw [bind_apply_ok (statement_of_steady h1 hins)]
    simp only [reduceCtorEq, exists_false, or_self, iff_false]
    intro heq
    -- the new row is there, whether or not the counter is written
    have hmessages : ((modify (fun db : Database =>
        { db with nextEventCounter := db.nextEventCounter + 1 }) >>= fun _ =>
          (pure (eventIdOf cfg s.db.nextEventCounter) : QueueM Text)) o
          ⟨db, s.count + 1 + 1⟩).2.db.messages = messages := by
      rcases hm : (modify (fun db : Database =>
        { db with nextEventCounter := db.nextEventCounter + 1 }) : QueueM Unit) o
          ⟨db, s.count + 1 + 1⟩ with ⟨e | u, s'⟩
      · rw [bind_apply_error hm, statement_error hm, hdb]
      · rw [bind_apply_ok hm]
        show s'.db.messages = messages
        rw [modify_ok hm, hdb]
    rw [heq] at hmessages
    have hnew := (mem_insert hinsert).mpr (.inr rfl)
    rw [← hmessages] at hnew
    exact absurd (insert_eq_none.mpr ⟨_, hnew, rfl⟩) (by rw [hinsert]; exact Option.some_ne_none _)

lemma bind_bind {β : Type} {m : QueueM α} {k : α → QueueM β} {l : β → QueueM γ} :
    ((m >>= k) >>= l) o s = (m >>= fun a => k a >>= l) o s := by
  rcases h : m o s with ⟨e | a, s'⟩
  · rw [bind_apply_error h, bind_apply_error (bind_apply_error h)]
  · rw [bind_apply_ok h]
    rcases h' : k a o s' with ⟨e | b, s''⟩
    · rw [bind_apply_error h', bind_apply_error ((bind_apply_ok h).trans h')]
    · rw [bind_apply_ok h', bind_apply_ok ((bind_apply_ok h).trans h')]

lemma pick_lowOrder_eq_none {tie : ℕ} {l : List Row} : pick lowOrder tie l = none ↔ l = [] := by
  refine pick_eq_none (fun a b => ?_) fun a b c => ?_ <;>
    simp only [lowOrder, Bool.or_eq_true, Bool.and_eq_true, decide_eq_true_eq] <;> omega

lemma pick_ackOrder_eq_none {tie : ℕ} {l : List Row} : pick ackOrder tie l = none ↔ l = [] := by
  refine pick_eq_none (fun a b => ?_) fun a b c => ?_
  · unfold ackOrder
    cases a.ackReceivedAtNs <;> cases b.ackReceivedAtNs <;> simp [le_total]
  · unfold ackOrder
    cases a.ackReceivedAtNs <;> cases b.ackReceivedAtNs <;> cases c.ackReceivedAtNs <;>
      simp +contextual
    exact fun h h' => h.trans h'

/-- An acknowledged row goes if there is one, and nothing otherwise. -/
lemma removeAcked_lost (tie : ℕ → ℕ) (h : ∃ r ∈ db.messages.rows, r.state = .acknowledged) :
    Lost db (removeAcked tie db) := by
  obtain ⟨r₀, hr₀, hack₀⟩ := h
  have hne : db.messages.rows.filter (fun r => r.state = .acknowledged) ≠ [] :=
    ne_nil_of_mem (mem_filter.mpr ⟨hr₀, decide_eq_true hack₀⟩)
  cases hpick : pick ackOrder (tie 255)
      (db.messages.rows.filter fun r => r.state = .acknowledged) with
  | none => exact absurd (pick_ackOrder_eq_none.mp hpick) hne
  | some r =>
    obtain ⟨hr, hack⟩ := mem_filter.mp (pick_mem hpick)
    refine .inl ⟨r, hr, of_decide_eq_true hack, fun hkept => ?_⟩
    have hpicked : r ∈ pickMany ackOrder tie (255 + 1)
        (db.messages.rows.filter fun r => r.state = .acknowledged) := by
      rw [pickMany, hpick]
      exact mem_cons_self
    have hids := contains_iff_mem.mpr (mem_map_of_mem (f := Row.eventId) hpicked)
    exact Bool.noConfusion (hids.symm.trans (mem_delete.mp hkept).2)

lemma removeAcked_self (tie : ℕ → ℕ) (h : ∀ r ∈ db.messages.rows, r.state ≠ .acknowledged) :
    removeAcked tie db = db := by
  have hnone : db.messages.rows.filter (fun r => r.state = .acknowledged) = [] :=
    filter_eq_nil_iff.mpr fun r hr => by simpa using h r hr
  have hids : pickMany ackOrder tie 256 ([] : List Row) = [] :=
    eq_nil_iff_forall_not_mem.mpr fun r hr => not_mem_nil (pickMany_subset hr)
  simp only [removeAcked, hnone, hids, map_nil, contains_nil]
  have hsame : db.messages.delete (fun _ => false) = db.messages :=
    Table.ext (filter_eq_self.mpr fun _ _ => rfl)
  rw [hsame]

/-- The first round of the loop, where there is no room. -/
lemma evictLow_unchanged {maxBytes required fuel used : ℕ}
    (hexceeds : exceeds maxBytes required used = true) :
    ((evictLow maxBytes required (fuel + 1) used >>= fun _ => insertNew cfg x now) o s).2.db = s.db ↔
      (o.fails s.count).isSome ∨ ∀ r ∈ s.db.messages.rows, r.evictable = false := by
  unfold evictLow
  rw [if_pos hexceeds, bind_bind]
  by_cases h0 : (o.fails s.count).isSome
  · simp only [h0, true_or, iff_true]
    exact bind_of_fails h0
  rw [bind_apply_ok (statement_of_steady h0 rfl), or_iff_right h0]
  cases hpick : pick lowOrder (o.tie s.count 0) (s.db.messages.rows.filter Row.evictable) with
  | none =>
    have hnone := filter_eq_nil_iff.mp (pick_lowOrder_eq_none.mp hpick)
    simp only [if_true]
    exact ⟨fun _ r hr => by simpa using hnone r hr, fun _ => rfl⟩
  | some low =>
    obtain ⟨hlow, hev⟩ := mem_filter.mp (pick_mem hpick)
    simp only [one_ne_zero, if_false]
    refine iff_of_false (fun heq => ?_) fun h => by rw [h low hlow] at hev; cases hev
    rw [bind_bind] at heq
    -- the row is deleted; the next statement counts it, or throws
    by_cases h1 : (o.fails (s.count + 1)).isSome
    · have hgone := congrArg Database.messages ((bind_of_fails h1).symm.trans heq)
      have hmem : low ∈ s.db.messages := hlow
      rw [← hgone] at hmem
      simpa using (mem_delete.mp hmem).2
    · rw [Sql.modify, bind_apply_ok (statement_of_steady h1 rfl)] at heq
      refine StaysLost.ne ?_ o (.inr (Nat.lt_succ_self _)) heq
      exact ((staysLost_query _).bind fun used => staysLost_evictLow _ _ _ used).bind
        fun _ => staysLost_insertNew cfg x now

lemma enqueueAfter_unchanged :
    (enqueueAfter cfg x now none o s).2.db = s.db ↔ Stopped cfg x o s.count s.db := by
  unfold enqueueAfter enforceBudget Stopped fits
  rw [if_neg (by simp)]
  by_cases hzero : cfg.maxBytes = 0
  · simp only [if_pos hzero]
    exact insertNew_unchanged
  simp only [if_neg hzero]
  rw [bind_bind]
  by_cases h0 : (o.fails s.count).isSome
  · simp only [h0, true_or, iff_true]
    exact bind_of_fails h0
  rw [query, bind_apply_ok (statement_of_steady h0 rfl), or_iff_right h0]
  by_cases hfits : (decide (x.payloadJson.length + 512 ≤ cfg.maxBytes) &&
      decide (usedBytes s.db ≤ cfg.maxBytes - (x.payloadJson.length + 512))) = true
  · rw [if_pos hfits, if_pos hfits]
    exact insertNew_unchanged
  rw [if_neg hfits, if_neg hfits, bind_bind]
  by_cases h1 : (o.fails (s.count + 1)).isSome
  · simp only [h1, true_or, iff_true]
    exact bind_of_fails h1
  rw [bind_apply_ok (statement_of_steady h1 rfl), or_iff_right h1]
  by_cases hack : ∃ r ∈ s.db.messages.rows, r.state = .acknowledged
  · refine iff_of_false (fun heq => ?_) fun h => ?_
    · refine StaysLost.ne ?_ o (removeAcked_lost (o.tie (s.count + 1)) hack) heq
      exact StaysLost.bind (StaysLost.bind (fun _ _ _ h => h) fun rows => staysLost_evictLow _ _ _ _)
        fun _ => staysLost_insertNew cfg x now
    · obtain ⟨r, hr, hstate⟩ := hack
      exact h.1 r hr hstate
  · simp only [not_exists, not_and] at hack
    rw [removeAcked_self _ hack, and_iff_right hack]
    refine evictLow_unchanged ?_
    simp only [Bool.and_eq_true, decide_eq_true_eq, not_and] at hfits
    simp only [exceeds, Bool.or_eq_true, decide_eq_true_eq]
    omega

end

/-! ### Calls that throw -/

/-- **Partial effects.** A call of `store_attempt` that throws, at whatever statement, leaves every
row and every counter as it was. So does a call of `enqueue`, unless the transaction has been ended
by the `SELECT` for the producer key and one of the statements after it has changed something. -/
theorem throwing_call_changes_nothing (cfg : Config) (o : Oracle Text) (s : Session Database) :
    (∀ m now e, (storeAttempt cfg m now o s).1 = .error e →
        (storeAttempt cfg m now o s).2.db = s.db) ∧
      ∀ ends x now, ((∃ e, (enqueueEnding cfg ends x now o s).1 = .error e) →
          (enqueueEnding cfg ends x now o s).2.db = s.db) ↔
        ended ends o s = false ∨ Stopped cfg x o (s.count + 2) s.db := by
  refine ⟨fun m now e herr => ?_, fun ends x now => ?_⟩
  · rcases storeAttempt_cases cfg m now o s with ⟨_, -, hdb⟩ | ⟨hok, -⟩
    · exact hdb
    · rw [herr] at hok
      cases hok
  unfold enqueueEnding transactionOf
  cases hended : ended ends o s with
  | false =>
    simp only [Bool.false_eq_true, if_false, true_or, iff_true]
    rintro ⟨e, herr⟩
    rcases enqueue_cases cfg x now o s with ⟨_, -, hdb⟩ | ⟨r, -, -, hok, -⟩ | ⟨hok, -⟩
    · exact hdb
    · exact nomatch herr.symm.trans hok
    · exact nomatch herr.symm.trans hok
  | true =>
    simp only [if_true, Bool.true_eq_false, false_or]
    have hiff := @enqueueAfter_unchanged cfg x now o ⟨s.db, s.count + 2⟩
    rw [← hiff]
    -- the call throws, wherever its statements have come
    rcases hrun : enqueueAfter cfg x now none o ⟨s.db, s.count + 2⟩ with ⟨e | id, s'⟩
    · rw [bind_apply_error hrun]
      exact ⟨fun h => h ⟨e, rfl⟩, fun h _ => h⟩
    · rw [bind_apply_ok hrun]
      exact ⟨fun h => h ⟨_, rfl⟩, fun h _ => h⟩

/-- The step of the `SELECT` fails. -/
def selectFails : Oracle Text :=
  ⟨fun n => if n = 1 then some ⟨false, "disk I/O error"⟩ else none, fun _ _ => 0⟩

def smallFinding : Finding := ⟨"p", [], [], [], 0, "\x7b\x7d", []⟩

/-- The producer has a row, so that the `INSERT` fails; and there is no row for an attempt. -/
theorem throwing_call_changes_nothing_refused :
    let cfg : Config := ⟨"a", 2000⟩
    let missing : OutboundMessage :=
      ⟨"a:7", 7, [], [], [], [], 3, [], [], .pending, [], 0, [], 0, 0⟩
    let s : Session Database :=
      ⟨(exec (enqueue cfg smallFinding 5) ⟨fun _ => none, fun _ _ => 0⟩ .initial).2, 0⟩
    s.db.messages.rows.length = 1 ∧ ended true selectFails s = true ∧
      ((∃ e, (enqueueEnding cfg true smallFinding 6 selectFails s).1 = .error e) →
        (enqueueEnding cfg true smallFinding 6 selectFails s).2.db = s.db) ∧
      (storeAttempt cfg missing 6 ⟨fun _ => none, fun _ _ => 0⟩ s).2.db = s.db := by
  intro cfg missing s
  have hmissing : (storeAttempt cfg missing 6 ⟨fun _ => none, fun _ _ => 0⟩ s).1 =
      .error eventDisappeared := by decide +kernel
  exact ⟨by decide +kernel, by decide +kernel,
    ((throwing_call_changes_nothing cfg selectFails s).2 true smallFinding 6).mpr
      (.inr (by decide +kernel)),
    (throwing_call_changes_nothing cfg _ s).1 missing 6 _ hmissing⟩

/-- The transaction is over, the row and the counter are written, and the call throws. -/
theorem throwing_enqueue_keeps_row :
    (enqueueEnding ⟨"a", 0⟩ true smallFinding 5 selectFails ⟨.initial, 0⟩).1 =
        .error "cannot commit - no transaction is active" ∧
      Database.initial.messages.rows = [] ∧ Database.initial.nextEventCounter = 1 ∧
      (enqueueEnding ⟨"a", 0⟩ true smallFinding 5 selectFails
        ⟨.initial, 0⟩).2.db.messages.rows.map Row.eventId = ["a:1".toList] ∧
      (enqueueEnding ⟨"a", 0⟩ true smallFinding 5 selectFails
        ⟨.initial, 0⟩).2.db.nextEventCounter = 2 := by
  decide +kernel

end NetaAgent.OutboundQueue
