import Mathlib.Data.List.Basic

/-!
Programs of SQL statements over a database, with transactions.

A program is a sequence of statements; an `Oracle` decides which statements fail, at
preparation or while they step, and how a statement orders rows that its `ORDER BY` does not
separate. A statement that fails changes nothing. A transaction whose body throws is rolled
back, so what it does to the database is what its body does when every statement in it
succeeds; `transaction_cases` is that rule, and the inversion lemmas `bind_ok`,
`statement_ok` take such a body apart.
-/

namespace NetaAgent.Sql

variable {D ε α γ : Type}

structure Failure (ε : Type) where
  atPrepare : Bool
  error : ε

structure Oracle (ε : Type) where
  fails : ℕ → Option (Failure ε)
  tie : ℕ → ℕ → ℕ

/-- The database and the number of statements executed so far. -/
structure Session (D : Type) where
  db : D
  count : ℕ

def SqlM (D ε α : Type) : Type := Oracle ε → Session D → Except ε α × Session D

instance : Monad (SqlM D ε) where
  pure a := fun _ s => (.ok a, s)
  bind m k := fun o s =>
    match m o s with
    | (.ok a, s') => k a o s'
    | (.error e, s') => (.error e, s')

def throwing (e : ε) : SqlM D ε α := fun _ s => (.error e, s)

def statement (f : (ℕ → ℕ) → D → Except ε (α × D)) : SqlM D ε α := fun o s =>
  match o.fails s.count with
  | some failure => (.error failure.error, { s with count := s.count + 1 })
  | none =>
    match f (o.tie s.count) s.db with
    | .ok (a, db) => (.ok a, ⟨db, s.count + 1⟩)
    | .error e => (.error e, { s with count := s.count + 1 })

def query (f : D → α) : SqlM D ε α := statement fun _ db => .ok (f db, db)
def modify (f : D → D) : SqlM D ε Unit := statement fun _ db => .ok ((), f db)

/-- A `SELECT` that takes every answer but a row, a failing step too, for no row. -/
def lookup (f : (ℕ → ℕ) → D → Option α) : SqlM D ε (Option α) := fun o s =>
  match o.fails s.count with
  | some failure =>
    (if failure.atPrepare then .error failure.error else .ok none, { s with count := s.count + 1 })
  | none => (.ok (f (o.tie s.count) s.db), { s with count := s.count + 1 })

/-- A `SELECT` read in a loop that ends at every answer but a row: a failing step leaves the
rows that were read before it. -/
def scan (f : (ℕ → ℕ) → D → List α) : SqlM D ε (List α) := fun o s =>
  let rows := f (o.tie s.count) s.db
  match o.fails s.count with
  | some failure =>
    (if failure.atPrepare then .error failure.error else .ok (rows.take (o.tie s.count 0)),
      { s with count := s.count + 1 })
  | none => (.ok rows, { s with count := s.count + 1 })

/-- A body and `COMMIT`, and `ROLLBACK` when one of them throws. -/
def rollingBack (body : SqlM D ε α) : SqlM D ε α := fun o s =>
  match (do let a ← body; query fun _ => (); return a : SqlM D ε α) o s with
  | (.ok a, s') => (.ok a, s')
  | (.error e, s') => (.error e, { s' with db := s.db })

/-- `BEGIN` and the rest. -/
def transaction (body : SqlM D ε α) : SqlM D ε α := do
  query fun _ => ()
  rollingBack body

/-- The step of the first statement after `BEGIN` fails, and SQLite rolls the transaction back on
its own (`ends`), as it may after an I/O error. -/
def ended (ends : Bool) (o : Oracle ε) (s : Session D) : Bool :=
  ends && (o.fails s.count).isNone && (o.fails (s.count + 1)).any fun failure => !failure.atPrepare

/-- A transaction that starts with a `lookup`. If that ends it, the statements of the rest are
committed one by one, and `COMMIT` throws. -/
def transactionOf (ends : Bool) (f : (ℕ → ℕ) → D → Option α) (noTransaction : ε)
    (rest : Option α → SqlM D ε γ) : SqlM D ε γ := fun o s =>
  if ended ends o s then (do let _ ← rest none; throwing noTransaction) o ⟨s.db, s.count + 2⟩
  else transaction (do rest (← lookup f)) o s

def exec (m : SqlM D ε α) (o : Oracle ε) (db : D) : Except ε α × D :=
  ((m o ⟨db, 0⟩).1, (m o ⟨db, 0⟩).2.db)

section
variable {m : SqlM D ε α} {k : α → SqlM D ε γ} {o : Oracle ε} {s s' : Session D} {a : α} {b : γ}
  {f : (ℕ → ℕ) → D → Except ε (α × D)}

@[simp] lemma pure_ok {c : α} : (pure a : SqlM D ε α) o s = (.ok c, s') ↔ a = c ∧ s = s' := by
  constructor
  · intro h; cases h; exact ⟨rfl, rfl⟩
  · rintro ⟨rfl, rfl⟩; rfl

@[simp] lemma throwing_ok {e : ε} : (throwing e : SqlM D ε α) o s ≠ (.ok a, s') := by
  intro h; cases h

lemma bind_ok : (m >>= k) o s = (.ok b, s') ↔
    ∃ a s₁, m o s = (.ok a, s₁) ∧ k a o s₁ = (.ok b, s') := by
  show (match m o s with
    | (.ok a, s₁) => k a o s₁
    | (.error e, s₁) => (.error e, s₁)) = _ ↔ _
  rcases m o s with ⟨e | a, s₁⟩
  · simp
  · simp

lemma statement_ok (h : statement f o s = (.ok a, s')) :
    f (o.tie s.count) s.db = .ok (a, s'.db) := by
  unfold statement at h
  split at h
  · cases h
  · split at h
    · next hf => cases h; exact hf
    · cases h

lemma statement_error {e : ε} (h : statement f o s = (.error e, s')) : s'.db = s.db := by
  unfold statement at h
  split at h
  · cases h; rfl
  · split at h <;> cases h
    rfl

lemma query_ok {g : D → α} (h : query g o s = (.ok a, s')) : a = g s.db ∧ s'.db = s.db := by
  have := statement_ok h
  simp only [Except.ok.injEq, Prod.mk.injEq] at this
  exact ⟨this.1.symm, this.2.symm⟩

lemma modify_ok {g : D → D} {u : Unit} (h : modify g o s = (.ok u, s')) : s'.db = g s.db := by
  have := statement_ok h
  simp only [Except.ok.injEq, Prod.mk.injEq] at this
  exact this.2.symm

lemma modify_db (g : D → D) (o : Oracle ε) (s : Session D) :
    (modify g o s).2.db = s.db ∨ (modify g o s).2.db = g s.db := by
  rcases h : modify g o s with ⟨e | u, s'⟩
  · exact .inl (statement_error h)
  · exact .inr (modify_ok h)

variable {g : (ℕ → ℕ) → D → Option α}

lemma lookup_db : (lookup g o s).2.db = s.db := by
  unfold lookup
  split <;> rfl

lemma scan_db {g : (ℕ → ℕ) → D → List α} : (scan g o s).2.db = s.db := by
  unfold scan
  dsimp only
  split <;> rfl

lemma lookup_count : (lookup g o s).2.count = s.count + 1 := by
  unfold lookup
  split <;> rfl

lemma scan_count {g : (ℕ → ℕ) → D → List α} : (scan g o s).2.count = s.count + 1 := by
  unfold scan
  dsimp only
  split <;> rfl

lemma scan_ok {g : (ℕ → ℕ) → D → List α} {rows : List α} (h : scan g o s = (.ok rows, s')) :
    (∃ n, rows = (g (o.tie s.count) s.db).take n) ∧
      ((∀ failure, o.fails s.count = some failure → failure.atPrepare) →
        rows = g (o.tie s.count) s.db) := by
  unfold scan at h
  dsimp only at h
  split at h
  · next failure hfail =>
    split at h <;> cases h
    next hstep => exact ⟨⟨_, rfl⟩, fun hno => absurd (hno failure hfail) hstep⟩
  · cases h
    exact ⟨⟨_, List.take_length.symm⟩, fun _ => rfl⟩

lemma lookup_some (h : lookup g o s = (.ok (some a), s')) : g (o.tie s.count) s.db = some a := by
  unfold lookup at h
  split at h
  · split at h <;> cases h
  · simp only [Prod.mk.injEq, Except.ok.injEq] at h
    exact h.1

lemma bind_apply_ok {s₁ : Session D} (h : m o s = (.ok a, s₁)) : (m >>= k) o s = k a o s₁ := by
  show (match m o s with
    | (.ok a, s₁) => k a o s₁
    | (.error e, s₁) => (.error e, s₁)) = _
  rw [h]

lemma bind_apply_error {e : ε} (h : m o s = (.error e, s')) : (m >>= k) o s = (.error e, s') := by
  show (match m o s with
    | (.ok a, s₁) => k a o s₁
    | (.error e, s₁) => (.error e, s₁)) = _
  rw [h]

lemma bind_apply_congr' {m' : SqlM D ε α} {k' : α → SqlM D ε γ} (hm : m o s = m' o s)
    (hk : ∀ a s', m o s = (.ok a, s') → k a o s' = k' a o s') : (m >>= k) o s = (m' >>= k') o s := by
  rcases h : m o s with ⟨e | a, s'⟩
  · rw [bind_apply_error h, bind_apply_error (hm.symm.trans h)]
  · rw [bind_apply_ok h, bind_apply_ok (hm.symm.trans h)]
    exact hk a s' h

lemma bind_apply_congr {k' : α → SqlM D ε γ}
    (hk : ∀ a s', m o s = (.ok a, s') → k a o s' = k' a o s') : (m >>= k) o s = (m >>= k') o s :=
  bind_apply_congr' rfl hk

/-- A program that starts by reading throws there, or goes on with the same database. -/
lemma bind_of_db (hdb : (m o s).2.db = s.db) :
    (∃ e, ((m >>= k) o s).1 = .error e ∧ ((m >>= k) o s).2.db = s.db) ∨
      ∃ a s₁, m o s = (.ok a, s₁) ∧ s₁.db = s.db ∧ (m >>= k) o s = k a o s₁ := by
  rcases h : m o s with ⟨e | a, s₁⟩ <;> rw [h] at hdb
  · rw [bind_apply_error h]
    exact .inl ⟨e, rfl, hdb⟩
  · exact .inr ⟨a, s₁, rfl, hdb, bind_apply_ok h⟩

lemma lookup_ok {a : Option α} (h : lookup g o s = (.ok a, s'))
    (hfails : (o.fails s.count).all Failure.atPrepare) : a = g (o.tie s.count) s.db := by
  unfold lookup at h
  split at h
  · next failure hfail =>
    rw [hfail, Option.all_some] at hfails
    rw [if_pos hfails] at h
    cases h
  · cases h
    rfl

/-- **The transaction rule.** A transaction throws and changes nothing, or its body, which
starts after `BEGIN`, succeeds. -/
theorem transaction_run (m : SqlM D ε α) (o : Oracle ε) (s : Session D) :
    (∃ e, (transaction m o s).1 = .error e ∧ (transaction m o s).2.db = s.db) ∨
      ∃ a s₂, m o ⟨s.db, s.count + 1⟩ = (.ok a, s₂) ∧ (transaction m o s).1 = .ok a ∧
        (transaction m o s).2.db = s₂.db := by
  unfold transaction
  rcases hq : query (fun _ => ()) o s with ⟨e | u, s₁⟩
  · rw [bind_apply_error hq]
    exact .inl ⟨e, rfl, statement_error hq⟩
  · rw [bind_apply_ok hq]
    obtain rfl : s₁ = ⟨s.db, s.count + 1⟩ := by
      unfold query statement at hq
      split at hq <;> cases hq
      rfl
    unfold rollingBack
    rcases hb : (do let a ← m; query fun _ => (); return a : SqlM D ε α) o ⟨s.db, s.count + 1⟩ with
      ⟨e | a, s₂⟩
    · exact .inl ⟨e, rfl, rfl⟩
    · obtain ⟨a', s₃, hm, hrest⟩ := bind_ok.mp hb
      obtain ⟨u', s₄, hcommit, hret⟩ := bind_ok.mp hrest
      obtain ⟨rfl, rfl⟩ := pure_ok.mp hret
      exact .inr ⟨a', s₃, hm, rfl, (query_ok hcommit).2⟩

theorem transaction_cases (m : SqlM D ε α) (o : Oracle ε) (s : Session D) :
    (∃ e, (transaction m o s).1 = .error e ∧ (transaction m o s).2.db = s.db) ∨
      ∃ a s₁ s₂, s₁.db = s.db ∧ m o s₁ = (.ok a, s₂) ∧ (transaction m o s).1 = .ok a ∧
        (transaction m o s).2.db = s₂.db := by
  rcases transaction_run m o s with herr | ⟨a, s₂, h⟩
  · exact .inl herr
  · exact .inr ⟨a, ⟨s.db, s.count + 1⟩, s₂, rfl, h⟩

section
variable (hfails : ∀ n, o.fails n = none)
include hfails

/-! Where no statement fails. -/

lemma statement_steady {db : D} (hf : f (o.tie s.count) s.db = .ok (a, db)) :
    statement f o s = (.ok a, ⟨db, s.count + 1⟩) := by
  simp only [statement, hfails, hf]

lemma lookup_steady {g : (ℕ → ℕ) → D → Option α} :
    lookup g o s = (.ok (g (o.tie s.count) s.db), ⟨s.db, s.count + 1⟩) := by
  simp only [lookup, hfails]

lemma scan_steady {g : (ℕ → ℕ) → D → List α} :
    scan g o s = (.ok (g (o.tie s.count) s.db), ⟨s.db, s.count + 1⟩) := by
  simp only [scan, hfails]

lemma transaction_steady (s₂ : Session D) (h : m o ⟨s.db, s.count + 1⟩ = (.ok a, s₂)) :
    (transaction m o s).1 = .ok a := by
  have hbody : (do let a ← m; query fun _ => (); return a : SqlM D ε α) o ⟨s.db, s.count + 1⟩ =
      (.ok a, ⟨s₂.db, s₂.count + 1⟩) := by
    rw [bind_apply_ok h, query, bind_apply_ok (statement_steady hfails rfl)]
    rfl
  rw [transaction, query, bind_apply_ok (statement_steady hfails rfl), rollingBack, hbody]

end

end

end NetaAgent.Sql
