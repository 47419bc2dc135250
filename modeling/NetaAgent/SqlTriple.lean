import NetaAgent.Sql

/-!
Programs that keep memory beside the database, and triples for programs of statements.

Memory is read and assigned without a statement, so such a step does not fail. A program of
the database alone runs beside a memory that it does not see (`onDb`). An exception leaves
the database and the memory as they are where it is thrown.

`Triple F P m Q E` says what a run of `m` from a state with `P` leaves, when the statements
fail only with errors in `F`: `Q` with the value it returns, or `E` with the error it throws.
With nothing in `F` and `E` it says that the program returns.
-/

namespace NetaAgent.Sql

variable {D M ε κ α γ : Type}

def Oracle.map (f : κ → ε) (o : Oracle κ) : Oracle ε where
  fails n := (o.fails n).map fun x => ⟨x.atPrepare, f x.error⟩
  tie := o.tie

def state : SqlM D ε D := fun _ s => (.ok s.db, s)

def assign (f : D → D) : SqlM D ε Unit := fun _ s => (.ok (), { s with db := f s.db })

def onDb (m : SqlM D ε α) : SqlM (D × M) ε α := fun o s =>
  ((m o ⟨s.db.1, s.count⟩).1,
    ⟨((m o ⟨s.db.1, s.count⟩).2.db, s.db.2), (m o ⟨s.db.1, s.count⟩).2.count⟩)

/-- What a program leaves: `Q` when it returns, `E` when it throws. -/
def Leaves (Q : α → D → Prop) (E : ε → D → Prop) : Except ε α × Session D → Prop
  | (.ok a, s) => Q a s.db
  | (.error e, s) => E e s.db

def Triple (F : ε → Prop) (P : D → Prop) (m : SqlM D ε α) (Q : α → D → Prop)
    (E : ε → D → Prop) : Prop :=
  ∀ (o : Oracle ε) (s : Session D), (∀ n x, o.fails n = some x → F x.error) → P s.db →
    Leaves Q E (m o s)

namespace Triple

variable {F : ε → Prop} {P P' : D → Prop} {m : SqlM D ε α} {k : α → SqlM D ε γ}
  {Q Q' : α → D → Prop} {R : γ → D → Prop} {E E' : ε → D → Prop}

lemma pure {a : α} (h : ∀ d, P d → Q a d) : Triple F P (Pure.pure a) Q E :=
  fun _ s _ hs => h s.db hs

lemma bind (hm : Triple F P m Q E) (hk : ∀ a, Triple F (Q a) (k a) R E) :
    Triple F P (m >>= k) R E := by
  intro o s ho hs
  have h := hm o s ho hs
  rcases hr : m o s with ⟨e | a, s'⟩ <;> rw [hr] at h
  · rw [bind_apply_error hr]
    exact h
  · rw [bind_apply_ok hr]
    exact hk a o s' ho h

section

variable (h : Triple F P m Q E)
include h

lemma conseq (hP : ∀ d, P' d → P d) (hQ : ∀ a d, Q a d → Q' a d)
    (hE : ∀ e d, E e d → E' e d) : Triple F P' m Q' E' := by
  intro o s ho hs
  have h := h o s ho (hP s.db hs)
  rcases hr : m o s with ⟨e | a, s'⟩ <;> rw [hr] at h
  · exact hE e s'.db h
  · exact hQ a s'.db h

lemma pre (hP : ∀ d, P' d → P d) : Triple F P' m Q E := h.conseq hP (fun _ _ h => h) fun _ _ h => h

lemma weaken (hQ : ∀ a d, Q a d → Q' a d) (hE : ∀ e d, E e d → E' e d) :
    Triple F P m Q' E' := h.conseq (fun _ h => h) hQ hE

lemma relax (hE : ∀ e d, E e d → E' e d) : Triple F P m Q E' := h.weaken (fun _ _ h => h) hE

lemma and (h' : Triple F P m Q' E') :
    Triple F P m (fun a d => Q a d ∧ Q' a d) fun e d => E e d ∧ E' e d := by
  intro o s ho hs
  have h := h o s ho hs
  have h' := h' o s ho hs
  rcases hr : m o s with ⟨e | a, s'⟩ <;> rw [hr] at h h'
  · exact ⟨h, h'⟩
  · exact ⟨h, h'⟩

end

lemma start (h : ∀ d, P d → Triple F (· = d) m Q E) : Triple F P m Q E :=
  fun o s ho hs => h s.db hs o s ho rfl

lemma here (h : Triple F P m Q E) {d : D} (hd : P d) : Triple F (· = d) m Q E :=
  h.conseq (fun _ he => he ▸ hd) (fun _ _ h => h) fun _ _ h => h

lemma statement {f : (ℕ → ℕ) → D → Except ε (α × D)}
    (hok : ∀ t d a d', P d → f t d = .ok (a, d') → Q a d')
    (herror : ∀ t d e, P d → f t d = .error e → E e d)
    (hfails : ∀ e d, F e → P d → E e d) : Triple F P (Sql.statement f) Q E := by
  intro o s ho hs
  unfold Sql.statement
  rcases hf : o.fails s.count with _ | x
  · rcases hg : f (o.tie s.count) s.db with e | ⟨a, d'⟩
    · exact herror _ _ _ hs hg
    · exact hok _ _ _ _ hs hg
  · exact hfails x.error s.db (ho _ _ hf) hs

lemma modify {f : D → D} {Q : Unit → D → Prop} (h : ∀ d, P d → Q () (f d))
    (hfails : ∀ e d, F e → P d → E e d) : Triple F P (Sql.modify f) Q E := by
  refine statement ?_ (fun _ _ _ _ h => nomatch h) hfails
  rintro _ d _ _ hd ⟨⟩
  exact h d hd

lemma query {f : D → α} (h : ∀ d, P d → Q (f d) d) (hfails : ∀ e d, F e → P d → E e d) :
    Triple F P (query f) Q E := by
  refine statement ?_ (fun _ _ _ _ h => nomatch h) hfails
  rintro _ d _ _ hd ⟨⟩
  exact h d hd

lemma lookup {g : (ℕ → ℕ) → D → Option α} {Q : Option α → D → Prop}
    (h : ∀ t d, P d → Q (g t d) d) (hnone : ∀ d, P d → Q none d)
    (hfails : ∀ e d, F e → P d → E e d) : Triple F P (Sql.lookup g) Q E := by
  intro o s ho hs
  unfold Sql.lookup
  rcases hf : o.fails s.count with _ | x
  · exact h _ _ hs
  · by_cases hx : x.atPrepare = true
    · simp only [hx, if_true]
      exact hfails x.error s.db (ho _ _ hf) hs
    · simp only [hx]
      exact hnone s.db hs

lemma scan {g : (ℕ → ℕ) → D → List α} {Q : List α → D → Prop}
    (h : ∀ t d n, P d → Q ((g t d).take n) d) (hfails : ∀ e d, F e → P d → E e d) :
    Triple F P (Sql.scan g) Q E := by
  intro o s ho hs
  unfold Sql.scan
  rcases hf : o.fails s.count with _ | x
  · have hall := h (o.tie s.count) s.db (g (o.tie s.count) s.db).length hs
    rwa [List.take_length] at hall
  · by_cases hx : x.atPrepare = true
    · simp only [hx, if_true]
      exact hfails x.error s.db (ho _ _ hf) hs
    · simp only [hx]
      exact h _ _ _ hs

lemma throwing {e : ε} (h : ∀ d, P d → E e d) : Triple F P (throwing e) Q E :=
  fun _ s _ hs => h s.db hs

lemma state {Q : D → D → Prop} (h : ∀ d, P d → Q d d) : Triple F P state Q E :=
  fun _ s _ hs => h s.db hs

lemma assign {f : D → D} {Q : Unit → D → Prop} (h : ∀ d, P d → Q () (f d)) :
    Triple F P (assign f) Q E := fun _ s _ hs => h s.db hs

lemma onDb {P : D × M → Prop} {Q : α → D × M → Prop} {E : ε → D × M → Prop}
    (h : ∀ mem, Triple F (fun d => P (d, mem)) m (fun a d => Q a (d, mem))
      fun e d => E e (d, mem)) : Triple F P (Sql.onDb m) Q E := by
  intro o s ho hs
  have h := h s.db.2 o ⟨s.db.1, s.count⟩ ho hs
  unfold Sql.onDb
  rcases hr : m o ⟨s.db.1, s.count⟩ with ⟨e | a, s'⟩ <;> rw [hr] at h
  · exact h
  · exact h

lemma exec (h : Triple F P m Q E) {o : Oracle ε} (ho : ∀ n x, o.fails n = some x → F x.error)
    {d : D} (hd : P d) :
    (∃ a, (Sql.exec m o d).1 = .ok a ∧ Q a (Sql.exec m o d).2) ∨
      ∃ e, (Sql.exec m o d).1 = .error e ∧ E e (Sql.exec m o d).2 := by
  have h := h o ⟨d, 0⟩ ho hd
  unfold Sql.exec
  rcases hr : m o ⟨d, 0⟩ with ⟨e | a, s'⟩ <;> rw [hr] at h
  · exact .inr ⟨e, rfl, h⟩
  · exact .inl ⟨a, rfl, h⟩

end Triple

end NetaAgent.Sql
