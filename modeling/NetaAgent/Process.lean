import NetaAgent.Run

/-!
Processes that work on a shared state one atomic operation at a time.

Each operation has a label, and the environment decides how it goes: a decision says whether it
succeeds and what it leaves behind. A process that is given a list of decisions takes one
operation per decision, so a crash is a list that ends early, and several processes on one state
are interleaved by choosing which of them takes the next decision. `Safe` says that a process
keeps a condition at every point and ends with a given one, however the operations go.
-/

namespace NetaAgent.Process

open Run

variable {σ δ Λ ε α β : Type}

inductive Proc (σ δ Λ ε α : Type) where
  | ret (a : α)
  | fail (e : ε)
  | step (label : Λ) (effect : δ → σ → σ) (next : δ → σ → Proc σ δ Λ ε α)

namespace Proc

def bind : Proc σ δ Λ ε α → (α → Proc σ δ Λ ε β) → Proc σ δ Λ ε β
  | .ret a, f => f a
  | .fail e, _ => .fail e
  | .step l effect next, f => .step l effect fun d s => (next d s).bind f

instance : Monad (Proc σ δ Λ ε) where
  pure := .ret
  bind := bind

def relabel (f : Λ → Λ) : Proc σ δ Λ ε α → Proc σ δ Λ ε α
  | .ret a => .ret a
  | .fail e => .fail e
  | .step l effect next => .step (f l) effect fun d s => (next d s).relabel f

def handle : Proc σ δ Λ ε α → (ε → Proc σ δ Λ ε α) → Proc σ δ Λ ε α
  | .ret a, _ => .ret a
  | .fail e, h => h e
  | .step l effect next, h => .step l effect fun d s => (next d s).handle h

def onlyIf (p : Proc σ δ Λ ε Unit) (c : Bool) : Proc σ δ Λ ε Unit := if c then p else .ret ()

def lift : Except ε α → Proc σ δ Λ ε α
  | .ok a => .ret a
  | .error e => .fail e

/-- One operation, as a function of the decision and the state. -/
def act (l : Λ) (f : δ → σ → Except ε α × σ) : Proc σ δ Λ ε α :=
  .step l (fun d s => (f d s).2) fun d s => lift (f d s).1

/-- One operation of the process; a process that has ended stays as it is. -/
def advance (c : Proc σ δ Λ ε α × σ) (d : δ) : Proc σ δ Λ ε α × σ :=
  match c.1 with
  | .ret _ => c
  | .fail _ => c
  | .step _ effect next => (next d c.2, effect d c.2)

def result : Proc σ δ Λ ε α → Option (Except ε α)
  | .ret a => some (.ok a)
  | .fail e => some (.error e)
  | .step .. => none

def label : Proc σ δ Λ ε α → Option Λ
  | .step l _ _ => some l
  | _ => none

/-! ### Conditions at every point -/

section
variable (ok : Λ → σ → δ → Prop) (I : Option Λ → σ → Prop)

/-- `I` holds at every point, beside the operation that is next there, and `Q` at the end, whatever
the allowed decisions are. -/
def Safe (Q : Except ε α → σ → Prop) : Proc σ δ Λ ε α → σ → Prop
  | .ret a, s => I none s ∧ Q (.ok a) s
  | .fail e, s => I none s ∧ Q (.error e) s
  | .step l effect next, s => I (some l) s ∧ ∀ d, ok l s d → Safe Q (next d s) (effect d s)

end

variable {ok : Λ → σ → δ → Prop} {I J : Option Λ → σ → Prop} {Q R : Except ε α → σ → Prop}
variable {p : Proc σ δ Λ ε α} {s : σ} {w : List δ}

lemma Safe.inv (h : Safe ok I Q p s) : I p.label s := by
  cases p with
  | ret | fail | step => exact h.1

lemma Safe.mono (hI : ∀ l s, I l s → J l s)
    (hQ : ∀ r s, I none s → Q r s → R r s) (h : Safe ok I Q p s) : Safe ok J R p s := by
  induction p generalizing s with
  | ret | fail => exact ⟨hI none s h.1, hQ _ s h.1 h.2⟩
  | step l effect next ih => exact ⟨hI (some l) s h.1, fun d hd => ih d s (h.2 d hd)⟩

lemma Safe.restrict {ok' : Λ → σ → δ → Prop}
    (hok : ∀ l s d, ok' l s d → ok l s d) (h : Safe ok I Q p s) : Safe ok' I Q p s := by
  induction p generalizing s with
  | ret | fail => exact h
  | step l effect next ih => exact ⟨h.1, fun d hd => ih d s (h.2 d (hok l s d hd))⟩

lemma Safe.and (h : Safe ok I Q p s) (h' : Safe ok J R p s) :
    Safe ok (fun l s => I l s ∧ J l s) (fun r s => Q r s ∧ R r s) p s := by
  induction p generalizing s with
  | ret | fail => exact ⟨⟨h.1, h'.1⟩, h.2, h'.2⟩
  | step l effect next ih => exact ⟨⟨h.1, h'.1⟩, fun d hd => ih d s (h.2 d hd) (h'.2 d hd)⟩

variable {f g : α → Proc σ δ Λ ε β} {T : Except ε β → σ → Prop}

/-- **Sequencing.** -/
lemma Safe.bind (h : Safe ok I Q p s) (hok : ∀ a s, I none s → Q (.ok a) s → Safe ok I T (f a) s)
    (herr : ∀ e s, I none s → Q (.error e) s → T (.error e) s) : Safe ok I T (p >>= f) s := by
  induction p generalizing s with
  | ret a => exact hok a s h.1 h.2
  | fail e => exact ⟨h.1, herr e s h.1 h.2⟩
  | step l effect next ih => exact ⟨h.1, fun d hd => ih d s (h.2 d hd)⟩

/-- Sequencing after a process that returns `a`. -/
lemma Safe.next {a : α} {P : σ → Prop} (h : Safe ok I (fun r s => r = .ok a ∧ P s) p s)
    (hf : ∀ s, P s → Safe ok I T (f a) s) : Safe ok I T (p >>= f) s := by
  refine h.bind (fun b s _ hb => ?_) fun _ _ _ he => absurd he.1 (by simp)
  obtain ⟨hb, hs⟩ := hb
  cases hb
  exact hf s hs

/-- **Handling.** -/
lemma Safe.handle {f : ε → Proc σ δ Λ ε α}
    (h : Safe ok I Q p s) (hok : ∀ a s, I none s → Q (.ok a) s → R (.ok a) s)
    (herr : ∀ e s, I none s → Q (.error e) s → Safe ok I R (f e) s) : Safe ok I R (p.handle f) s := by
  induction p generalizing s with
  | ret a => exact ⟨h.1, hok a s h.1 h.2⟩
  | fail e => exact herr e s h.1 h.2
  | step l effect next ih => exact ⟨h.1, fun d hd => ih d s (h.2 d hd)⟩

def Before (ok : Λ → σ → δ → Prop) (I : Option Λ → σ → Prop) (T : Except ε β → σ → Prop)
    (f : α → Proc σ δ Λ ε β) : Except ε α → σ → Prop
  | .ok a, s => Safe ok I T (f a) s
  | .error e, s => T (.error e) s

lemma safe_bind (h : Safe ok I (Before ok I T f) p s) : Safe ok I T (p >>= f) s :=
  h.bind (fun _ _ _ ha => ha) fun _ _ _ he => he

/-- What a process has to end with before its handler. -/
def Guarded (ok : Λ → σ → δ → Prop) (I : Option Λ → σ → Prop) (R : Except ε α → σ → Prop)
    (f : ε → Proc σ δ Λ ε α) : Except ε α → σ → Prop
  | .ok a, s => R (.ok a) s
  | .error e, s => Safe ok I R (f e) s

lemma safe_handle {f : ε → Proc σ δ Λ ε α}
    (h : Safe ok I (Guarded ok I R f) p s) : Safe ok I R (p.handle f) s :=
  h.handle (fun _ _ _ ha => ha) fun _ _ _ he => he

lemma safe_lift {r : Except ε α} (hI : I none s) (hQ : Q r s) :
    Safe ok I Q (lift r : Proc σ δ Λ ε α) s := by
  cases r with
  | error | ok => exact ⟨hI, hQ⟩

variable {l : Λ}

lemma safe_act {f : δ → σ → Except ε α × σ} (hI : I (some l) s)
    (h : ∀ d, ok l s d → I none (f d s).2 ∧ Q (f d s).1 (f d s).2) : Safe ok I Q (act l f) s :=
  ⟨hI, fun d hd => safe_lift (h d hd).1 (h d hd).2⟩

/-- **Relabelling.** -/
lemma Safe.relabel {g : Λ → Λ}
    (h : Safe (fun l => ok (g l)) (fun l => I (l.map g)) Q p s) : Safe ok I Q (p.relabel g) s := by
  induction p generalizing s with
  | ret | fail => exact h
  | step l effect next ih => exact ⟨h.1, fun d hd => ih d s (h.2 d hd)⟩

/-! ### What a process leaves alone -/

/-- The process keeps `P` at every point, however its operations go. -/
def Keeps (P : σ → Prop) (p : Proc σ δ Λ ε α) : Prop :=
  ∀ s, P s → Safe (fun _ _ _ => True) (fun _ => P) (fun _ => P) p s

variable {P : σ → Prop}

lemma Keeps.safe (h : Keeps P p) (hs : P s) : Safe ok (fun _ => P) (fun _ => P) p s :=
  (h s hs).restrict fun _ _ _ _ => trivial

lemma keeps_ret (a : α) : Keeps P (pure a : Proc σ δ Λ ε α) := fun _ hs => ⟨hs, hs⟩

lemma keeps_fail (e : ε) : Keeps P (.fail e : Proc σ δ Λ ε α) := fun _ hs => ⟨hs, hs⟩

lemma keeps_lift (r : Except ε α) : Keeps P (lift r : Proc σ δ Λ ε α) := fun _ hs => safe_lift hs hs

lemma keeps_act {f : δ → σ → Except ε α × σ} (h : ∀ d s, P s → P (f d s).2) : Keeps P (act l f) :=
  fun s hs => safe_act hs fun d _ => ⟨h d s hs, h d s hs⟩

lemma Keeps.bind (hp : Keeps P p) (hf : ∀ a, Keeps P (f a)) : Keeps P (p >>= f) :=
  fun s hs => (hp s hs).bind (fun a s _ h => hf a s h) fun _ _ _ h => h

lemma Keeps.handle {f : ε → Proc σ δ Λ ε α} (hp : Keeps P p)
    (hf : ∀ e, Keeps P (f e)) : Keeps P (p.handle f) :=
  fun s hs => (hp s hs).handle (fun _ _ _ h => h) fun e s _ h => hf e s h

lemma Keeps.relabel (hp : Keeps P p) (g : Λ → Λ) : Keeps P (p.relabel g) :=
  fun s hs => Safe.relabel (hp s hs)

/-! ### What a step can do -/

/-- Every step from here relates the states before and after it by `G`, and the process ends
with `Q`, whatever the allowed decisions are. -/
def Steps (ok : Λ → σ → δ → Prop) (G : σ → σ → Prop) (Q : Except ε α → σ → Prop) :
    Proc σ δ Λ ε α → σ → Prop
  | .ret a, s => Q (.ok a) s
  | .fail e, s => Q (.error e) s
  | .step l effect next, s =>
    ∀ d, ok l s d → G s (effect d s) ∧ Steps ok G Q (next d s) (effect d s)

variable {G H : σ → σ → Prop}

lemma Steps.mono (hG : ∀ s s', G s s' → H s s')
    (hQ : ∀ r s, Q r s → R r s) (h : Steps ok G Q p s) : Steps ok H R p s := by
  induction p generalizing s with
  | ret | fail => exact hQ _ s h
  | step l effect next ih => exact fun d hd => ⟨hG _ _ (h d hd).1, ih d s (h d hd).2⟩

lemma Steps.and (h : Steps ok G Q p s) (h' : Steps ok H R p s) :
    Steps ok G (fun r s => Q r s ∧ R r s) p s := by
  induction p generalizing s with
  | ret | fail => exact ⟨h, h'⟩
  | step l effect next ih => exact fun d hd => ⟨(h d hd).1, ih d s (h d hd).2 (h' d hd).2⟩

lemma Steps.bind (h : Steps ok G Q p s) (hok : ∀ a s, Q (.ok a) s → Steps ok G T (f a) s)
    (herr : ∀ e s, Q (.error e) s → T (.error e) s) : Steps ok G T (p >>= f) s := by
  induction p generalizing s with
  | ret a => exact hok a s h
  | fail e => exact herr e s h
  | step l effect next ih => exact fun d hd => ⟨(h d hd).1, ih d s (h d hd).2⟩

lemma Steps.handle {f : ε → Proc σ δ Λ ε α} (h : Steps ok G Q p s)
    (hok : ∀ a s, Q (.ok a) s → R (.ok a) s)
    (herr : ∀ e s, Q (.error e) s → Steps ok G R (f e) s) : Steps ok G R (p.handle f) s := by
  induction p generalizing s with
  | ret a => exact hok a s h
  | fail e => exact herr e s h
  | step l effect next ih => exact fun d hd => ⟨(h d hd).1, ih d s (h d hd).2⟩

lemma Steps.relabel {g : Λ → Λ}
    (h : Steps (fun l => ok (g l)) G Q p s) : Steps ok G Q (p.relabel g) s := by
  induction p generalizing s with
  | ret | fail => exact h
  | step l effect next ih => exact fun d hd => ⟨(h d hd).1, ih d s (h d hd).2⟩

lemma steps_lift {r : Except ε α} (hQ : Q r s) : Steps ok G Q (lift r : Proc σ δ Λ ε α) s := by
  cases r with
  | error | ok => exact hQ

lemma steps_act {f : δ → σ → Except ε α × σ}
    (h : ∀ d, ok l s d → G s (f d s).2 ∧ Q (f d s).1 (f d s).2) : Steps ok G Q (act l f) s :=
  fun d hd => ⟨(h d hd).1, steps_lift (h d hd).2⟩

lemma Keeps.steps {τ : Type} {g : σ → τ} (h : ∀ v, Keeps (fun s => g s = v) p)
    (s : σ) : Steps ok (fun s s' => g s' = g s) (fun _ s' => g s' = g s) p s := by
  have aux : ∀ {v : τ} {p : Proc σ δ Λ ε α} {s : σ},
      Safe (fun _ _ _ => True) (fun _ s => g s = v) (fun _ s => g s = v) p s →
        Steps ok (fun s s' => g s' = g s) (fun _ s' => g s' = v) p s := by
    intro v p
    induction p with
    | ret | fail => exact fun h => h.2
    | step l effect next ih =>
      exact fun {s} h d _ => ⟨(h.2 d trivial).inv.trans h.1.symm, ih d s (h.2 d trivial)⟩
  exact aux (h (g s) s rfl)

/-- Every step from any state relates the states before and after it. -/
def Moves (ok : Λ → σ → δ → Prop) (G : σ → σ → Prop) (p : Proc σ δ Λ ε α) : Prop :=
  ∀ s, Steps ok G (fun _ _ => True) p s

lemma moves_anywhere (p : Proc σ δ Λ ε α) : Moves ok (fun _ _ => True) p := by
  intro s
  induction p generalizing s with
  | ret | fail => trivial
  | step l effect next ih => exact fun d _ => ⟨trivial, ih d s (effect d s)⟩

lemma moves_ret (a : α) : Moves ok G (pure a : Proc σ δ Λ ε α) := fun _ => trivial

lemma moves_fail (e : ε) : Moves ok G (.fail e : Proc σ δ Λ ε α) := fun _ => trivial

lemma Moves.bind (hp : Moves ok G p) (hf : ∀ a, Moves ok G (f a)) : Moves ok G (p >>= f) :=
  fun s => (hp s).bind (fun a s _ => hf a s) fun _ _ _ => trivial

lemma Moves.handle {f : ε → Proc σ δ Λ ε α} (hp : Moves ok G p)
    (hf : ∀ e, Moves ok G (f e)) : Moves ok G (p.handle f) :=
  fun s => (hp s).handle (fun _ _ _ => trivial) fun e s _ => hf e s

lemma Moves.relabel {g : Λ → Λ} (hp : Moves (fun l => ok (g l)) G p) :
    Moves ok G (p.relabel g) := fun s => (hp s).relabel

/-! ### Runs -/

/-- The decision is allowed for the operation the process takes next. -/
def Allowed (ok : Λ → σ → δ → Prop) (c : Proc σ δ Λ ε α × σ) (d : δ) : Prop :=
  ∀ l, c.1.label = some l → ok l c.2 d

instance [∀ l s d, Decidable (ok l s d)] (c : Proc σ δ Λ ε α × σ) (d : δ) :
    Decidable (Allowed ok c d) :=
  match h : c.1.label with
  | none => .isTrue fun _ hl => by rw [h] at hl; cases hl
  | some l =>
    decidable_of_iff (ok l c.2 d)
      ⟨fun hok l' hl => by rw [h] at hl; cases hl; exact hok, fun ha => ha l h⟩

lemma Safe.advance {c : Proc σ δ Λ ε α × σ} {d : δ} (h : Safe ok I Q c.1 c.2)
    (hd : Allowed ok c d) : Safe ok I Q (advance c d).1 (advance c d).2 := by
  obtain ⟨p, s⟩ := c
  cases p with
  | ret | fail => exact h
  | step l => exact h.2 d (hd l rfl)

/-- **The interruption rule.** At every point of a run with allowed decisions the condition
holds, and once the process has ended, its postcondition. -/
theorem safe_run (h : Safe ok I Q p s) (hw : Run.Along advance (Allowed ok) (p, s) w) :
    I (run advance (p, s) w).1.label (run advance (p, s) w).2 ∧
      ∀ r, (run advance (p, s) w).1.result = some r → Q r (run advance (p, s) w).2 := by
  have hsafe : Safe ok I Q (run advance (p, s) w).1 (run advance (p, s) w).2 :=
    inv_run (I := fun c : Proc σ δ Λ ε α × σ => Safe ok I Q c.1 c.2)
      (fun _ _ hc hd => hc.advance hd) h hw
  refine ⟨hsafe.inv, fun r hr => ?_⟩
  generalize run advance (p, s) w = c at hsafe hr
  obtain ⟨q, t⟩ := c
  cases q with
  | ret | fail => cases hr; exact hsafe.2
  | step => cases hr

lemma safe_stopped {P : σ → Prop} (h : Safe ok I Q p s)
    (hw : Run.Along advance (Allowed ok) (p, s) w)
    (hI : ∀ l, (run advance (p, s) w).1.label = some l → ∀ t, I (some l) t → P t)
    (hQ : ∀ r t, Q r t → P t) : P (run advance (p, s) w).2 := by
  obtain ⟨hpoint, hend⟩ := safe_run h hw
  generalize run advance (p, s) w = c at hpoint hend hI
  obtain ⟨q, t⟩ := c
  cases q with
  | ret | fail => exact hQ _ t (hend _ rfl)
  | step l => exact hI l rfl t hpoint

/-! ### What a process returns with -/

/-- When the process returns after decisions that are all `ok`, `Q` holds. -/
def Yields (ok : Λ → σ → δ → Prop) (Q : α → σ → Prop) (p : Proc σ δ Λ ε α) (s : σ) : Prop :=
  Safe ok (fun _ _ => True) (fun r s => ∀ a, r = .ok a → Q a s) p s

section
variable {A : α → σ → Prop} {B : β → σ → Prop}

lemma yields_ret {a : α} (h : A a s) : Yields ok A (pure a : Proc σ δ Λ ε α) s :=
  ⟨trivial, fun _ ha => by cases ha; exact h⟩

lemma yields_anything (p : Proc σ δ Λ ε α) (s : σ) : Yields ok (fun _ _ => True) p s := by
  induction p generalizing s with
  | ret | fail => exact ⟨trivial, fun _ _ => trivial⟩
  | step l effect next ih => exact ⟨trivial, fun d _ => ih d s (effect d s)⟩

lemma Yields.bind {f : α → Proc σ δ Λ ε β} (h : Yields ok A p s)
    (hf : ∀ a s, A a s → Yields ok B (f a) s) : Yields ok B (p >>= f) s :=
  Safe.bind h (fun a s _ ha => hf a s (ha a rfl)) fun _ _ _ _ _ hb => nomatch hb

lemma yields_lift (r : Except ε α) (s : σ) :
    Yields ok (fun a _ => r = .ok a) (lift r : Proc σ δ Λ ε α) s := safe_lift trivial fun _ ha => ha

lemma yields_fail (e : ε) (s : σ) : Yields ok A (.fail e : Proc σ δ Λ ε α) s :=
  ⟨trivial, fun _ ha => by cases ha⟩

lemma yields_act {l : Λ} {f : δ → σ → Except ε α × σ}
    (h : ∀ d a, (f d s).1 = .ok a → A a (f d s).2) : Yields ok A (act l f) s :=
  safe_act trivial fun d _ => ⟨trivial, h d⟩

/-- A loop: what holds beside the rest of the list holds beside the empty list at its end. -/
lemma yields_forM {I : List β → σ → Prop} {f : β → Proc σ δ Λ ε PUnit}
    (hf : ∀ b l s, I (b :: l) s → Yields ok (fun _ => I l) (f b) s) {l : List β} (h : I l s) :
    Yields ok (fun _ => I []) (l.forM f) s := by
  induction l generalizing s with
  | nil => exact yields_ret h
  | cons b l ih => exact (hf b l s h).bind fun _ s hs => ih hs

theorem yields_run (h : Yields ok A p s) (hw : Run.Along advance (Allowed ok) (p, s) w) {a : α}
    (ha : (run advance (p, s) w).1.result = some (.ok a)) :
    A a (run advance (p, s) w).2 := (safe_run h hw).2 _ ha a rfl

lemma along_allowed : Run.Along advance (Allowed fun _ _ _ => True) (p, s) w := by
  have hany : Run.Along advance (fun _ _ => True) (p, s) w := along_of_mem fun _ _ => trivial
  exact along_of_inv (I := fun _ => True) (fun _ _ _ _ => ⟨trivial, fun _ _ => trivial⟩) trivial
    hany

end

lemma Steps.advance {c : Proc σ δ Λ ε α × σ} {d : δ} (h : Steps ok G Q c.1 c.2)
    (hd : Allowed ok c d) :
    (advance c d = c ∨ G c.2 (advance c d).2) ∧ Steps ok G Q (advance c d).1 (advance c d).2 := by
  obtain ⟨p, s⟩ := c
  cases p with
  | ret | fail => exact ⟨.inl rfl, h⟩
  | step l => exact ⟨.inr (h d (hd l rfl)).1, (h d (hd l rfl)).2⟩

/-- **The invariant rule.** What every step keeps holds at every point of a run. -/
theorem steps_run {P : σ → Prop}
    (h : Steps ok G Q p s) (hP : ∀ s s', P s → G s s' → P s') (hs : P s)
    (hw : Run.Along advance (Allowed ok) (p, s) w) : P (run advance (p, s) w).2 := by
  have hinv := inv_run (I := fun c : Proc σ δ Λ ε α × σ => Steps ok G Q c.1 c.2 ∧ P c.2)
    (fun c d hc hd => ?_) ⟨h, hs⟩ hw
  · exact hinv.2
  · obtain ⟨hmove, hsteps⟩ := hc.1.advance hd
    refine ⟨hsteps, ?_⟩
    rcases hmove with hsame | hG
    · rw [hsame]
      exact hc.2
    · exact hP _ _ hc.2 hG

/-! ### Processes whose labels say what they do -/

/-- Every operation is what its label performs, and has a label with `V`. -/
def Follows (perform : Λ → δ → σ → σ) (V : Λ → Prop) : Proc σ δ Λ ε α → Prop
  | .ret _ => True
  | .fail _ => True
  | .step l effect next => V l ∧ effect = perform l ∧ ∀ d s, Follows perform V (next d s)

section
variable {perform : Λ → δ → σ → σ} {V : Λ → Prop}

lemma follows_ret (a : α) : Follows perform V (pure a : Proc σ δ Λ ε α) := trivial

lemma follows_fail (e : ε) : Follows perform V (.fail e : Proc σ δ Λ ε α) := trivial

lemma follows_lift (r : Except ε α) : Follows perform V (lift r : Proc σ δ Λ ε α) := by
  cases r with
  | error | ok => trivial

lemma follows_act {l : Λ} {f : δ → σ → Except ε α × σ} (hl : V l)
    (hf : ∀ d s, (f d s).2 = perform l d s) : Follows perform V (act l f) :=
  ⟨hl, funext fun d => funext fun s => hf d s, fun d s => follows_lift (f d s).1⟩

lemma Follows.bind {f : α → Proc σ δ Λ ε β} (hp : Follows perform V p)
    (hf : ∀ a, Follows perform V (f a)) : Follows perform V (p >>= f) := by
  induction p with
  | ret a => exact hf a
  | fail => trivial
  | step l effect next ih => exact ⟨hp.1, hp.2.1, fun d s => ih d s (hp.2.2 d s)⟩

lemma Follows.onlyIf {p : Proc σ δ Λ ε Unit} {c : Bool} (h : c = true → Follows perform V p) :
    Follows perform V (p.onlyIf c) := by
  cases c with
  | false => trivial
  | true => exact h rfl

lemma follows_forM {f : β → Proc σ δ Λ ε PUnit} (hf : ∀ b, Follows perform V (f b)) (l : List β) :
    Follows perform V (l.forM f) := by
  induction l with
  | nil => exact follows_ret _
  | cons b l ih => exact (hf b).bind fun _ => ih

lemma follows_foldlM {f : α → β → Proc σ δ Λ ε α} (hf : ∀ a b, Follows perform V (f a b))
    (l : List β) (a : α) : Follows perform V (l.foldlM f a) := by
  induction l generalizing a with
  | nil => exact follows_ret a
  | cons b l ih => exact (hf a b).bind fun a => ih a

lemma Follows.advance {c : Proc σ δ Λ ε α × σ} (h : Follows perform V c.1) (d : δ) :
    Follows perform V (advance c d).1 := by
  obtain ⟨p, s⟩ := c
  cases p with
  | ret | fail => exact h
  | step => exact h.2.2 d s

/-- **The label rule.** What every label with `V` keeps holds at every point of a run. -/
theorem follows_run {P : σ → Prop} {c : Proc σ δ Λ ε α × σ} (h : Follows perform V c.1)
    (hP : ∀ l, V l → ∀ d s, P s → P (perform l d s)) (hc : P c.2) (w : List δ) :
    Follows perform V (run advance c w).1 ∧ P (run advance c w).2 := by
  refine inv_run_all (I := fun c : Proc σ δ Λ ε α × σ => Follows perform V c.1 ∧ P c.2)
    (fun c d hc => ⟨hc.1.advance d, ?_⟩) ⟨h, hc⟩ w
  obtain ⟨p, s⟩ := c
  cases p with
  | ret | fail => exact hc.2
  | step l =>
    obtain ⟨⟨hl, rfl, -⟩, hs⟩ := hc
    exact hP l hl d s hs

end

end Proc

end NetaAgent.Process
