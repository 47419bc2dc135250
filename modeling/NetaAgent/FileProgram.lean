import Mathlib.Data.List.Basic

/-!
Programs over a set of files, and what a crash in the middle of one leaves behind.

A program reads files and has effects on them: it rewrites a file in place, renames one
over another, or removes one. Started on given files it has a `trace`, the list of its
effects and the way it ends; `exec` applies the whole trace. `crash` stops at the `n`-th
effect: before it when no torn content is given, and inside it otherwise, where a rewritten
file is left with the torn content. Renaming and removing are atomic. Which torn contents
can occur is left to the theorems.
-/

namespace NetaAgent.FileProgram

open Function

variable {π β ε α γ : Type}

/-- The contents of the files; `none` for a file that does not exist. -/
abbrev Files (π β : Type) := π → Option β

inductive Effect (π β : Type) where
  | write (p : π) (b : β)
  | rename (p q : π)
  | remove (p : π)

inductive Prog (π β ε α : Type) where
  | ret (a : α)
  | fail (e : ε)
  | read (p : π) (k : Option β → Prog π β ε α)
  | effect (e : Effect π β) (k : Prog π β ε α)

namespace Prog

def bind : Prog π β ε α → (α → Prog π β ε γ) → Prog π β ε γ
  | .ret a, f => f a
  | .fail e, _ => .fail e
  | .read p k, f => .read p fun c => (k c).bind f
  | .effect e k, f => .effect e (k.bind f)

instance : Monad (Prog π β ε) where
  pure := .ret
  bind := bind

def lift : Except ε α → Prog π β ε α
  | .ok a => .ret a
  | .error e => .fail e

def readFile (p : π) : Prog π β ε (Option β) := .read p .ret
def writeFile (p : π) (b : β) : Prog π β ε Unit := .effect (.write p b) (.ret ())
def renameFile (p q : π) : Prog π β ε Unit := .effect (.rename p q) (.ret ())
def removeFile (p : π) : Prog π β ε Unit := .effect (.remove p) (.ret ())

end Prog

variable [DecidableEq π]

def Effect.apply : Effect π β → Files π β → Files π β
  | .write p b, f => Function.update f p (some b)
  | .rename p q, f => Function.update (Function.update f q (f p)) p none
  | .remove p, f => Function.update f p none

/-- The files when the effect is interrupted and leaves `b` behind. -/
def Effect.tear (b : β) : Effect π β → Files π β → Files π β
  | .write p _, f => Function.update f p (some b)
  | .rename _ _, f => f
  | .remove _, f => f

def applyAll (es : List (Effect π β)) (f : Files π β) : Files π β :=
  es.foldl (fun g e => e.apply g) f

@[simp] lemma applyAll_nil (f : Files π β) : applyAll [] f = f := rfl
@[simp] lemma applyAll_cons (e : Effect π β) (es : List (Effect π β)) (f : Files π β) :
    applyAll (e :: es) f = applyAll es (e.apply f) := rfl

/-- The files a crash at the `n`-th of these effects leaves. -/
def leave : List (Effect π β) → ℕ → Option β → Files π β → Files π β
  | [], _, _, f => f
  | _ :: _, 0, none, f => f
  | e :: _, 0, some b, f => e.tear b f
  | e :: es, n + 1, t, f => leave es n t (e.apply f)

section
variable (e : Effect π β) (es : List (Effect π β)) (n : ℕ) (t : Option β) (b : β) (f : Files π β)

@[simp] lemma leave_nil : leave [] n t f = f := by cases n <;> cases t <;> rfl
@[simp] lemma leave_before : leave (e :: es) 0 none f = f := rfl
@[simp] lemma leave_inside : leave (e :: es) 0 (some b) f = e.tear b f := rfl
@[simp] lemma leave_after : leave (e :: es) (n + 1) t f = leave es n t (e.apply f) := by
  cases t <;> rfl

end

/-- A file being rewritten at the crash is left with a prefix of the new text. -/
def PrefixTear {χ : Type} (es : List (Effect π (List χ))) (n : ℕ) (t : Option (List χ)) : Prop :=
  ∀ u p b, t = some u → es[n]? = some (.write p b) → u <+: b

/-- Every interruption and every completion of the effects, one after the other, is in `I`. -/
def Kept (I : Files π β → Prop) : List (Effect π β) → Files π β → Prop
  | [], _ => True
  | e :: es, f => (∀ b, I (e.tear b f)) ∧ I (e.apply f) ∧ Kept I es (e.apply f)

variable {es : List (Effect π β)} {I J : Files π β → Prop} {f : Files π β}

/-- **The crash rule.** -/
theorem leave_kept (hf : I f) (h : Kept I es f) (n : ℕ) (t : Option β) : I (leave es n t f) := by
  induction es generalizing f n with
  | nil => simpa using hf
  | cons e es ih =>
    obtain ⟨htear, hall, hrest⟩ := h
    cases n with
    | zero =>
      cases t with
      | none => exact hf
      | some b => exact htear b
    | succ n => rw [leave_after]; exact ih hall hrest n

lemma applyAll_kept (hf : I f) (h : Kept I es f) : I (applyAll es f) := by
  induction es generalizing f with
  | nil => exact hf
  | cons e es ih => exact ih h.2.1 h.2.2

variable {e : Effect π β}

lemma kept_cons
    (h : Kept I [e] f) (hes : Kept I es (e.apply f)) : Kept I (e :: es) f := ⟨h.1, h.2.1, hes⟩

lemma Kept.mono (hIJ : ∀ g, I g → J g) (h : Kept I es f) : Kept J es f := by
  induction es generalizing f with
  | nil => trivial
  | cons e es ih => exact ⟨fun b => hIJ _ (h.1 b), hIJ _ h.2.1, ih h.2.2⟩

/-- The effect neither changes the file `p` nor can be torn there. -/
def Effect.Avoids (p : π) : Effect π β → Prop
  | .write q _ => p ≠ q
  | .rename q r => p ≠ q ∧ p ≠ r
  | .remove q => p ≠ q

lemma Effect.Avoids.apply {p : π} (h : e.Avoids p) (f : Files π β) :
    e.apply f p = f p := by
  cases e with
  | rename q r => simp only [Effect.apply, update_of_ne h.1, update_of_ne h.2]
  | write | remove => exact update_of_ne h _ _

lemma Effect.Avoids.tear {p : π} (h : e.Avoids p) (b : β) (f : Files π β) :
    e.tear b f p = f p := by
  cases e with
  | write q _ => exact update_of_ne h _ _
  | rename | remove => rfl

/-- **The frame rule.** A file that no effect is about stays as it is, crash or not. -/
lemma kept_frame {p : π} {c : Option β} (hf : f p = c)
    (h : ∀ e ∈ es, e.Avoids p) : Kept (fun g => g p = c) es f := by
  induction es generalizing f with
  | nil => trivial
  | cons e es ih =>
    have he := h e List.mem_cons_self
    exact ⟨fun b => (he.tear b f).trans hf, (he.apply f).trans hf,
      ih ((he.apply f).trans hf) fun e' h' => h e' (List.mem_cons_of_mem _ h')⟩

namespace Prog

/-- The effects of the program on these files, in order, and how it ends. -/
def trace : Prog π β ε α → Files π β → List (Effect π β) × Except ε α
  | .ret a, _ => ([], .ok a)
  | .fail e, _ => ([], .error e)
  | .read p k, f => (k (f p)).trace f
  | .effect e k, f => (e :: (k.trace (e.apply f)).1, (k.trace (e.apply f)).2)

def exec (p : Prog π β ε α) (f : Files π β) : Except ε α × Files π β :=
  ((p.trace f).2, applyAll (p.trace f).1 f)

/-- The files a crash at the `n`-th effect leaves, with torn content `t`. -/
def crash (p : Prog π β ε α) (n : ℕ) (t : Option β) (f : Files π β) : Files π β :=
  leave (p.trace f).1 n t f

section
variable {p : Prog π β ε α} {k : α → Prog π β ε γ} {f : Files π β} {es : List (Effect π β)}

@[simp] lemma trace_pure (a : α) : (pure a : Prog π β ε α).trace f = ([], .ok a) := rfl
@[simp] lemma trace_fail (e : ε) : (fail e : Prog π β ε α).trace f = ([], .error e) := rfl
@[simp] lemma trace_readFile (q : π) :
    (readFile q : Prog π β ε (Option β)).trace f = ([], .ok (f q)) := rfl
@[simp] lemma trace_writeFile (q : π) (b : β) :
    (writeFile q b : Prog π β ε Unit).trace f = ([.write q b], .ok ()) := rfl

@[simp] lemma trace_lift (r : Except ε α) : (lift r : Prog π β ε α).trace f = ([], r) := by
  cases r <;> rfl

lemma trace_bind {a : α} (h : p.trace f = (es, .ok a)) : (p >>= k).trace f =
    (es ++ ((k a).trace (applyAll es f)).1, ((k a).trace (applyAll es f)).2) := by
  induction p generalizing f es with
  | ret b => cases h; rfl
  | fail e => cases h
  | read q c ih => exact ih (f q) h
  | effect e c ih =>
    simp only [trace, Prod.mk.injEq] at h
    obtain ⟨rfl, ha⟩ := h
    have hc : c.trace (e.apply f) = ((c.trace (e.apply f)).1, .ok a) := by rw [← ha]
    show (e :: ((c >>= k).trace (e.apply f)).1, ((c >>= k).trace (e.apply f)).2) = _
    rw [ih hc]
    rfl

lemma trace_bind_error {x : ε} (h : p.trace f = (es, .error x)) :
    (p >>= k).trace f = (es, .error x) := by
  induction p generalizing f es with
  | ret b => cases h
  | fail e => cases h; rfl
  | read q c ih => exact ih (f q) h
  | effect e c ih =>
    simp only [trace, Prod.mk.injEq] at h
    obtain ⟨rfl, ha⟩ := h
    have hc : c.trace (e.apply f) = ((c.trace (e.apply f)).1, .error x) := by rw [← ha]
    show (e :: ((c >>= k).trace (e.apply f)).1, ((c >>= k).trace (e.apply f)).2) = _
    rw [ih hc]

end

end Prog

end NetaAgent.FileProgram
