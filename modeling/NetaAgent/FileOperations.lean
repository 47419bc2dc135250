import NetaAgent.Decimal
import NetaAgent.FileProgram
import NetaAgent.Process

/-!
Programs that replace files through temporary ones, one operation at a time.

Every operation may fail, and a program may be interrupted before any of them. A write that fails
leaves any content in the temporary file, and it may do so without a word: a stream whose bytes are
lost when it is closed reports no error. A rename is atomic. `shown` is what a reader of the files
sees: only a rename and a removal change it.
-/

namespace NetaAgent.FileOperations

open Decimal FileProgram NetaAgent.Process Function Proc

inductive Place (φ : Type) where
  | file (x : φ)
  | temporary (x : φ)
  deriving DecidableEq

abbrev Disk (φ : Type) := Files (Place φ) Text

/-- What the environment decides about one operation: its error, what a write that fails leaves,
and the answer from outside. A write without an error that leaves something is lost. -/
structure Decision (ρ : Type) where
  fails : Option Text
  left : Option Text
  answer : ρ

variable {φ ρ Λ α : Type} [DecidableEq φ]

/-- The calls made to replace one file. -/
inductive WriteCall where
  | createDirectories
  | write
  | permissions
  | rename
  | removeTemporary
  | remove
  deriving DecidableEq

abbrev Program (φ ρ Λ α : Type) := Proc (Disk φ) (Decision ρ) Λ Text α

variable (s : Disk φ) (l : Λ) (x : φ) (c : Option Text)

/-- An operation that fails without a trace, or has this effect. -/
def effect (f : Disk φ → Disk φ) : Program φ ρ Λ Unit :=
  .act l fun d s =>
    match d.fails with
    | some e => (.error e, s)
    | none => (.ok (), f s)

def look (f : Disk φ → α) : Program φ ρ Λ α :=
  .act l fun d s =>
    match d.fails with
    | some e => (.error e, s)
    | none => (.ok (f s), s)

def ask : Program φ ρ Λ ρ :=
  .act l fun d s =>
    match d.fails with
    | some e => (.error e, s)
    | none => (.ok d.answer, s)

def attempt (f : Disk φ → Disk φ) : Program φ ρ Λ Unit :=
  .act l fun d s => (.ok (), if d.fails.isSome then s else f s)

def Disk.put (p : Place φ) (content : Option Text) : Disk φ :=
  Function.update s p content

def writeTemporary (content : Text) : Program φ ρ Λ Unit :=
  .act l fun d s =>
    match d.fails with
    | some e => (.error e, d.left.elim s fun t => s.put (.temporary x) (some t))
    | none => (.ok (), s.put (.temporary x) (some (d.left.getD content)))

def Disk.replaced (s : Disk φ) : Disk φ :=
  (Effect.rename (.temporary x) (.file x) : Effect (Place φ) Text).apply s

def shown : φ → Option Text := fun x => s (.file x)

@[simp] lemma shown_put_temporary : shown (s.put (.temporary x) c) = shown s := rfl

lemma shown_put_file : shown (s.put (.file x) c) = update (shown s) x c := by
  funext y
  by_cases h : y = x
  · subst h
    simp [shown, Disk.put]
  · have hplace : Place.file y ≠ Place.file x := fun heq => h (Place.file.inj heq)
    simp [shown, Disk.put, update_of_ne h, update_of_ne hplace]

lemma shown_replaced : shown (s.replaced x) = update (shown s) x (s (.temporary x)) := by
  funext y
  by_cases h : y = x
  · subst h
    simp [shown, Disk.replaced, Effect.apply]
  · have hplace : Place.file y ≠ Place.file x := fun heq => h (Place.file.inj heq)
    simp [shown, Disk.replaced, Effect.apply, update_of_ne h, update_of_ne hplace]

/-! ### The rules -/

section Rules
variable {ok : Λ → Disk φ → Decision ρ → Prop} {I : Option Λ → Disk φ → Prop} {l : Λ} {s : Disk φ}

def MayFail (ok : Λ → Disk φ → Decision ρ → Prop) (l : Λ) : Prop :=
  ∃ s d, ok l s d ∧ d.fails.isSome = true

omit [DecidableEq φ] in
lemma mayFail {d : Decision ρ} {e : Text} (hd : ok l s d) (he : d.fails = some e) : MayFail ok l :=
  ⟨s, d, hd, by rw [he]; rfl⟩

def MayLose (ok : Λ → Disk φ → Decision ρ → Prop) (l : Λ) : Prop :=
  ∃ s d, ok l s d ∧ d.fails = none ∧ d.left ≠ none

omit [DecidableEq φ] in
lemma not_mayFail (h : ∀ s d, ok l s d → d.fails = none) : ¬ MayFail ok l := by
  rintro ⟨s, d, hd, hfails⟩
  rw [h s d hd] at hfails
  cases hfails

omit [DecidableEq φ] in
lemma not_mayLose (h : ∀ s d, ok l s d → d.fails = none → d.left = none) : ¬ MayLose ok l :=
  fun ⟨s, d, hd, hfails, hleft⟩ => hleft (h s d hd hfails)

variable {Q : Except Text Unit → Disk φ → Prop} {f : Disk φ → Disk φ}
  (hnone : ∀ t, I none t) (hI : I (some l) s)
include hnone hI

omit [DecidableEq φ] in
lemma safe_effect (hok : Q (.ok ()) (f s)) (herr : ∀ e, MayFail ok l → Q (.error e) s) :
    Proc.Safe ok I Q (effect l f) s := by
  refine safe_act hI fun d hd => ?_
  cases he : d.fails with
  | none => simpa only [he] using ⟨hnone _, hok⟩
  | some e => simpa only [he] using ⟨hnone _, herr e (mayFail hd he)⟩

omit [DecidableEq φ] in
lemma safe_look {f : Disk φ → α} {Q : Except Text α → Disk φ → Prop}
    (hok : Q (.ok (f s)) s) (herr : ∀ e, MayFail ok l → Q (.error e) s) :
    Proc.Safe ok I Q (look l f) s := by
  refine safe_act hI fun d hd => ?_
  cases he : d.fails with
  | none => simpa only [he] using ⟨hnone _, hok⟩
  | some e => simpa only [he] using ⟨hnone _, herr e (mayFail hd he)⟩

omit [DecidableEq φ] in
lemma safe_ask {Q : Except Text ρ → Disk φ → Prop}
    (hok : ∀ d, ok l s d → Q (.ok d.answer) s) (herr : ∀ e, MayFail ok l → Q (.error e) s) :
    Proc.Safe ok I Q (ask l) s := by
  refine safe_act hI fun d hd => ?_
  cases he : d.fails with
  | none => simpa only [he] using ⟨hnone _, hok d hd⟩
  | some e => simpa only [he] using ⟨hnone _, herr e (mayFail hd he)⟩

omit [DecidableEq φ] in
lemma safe_attempt (hok : Q (.ok ()) (f s))
    (hfailed : MayFail ok l → Q (.ok ()) s) : Proc.Safe ok I Q (attempt l f) s := by
  refine safe_act hI fun d hd => ⟨hnone _, ?_⟩
  cases he : d.fails with
  | none => exact hok
  | some e => exact hfailed (mayFail hd he)

lemma safe_writeTemporary {x : φ} {content : Text}
    (hok : ∀ t c, (¬ MayLose ok l → c = content) → shown t = shown s →
      t (.temporary x) = some c → Q (.ok ()) t)
    (herr : ∀ e t, MayFail ok l → shown t = shown s → Q (.error e) t) :
    Proc.Safe ok I Q (writeTemporary l x content) s := by
  refine safe_act hI fun d hd => ⟨hnone _, ?_⟩
  cases he : d.fails with
  | none =>
    refine hok _ (d.left.getD content) (fun hkept => ?_) (shown_put_temporary s x _)
      (update_self _ _ _)
    rw [of_not_not fun hleft => hkept ⟨s, d, hd, he, hleft⟩]
    rfl
  | some e =>
    cases d.left with
    | none => exact herr e s (mayFail hd he) rfl
    | some t => exact herr e _ (mayFail hd he) (shown_put_temporary s x _)

lemma safe_replace {x : φ} {content : Text}
    (hs : s (.temporary x) = some content)
    (hok : ∀ t, shown t = update (shown s) x (some content) → Q (.ok ()) t)
    (herr : ∀ e, MayFail ok l → Q (.error e) s) :
    Proc.Safe ok I Q (effect l (Disk.replaced x)) s := by
  refine safe_effect hnone hI (hok _ ?_) herr
  rw [shown_replaced, hs]

end Rules

/-! ### Where a program may be interrupted -/

section Points
variable (between : Λ → Bool) (P : Disk φ → Prop)

/-- The files are as they should be whenever the next operation is not one in between. -/
def Point : Option Λ → Disk φ → Prop
  | none, _ => True
  | some l, t => between l = false → P t

variable {between : Λ → Bool} {P : Disk φ → Prop} {t : Disk φ} {l : Λ}

omit [DecidableEq φ] in
lemma point_none (t : Disk φ) : Point between P none t := trivial

omit [DecidableEq φ] in
lemma point_of (h : P t) (l : Λ) : Point between P (some l) t := fun _ => h

omit [DecidableEq φ] in
lemma point_between (h : between l = true) (t : Disk φ) : Point between P (some l) t :=
  fun hl => Bool.noConfusion (h.symm.trans hl)

end Points

end NetaAgent.FileOperations
