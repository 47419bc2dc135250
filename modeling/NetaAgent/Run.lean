import Mathlib.Data.List.Basic

/-!
Runs of a system whose steps are driven by labels.

A label carries everything the environment decides at a step, so a step is a function of
the state and the label, and a run is a fold. `Along` says that every step of a run meets
a condition, read at the state before the step. An invariant that the allowed steps keep
holds at the end of every allowed run, and whatever it gives at one step it gives along
the whole run.
-/

namespace NetaAgent.Run

variable {σ ι : Type*}

section
variable (step : σ → ι → σ)

def run (s : σ) (w : List ι) : σ := w.foldl step s

/-- Every step of the run meets `ok`, read at the state before the step. -/
def Along (ok : σ → ι → Prop) : σ → List ι → Prop
  | _, [] => True
  | s, i :: w => ok s i ∧ Along ok (step s i) w

instance Along.decidable (ok : σ → ι → Prop) [∀ s i, Decidable (ok s i)] :
    ∀ s w, Decidable (Along step ok s w)
  | _, [] => .isTrue trivial
  | s, i :: w =>
    haveI := Along.decidable ok (step s i) w
    inferInstanceAs (Decidable (ok s i ∧ Along step ok (step s i) w))

end

variable {step : σ → ι → σ} {ok P : σ → ι → Prop} {w : List ι} {s : σ} {I : σ → Prop}

/-- **The invariant rule.** What every allowed step keeps holds at the end of every
allowed run. -/
theorem inv_run (hstep : ∀ s i, I s → ok s i → I (step s i))
    (hs : I s) (hw : Along step ok s w) : I (run step s w) := by
  induction w generalizing s with
  | nil => exact hs
  | cons i w ih => exact ih (hstep s i hs hw.1) hw.2

/-- What an invariant gives at each allowed step, it gives along every allowed run. -/
theorem along_of_inv (hstep : ∀ s i, I s → ok s i → I (step s i) ∧ P s i)
    (hs : I s) (hw : Along step ok s w) : Along step P s w := by
  induction w generalizing s with
  | nil => trivial
  | cons i w ih =>
    obtain ⟨hI, hP⟩ := hstep s i hs hw.1
    exact ⟨hP, ih hI hw.2⟩

theorem along_of_mem {Q : ι → Prop} (hQ : ∀ i ∈ w, Q i) : Along step (fun _ i => Q i) s w := by
  induction w generalizing s with
  | nil => trivial
  | cons i w ih =>
    exact ⟨hQ i List.mem_cons_self, ih fun j hj => hQ j (List.mem_cons_of_mem i hj)⟩

theorem along_and {ok ok' : σ → ι → Prop} (h : Along step ok s w)
    (h' : Along step ok' s w) : Along step (fun s i => ok s i ∧ ok' s i) s w := by
  induction w generalizing s with
  | nil => trivial
  | cons i w ih => exact ⟨⟨h.1, h'.1⟩, ih h.2 h'.2⟩

theorem along_and_mem {Q : ι → Prop} (hw : Along step ok s w)
    (hQ : ∀ i ∈ w, Q i) : Along step (fun s i => ok s i ∧ Q i) s w := along_and hw (along_of_mem hQ)

theorem inv_run_all (hstep : ∀ s i, I s → I (step s i)) (hs : I s)
    (w : List ι) : I (run step s w) := by
  induction w generalizing s with
  | nil => exact hs
  | cons i w ih => exact ih (hstep s i hs)

end NetaAgent.Run
