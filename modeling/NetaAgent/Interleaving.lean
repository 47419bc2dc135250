import NetaAgent.Run

/-!
Several processes on one shared state, one atomic step at a time.

A process is its local state; `advance` is what it does next. A schedule says which process takes
the next step. What a process knows of the shared state must survive the steps of the others, which
move that state within a relation `R`. From this come a rule for invariants, and a rule for what a
part of the processes can see of the others.
-/

namespace NetaAgent.Interleaving

open Run

variable {ι π σ : Type} [DecidableEq ι]

structure Pool (ι π σ : Type) where
  procs : ι → π
  shared : σ

def Pool.step (advance : π → σ → π × σ) (c : Pool ι π σ) (i : ι) : Pool ι π σ :=
  let r := advance (c.procs i) c.shared
  ⟨Function.update c.procs i r.1, r.2⟩

variable {advance : π → σ → π × σ}

lemma Pool.step_self (c : Pool ι π σ) (i : ι) :
    (c.step advance i).procs i = (advance (c.procs i) c.shared).1 := Function.update_self ..

lemma Pool.step_of_ne (c : Pool ι π σ) {i j : ι} (h : j ≠ i) :
    (c.step advance i).procs j = c.procs j := Function.update_of_ne h ..

/-- What the processes know, `K`, is kept by their own steps, and by any move within `R`. -/
structure Cooperative (advance : π → σ → π × σ) (R : σ → σ → Prop) (K : ι → π → σ → Prop) :
    Prop where
  refl : ∀ s, R s s
  trans : ∀ s t u, R s t → R t u → R s u
  kept : ∀ i p s t, K i p s → R s t → K i p t
  own : ∀ i p s, K i p s → R s (advance p s).2 ∧ K i (advance p s).1 (advance p s).2

variable {R : σ → σ → Prop} {K : ι → π → σ → Prop} {c : Pool ι π σ}

namespace Cooperative
variable (h : Cooperative advance R K)
include h

lemma step (hc : ∀ i, K i (c.procs i) c.shared) (i j : ι) :
    K j ((c.step advance i).procs j) (c.step advance i).shared := by
  obtain ⟨hR, hK⟩ := h.own i _ _ (hc i)
  by_cases hj : j = i
  · rw [hj, Pool.step_self]
    exact hK
  · rw [Pool.step_of_ne c hj]
    exact h.kept j _ _ _ (hc j) hR

/-- **The invariant rule.** Along every schedule the processes know what they know, the state moves
within `R`, and what every step keeps is kept. -/
theorem run {I : σ → Prop} (hI : ∀ i p s, K i p s → I s → I (advance p s).2)
    (hc : ∀ i, K i (c.procs i) c.shared) (hs : I c.shared) (w : List ι) :
    (∀ i, K i ((run (Pool.step advance) c w).procs i) (run (Pool.step advance) c w).shared) ∧
      R c.shared (run (Pool.step advance) c w).shared ∧ I (run (Pool.step advance) c w).shared := by
  refine inv_run_all (I := fun c' : Pool ι π σ =>
    (∀ i, K i (c'.procs i) c'.shared) ∧ R c.shared c'.shared ∧ I c'.shared) (fun c' i hc' => ?_)
    ⟨hc, h.refl _, hs⟩ w
  obtain ⟨hK, hR, hI'⟩ := hc'
  exact ⟨h.step hK i, h.trans _ _ _ hR (h.own i _ _ (hK i)).1, hI i _ _ (hK i) hI'⟩

end Cooperative

/-! ### What a part of the processes can see -/

/-- A process that meets `Own` does the same in states that look alike, and they look alike
afterwards. -/
def Blind (advance : π → σ → π × σ) (V : σ → σ → Prop) (Own : π → Prop) : Prop :=
  ∀ p s t, Own p → V s t → (advance p s).1 = (advance p t).1 ∧ Own (advance p s).1 ∧
    V (advance p s).2 (advance p t).2

/-- Two pools that look alike to the processes of `A`. -/
structure Alike (V : σ → σ → Prop) (Own : π → Prop) (A : ι → Bool) (c c' : Pool ι π σ) : Prop where
  procs : ∀ i, A i = true → c.procs i = c'.procs i
  own : ∀ i, A i = true → Own (c.procs i)
  shared : V c.shared c'.shared

variable {V : σ → σ → Prop} {Own : π → Prop} {A : ι → Bool} {c' : Pool ι π σ}

/-- A step of a process of `A`, on both sides. -/
lemma Alike.step_both (hblind : Blind advance V Own) (h : Alike V Own A c c') {i : ι}
    (hi : A i = true) : Alike V Own A (c.step advance i) (c'.step advance i) := by
  obtain ⟨hsame, hown, hV⟩ := hblind _ _ _ (h.own i hi) h.shared
  refine ⟨fun j hj => ?_, fun j hj => ?_, ?_⟩
  · by_cases hji : j = i
    · rw [hji, Pool.step_self, Pool.step_self, hsame, h.procs i hi]
    · rw [Pool.step_of_ne c hji, Pool.step_of_ne c' hji, h.procs j hj]
  · by_cases hji : j = i
    · rw [hji, Pool.step_self]
      exact hown
    · rw [Pool.step_of_ne c hji]
      exact h.own j hj
  · show V _ (advance (c'.procs i) c'.shared).2
    rw [← h.procs i hi]
    exact hV

lemma Alike.step_other (h : Alike V Own A c c') {i : ι} (hi : A i = false)
    (hV : V (advance (c.procs i) c.shared).2 c'.shared) : Alike V Own A (c.step advance i) c' := by
  have hprocs : ∀ j, A j = true → (c.step advance i).procs j = c.procs j := by
    intro j hj
    refine Pool.step_of_ne c fun hji => ?_
    rw [hji, hi] at hj
    cases hj
  refine ⟨fun j hj => (hprocs j hj).trans (h.procs j hj), fun j hj => ?_, hV⟩
  rw [hprocs j hj]
  exact h.own j hj

/-- **Noninterference.** The processes of `A` do what they would do alone, if the steps of the others
are not to be seen. The state at the end may be what says so, as it comes from every state of the
run. -/
theorem Alike.run (hcoop : Cooperative advance R K) (hblind : Blind advance V Own) {w : List ι}
    (hhidden : ∀ i p s t, A i = false → K i p s →
      R s (run (Pool.step advance) c w).shared → V s t → V (advance p s).2 t)
    (hc : ∀ i, K i (c.procs i) c.shared) (h : Alike V Own A c c') :
    Alike V Own A (run (Pool.step advance) c w)
      (run (Pool.step advance) c' (w.filter A)) := by
  induction w generalizing c c' with
  | nil => exact h
  | cons i w ih =>
    have hnext := fun j => hcoop.step hc i j
    cases hi : A i with
    | true =>
      simp only [List.filter_cons, hi, if_true]
      exact ih hhidden hnext (h.step_both hblind hi)
    | false =>
      simp only [List.filter_cons, hi, Bool.false_eq_true, if_false]
      have hend := (hcoop.run (I := fun _ => True) (fun _ _ _ _ _ => trivial) hc trivial (i :: w)).2.1
      exact ih hhidden hnext
        (h.step_other hi (hhidden i _ _ _ hi (hc i) hend h.shared))

end NetaAgent.Interleaving
