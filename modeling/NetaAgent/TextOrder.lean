import NetaAgent.Decimal
import Mathlib.Data.List.Sort

/-!
The order of `std::string`, and sorting by it.
-/

namespace NetaAgent.TextOrder

open Decimal

/-- `a < b`: by bytes, a proper prefix first. -/
def textLt : Text → Text → Bool
  | _, [] => false
  | [], _ :: _ => true
  | a :: s, b :: t => if a = b then textLt s t else a.toNat < b.toNat

/-- `b` does not come before `a`. -/
def NotAfter (a b : Text) : Prop := textLt b a = false

instance : DecidableRel NotAfter := fun a b => inferInstanceAs (Decidable (textLt b a = false))

lemma notAfter_antisymm {s t : Text} (h : NotAfter s t) (h' : NotAfter t s) : s = t := by
  unfold NotAfter at h h'
  induction s generalizing t with
  | nil =>
    cases t with
    | nil => rfl
    | cons b t => simp [textLt] at h'
  | cons a s ih =>
    cases t with
    | nil => simp [textLt] at h
    | cons b t =>
      by_cases hab : a = b
      · subst hab
        simp only [textLt, if_true] at h h'
        rw [ih h h']
      · simp only [textLt, if_neg hab, if_neg (Ne.symm hab), decide_eq_false_iff_not] at h h'
        exact absurd (Char.toNat_inj.mp (by omega)) hab

lemma textLt_trans {s t u : Text} (h : textLt s t = true) (h' : textLt t u = true) :
    textLt s u = true := by
  induction s generalizing t u with
  | nil =>
    cases u with
    | nil => simp [textLt] at h'
    | cons c u => rfl
  | cons a s ih =>
    cases t with
    | nil => simp [textLt] at h
    | cons b t =>
      cases u with
      | nil => simp [textLt] at h'
      | cons c u =>
        by_cases hab : a = b
        · by_cases hbc : b = c
          · subst hab hbc
            simp only [textLt, if_true] at h h' ⊢
            exact ih h h'
          · subst hab
            simpa [textLt, hbc] using h'
        · by_cases hbc : b = c
          · subst hbc
            simpa [textLt, hab] using h
          · simp only [textLt, if_neg hab, if_neg hbc, decide_eq_true_eq] at h h'
            have hac : a ≠ c := by
              rintro rfl
              omega
            simp only [textLt, if_neg hac, decide_eq_true_eq]
            omega

lemma textLt_irrefl (s : Text) : textLt s s = false := by
  induction s with
  | nil => rfl
  | cons a s ih => simpa [textLt] using ih

lemma textLt_or (s t : Text) : textLt s t = true ∨ s = t ∨ textLt t s = true := by
  by_cases h : textLt s t = true
  · exact .inl h
  · by_cases h' : textLt t s = true
    · exact .inr (.inr h')
    · exact .inr (.inl (notAfter_antisymm (by simpa [NotAfter] using h') (by simpa [NotAfter] using h)))

instance : IsTrans Text NotAfter where
  trans s t u h h' := by
    by_contra hsu
    have hus : textLt u s = true := by simpa [NotAfter] using hsu
    rcases textLt_or t u with htu | rfl | hut
    · exact absurd (textLt_trans htu hus) (by simpa [NotAfter] using h)
    · exact absurd hus (by simpa [NotAfter] using h)
    · exact absurd hut (by simpa [NotAfter] using h')

instance : Std.Total NotAfter where
  total s t := by
    by_contra h
    rw [not_or] at h
    have h1 : textLt t s = true := by simpa [NotAfter] using h.1
    have h2 : textLt s t = true := by simpa [NotAfter] using h.2
    exact absurd (textLt_trans h1 h2) (by simp [textLt_irrefl])

/-- `std::sort` of strings. -/
def sortTexts (l : List Text) : List Text := l.insertionSort NotAfter

theorem sortTexts_perm {l l' : List Text} (h : l.Perm l') : sortTexts l = sortTexts l' := by
  apply List.Perm.eq_of_pairwise (fun _ _ _ _ => notAfter_antisymm)
    (List.pairwise_insertionSort NotAfter l) (List.pairwise_insertionSort NotAfter l')
  exact (List.perm_insertionSort _ l).trans (h.trans (List.perm_insertionSort _ l').symm)

/-! ### Lists in another order -/

lemma map_find?_perm {α β : Type} {p : α → Bool} {f : α → β} {l l' : List α} (h : l'.Perm l)
    (hf : ∀ x ∈ l, ∀ y ∈ l, p x = true → p y = true → f x = f y) :
    (l'.find? p).map f = (l.find? p).map f := by
  cases hx : l.find? p with
  | none =>
    have hnone : l'.find? p = none :=
      List.find?_eq_none.mpr fun y hy => List.find?_eq_none.mp hx y (h.mem_iff.mp hy)
    rw [hnone]
  | some x =>
    have hmem := List.mem_of_find?_eq_some hx
    have hpx := List.find?_some hx
    cases hy : l'.find? p with
    | none => exact absurd hpx (List.find?_eq_none.mp hy x (h.mem_iff.mpr hmem))
    | some y =>
      have hy' := h.mem_iff.mp (List.mem_of_find?_eq_some hy)
      exact congrArg some (hf y hy' x hmem (List.find?_some hy) hpx)

end NetaAgent.TextOrder
