import NetaAgent.Decimal

/-!
Texts put together with a separator, and when the parts can be read back.
-/

namespace NetaAgent.Separated

open Decimal List

variable {sep : Char}

lemma append_sep_inj {a b r s : Text} (ha : sep ∉ a) (hb : sep ∉ b)
    (h : a ++ sep :: r = b ++ sep :: s) : a = b ∧ r = s := by
  induction a generalizing b with
  | nil =>
    cases b with
    | nil => simpa using h
    | cons =>
      simp only [nil_append, cons_append, cons.injEq] at h
      exact absurd (by simp [h.1]) hb
  | cons c a ih =>
    cases b with
    | nil =>
      simp only [nil_append, cons_append, cons.injEq] at h
      exact absurd (by simp [h.1]) ha
    | cons =>
      simp only [cons_append, cons.injEq] at h
      rw [mem_cons, not_or] at ha hb
      obtain ⟨hab, hrs⟩ := ih ha.2 hb.2 h.2
      exact ⟨by rw [h.1, hab], hrs⟩

/-! ### Lists -/

lemma intercalate_cons (p : Text) (ps : List Text) :
    intercalate [sep] (p :: ps) = p ++ ps.flatMap (sep :: ·) := by
  induction ps generalizing p with
  | nil => simp [intercalate]
  | cons q ps ih =>
    have hstep : intercalate [sep] (p :: q :: ps) =
        p ++ sep :: intercalate [sep] (q :: ps) := by simp [intercalate]
    rw [hstep, ih, flatMap_cons, cons_append]

variable {ps qs : List Text}

lemma not_mem_of_mem_splitOn {t p : Text} (h : p ∈ t.splitOn sep) : sep ∉ p := by
  induction t generalizing p with
  | nil =>
    simp only [splitOn, splitOnP_nil, mem_singleton] at h
    subst h
    exact not_mem_nil
  | cons c t ih =>
    simp only [splitOn, splitOnP_cons_eq_if_modifyHead, beq_iff_eq] at h ih
    split at h
    · rcases mem_cons.mp h with rfl | h
      · exact not_mem_nil
      · exact ih h
    · next hc =>
      cases hparts : splitOnP (· == sep) t with
      | nil =>
        rw [hparts] at h
        cases h
      | cons =>
        rw [hparts] at h ih
        rcases mem_cons.mp h with rfl | h
        · rw [mem_cons, not_or]
          exact ⟨fun heq => hc heq.symm, ih mem_cons_self⟩
        · exact ih (mem_cons_of_mem _ h)

/-- Parts that each end with the separator are read back, with nothing after the last one. -/
lemma splitOn_flatMap_append (hps : ∀ p ∈ ps, sep ∉ p) :
    (ps.flatMap (· ++ [sep])).splitOn sep = ps ++ [[]] := by
  have hjoin : ps.flatMap (· ++ [sep]) = intercalate [sep] (ps ++ [[]]) := by
    clear hps
    induction ps with
    | nil => rfl
    | cons p ps ih =>
      cases ps with
      | nil => simp [intercalate]
      | cons =>
        rw [flatMap_cons, ih]
        simp [intercalate]
  rw [hjoin]
  refine splitOn_intercalate sep (fun p hp => ?_) (by simp)
  rcases mem_append.mp hp with hp | hp
  · exact hps p hp
  · rw [mem_singleton.mp hp]
    exact not_mem_nil

/-! ### Texts that are cut in two ways -/

/-- Up to some part the lists are the same; there the second one has a separator inside a part, and
the first one goes on with parts that read the same. -/
def Shifted (sep : Char) (ps qs : List Text) : Prop :=
  ∃ l a r ps' qs', ps = l ++ a :: ps' ∧ qs = l ++ (a ++ sep :: r) :: qs' ∧
    ps'.flatMap (sep :: ·) = sep :: r ++ qs'.flatMap (sep :: ·)

/-- A part of one list has a separator where the other list has a new part. -/
def Recut (sep : Char) (ps qs : List Text) : Prop := Shifted sep ps qs ∨ Shifted sep qs ps

lemma Shifted.cons (h : Shifted sep ps qs) (p : Text) : Shifted sep (p :: ps) (p :: qs) := by
  obtain ⟨l, a, r, ps', qs', rfl, rfl, h⟩ := h
  exact ⟨p :: l, a, r, ps', qs', rfl, rfl, h⟩

lemma Shifted.ne (h : Shifted sep ps qs) : ps ≠ qs := by
  rintro rfl
  obtain ⟨l, a, r, ps', qs', rfl, heq, -⟩ := h
  have hpart := congrArg length (cons.inj (append_cancel_left heq)).1
  simp at hpart

lemma Shifted.intercalate_eq (h : Shifted sep ps qs) :
    intercalate [sep] ps = intercalate [sep] qs := by
  obtain ⟨l, a, r, ps', qs', rfl, rfl, h⟩ := h
  cases l with
  | nil => simp [intercalate_cons, h]
  | cons => simp [intercalate_cons, h]

lemma Recut.ne (h : Recut sep ps qs) : ps ≠ qs := h.elim Shifted.ne fun h => h.ne.symm

/-- **Two lists of parts join to the same text** when they are the same, or when the text is cut in
two ways. -/
theorem intercalate_eq_iff (hps : ps ≠ []) (hqs : qs ≠ []) :
    intercalate [sep] ps = intercalate [sep] qs ↔ ps = qs ∨ Recut sep ps qs := by
  constructor
  · intro h
    induction ps generalizing qs with
    | nil => exact absurd rfl hps
    | cons p ps ih =>
      obtain ⟨q, qs, rfl⟩ := exists_cons_of_ne_nil hqs
      rw [intercalate_cons, intercalate_cons, append_eq_append_iff] at h
      rcases h with ⟨_ | ⟨c, r⟩, hpart, hrest⟩ | ⟨_ | ⟨c, r⟩, hpart, hrest⟩
      -- one of the first two parts is longer: it has the separator after the other one
      case inl.cons | inr.cons =>
        have hsep : c = sep := by
          cases ps <;> cases qs <;> simp_all
        subst hsep hpart
        first
        | exact .inr (.inl ⟨[], p, r, ps, qs, rfl, rfl, hrest⟩)
        | exact .inr (.inr ⟨[], q, r, qs, ps, rfl, rfl, hrest⟩)
      all_goals
        obtain rfl : q = p := by simp [hpart]
        cases ps with
        | nil =>
          cases qs with
          | nil => exact .inl rfl
          | cons => simp at hrest
        | cons =>
          cases qs with
          | nil => simp at hrest
          | cons =>
            have htail := ih (cons_ne_nil _ _) (cons_ne_nil _ _)
              (by simpa [intercalate_cons, eq_comm] using hrest)
            exact htail.imp (congrArg _) (Or.imp (·.cons _) (·.cons _))
  · rintro (rfl | h | h)
    · rfl
    · exact h.intercalate_eq
    · exact h.intercalate_eq.symm

section Groups

variable {α β γ : Type} {l l' : List α}

/-- Two lists with the same images under `f` have the same images under `g`, when this holds at
every place. -/
lemma map_eq_of_map_eq {f : α → β} {g : α → γ}
    (hf : ∀ (i : ℕ) (x y : α), l[i]? = some x → l'[i]? = some y → f x = f y → g x = g y)
    (h : l.map f = l'.map f) : l.map g = l'.map g := by
  refine ext_getElem? fun i => ?_
  have hi := congrArg (·[i]?) h
  simp only [getElem?_map] at hi ⊢
  cases hx : l[i]? <;> cases hy : l'[i]? <;> simp only [hx, hy, Option.map_none, Option.map_some,
    reduceCtorEq, Option.some.injEq] at hi ⊢
  exact hf i _ _ hx hy hi

lemma filter_entries_inj {l l' : List (α × List β)} (hkeys : l.map Prod.fst = l'.map Prod.fst)
    (hnodup : (l.map Prod.fst).Nodup)
    (h : l.filter (fun e => !e.2.isEmpty) = l'.filter (fun e => !e.2.isEmpty)) : l = l' := by
  induction l generalizing l' with
  | nil => exact (map_eq_nil_iff.mp hkeys.symm).symm
  | cons e l ih =>
    cases l' with
    | nil => cases hkeys
    | cons e' l' =>
      obtain ⟨k, v⟩ := e
      obtain ⟨k', v'⟩ := e'
      simp only [map_cons, cons.injEq] at hkeys
      obtain ⟨rfl, hkeys⟩ := hkeys
      rw [map_cons, nodup_cons] at hnodup
      -- an entry of the tail has another key
      have hother : ∀ w, (k, w) ∉ l ∧ (k, w) ∉ l' := fun w =>
        ⟨fun hmem => hnodup.1 (mem_map.mpr ⟨_, hmem, rfl⟩),
          fun hmem => hnodup.1 (hkeys ▸ mem_map.mpr ⟨_, hmem, rfl⟩)⟩
      cases v with
      | nil =>
        cases v' with
        | nil => rw [ih hkeys hnodup.2 h]
        | cons x v' =>
          have hmem : (k, x :: v') ∈ l.filter fun e => !e.2.isEmpty := by
            have h : l.filter (fun e => !e.2.isEmpty) =
              (k, x :: v') :: l'.filter (fun e => !e.2.isEmpty) := h
            rw [h]
            exact mem_cons_self
          exact absurd (mem_filter.mp hmem).1 (hother _).1
      | cons x v =>
        cases v' with
        | nil =>
          have hmem : (k, x :: v) ∈ l'.filter fun e => !e.2.isEmpty := by
            have h : (k, x :: v) :: l.filter (fun e => !e.2.isEmpty) =
              l'.filter (fun e => !e.2.isEmpty) := h
            rw [← h]
            exact mem_cons_self
          exact absurd (mem_filter.mp hmem).1 (hother _).2
        | cons y v' =>
          have h : (k, x :: v) :: l.filter (fun e => !e.2.isEmpty) =
            (k, y :: v') :: l'.filter (fun e => !e.2.isEmpty) := h
          rw [cons.injEq] at h
          rw [h.1, ih hkeys hnodup.2 h.2]

end Groups

end NetaAgent.Separated
