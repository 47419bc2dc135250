import NetaAgent.Decimal

/-!
Searching a text for another one, as `std::string::find` does.
-/

namespace NetaAgent.Search

open Decimal List

/-- The position of the first occurrence of `pat`. -/
def find (pat : Text) : Text → Option ℕ
  | [] => if pat = [] then some 0 else none
  | c :: r => if pat <+: c :: r then some 0 else (find pat r).map (· + 1)

lemma prefix_of_find {pat t : Text} {p : ℕ} (h : find pat t = some p) : pat <+: t.drop p := by
  induction t generalizing p with
  | nil =>
    rw [find] at h
    split at h
    next hpat => rw [hpat]; exact nil_prefix
    · cases h
  | cons c t ih =>
    rw [find] at h
    split at h
    next hp =>
      cases h
      exact hp
    · obtain ⟨q, hq, rfl⟩ := Option.map_eq_some_iff.mp h
      exact ih hq

/-- A pattern is found right after a text that does not contain its first character. -/
lemma find_append {c : Char} {pat a : Text} (ha : c ∉ a) (r : Text) :
    find (c :: pat) (a ++ (c :: pat ++ r)) = some a.length := by
  induction a with
  | nil => simp [find]
  | cons d a ih =>
    rw [mem_cons, not_or] at ha
    have hno : ¬ c :: pat <+: d :: (a ++ (c :: pat ++ r)) := by
      intro h
      exact ha.1 (cons_prefix_cons.mp h).1
    rw [cons_append, find, if_neg hno, ih ha.2]
    simp

/-- The text after the first occurrence of `pat`. -/
def after (pat : Text) : Text → Option Text
  | [] => if pat = [] then some [] else none
  | c :: r => if pat <+: c :: r then some ((c :: r).drop pat.length) else after pat r

lemma drop_find (pat t : Text) :
    (find pat t).map (fun pos => t.drop (pos + pat.length)) = after pat t := by
  induction t with
  | nil =>
    by_cases h : pat = []
    · simp [find, after, h]
    · simp [find, after, h]
  | cons c t ih =>
    by_cases h : pat <+: c :: t
    · simp [find, after, h]
    · rw [find, after, if_neg h, if_neg h, ← ih, Option.map_map]
      congr 1
      funext pos
      simp [Nat.add_right_comm]

lemma after_append {c : Char} {pat a : Text} (ha : c ∉ a) (r : Text) :
    after (c :: pat) (a ++ r) = after (c :: pat) r := by
  induction a with
  | nil => rfl
  | cons d a ih =>
    rw [mem_cons, not_or] at ha
    have hno : ¬ c :: pat <+: d :: (a ++ r) := fun h => ha.1 (cons_prefix_cons.mp h).1
    rw [cons_append, after, if_neg hno, ih ha.2]

/-- The first character alone is passed over when the rest of the pattern does not follow. -/
lemma after_cons_ne {c : Char} {pat r : Text} (h : ¬ pat <+: r) :
    after (c :: pat) (c :: r) = after (c :: pat) r := by
  have hno : ¬ c :: pat <+: c :: r := fun hp => h (cons_prefix_cons.mp hp).2
  rw [after, if_neg hno]

lemma after_self (c : Char) (pat r : Text) : after (c :: pat) (c :: (pat ++ r)) = some r := by
  simp [after]

end NetaAgent.Search
