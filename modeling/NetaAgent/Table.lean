import Mathlib.Data.List.Nodup
import Mathlib.Algebra.BigOperators.Group.List.Basic
import Mathlib.Algebra.GroupWithZero.Nat

/-!
Tables with a primary key, and `ORDER BY … LIMIT n` over their rows.

No two rows of a table have the same key; the table carries the proof. Rows are deleted and
updated by a predicate, as SQL does it, and an update keeps the key. Which of several rows
that an ordering does not separate comes first is not determined: `pick` takes a number
that decides it.
-/

namespace NetaAgent

open List

variable {α κ : Type}

structure Table (key : α → κ) where
  rows : List α
  nodup : (rows.map key).Nodup

namespace Table

variable {key : α → κ}

def empty : Table key := ⟨[], nodup_nil⟩

instance : Membership α (Table key) := ⟨fun t a => a ∈ t.rows⟩

variable {t u : Table key} {a b : α}

lemma mem_def : a ∈ t ↔ a ∈ t.rows := Iff.rfl

@[simp] lemma not_mem_empty (a : α) : a ∉ (empty : Table key) := not_mem_nil

lemma eq_of_key_eq (ha : a ∈ t) (hb : b ∈ t) (h : key a = key b) :
    a = b := inj_on_of_nodup_map t.nodup ha hb h

lemma rows_nodup (t : Table key) : t.rows.Nodup := t.nodup.of_map

@[ext] lemma ext (h : t.rows = u.rows) : t = u := by
  cases t; cases u; cases h; rfl

/-- `DELETE … WHERE p`. -/
def delete (t : Table key) (p : α → Bool) : Table key :=
  ⟨t.rows.filter (!p ·), t.nodup.sublist (filter_sublist.map key)⟩

@[simp] lemma mem_delete {p : α → Bool} : a ∈ t.delete p ↔ a ∈ t ∧ p a = false := by
  simp [mem_def, delete]

/-- `UPDATE … SET … WHERE p`. -/
def update (t : Table key) (p : α → Bool) (f : α → α) (hf : ∀ a, key (f a) = key a) :
    Table key :=
  ⟨t.rows.map fun a => if p a then f a else a, by
    have h : (t.rows.map fun a => if p a then f a else a).map key = t.rows.map key := by
      rw [map_map]
      refine map_congr_left fun a _ => ?_
      by_cases hp : p a <;> simp [hp, hf]
    rw [h]
    exact t.nodup⟩

@[simp] lemma mem_update {t : Table key} {p : α → Bool} {f : α → α}
    {hf : ∀ a, key (f a) = key a} {b : α} :
    b ∈ t.update p f hf ↔ ∃ a ∈ t, (if p a then f a else a) = b := by
  simp [mem_def, update]

variable [DecidableEq κ]

/-- `INSERT`, which fails on a key that is there. -/
def insert (t : Table key) (a : α) : Option (Table key) :=
  if h : key a ∈ t.rows.map key then none
  else some ⟨t.rows ++ [a], by
    rw [map_append, nodup_append]
    refine ⟨t.nodup, by simp, ?_⟩
    rintro k hk k' hk' rfl
    simp only [map_cons, map_nil, mem_singleton] at hk'
    exact h (hk' ▸ hk)⟩

lemma insert_rows (h : t.insert a = some u) : u.rows = t.rows ++ [a] := by
  unfold insert at h
  split at h
  · cases h
  · cases h
    rfl

lemma mem_insert (h : t.insert a = some u) : b ∈ u ↔ b ∈ t ∨ b = a := by
  simp [mem_def, insert_rows h]

def find (t : Table key) (k : κ) : Option α := t.rows.find? fun a => key a = k

variable {k k' : κ}

lemma find_eq_some : t.find k = some a ↔ a ∈ t ∧ key a = k := by
  constructor
  · intro h
    exact ⟨mem_of_find?_eq_some h, by simpa using find?_some h⟩
  · rintro ⟨ha, rfl⟩
    cases hf : t.find (key a) with
    | none => simpa using find?_eq_none.mp hf a ha
    | some b =>
      have hb : b ∈ t := mem_of_find?_eq_some hf
      have hk : key b = key a := by simpa using find?_some hf
      rw [eq_of_key_eq hb ha hk]

/-- The rows with the key of `a` are `a`. -/
lemma filter_key (ha : a ∈ t) : t.rows.filter (fun x => key x = key a) = [a] := by
  set l := t.rows.filter (fun x => key x = key a) with hl
  have hall : ∀ x ∈ l, x = a := fun x hx => by
    obtain ⟨hx, hk⟩ := mem_filter.mp hx
    exact eq_of_key_eq hx ha (by simpa using hk)
  have hrep := eq_replicate_of_mem hall
  have hle : l.length ≤ 1 := by
    rw [← nodup_replicate (a := a), ← hrep]
    exact t.rows_nodup.filter _
  have hmem : a ∈ l := mem_filter.mpr ⟨ha, by simp⟩
  have hpos := length_pos_of_mem hmem
  rw [hrep, show l.length = 1 by omega]
  rfl

/-- An update of the row `a` alone changes a sum over the rows by what it changes at `a`. -/
lemma sum_update (ha : a ∈ t) (f : α → α) (hf : ∀ a, key (f a) = key a)
    (w : α → ℕ) : ((t.update (fun x => key x = key a) f hf).rows.map w).sum + w a =
      (t.rows.map w).sum + w (f a) := by
  obtain ⟨l, hl⟩ := t
  simp only [update, decide_eq_true_eq]
  replace ha : a ∈ l := ha
  induction l with
  | nil => cases ha
  | cons x l ih =>
    rw [map_cons, nodup_cons] at hl
    rcases mem_cons.mp ha with rfl | hal
    · -- no other row has this key
      have hrest : (l.map fun x => if key x = key a then f x else x) = l := by
        refine (map_congr_left fun x hx => if_neg fun hk => hl.1 ?_).trans l.map_id
        exact hk ▸ mem_map_of_mem hx
      simp only [map_cons, if_true, hrest, sum_cons]
      omega
    · have hne : key x ≠ key a := fun hk => hl.1 (hk ▸ mem_map_of_mem hal)
      have := ih hl.2 hal
      simp only [map_cons, if_neg hne, sum_cons]
      omega

lemma find_eq_none : t.find k = none ↔ ∀ a ∈ t, key a ≠ k := by
  simp [find, mem_def]

/-- `INSERT OR REPLACE`. -/
def replace (t : Table key) (a : α) : Table key :=
  ⟨(t.delete fun b => key b = key a).rows ++ [a], by
    rw [map_append, nodup_append]
    refine ⟨(t.delete _).nodup, by simp, ?_⟩
    rintro k hk k' hk' rfl
    obtain ⟨b, hb, rfl⟩ := mem_map.mp hk
    simp only [map_cons, map_nil, mem_singleton] at hk'
    simpa [hk'] using (mem_delete.mp hb).2⟩

@[simp] lemma mem_replace : b ∈ t.replace a ↔ b ∈ t ∧ key b ≠ key a ∨ b = a := by
  simp [mem_def, replace, delete]

/-! ### Which keys there are -/

lemma isSome_find : (t.find k).isSome = true ↔ ∃ a ∈ t, key a = k := by
  rw [Option.isSome_iff_exists]
  exact exists_congr fun a => find_eq_some

lemma isSome_find_delete :
    ((t.delete fun a => key a = k').find k).isSome = true ↔ k ≠ k' ∧ (t.find k).isSome = true := by
  simp only [isSome_find, mem_delete, decide_eq_false_iff_not]
  constructor
  · rintro ⟨a, ⟨ha, hne⟩, rfl⟩
    exact ⟨hne, a, ha, rfl⟩
  · rintro ⟨hne, a, ha, rfl⟩
    exact ⟨a, ⟨ha, hne⟩, rfl⟩

lemma isSome_find_replace :
    ((t.replace a).find k).isSome = true ↔ k = key a ∨ (t.find k).isSome = true := by
  simp only [isSome_find, mem_replace]
  constructor
  · rintro ⟨b, ⟨hb, -⟩ | rfl, rfl⟩
    · exact .inr ⟨b, hb, rfl⟩
    · exact .inl rfl
  · rintro (rfl | ⟨b, hb, rfl⟩)
    · exact ⟨a, .inr rfl, rfl⟩
    · by_cases h : key b = key a
      · exact ⟨a, .inr rfl, h.symm⟩
      · exact ⟨b, .inl ⟨hb, h⟩, rfl⟩

lemma isSome_find_insert (h : t.insert a = some u) :
    (u.find k).isSome = true ↔ k = key a ∨ (t.find k).isSome = true := by
  simp only [isSome_find, mem_insert h, or_and_right, exists_or, exists_eq_left]
  rw [or_comm, eq_comm]

lemma isSome_find_update {p : α → Bool} {f : α → α} (hf : ∀ a, key (f a) = key a) :
    ((t.update p f hf).find k).isSome = true ↔ (t.find k).isSome = true := by
  have hkey : ∀ a, key (if p a then f a else a) = key a := fun a => by split <;> simp [hf]
  simp only [isSome_find, mem_update]
  constructor
  · rintro ⟨_, ⟨a, ha, rfl⟩, rfl⟩
    exact ⟨a, ha, (hkey a).symm⟩
  · rintro ⟨a, ha, rfl⟩
    exact ⟨_, ⟨a, ha, rfl⟩, hkey a⟩

/-- `INSERT … ON CONFLICT DO UPDATE`. -/
def upsert (t : Table key) (a : α) (f : α → α) (hf : ∀ b, key (f b) = key b) : Table key :=
  (t.insert a).getD (t.update (fun b => key b = key a) f hf)

section Upsert
variable {t : Table key} {a b : α} {f : α → α} {hf : ∀ b, key (f b) = key b}

lemma insert_eq_none : t.insert a = none ↔ ∃ b ∈ t, key b = key a := by
  unfold insert
  split
  · next h => simpa [mem_def] using h
  · next h => simpa [mem_def] using h

lemma exists_insert (h : t.find (key a) = none) : ∃ u, t.insert a = some u := by
  cases hins : t.insert a with
  | some u => exact ⟨u, rfl⟩
  | none =>
    obtain ⟨b, hb, hkey⟩ := insert_eq_none.mp hins
    exact absurd hkey (find_eq_none.mp h b hb)

lemma exists_mem_upsert (h : b ∈ t) : ∃ c ∈ t.upsert a f hf, key c = key b := by
  unfold upsert
  cases hins : t.insert a with
  | some u => exact ⟨b, (mem_insert hins).mpr (.inl h), rfl⟩
  | none =>
    refine ⟨if key b = key a then f b else b, ?_, ?_⟩
    · rw [Option.getD_none, mem_update]
      exact ⟨b, h, by simp⟩
    · split
      · exact hf b
      · rfl

lemma upsert_self : ∃ c ∈ t.upsert a f hf, key c = key a := by
  cases hins : t.insert a with
  | some u =>
    refine ⟨a, ?_, rfl⟩
    rw [upsert, hins]
    exact (mem_insert hins).mpr (.inr rfl)
  | none =>
    obtain ⟨b, hb, hkey⟩ := insert_eq_none.mp hins
    rw [← hkey]
    exact exists_mem_upsert hb

end Upsert

section Rowid
variable {key : α → ℕ}

/-- The id of the next row of a table with an `INTEGER PRIMARY KEY` without `AUTOINCREMENT`:
one more than the largest there is. -/
def nextId (t : Table key) : ℕ := (t.rows.map key).foldr max 0 + 1

lemma lt_nextId {t : Table key} {a : α} (h : a ∈ t) : key a < t.nextId := by
  have hle : ∀ l : List ℕ, ∀ n ∈ l, n ≤ l.foldr max 0 := by
    intro l
    induction l with
    | nil => simp
    | cons m l ih =>
      intro n hn
      rw [foldr_cons]
      rcases mem_cons.mp hn with rfl | hn
      · exact Nat.le_max_left _ _
      · exact Nat.le_trans (ih n hn) (Nat.le_max_right _ _)
  exact Nat.lt_succ_of_le (hle _ _ (mem_map_of_mem h))

/-- `INSERT` of a row without an id. -/
def add (t : Table key) (f : ℕ → α) (hf : ∀ n, key (f n) = n) : Table key :=
  ⟨t.rows ++ [f t.nextId], by
    rw [map_append, nodup_append]
    refine ⟨t.nodup, by simp, ?_⟩
    rintro k hk k' hk' rfl
    obtain ⟨b, hb, rfl⟩ := mem_map.mp hk
    simp only [map_cons, map_nil, mem_singleton, hf] at hk'
    exact Nat.ne_of_lt (lt_nextId hb) hk'⟩

@[simp] lemma mem_add {t : Table key} {f : ℕ → α} {hf : ∀ n, key (f n) = n} {b : α} :
    b ∈ t.add f hf ↔ b ∈ t ∨ b = f t.nextId := by
  simp [mem_def, add]

end Rowid

end Table

/-! ### `ORDER BY` and `LIMIT` -/

/-- The first row of the list in the order `le`; `tie` decides among the rows that can be. -/
def pick (le : α → α → Bool) (tie : ℕ) (l : List α) : Option α :=
  let best := l.filter fun a => l.all (le a)
  best[tie % best.length]?

variable {le : α → α → Bool}

lemma pick_mem {tie : ℕ} {l : List α} {a : α} (h : pick le tie l = some a) :
    a ∈ l := (mem_filter.mp (mem_of_getElem? h)).1

section
variable (htotal : ∀ a b, le a b ∨ le b a) (htrans : ∀ a b c, le a b → le b c → le a c)
include htotal htrans

lemma exists_least {l : List α} (h : l ≠ []) : ∃ a ∈ l, ∀ b ∈ l, le a b := by
  induction l with
  | nil => exact absurd rfl h
  | cons a t ih =>
    rcases eq_or_ne t [] with rfl | ht
    · exact ⟨a, mem_singleton_self a, forall_mem_singleton.mpr ((htotal a a).elim id id)⟩
    obtain ⟨m, hm, hleast⟩ := ih ht
    rcases htotal a m with ham | hma
    · exact ⟨a, mem_cons_self, forall_mem_cons.mpr
        ⟨(htotal a a).elim id id, fun b hb => htrans a m b ham (hleast b hb)⟩⟩
    · exact ⟨m, mem_cons_of_mem a hm, forall_mem_cons.mpr ⟨hma, hleast⟩⟩

/-- A row is picked whenever there is one. -/
lemma pick_eq_none {tie : ℕ} {l : List α} : pick le tie l = none ↔ l = [] := by
  refine ⟨fun h => by_contra fun hl => ?_, fun h => by rw [h]; rfl⟩
  obtain ⟨a, ha, hleast⟩ := exists_least htotal htrans hl
  have hbest : a ∈ l.filter fun a => l.all (le a) := mem_filter.mpr ⟨ha, all_eq_true.mpr hleast⟩
  rw [pick, getElem?_eq_none_iff] at h
  exact absurd h (Nat.not_le_of_lt (Nat.mod_lt _ (length_pos_of_mem hbest)))

end

/-- The first `n` rows of the list in the order `le`. -/
def pickMany [DecidableEq α] (le : α → α → Bool) (tie : ℕ → ℕ) : ℕ → List α → List α
  | 0, _ => []
  | n + 1, l =>
    match pick le (tie n) l with
    | none => []
    | some a => a :: pickMany le tie n (l.erase a)

lemma pickMany_subset [DecidableEq α] {tie : ℕ → ℕ} {n : ℕ} {l : List α} {a : α}
    (h : a ∈ pickMany le tie n l) : a ∈ l := by
  induction n generalizing l with
  | zero => simp [pickMany] at h
  | succ n ih =>
    simp only [pickMany] at h
    split at h
    · simp at h
    · next b hb =>
      rcases mem_cons.mp h with rfl | h
      · exact pick_mem hb
      · exact mem_of_mem_erase (ih h)

end NetaAgent
