import Mathlib.Data.List.TakeWhile
import Mathlib.Tactic.NormNum

/-!
Decimal texts: how an unsigned number is written, and the two ways the C++ library reads
one back.

`fromChars` is `std::from_chars` for an unsigned 64-bit target: it reads the digits at the
front and stops. `stoull` is `std::stoull` in base ten: it skips white space, takes an
optional sign, reads the digits and ignores what follows; a minus sign negates modulo
`2 ^ 64`.
-/

namespace NetaAgent.Decimal

open List

abbrev Text := List Char

/-- A literal is the text of its characters. -/
instance : Coe String Text := ⟨String.toList⟩

/-- The number of values of an unsigned 64-bit integer. -/
def twoPow64 : ℕ := 18446744073709551616

/-- `std::to_string` of an unsigned number. -/
def decimal (n : ℕ) : Text := Nat.toDigits 10 n

/-- `std::to_string` of a signed number. -/
def signedDecimal (n : ℤ) : Text := if n < 0 then '-' :: decimal n.natAbs else decimal n.natAbs

def value (ds : Text) : ℕ := Nat.ofDigitChars 10 ds 0

@[simp] lemma value_decimal (n : ℕ) : value (decimal n) = n := Nat.ofDigitChars_ten_toDigits

variable {m n : ℕ}

lemma decimal_inj (h : decimal m = decimal n) : m = n := by
  rw [← value_decimal m, h, value_decimal]

lemma decimal_ne_nil (n : ℕ) : decimal n ≠ [] := Nat.toDigits_ne_nil

variable {c d : Char}

lemma isDigit_of_mem_decimal (h : c ∈ decimal n) : c.isDigit :=
  Nat.isDigit_of_mem_toDigits (by omega) (by omega) h

lemma decimal_length_le (h : n < twoPow64) : (decimal n).length ≤ 20 :=
  (Nat.length_toDigits_le_iff (by omega) (by omega)).mpr
    (lt_of_lt_of_le h (by norm_num [twoPow64]))

/-- The digits at the front of a text are all of it up to the first other character. -/
lemma takeWhile_decimal (n : ℕ) (hc : c.isDigit = false) (rest : Text) :
    (decimal n ++ c :: rest).takeWhile Char.isDigit = decimal n := by
  rw [takeWhile_append_of_pos fun d hd => isDigit_of_mem_decimal hd]
  simp [hc]

lemma dropWhile_decimal (n : ℕ) (hc : c.isDigit = false) (rest : Text) :
    (decimal n ++ c :: rest).dropWhile Char.isDigit = c :: rest := by
  rw [dropWhile_append_of_pos fun d hd => isDigit_of_mem_decimal hd]
  simp [hc]

variable {r s t rest : Text}

lemma decimal_append_inj (hc : c.isDigit = false)
    (hd : d.isDigit = false) (h : decimal m ++ c :: r = decimal n ++ d :: s) :
    m = n ∧ c :: r = d :: s := by
  have h1 := congrArg (takeWhile Char.isDigit) h
  have h2 := congrArg (dropWhile Char.isDigit) h
  rw [takeWhile_decimal m hc, takeWhile_decimal n hd] at h1
  rw [dropWhile_decimal m hc, dropWhile_decimal n hd] at h2
  exact ⟨decimal_inj h1, h2⟩

def fromChars (t : Text) : Option (ℕ × Text) :=
  let ds := t.takeWhile Char.isDigit
  if ds = [] then none
  else if value ds < twoPow64 then some (value ds, t.dropWhile Char.isDigit)
  else none

lemma fromChars_decimal (h : n < twoPow64) : fromChars (decimal n) = some (n, []) := by
  have htake : (decimal n).takeWhile Char.isDigit = decimal n :=
    takeWhile_eq_self_iff.mpr fun c hc => isDigit_of_mem_decimal hc
  have hdrop : (decimal n).dropWhile Char.isDigit = [] :=
    dropWhile_eq_nil_iff.mpr fun c hc => isDigit_of_mem_decimal hc
  simp [fromChars, htake, hdrop, decimal_ne_nil, h]

lemma fromChars_lt (h : fromChars t = some (n, r)) : n < twoPow64 := by
  simp only [fromChars] at h
  split at h
  · cases h
  · split at h
    · next hlt => cases h; exact hlt
    · cases h

/-- `std::isspace` in the C locale. -/
def isSpace (c : Char) : Bool :=
  c == ' ' || c == '\t' || c == '\n' || c == '\x0b' || c == '\x0c' || c == '\r'

inductive StoullError where
  | invalidArgument
  | outOfRange

def takeSign : Text → Bool × Text
  | '-' :: r => (true, r)
  | '+' :: r => (false, r)
  | r => (false, r)

def stoull (t : Text) : Except StoullError ℕ :=
  let (negative, r) := takeSign (t.dropWhile isSpace)
  let ds := r.takeWhile Char.isDigit
  if ds = [] then .error .invalidArgument
  else if value ds < twoPow64 then
    .ok (if negative then (twoPow64 - value ds) % twoPow64 else value ds)
  else .error .outOfRange

lemma toLower_cases (c : Char) :
    c.toLower = c ∨ ((65 ≤ c.toNat ∧ c.toNat ≤ 90) ∧ c.toLower.toNat = c.toNat + 32) := by
  unfold Char.toLower
  split
  · next hu =>
    have h1 : 65 ≤ c.toNat := UInt32.le_iff_toNat_le.mp hu.1
    have h2 : c.toNat ≤ 90 := UInt32.le_iff_toNat_le.mp hu.2
    have h3 : (c.val + ('a'.val - 'A'.val)).toNat = c.toNat + 32 := by
      have hc : c.val.toNat = c.toNat := rfl
      rw [UInt32.toNat_add]
      simp
      omega
    exact .inr ⟨⟨h1, h2⟩, h3⟩
  · exact .inl rfl

/-- `std::isxdigit`. -/
def isHexDigit (c : Char) : Bool := c.isDigit || ('a' ≤ c && c ≤ 'f') || ('A' ≤ c && c ≤ 'F')

lemma isHexDigit_iff (c : Char) : isHexDigit c = true ↔ (48 ≤ c.toNat ∧ c.toNat ≤ 57) ∨
    (97 ≤ c.toNat ∧ c.toNat ≤ 102) ∨ (65 ≤ c.toNat ∧ c.toNat ≤ 70) := by
  simp only [isHexDigit, Char.isDigit, Bool.or_eq_true, Bool.and_eq_true, decide_eq_true_eq,
    Char.le_def, ge_iff_le, UInt32.le_iff_toNat_le]
  rw [or_assoc]
  rfl

lemma isSpace_of_isDigit (h : c.isDigit) : isSpace c = false := by
  by_contra hc
  simp only [Bool.not_eq_false, isSpace, Bool.or_eq_true, beq_iff_eq] at hc
  rcases hc with ((((rfl | rfl) | rfl) | rfl) | rfl) | rfl <;> simp [Char.isDigit] at h

lemma takeSign_of_isDigit (h : c.isDigit) (r : Text) : takeSign (c :: r) = (false, c :: r) := by
  unfold takeSign
  split
  · next heq => cases heq; simp [Char.isDigit] at h
  · next heq => cases heq; simp [Char.isDigit] at h
  · rfl

lemma takeSign_decimal (n : ℕ) (rest : Text) :
    takeSign ((decimal n ++ rest).dropWhile isSpace) = (false, decimal n ++ rest) := by
  obtain ⟨d, ds, hds⟩ := exists_cons_of_ne_nil (decimal_ne_nil n)
  have hd : d.isDigit := isDigit_of_mem_decimal (n := n) (by simp [hds])
  rw [hds, cons_append, dropWhile_cons_of_neg (by simp [isSpace_of_isDigit hd]),
    takeSign_of_isDigit hd]

/-- What follows the digits does not matter to `stoull`. -/
lemma stoull_decimal (h : n < twoPow64)
    (hrest : rest.takeWhile Char.isDigit = []) : stoull (decimal n ++ rest) = .ok n := by
  have htake : (decimal n ++ rest).takeWhile Char.isDigit = decimal n := by
    rw [takeWhile_append_of_pos fun d hd => isDigit_of_mem_decimal hd, hrest, append_nil]
  unfold stoull
  rw [takeSign_decimal]
  simp [htake, decimal_ne_nil, h]

lemma stoull_lt (h : stoull t = .ok n) : n < twoPow64 := by
  unfold stoull at h
  split at h
  simp only at h
  split at h
  · cases h
  · split at h
    · next hlt =>
      cases h
      split
      · exact Nat.mod_lt _ (by decide)
      · exact hlt
    · cases h

/-! ### Checks of all the elements of a list -/

lemma forall_mem_of_all {α : Type} {p : α → Prop} [DecidablePred p] {l : List α}
    (h : l.all (fun a => decide (p a)) = true) : ∀ a ∈ l, p a :=
  fun a ha => of_decide_eq_true (all_eq_true.mp h a ha)

/-! ### Readings one after the other -/

lemma bind_eq_ok {ε α β : Type} {x : Except ε α} {f : α → Except ε β} {b : β}
    (h : x >>= f = .ok b) : ∃ a, x = .ok a ∧ f a = .ok b := by
  cases x with
  | error e => cases h
  | ok a => exact ⟨a, rfl, h⟩

lemma map_eq_ok {ε α β : Type} {f : α → β} {x : Except ε α} {b : β} (h : x.map f = .ok b) :
    ∃ a, x = .ok a ∧ f a = b := by
  cases x with
  | error e => cases h
  | ok a => exact ⟨a, rfl, Except.ok.inj h⟩

end NetaAgent.Decimal
