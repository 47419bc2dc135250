import NetaAgent.Decimal

/-!
Values as SQLite holds them: 64 bit signed integers, and texts as they are bound to a
statement.
-/

namespace NetaAgent.Sql

open Decimal List

/-- An unsigned 64 bit number as `sqlite3_int64`. -/
def int64 (n : ℕ) : ℤ := if n < 9223372036854775808 then n else (n : ℤ) - twoPow64

/-- An unsigned 32 bit number as `int`. -/
def int32 (n : ℕ) : ℤ := if n < 2147483648 then n else (n : ℤ) - 4294967296

variable (t : Text)

/-- `bind_text`: the text up to its first NUL. -/
def bindText : Text := t.takeWhile (· ≠ '\x00')

variable {t} in
lemma bindText_of_notMem (h : '\x00' ∉ t) : bindText t = t :=
  takeWhile_eq_self_iff.mpr fun c hc => by
    simpa using ne_of_mem_of_not_mem hc h

@[simp] lemma bindText_bindText : bindText (bindText t) = bindText t :=
  takeWhile_eq_self_iff.mpr fun c (hc : c ∈ t.takeWhile (· ≠ '\x00')) =>
    mem_takeWhile_imp (p := fun c => decide (c ≠ '\x00')) hc

/-- The number of UTF-8 characters of a text after a byte that may (`lead`) or may not be
followed by continuation bytes. -/
def sqlLengthFrom : Bool → Text → ℕ
  | _, [] => 0
  | lead, c :: t =>
    if 0xc0 ≤ c.toNat then sqlLengthFrom true t + 1
    else if lead && 0x80 ≤ c.toNat then sqlLengthFrom true t
    else sqlLengthFrom false t + 1

/-- SQLite's `length()` of a text. -/
def sqlLength : ℕ := sqlLengthFrom false t

lemma sqlLengthFrom_le (lead : Bool) (t : Text) : sqlLengthFrom lead t ≤ t.length := by
  induction t generalizing lead with
  | nil => exact Nat.zero_le _
  | cons c t ih =>
    have htrue := ih true
    have hfalse := ih false
    simp only [sqlLengthFrom, length_cons]
    split_ifs <;> omega

lemma sqlLength_le : sqlLength t ≤ t.length := sqlLengthFrom_le false t

lemma sqlLength_bindText_le : sqlLength (bindText t) ≤ t.length :=
  (sqlLength_le _).trans (takeWhile_sublist _).length_le

/-- SQLite's `CAST(… AS INTEGER)` of a text. -/
def castInteger : ℤ :=
  let (negative, r) := takeSign (t.dropWhile isSpace)
  let n : ℤ := value (r.takeWhile Char.isDigit)
  if negative then max (-n) (-9223372036854775808) else min n 9223372036854775807

lemma castInteger_decimal (n : ℕ) : castInteger (decimal n) = min (n : ℤ) 9223372036854775807 := by
  have hsign := takeSign_decimal n []
  have htake : (decimal n).takeWhile Char.isDigit = decimal n :=
    takeWhile_eq_self_iff.mpr fun c hc => isDigit_of_mem_decimal hc
  rw [append_nil] at hsign
  simp [castInteger, hsign, htake]

end NetaAgent.Sql
