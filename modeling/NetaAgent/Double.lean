import NetaAgent.Decimal
import Mathlib.Tactic.Ring

/-!
Double precision numbers, exactly.

A finite double is a sign and a number of units of `2 ^ (-1074)`, the least positive double: a
multiple of `2 ^ e` below `2 ^ (53 + e)`, for some `e`, and less than `2 ^ 2098` units, which is
`2 ^ 1024`. Rounding is to the nearest double, and to the one with the even last bit if there are
two. The conversion of a double to an unsigned 64-bit integer is undefined outside the range of
the integers; what the machine gives there is left open.
-/

namespace NetaAgent

open Decimal

/-- The integer nearest to `n / d`, the even one of two. -/
def divEven (n d : ℕ) : ℕ :=
  if 2 * (n % d) < d ∨ (2 * (n % d) = d ∧ n / d % 2 = 0) then n / d else n / d + 1

/-- The distance of the doubles around `n` units. -/
def quantum (n : ℕ) : ℕ := 2 ^ (n.log2 - 52)

@[irreducible] def oneUnits : ℕ := 2 ^ 1074

/-- The units of the first power of two that is too large, `2 ^ 1024`. -/
@[irreducible] def overflow : ℕ := 2 ^ 2098

lemma oneUnits_pos : 0 < oneUnits := by decide +kernel

/-- `n` units are a double. -/
def Representable (n : ℕ) : Prop := n < overflow ∧ quantum n ∣ n

instance (n : ℕ) : Decidable (Representable n) := inferInstanceAs (Decidable (_ ∧ _))

structure Double where
  negative : Bool
  units : ℕ
  representable : Representable units
  deriving DecidableEq

inductive Extended where
  | finite (d : Double)
  | infinite (negative : Bool)
  | nan
  deriving DecidableEq

/-! ### Rounding -/

lemma divEven_le (n : ℕ) {d : ℕ} (hd : 0 < d) : 2 * (divEven n d * d) ≤ 2 * n + d := by
  have h := Nat.div_add_mod' n d
  unfold divEven
  split_ifs with hlow
  · omega
  · have hmul : (n / d + 1) * d = n / d * d + d := by ring
    omega

lemma le_divEven (n : ℕ) {d : ℕ} (hd : 0 < d) : 2 * n ≤ 2 * (divEven n d * d) + d := by
  have h := Nat.div_add_mod' n d
  have hlt := Nat.mod_lt n hd
  unfold divEven
  split_ifs with hlow
  · omega
  · have hmul : (n / d + 1) * d = n / d * d + d := by ring
    omega

lemma div_le_divEven (n d : ℕ) : n / d ≤ divEven n d := by
  unfold divEven
  split_ifs <;> omega

lemma divEven_le_of_lt {n d b : ℕ} (h : n < b * d) : divEven n d ≤ b := by
  have hq : n / d < b := Nat.div_lt_of_lt_mul (by rwa [Nat.mul_comm] at h)
  unfold divEven
  split_ifs <;> omega

lemma lt_quantum (n : ℕ) : n < 2 ^ 53 * quantum n := by
  have h := Nat.lt_log2_self (n := n)
  unfold quantum
  rw [← Nat.pow_add]
  exact lt_of_lt_of_le h (Nat.pow_le_pow_right (by decide) (by omega))

lemma quantum_dvd_of_le {m e : ℕ} (h : m ≤ 2 ^ 53) : quantum (m * 2 ^ e) ∣ m * 2 ^ e := by
  rcases Nat.lt_or_ge m (2 ^ 53) with hlt | hge
  · -- the last bit of `m * 2 ^ e` is at `e` or below
    have hlog : (m * 2 ^ e).log2 - 52 ≤ e := by
      by_cases hm : m = 0
      · simp [hm]
      · have hbound : (m * 2 ^ e).log2 < 53 + e := by
          rw [Nat.log2_lt (Nat.mul_ne_zero hm (Nat.two_pow_pos e).ne'), Nat.pow_add]
          exact Nat.mul_lt_mul_of_pos_right hlt (Nat.two_pow_pos e)
        omega
    exact Dvd.dvd.mul_left (Nat.pow_dvd_pow 2 hlog) m
  · -- a power of two
    have hm : m = 2 ^ 53 := by omega
    subst hm
    unfold quantum
    rw [← Nat.pow_add, Nat.log2_two_pow]
    exact Nat.pow_dvd_pow 2 (by omega)

/-- The units nearest to `n / d` units, when there is no overflow. -/
def nearest (n d : ℕ) : ℕ := divEven n (d * quantum (n / d)) * quantum (n / d)

lemma representable_nearest {n d : ℕ} (h : nearest n d < overflow) : Representable (nearest n d) := by
  refine ⟨h, ?_⟩
  rcases Nat.eq_zero_or_pos d with rfl | hd
  · -- dividing by zero gives zero
    have hz : nearest n 0 ≤ 2 ^ 53 := by
      by_cases hn : n = 0
      · simp [nearest, divEven, quantum, hn]
      · simp [nearest, divEven, quantum, hn]
    simpa using quantum_dvd_of_le (e := 0) hz
  · apply quantum_dvd_of_le
    apply divEven_le_of_lt
    have hlt := lt_quantum (n / d)
    calc n < (n / d + 1) * d := by rw [Nat.mul_comm]; exact Nat.lt_mul_div_succ n hd
      _ ≤ 2 ^ 53 * quantum (n / d) * d := Nat.mul_le_mul_right d hlt
      _ = 2 ^ 53 * (d * quantum (n / d)) := by ring

/-- The double nearest to `n / d` units. -/
def round (negative : Bool) (n d : ℕ) : Extended :=
  if h : nearest n d < overflow then .finite ⟨negative, nearest n d, representable_nearest h⟩
  else .infinite negative

/-! ### Operations -/

def ofUint64 (n : ℕ) : Extended := round false (n * oneUnits) 1

namespace Extended

def mul : Extended → Extended → Extended
  | finite a, finite b => round (a.negative != b.negative) (a.units * b.units) oneUnits
  | finite a, infinite s => if a.units = 0 then nan else infinite (a.negative != s)
  | infinite s, finite b => if b.units = 0 then nan else infinite (s != b.negative)
  | infinite s, infinite t => infinite (s != t)
  | nan, _ => nan
  | _, nan => nan

def add : Extended → Extended → Extended
  | finite a, finite b =>
    if a.negative = b.negative then round a.negative (a.units + b.units) 1
    else if b.units < a.units then round a.negative (a.units - b.units) 1
    else if a.units < b.units then round b.negative (b.units - a.units) 1
    else round false 0 1
  | finite _, infinite s => infinite s
  | infinite s, finite _ => infinite s
  | infinite s, infinite t => if s = t then infinite s else nan
  | nan, _ => nan
  | _, nan => nan

end Extended

def Double.signed (d : Double) : ℤ := if d.negative then -d.units else d.units

/-- `a <= b`. -/
def Extended.le : Extended → Extended → Bool
  | .finite a, .finite b => a.signed ≤ b.signed
  | .finite _, .infinite s => !s
  | .infinite s, .finite _ => s
  | .infinite s, .infinite t => s || !t
  | .nan, _ => false
  | _, .nan => false

namespace Double

/-- `a <= b`. -/
def le (a b : Double) : Bool := a.signed ≤ b.signed

/-- `a < b`. -/
def lt (a b : Double) : Bool := a.signed < b.signed

/-- `std::floor(d) == d`. -/
def isInteger (d : Double) : Bool := d.units % oneUnits = 0

lemma representable_zero : Representable 0 := by decide +kernel

def zero : Double := ⟨false, 0, representable_zero⟩

lemma representable_one : Representable oneUnits := by decide +kernel

def one : Double := ⟨false, oneUnits, representable_one⟩

end Double

/-- What the machine converts to where the standard leaves the conversion undefined. -/
abbrev Conversion := Extended → ℕ

/-- `static_cast<std::uint64_t>`: towards zero. -/
def toUint64 (undefined : Conversion) : Extended → ℕ
  | .finite d =>
    if d.units < oneUnits ∨ (d.negative = false ∧ d.units < twoPow64 * oneUnits) then d.units / oneUnits
    else undefined (.finite d) % twoPow64
  | x => undefined x % twoPow64

end NetaAgent
