import Mathlib.Data.Nat.Init
import Mathlib.Tactic.Linarith

/-!
The two clock conversions: the start time of a Linux process from nanoseconds to clock ticks,
and an ETW time stamp from performance-counter ticks to nanoseconds.

Both scale the whole units and the remainder apart, so that the product that would not fit in
64 bits is never formed.
-/

namespace NetaAgent.ClockTicks

open UInt64

def billion : UInt64 := 1000000000

variable (value factor unit : UInt64)

/-- The formula of both conversions: `value * factor / unit` without the full product. -/
def scale : UInt64 :=
  value / unit * factor + value % unit * factor / unit

/-- `start_ticks_from_ns` of the lifecycle and of the name-resolution decoder;
`ticksPerSecond` is the answer of `sysconf(_SC_CLK_TCK)`. -/
def startTicksFromNs (ticksPerSecond : Int64) (nanoseconds : UInt64) : Option UInt64 :=
  if ticksPerSecond ≤ 0 then none
  else some (scale nanoseconds ticksPerSecond.toUInt64 billion)

/-- `qpc_to_ns`. -/
def qpcToNs (ticks frequency : Int64) : UInt64 :=
  if ticks ≤ 0 ∨ frequency ≤ 0 then 0
  else scale ticks.toUInt64 billion frequency.toUInt64

/-- Both products and the sum of the formula are those of the natural numbers. -/
def Unwrapped : Prop :=
  (value / unit * factor).toNat = value.toNat / unit.toNat * factor.toNat ∧
    (value % unit * factor).toNat = value.toNat % unit.toNat * factor.toNat ∧
    (scale value factor unit).toNat = value.toNat / unit.toNat * factor.toNat +
      value.toNat % unit.toNat * factor.toNat / unit.toNat

lemma split_mul_div (v m : ℕ) {d : ℕ} (hd : 0 < d) :
    v / d * m + v % d * m / d = v * m / d := by
  calc v / d * m + v % d * m / d
      = (d * (v / d * m) + v % d * m) / d := (Nat.mul_add_div hd _ _).symm
    _ = (d * (v / d) + v % d) * m / d := by rw [add_mul, mul_assoc]
    _ = v * m / d := by rw [Nat.div_add_mod]

section Scale

variable {v m d : UInt64} (hd : 0 < d.toNat) (hrest : (d.toNat - 1) * m.toNat < 2 ^ 64)
  (hfits : v.toNat * m.toNat / d.toNat < 2 ^ 64)

include hd hrest hfits

lemma scale_spec :
    Unwrapped v m d ∧ (scale v m d).toNat = v.toNat * m.toNat / d.toNat := by
  rw [← split_mul_div _ _ hd] at hfits ⊢
  have hmod : v.toNat % d.toNat * m.toNat ≤ (d.toNat - 1) * m.toNat :=
    Nat.mul_le_mul_right _ (Nat.le_pred_of_lt (Nat.mod_lt _ hd))
  have hwhole : (v / d * m).toNat = v.toNat / d.toNat * m.toNat := by
    rw [UInt64.toNat_mul, UInt64.toNat_div,
      Nat.mod_eq_of_lt ((Nat.le_add_right _ _).trans_lt hfits)]
  have hpart : (v % d * m).toNat = v.toNat % d.toNat * m.toNat := by
    rw [UInt64.toNat_mul, UInt64.toNat_mod, Nat.mod_eq_of_lt (hmod.trans_lt hrest)]
  have hsum : (scale v m d).toNat = v.toNat / d.toNat * m.toNat +
      v.toNat % d.toNat * m.toNat / d.toNat := by
    rw [scale, UInt64.toNat_add, hwhole, UInt64.toNat_div, hpart, Nat.mod_eq_of_lt hfits]
  exact ⟨⟨hwhole, hpart, hsum⟩, hsum⟩

lemma scale_mono {u : UInt64} (h : u.toNat ≤ v.toNat) : scale u m d ≤ scale v m d := by
  have hle := Nat.div_le_div_right (c := d.toNat) (Nat.mul_le_mul_right m.toNat h)
  rw [le_iff_toNat_le, (scale_spec hd hrest hfits).2, (scale_spec hd hrest (hle.trans_lt hfits)).2]
  exact hle

end Scale

lemma toNat_toUInt64 {t : Int64} (h : 0 < t.toInt) : t.toUInt64.toNat = t.toInt.toNat := by
  have ht : t.toInt = t.toBitVec.toInt := rfl
  have hu : t.toUInt64.toNat = t.toBitVec.toNat := rfl
  rw [ht, BitVec.toInt_eq_toNat_cond] at h
  rw [ht, hu, BitVec.toInt_eq_toNat_cond]
  split_ifs at h ⊢ <;> omega

lemma nonpos_iff {t : Int64} : t ≤ 0 ↔ t.toInt ≤ 0 := Int64.le_iff_toInt_le

/-- **The conversions are exact**: rounded down and without a wrap, at every clock rate up to a
billion and at every frequency whose remainders fit. A later time never converts to an earlier
one. -/
theorem clock_conversions_exact :
    (∀ (ticks : Int64) (ns : UInt64), 1 ≤ ticks.toInt → ticks.toInt ≤ 10 ^ 9 →
      Unwrapped ns ticks.toUInt64 billion ∧
        ∃ r, startTicksFromNs ticks ns = some r ∧
          r.toNat = ns.toNat * ticks.toInt.toNat / 10 ^ 9 ∧
          ∀ ns' ≤ ns, ∃ r' ≤ r, startTicksFromNs ticks ns' = some r') ∧
      ∀ t f : Int64, 0 < t.toInt → 1 ≤ f.toInt → f.toInt ≤ 18446744073 →
        t.toInt.toNat * 10 ^ 9 / f.toInt.toNat < 2 ^ 64 →
        Unwrapped t.toUInt64 billion f.toUInt64 ∧
          (qpcToNs t f).toNat = t.toInt.toNat * 10 ^ 9 / f.toInt.toNat ∧
          ∀ t' ≤ t, qpcToNs t' f ≤ qpcToNs t f := by
  have hb : billion.toNat = 10 ^ 9 := rfl
  rw [← hb]
  constructor
  · intro ticks ns hpos hle
    have hticks := toNat_toUInt64 hpos
    have hrest : (billion.toNat - 1) * ticks.toUInt64.toNat < 2 ^ 64 := by
      rw [hb]
      omega
    have hfits : ns.toNat * ticks.toUInt64.toNat / billion.toNat < 2 ^ 64 := by
      refine (Nat.div_le_of_le_mul ?_).trans_lt ns.toNat_lt
      rw [mul_comm]
      exact Nat.mul_le_mul_right _ (by omega)
    have hspec := scale_spec (by decide) hrest hfits
    have hrate : ¬ ticks ≤ 0 := by rw [nonpos_iff]; omega
    simp only [startTicksFromNs, if_neg hrate, ← hticks]
    exact ⟨hspec.1, _, rfl, hspec.2, fun ns' h =>
      ⟨_, scale_mono (by decide) hrest hfits (le_iff_toNat_le.mp h), rfl⟩⟩
  · intro t f ht hf hle hfits
    have hfreq := toNat_toUInt64 hf
    rw [← toNat_toUInt64 ht, ← hfreq] at hfits ⊢
    have hd : 0 < f.toUInt64.toNat := by omega
    have hrest : (f.toUInt64.toNat - 1) * billion.toNat < 2 ^ 64 := by
      rw [hb]
      omega
    have hspec := scale_spec hd hrest hfits
    have hqpc : qpcToNs t f = scale t.toUInt64 billion f.toUInt64 := by
      rw [qpcToNs, if_neg (by rw [nonpos_iff, nonpos_iff]; omega)]
    rw [hqpc]
    refine ⟨hspec.1, hspec.2, fun t' h => ?_⟩
    unfold qpcToNs
    split_ifs with hneg
    · exact UInt64.zero_le
    · rw [nonpos_iff] at hneg
      have ht' : 0 < t'.toInt := by omega
      refine scale_mono hd hrest hfits ?_
      rw [toNat_toUInt64 ht', toNat_toUInt64 ht]
      exact Int.toNat_le_toNat (Int64.le_iff_toInt_le.mp h)

end NetaAgent.ClockTicks
