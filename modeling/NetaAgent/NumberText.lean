import NetaAgent.Double
import Mathlib.Data.List.DropRight

/-!
Doubles as texts: `std::strtod`, and the stream output with a precision of 17 digits.

The output rounds the exact value to 17 significant digits `D`, counts the decimal exponent in
`k` (the value is about `D * 10 ^ (k - 341)`), and removes the zeros at the end. Seventeen digits
tell any two doubles apart: neighbours are at least `2 ^ (-53)` of their size apart, and that is
more than a step of the last digit.
-/

namespace NetaAgent.NumberText

open Decimal List

/-! ### Reading -/

/-- The digits of a number without its sign as one integer, and the power of ten they count. -/
structure Scanned where
  digits : ℕ
  exponent : ℤ

def scanExponent : Text → ℤ
  | '-' :: r => -value (r.takeWhile Char.isDigit)
  | '+' :: r => value (r.takeWhile Char.isDigit)
  | r => value (r.takeWhile Char.isDigit)

def scanTail : Text → ℤ
  | 'e' :: r => scanExponent r
  | 'E' :: r => scanExponent r
  | _ => 0

def scanFraction : Text → Text × Text
  | '.' :: r => (r.takeWhile Char.isDigit, r.dropWhile Char.isDigit)
  | r => ([], r)

def scan (t : Text) : Scanned :=
  let whole := t.takeWhile Char.isDigit
  let (fraction, r) := scanFraction (t.dropWhile Char.isDigit)
  ⟨value (whole ++ fraction), scanTail r - fraction.length⟩

def Scanned.round (negative : Bool) (s : Scanned) : Extended :=
  if 0 ≤ s.exponent then
    NetaAgent.round negative (s.digits * 10 ^ s.exponent.toNat * oneUnits) 1
  else NetaAgent.round negative (s.digits * oneUnits) (10 ^ (-s.exponent).toNat)

/-- `std::strtod` on a decimal number. -/
def strtod : Text → Extended
  | '-' :: r => (scan r).round true
  | r => (scan r).round false

/-! ### Writing -/

/-- The first power of ten that makes the least double more than one. -/
@[irreducible] def tenPow324 : ℕ := 10 ^ 324

variable (n : ℕ) (x : ℤ)

/-- How many digits the value times `10 ^ 324` has before the point, at least one for a positive
value. -/
def magnitude : ℕ := (decimal (n * tenPow324 / oneUnits)).length

/-- The 17 significant digits and the decimal exponent. -/
def significant : ℕ × ℕ :=
  let k := magnitude n
  let digits := divEven (n * tenPow324 * 10 ^ 17) (oneUnits * 10 ^ k)
  if digits = 10 ^ 17 then (10 ^ 16, k + 1) else (digits, k)

/-- The fraction without the zeros at its end, and the point only if something is left. -/
def withFraction (whole fraction : Text) : Text :=
  match fraction.rdropWhile (· = '0') with
  | [] => whole
  | c :: r => whole ++ '.' :: c :: r

def exponentText : Text :=
  let ds := decimal x.natAbs
  (if x < 0 then '-' else '+') :: (if ds.length < 2 then '0' :: ds else ds)

def magnitudeText : Text :=
  if n = 0 then ['0']
  else
    let (digits, k) := significant n
    let ds := decimal digits
    if 325 ≤ k ∧ k < 342 then withFraction (ds.take (k - 324)) (ds.drop (k - 324))
    else if 321 ≤ k ∧ k < 325 then withFraction ['0'] (List.replicate (324 - k) '0' ++ ds)
    else withFraction (ds.take 1) (ds.drop 1) ++ 'e' :: exponentText (k - 325)

/-- `std::ostream << std::setprecision(17) << d`. -/
def numberText (d : Double) : Text :=
  if d.negative then '-' :: magnitudeText d.units else magnitudeText d.units

/-! ### The spacing of doubles -/

variable {k m n digits : ℕ}

lemma log2_mono (h : m ≤ n) : m.log2 ≤ n.log2 := by
  by_cases hm : m = 0
  · simp [hm]
  · exact (Nat.le_log2 (by omega)).mpr (le_trans (Nat.log2_self_le hm) h)

/-- Neighbouring doubles are at least `2 ^ (-53)` of their size apart. -/
lemma spacing (hm : quantum m ∣ m) (hn : quantum n ∣ n) (h : m < n) : m < 2 ^ 53 * (n - m) := by
  have hq : quantum m ∣ quantum n := Nat.pow_dvd_pow 2 (Nat.sub_le_sub_right (log2_mono h.le) 52)
  have hdvd : quantum m ∣ n - m := Nat.dvd_sub (hq.trans hn) hm
  have hle : quantum m ≤ n - m := Nat.le_of_dvd (by omega) hdvd
  exact lt_of_lt_of_le (lt_quantum m) (Nat.mul_le_mul_left _ hle)

/-! ### Seventeen digits -/

lemma oneUnits_lt : oneUnits < tenPow324 := by decide +kernel

lemma magnitude_spec (hn : 0 < n) :
    10 ^ magnitude n * oneUnits ≤ 10 * (n * tenPow324) ∧ n * tenPow324 < 10 ^ magnitude n * oneUnits := by
  unfold magnitude
  generalize ha : n * tenPow324 / oneUnits = a
  have hapos : 0 < a := by
    rw [← ha]
    apply Nat.div_pos _ oneUnits_pos
    calc oneUnits ≤ tenPow324 := oneUnits_lt.le
      _ ≤ n * tenPow324 := Nat.le_mul_of_pos_left _ hn
  have hk : a < 10 ^ (decimal a).length :=
    (Nat.length_toDigits_le_iff (by omega) (length_pos_of_ne_nil (decimal_ne_nil a))).mp le_rfl
  have hlow : 10 ^ (decimal a).length ≤ 10 * a := by
    rcases Nat.lt_or_ge 1 (decimal a).length with h1 | h1
    · by_contra hlt
      have hshort : (decimal a).length ≤ (decimal a).length - 1 :=
        (Nat.length_toDigits_le_iff (by omega) (by omega)).mpr (by
          have hpow : 10 ^ (decimal a).length = 10 * 10 ^ ((decimal a).length - 1) := by
            rw [← Nat.pow_succ']; congr 1; omega
          omega)
      omega
    · calc 10 ^ (decimal a).length ≤ 10 ^ 1 := Nat.pow_le_pow_right (by omega) h1
        _ ≤ 10 * a := by omega
  constructor
  · calc 10 ^ (decimal a).length * oneUnits ≤ 10 * a * oneUnits := Nat.mul_le_mul_right _ hlow
      _ = 10 * (a * oneUnits) := by ring
      _ ≤ 10 * (n * tenPow324) := Nat.mul_le_mul_left _ (ha ▸ Nat.div_mul_le_self _ _)
  · calc n * tenPow324 < (a + 1) * oneUnits := by
          rw [← ha, Nat.mul_comm _ oneUnits]; exact Nat.lt_mul_div_succ _ oneUnits_pos
      _ ≤ 10 ^ (decimal a).length * oneUnits := Nat.mul_le_mul_right _ hk

/-- The 17 digits are 17, and within half a step of the value. -/
structure Near (n digits k : ℕ) : Prop where
  lower : 10 ^ 16 ≤ digits
  upper : digits < 10 ^ 17
  below : 2 * (digits * (oneUnits * 10 ^ k)) ≤ 2 * (n * tenPow324 * 10 ^ 17) + oneUnits * 10 ^ k
  above : 2 * (n * tenPow324 * 10 ^ 17) ≤ 2 * (digits * (oneUnits * 10 ^ k)) + oneUnits * 10 ^ k

/-- Digits that were rounded up to the next power of ten are 17 digits one exponent higher. -/
lemma near_carry (hlow : 10 ^ 16 ≤ digits) (htop : digits ≤ 10 ^ 17)
    (hbelow : 2 * (digits * (oneUnits * 10 ^ k)) ≤ 2 * (n * tenPow324 * 10 ^ 17) + oneUnits * 10 ^ k)
    (habove : 2 * (n * tenPow324 * 10 ^ 17) ≤ 2 * (digits * (oneUnits * 10 ^ k)) + oneUnits * 10 ^ k)
    {r : ℕ × ℕ} (hr : r = if digits = 10 ^ 17 then (10 ^ 16, k + 1) else (digits, k)) :
    Near n r.1 r.2 := by
  split_ifs at hr with heq
  · subst hr
    subst heq
    have hmul : 10 ^ 16 * (oneUnits * 10 ^ (k + 1)) = 10 ^ 17 * (oneUnits * 10 ^ k) := by ring
    have hstep : oneUnits * 10 ^ (k + 1) = 10 * (oneUnits * 10 ^ k) := by ring
    refine ⟨le_rfl, Nat.pow_lt_pow_right (by omega) (by omega), ?_, ?_⟩
    · rw [hmul, hstep]
      omega
    · rw [hmul, hstep]
      omega
  · subst hr
    exact ⟨hlow, lt_of_le_of_ne htop heq, hbelow, habove⟩

lemma near_significant (hn : 0 < n) : Near n (significant n).1 (significant n).2 := by
  obtain ⟨hlow, hhigh⟩ := magnitude_spec hn
  have hd : 0 < oneUnits * 10 ^ magnitude n := Nat.mul_pos oneUnits_pos (Nat.pow_pos (by omega))
  apply near_carry _ _ (divEven_le _ hd) (le_divEven _ hd) rfl
  · have hn' : 10 ^ 16 * (oneUnits * 10 ^ magnitude n) ≤ n * tenPow324 * 10 ^ 17 := by
      calc 10 ^ 16 * (oneUnits * 10 ^ magnitude n) = 10 ^ magnitude n * oneUnits * 10 ^ 16 := by ring
        _ ≤ 10 * (n * tenPow324) * 10 ^ 16 := Nat.mul_le_mul_right _ hlow
        _ = n * tenPow324 * 10 ^ 17 := by ring
    exact ((Nat.le_div_iff_mul_le hd).mpr hn').trans (div_le_divEven _ _)
  · apply divEven_le_of_lt
    calc n * tenPow324 * 10 ^ 17 < 10 ^ magnitude n * oneUnits * 10 ^ 17 :=
          Nat.mul_lt_mul_of_pos_right hhigh (Nat.pow_pos (by omega))
      _ = 10 ^ 17 * (oneUnits * 10 ^ magnitude n) := by ring

lemma Near.inj (hm : Near m digits k) (hn : Near n digits k)
    (hqm : quantum m ∣ m) (hqn : quantum n ∣ n) : m = n := by
  -- the larger of two would be too far away
  have hlt : ∀ {a b : ℕ}, Near a digits k → Near b digits k → quantum a ∣ a → quantum b ∣ b →
      ¬ a < b := by
    intro a b ha hb hqa hqb hab
    have hstep := spacing hqa hqb hab
    obtain ⟨c, rfl⟩ : ∃ c, b = a + c := ⟨b - a, by omega⟩
    rw [Nat.add_sub_cancel_left] at hstep
    have hpos : 0 < oneUnits * 10 ^ k := Nat.mul_pos oneUnits_pos (Nat.pow_pos (by omega))
    have hbelow := ha.below
    have habove := hb.above
    have hlow : 10 ^ 16 * (oneUnits * 10 ^ k) ≤ digits * (oneUnits * 10 ^ k) :=
      Nat.mul_le_mul_right _ ha.lower
    rw [Nat.add_mul] at habove
    generalize oneUnits * 10 ^ k = step at hbelow habove hlow hpos
    have hmul : a * tenPow324 < 2 ^ 53 * (c * tenPow324) := by
      rw [← Nat.mul_assoc]
      exact Nat.mul_lt_mul_of_pos_right hstep (oneUnits_pos.trans oneUnits_lt)
    generalize a * tenPow324 = x at *
    generalize c * tenPow324 = y at *
    generalize digits * step = z at *
    omega
  rcases Nat.lt_trichotomy m n with h | h | h
  · exact absurd h (hlt hm hn hqm hqn)
  · exact h
  · exact absurd h (hlt hn hm hqn hqm)

/-! ### Reading the digits back -/

def Digits (t : Text) : Prop := ∀ c ∈ t, c.isDigit = true

lemma digits_decimal (n : ℕ) : Digits (decimal n) := fun _ h => isDigit_of_mem_decimal h

variable {f s t w : Text}

lemma Digits.take (h : Digits t) (i : ℕ) : Digits (t.take i) := fun c hc => h c (mem_of_mem_take hc)

lemma Digits.drop (h : Digits t) (i : ℕ) : Digits (t.drop i) := fun c hc => h c (mem_of_mem_drop hc)

lemma Digits.append (hs : Digits s) (ht : Digits t) : Digits (s ++ t) := by
  intro c hc
  rcases mem_append.mp hc with h | h
  · exact hs c h
  · exact ht c h

lemma digits_replicate (j : ℕ) : Digits (replicate j '0') := by
  intro c hc
  rw [eq_of_mem_replicate hc]
  rfl

lemma value_append_zeros (t : Text) (j : ℕ) :
    value (t ++ replicate j '0') = value t * 10 ^ j := by
  induction j with
  | zero => simp
  | succ j ih =>
    rw [replicate_succ', ← append_assoc]
    unfold value at ih ⊢
    rw [Nat.ofDigitChars_append, ih, Nat.ofDigitChars_cons]
    simp [Nat.ofDigitChars]
    ring

lemma value_zeros_append (t : Text) (j : ℕ) : value (replicate j '0' ++ t) = value t := by
  have hz : value (replicate j '0') = 0 := by
    have h := value_append_zeros [] j
    simpa [value, Nat.ofDigitChars] using h
  unfold value at hz ⊢
  rw [Nat.ofDigitChars_append, hz]

lemma exists_zeros (f : Text) : ∃ j, f = f.rdropWhile (· = '0') ++ replicate j '0' := by
  refine ⟨(f.rtakeWhile (· = '0')).length, ?_⟩
  have hz : f.rtakeWhile (· = '0') = replicate (f.rtakeWhile (· = '0')).length '0' := by
    apply eq_replicate_iff.mpr
    exact ⟨rfl, fun c hc => by simpa using mem_rtakeWhile_imp hc⟩
  rw [← hz]
  exact rdropWhile_append_rtakeWhile.symm

def Tail (s : Text) : Prop := s = [] ∨ ∃ r, s = 'e' :: r

lemma Tail.takeWhile (h : Tail s) (hw : Digits w) : (w ++ s).takeWhile Char.isDigit = w := by
  rw [takeWhile_append_of_pos hw]
  rcases h with rfl | ⟨r, rfl⟩ <;> simp [Char.isDigit]

lemma Tail.dropWhile (h : Tail s) (hw : Digits w) : (w ++ s).dropWhile Char.isDigit = s := by
  rw [dropWhile_append_of_pos hw]
  rcases h with rfl | ⟨r, rfl⟩ <;> simp [Char.isDigit]

lemma Tail.scanFraction (h : Tail s) : scanFraction s = ([], s) := by
  rcases h with rfl | ⟨r, rfl⟩ <;> rfl

lemma scan_withFraction (hw : Digits w) (hf : Digits f) (hs : Tail s) :
    scan (withFraction w f ++ s) =
      ⟨value (w ++ f.rdropWhile (· = '0')), scanTail s - (f.rdropWhile (· = '0')).length⟩ := by
  have hg : Digits (f.rdropWhile (· = '0')) := fun c hc => hf c (( rdropWhile_prefix _ f).subset hc)
  unfold withFraction
  cases hfrac : f.rdropWhile (· = '0') with
  | nil => simp [scan, hs.takeWhile hw, hs.dropWhile hw, hs.scanFraction]
  | cons c r =>
    rw [hfrac] at hg
    have htake : (w ++ '.' :: c :: r ++ s).takeWhile Char.isDigit = w := by
      rw [append_assoc, takeWhile_append_of_pos hw]
      simp [Char.isDigit]
    have hdrop : (w ++ '.' :: c :: r ++ s).dropWhile Char.isDigit = '.' :: (c :: r ++ s) := by
      rw [append_assoc, dropWhile_append_of_pos hw]
      simp [Char.isDigit]
    simp only [scan, htake, hdrop, scanFraction, hs.takeWhile hg, hs.dropWhile hg]

/-- The digits and the exponent that a text was written from, up to zeros at the end. -/
def Reads (t : Text) (digits k : ℕ) : Prop :=
  ∃ j : ℕ, (scan t).digits * 10 ^ j = digits ∧ (scan t).exponent = k - 341 + j

lemma reads_withFraction (hw : Digits w) (hf : Digits f) (hs : Tail s)
    (hk : scanTail s - f.length = k - 341) : Reads (withFraction w f ++ s) (value (w ++ f)) k := by
  obtain ⟨j, hj⟩ := exists_zeros f
  refine ⟨j, ?_, ?_⟩
  · rw [scan_withFraction hw hf hs]
    conv_rhs => rw [hj, ← append_assoc, value_append_zeros]
  · rw [scan_withFraction hw hf hs, ← hk]
    have hlen := congrArg length hj
    rw [length_append, length_replicate] at hlen
    simp only
    omega

@[simp] lemma scanTail_nil : scanTail [] = 0 := rfl

lemma scanTail_exponentText : scanTail ('e' :: exponentText x) = x := by
  have hvalue : ∀ ds : Text, Digits ds →
      value ((if ds.length < 2 then '0' :: ds else ds).takeWhile Char.isDigit) = value ds := by
    intro ds hds
    split_ifs with hlen
    · have h0 : Digits ('0' :: ds) := (digits_replicate 1).append hds
      rw [takeWhile_eq_self_iff.mpr h0]
      exact value_zeros_append ds 1
    · rw [takeWhile_eq_self_iff.mpr hds]
  unfold exponentText
  split_ifs with hneg
  · simp only [scanTail, scanExponent, hvalue _ (digits_decimal _), value_decimal]
    omega
  · simp only [scanTail, scanExponent, hvalue _ (digits_decimal _), value_decimal]
    omega

lemma length_decimal (hlow : 10 ^ 16 ≤ digits) (hhigh : digits < 10 ^ 17) :
    (decimal digits).length = 17 := by
  have hle : (decimal digits).length ≤ 17 :=
    (Nat.length_toDigits_le_iff (by omega) (by omega)).mpr hhigh
  have hge : ¬ (decimal digits).length ≤ 16 := fun h =>
    absurd ((Nat.length_toDigits_le_iff (by omega) (by omega)).mp h) (by omega)
  omega

lemma reads_magnitudeText (hn : 0 < n) :
    Reads (magnitudeText n) (significant n).1 (significant n).2 := by
  have hnear := near_significant hn
  unfold magnitudeText
  rw [if_neg hn.ne']
  generalize significant n = r at hnear ⊢
  obtain ⟨digits, k⟩ := r
  have hlen := length_decimal hnear.lower hnear.upper
  have hds := digits_decimal digits
  simp only
  split_ifs with h1 h2
  · -- the point stands among the digits
    have h := reads_withFraction (hds.take (k - 324)) (hds.drop (k - 324)) (.inl rfl) (k := k)
      (by rw [length_drop, hlen, scanTail_nil]; omega)
    rwa [append_nil, take_append_drop, value_decimal] at h
  · -- zeros before the digits
    have h := reads_withFraction (w := ['0']) (digits_replicate 1)
      ((digits_replicate (324 - k)).append hds) (.inl rfl) (k := k)
      (by rw [length_append, length_replicate, hlen, scanTail_nil]; omega)
    rw [append_nil, ← append_assoc] at h
    have hz : ['0'] ++ replicate (324 - k) '0' = replicate (324 - k + 1) '0' := rfl
    rwa [hz, value_zeros_append, value_decimal] at h
  · -- an exponent
    have h := reads_withFraction (hds.take 1) (hds.drop 1) (.inr ⟨exponentText (k - 325), rfl⟩) (k := k)
      (by rw [length_drop, hlen, scanTail_exponentText]; omega)
    rwa [take_append_drop, value_decimal] at h

lemma Reads.inj {d d' k' : ℕ} (h : Reads t d k) (h' : Reads t d' k')
    (hd : 10 ^ 16 ≤ d ∧ d < 10 ^ 17) (hd' : 10 ^ 16 ≤ d' ∧ d' < 10 ^ 17) : d = d' ∧ k = k' := by
  obtain ⟨j, hj, hk⟩ := h
  obtain ⟨j', hj', hk'⟩ := h'
  -- one more zero would be an eighteenth digit
  have hlt : ∀ {i i' m m' : ℕ}, (scan t).digits * 10 ^ i = m → (scan t).digits * 10 ^ i' = m' →
      10 ^ 16 ≤ m → m' < 10 ^ 17 → ¬ i < i' := by
    intro i i' m m' hm hm' hlow hhigh hi
    obtain ⟨c, rfl⟩ : ∃ c, i' = i + 1 + c := ⟨i' - i - 1, by omega⟩
    have hmul : m' = m * 10 * 10 ^ c := by rw [← hm, ← hm']; ring
    have hc : m * 10 ≤ m * 10 * 10 ^ c := Nat.le_mul_of_pos_right _ (Nat.pow_pos (by omega))
    omega
  have heq : j = j' := by
    have h1 := hlt hj hj' hd.1 hd'.2
    have h2 := hlt hj' hj hd'.1 hd.2
    omega
  subst heq
  exact ⟨hj.symm.trans hj', by omega⟩

lemma scan_magnitudeText (hn : 0 < n) : (scan (magnitudeText n)).digits ≠ 0 := by
  intro h
  obtain ⟨j, hj, -⟩ := reads_magnitudeText hn
  have hlow := (near_significant hn).lower
  rw [h, Nat.zero_mul] at hj
  omega

lemma magnitudeText_ne_zero (hn : 0 < n) : magnitudeText n ≠ ['0'] := by
  intro h
  have hs := scan_magnitudeText hn
  rw [h] at hs
  exact hs (by decide)

lemma magnitudeText_ne_minus (n : ℕ) (r : Text) : magnitudeText n ≠ '-' :: r := by
  intro h
  rcases Nat.eq_zero_or_pos n with rfl | hn
  · simp [magnitudeText] at h
  · have hs := scan_magnitudeText hn
    rw [h] at hs
    exact hs (by simp [scan, scanFraction, Char.isDigit, value, Nat.ofDigitChars])

lemma magnitudeText_inj (hm : quantum m ∣ m) (hn : quantum n ∣ n)
    (h : magnitudeText m = magnitudeText n) : m = n := by
  rcases Nat.eq_zero_or_pos m with rfl | hm0
  · rcases Nat.eq_zero_or_pos n with rfl | hn0
    · rfl
    · exact absurd (h.symm.trans rfl) (magnitudeText_ne_zero hn0)
  · rcases Nat.eq_zero_or_pos n with rfl | hn0
    · exact absurd (h.trans rfl) (magnitudeText_ne_zero hm0)
    · have hnm := near_significant hm0
      have hnn := near_significant hn0
      have hrm := reads_magnitudeText hm0
      rw [h] at hrm
      obtain ⟨h1, h2⟩ := hrm.inj (reads_magnitudeText hn0) ⟨hnm.lower, hnm.upper⟩
        ⟨hnn.lower, hnn.upper⟩
      rw [h1, h2] at hnm
      exact hnm.inj hnn hm hn

theorem numberText_inj {a b : Double} (h : numberText a = numberText b) : a = b := by
  obtain ⟨sa, ma, ha⟩ := a
  obtain ⟨sb, mb, hb⟩ := b
  have heq : sa = sb ∧ ma = mb := by
    simp only [numberText] at h
    cases sa <;> cases sb <;> simp only [Bool.false_eq_true, if_true, if_false] at h
    · exact ⟨rfl, magnitudeText_inj ha.2 hb.2 h⟩
    · exact absurd h (magnitudeText_ne_minus _ _)
    · exact absurd h.symm (magnitudeText_ne_minus _ _)
    · exact ⟨rfl, magnitudeText_inj ha.2 hb.2 (cons.inj h).2⟩
  obtain ⟨rfl, rfl⟩ := heq
  rfl

end NetaAgent.NumberText
