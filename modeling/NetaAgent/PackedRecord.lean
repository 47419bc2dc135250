import Mathlib.Data.List.Basic
import Mathlib.Data.Nat.Bitwise

/-!
Records of fixed size in memory order: machine words, texts in character arrays, sets of flags and
enumerations, and the fields one after the other without padding.

A codec says how many bytes a value takes, writes it and reads it; its laws are that the writer keeps
the size and that the reader gives back what was written, whatever follows.
-/

namespace NetaAgent.PackedRecord

open List

abbrev Bytes := List UInt8

variable {α β : Type}

structure Codec (α : Type) where
  size : ℕ
  put : α → Bytes
  /-- What is read from at least `size` bytes. -/
  get : Bytes → α
  length_put : ∀ a, (put a).length = size
  get_put : ∀ a rest, get (put a ++ rest) = a

/-! ### Machine words -/

inductive ByteOrder where
  | little
  | big

def lowBytes : (width n : ℕ) → Bytes
  | 0, _ => []
  | w + 1, n => UInt8.ofNat (n % 256) :: lowBytes w (n / 256)

def ofLowBytes : Bytes → ℕ
  | [] => 0
  | b :: r => b.toNat + 256 * ofLowBytes r

lemma length_lowBytes (w n : ℕ) : (lowBytes w n).length = w := by
  induction w generalizing n with
  | zero => rfl
  | succ w ih => rw [lowBytes, length_cons, ih]

lemma ofLowBytes_lowBytes {w n : ℕ} (h : n < 256 ^ w) : ofLowBytes (lowBytes w n) = n := by
  induction w generalizing n with
  | zero =>
    rw [pow_zero] at h
    rw [lowBytes, ofLowBytes]
    omega
  | succ w ih =>
    have hdiv : n / 256 < 256 ^ w := by
      rw [Nat.div_lt_iff_lt_mul (by decide)]
      rwa [pow_succ] at h
    have hbyte : (UInt8.ofNat (n % 256)).toNat = n % 256 :=
      UInt8.toNat_ofNat_of_lt' (Nat.mod_lt n (by decide))
    rw [lowBytes, ofLowBytes, ih hdiv, hbyte]
    exact Nat.mod_add_div n 256

def ByteOrder.arrange : ByteOrder → Bytes → Bytes
  | little, l => l
  | big, l => l.reverse

@[simp] lemma ByteOrder.length_arrange (o : ByteOrder) (l : Bytes) :
    (o.arrange l).length = l.length := by
  cases o with
  | little => rfl
  | big => exact length_reverse

@[simp] lemma ByteOrder.arrange_arrange (o : ByteOrder) (l : Bytes) :
    o.arrange (o.arrange l) = l := by
  cases o with
  | little => rfl
  | big => exact reverse_reverse l

/-- A type whose values are the numbers below `256 ^ width`. -/
structure MachineWord (α : Type) where
  width : ℕ
  toNat : α → ℕ
  ofNat : ℕ → α
  toNat_lt : ∀ a, toNat a < 256 ^ width
  ofNat_toNat : ∀ a, ofNat (toNat a) = a

def u8 : MachineWord UInt8 :=
  ⟨1, UInt8.toNat, UInt8.ofNat, UInt8.toNat_lt, fun _ => UInt8.ofNat_toNat⟩

def u16 : MachineWord UInt16 :=
  ⟨2, UInt16.toNat, UInt16.ofNat, UInt16.toNat_lt, fun _ => UInt16.ofNat_toNat⟩

def u32 : MachineWord UInt32 :=
  ⟨4, UInt32.toNat, UInt32.ofNat, UInt32.toNat_lt, fun _ => UInt32.ofNat_toNat⟩

def u64 : MachineWord UInt64 :=
  ⟨8, UInt64.toNat, UInt64.ofNat, UInt64.toNat_lt, fun _ => UInt64.ofNat_toNat⟩

lemma ofNat_toNat_int32 (a : Int32) : (UInt32.ofNat a.toUInt32.toNat).toInt32 = a := by
  rw [UInt32.ofNat_toNat, Int32.toInt32_toUInt32]

lemma ofNat_toNat_int64 (a : Int64) : (UInt64.ofNat a.toUInt64.toNat).toInt64 = a := by
  rw [UInt64.ofNat_toNat, Int64.toInt64_toUInt64]

def i32 : MachineWord Int32 :=
  ⟨4, fun a => a.toUInt32.toNat, fun n => (UInt32.ofNat n).toInt32, fun a => a.toUInt32.toNat_lt,
    ofNat_toNat_int32⟩

def i64 : MachineWord Int64 :=
  ⟨8, fun a => a.toUInt64.toNat, fun n => (UInt64.ofNat n).toInt64, fun a => a.toUInt64.toNat_lt,
    ofNat_toNat_int64⟩

namespace Codec

section
variable (o : ByteOrder) (m : MachineWord α)

lemma length_word (a : α) : (o.arrange (lowBytes m.width (m.toNat a))).length = m.width := by
  rw [o.length_arrange, length_lowBytes]

lemma word_get_put (a : α) (rest : Bytes) :
    m.ofNat (ofLowBytes (o.arrange ((o.arrange (lowBytes m.width (m.toNat a)) ++ rest).take
      m.width))) = a := by
  rw [take_left' (length_word o m a), o.arrange_arrange, ofLowBytes_lowBytes (m.toNat_lt a),
    m.ofNat_toNat]

def word : Codec α where
  size := m.width
  put a := o.arrange (lowBytes m.width (m.toNat a))
  get l := m.ofNat (ofLowBytes (o.arrange (l.take m.width)))
  length_put := length_word o m
  get_put := word_get_put o m

end

section
variable (c : Codec α) (d : Codec β)

lemma length_pair (p : α × β) : (c.put p.1 ++ d.put p.2).length = c.size + d.size := by
  rw [length_append, c.length_put, d.length_put]

lemma pair_get_put (p : α × β) (rest : Bytes) :
    (c.get (c.put p.1 ++ d.put p.2 ++ rest),
      d.get ((c.put p.1 ++ d.put p.2 ++ rest).drop c.size)) = p := by
  rw [append_assoc, c.get_put, drop_left' (c.length_put p.1), d.get_put]

def pair : Codec (α × β) where
  size := c.size + d.size
  put p := c.put p.1 ++ d.put p.2
  get l := (c.get l, d.get (l.drop c.size))
  length_put := length_pair c d
  get_put := pair_get_put c d

variable (f : β → α) (g : α → β) (h : ∀ b, g (f b) = b)

lemma length_record (b : β) : (c.put (f b)).length = c.size := c.length_put (f b)

include h in
lemma record_get_put (b : β) (rest : Bytes) : g (c.get (c.put (f b) ++ rest)) = b := by
  rw [c.get_put, h]

def record : Codec β where
  size := c.size
  put b := c.put (f b)
  get l := g (c.get l)
  length_put := length_record c f
  get_put := record_get_put c f g h

end

@[simp] lemma size_word (o : ByteOrder) (m : MachineWord α) : (word o m).size = m.width := rfl

@[simp] lemma size_pair (c : Codec α) (d : Codec β) : (c.pair d).size = c.size + d.size := rfl

@[simp] lemma size_record (c : Codec α) (f : β → α) (g : α → β) (h : ∀ b, g (f b) = b) :
    (c.record f g h).size = c.size := rfl

end Codec

/-! ### Texts -/

def Chars (n : ℕ) := { l : Bytes // l.length = n }

section
variable {n : ℕ}

lemma length_copy (n : ℕ) (v : Bytes) :
    (v.take (n - 1) ++ replicate (n - (v.take (n - 1)).length) 0).length = n := by
  have h : (v.take (n - 1)).length ≤ n - 1 := length_take_le _ _
  rw [length_append, length_replicate]
  omega

/-- The text, cut so that a NUL follows it, and NULs up to the end. -/
def copyText (n : ℕ) (v : Bytes) : Chars n :=
  ⟨v.take (n - 1) ++ List.replicate (n - (v.take (n - 1)).length) 0, length_copy n v⟩

def readText (c : Chars n) : Bytes := c.1.takeWhile (· ≠ 0)

lemma readText_copyText {v : Bytes} (hnul : 0 ∉ v) (hlen : v.length < n) :
    readText (copyText n v) = v := by
  have htake : v.take (n - 1) = v := take_of_length_le (by omega)
  obtain ⟨k, hk⟩ : ∃ k, n - v.length = k + 1 := ⟨n - v.length - 1, by omega⟩
  have hpos : ∀ b ∈ v, decide (b ≠ 0) = true := fun b hb => by
    rw [decide_eq_true_eq]
    rintro rfl
    exact hnul hb
  have htext : (copyText n v).1 = v ++ 0 :: replicate k 0 := by
    simp only [copyText, htake, hk, replicate_succ]
  rw [readText, htext, takeWhile_append_of_pos hpos]
  simp

lemma length_pad (n : ℕ) (l : Bytes) : ((l ++ replicate n 0).take n).length = n := by
  rw [length_take, length_append, length_replicate]
  omega

lemma chars_get_put (c : Chars n) (rest : Bytes) :
    (⟨(c.1 ++ rest ++ replicate n 0).take n, length_pad n (c.1 ++ rest)⟩ : Chars n) = c := by
  refine Subtype.ext ?_
  dsimp only
  rw [append_assoc, take_left' c.2]

def Codec.chars (n : ℕ) : Codec (Chars n) where
  size := n
  put c := c.1
  get l := ⟨(l ++ List.replicate n 0).take n, length_pad n l⟩
  length_put c := c.2
  get_put := chars_get_put

@[simp] lemma Codec.size_chars (n : ℕ) : (chars n).size = n := rfl

end

/-! ### Flags -/

section
variable {φ : Type} (index : φ → ℕ)

def flagBit (f : φ) : UInt32 := UInt32.ofNat (2 ^ index f)

/-- The bits of the flags that are set, one after the other. -/
def setFlags (all : List φ) (present : φ → Bool) : UInt32 :=
  all.foldl (fun flags f => if present f then flags ||| flagBit index f else flags) 0

def hasFlag (flags : UInt32) (f : φ) : Bool := decide (flags &&& flagBit index f ≠ 0)

variable {index}

lemma toNat_flagBit {f : φ} (hf : index f < 32) : (flagBit index f).toNat = 2 ^ index f :=
  UInt32.toNat_ofNat_of_lt' (Nat.pow_lt_pow_right (by decide) hf)

lemma hasFlag_eq {f : φ} (hf : index f < 32) (flags : UInt32) :
    hasFlag index flags f = flags.toNat.testBit (index f) := by
  have hzero : flags &&& flagBit index f ≠ 0 ↔ flags.toNat &&& 2 ^ index f ≠ 0 := by
    rw [← toNat_flagBit hf, ← UInt32.toNat_and, ne_eq, ne_eq, ← UInt32.toNat_inj]
    rfl
  rw [Bool.eq_iff_iff, hasFlag, decide_eq_true_eq, hzero, Nat.and_two_pow]
  cases flags.toNat.testBit (index f) <;> simp

variable [DecidableEq φ]

section

variable (hinj : Function.Injective index)
include hinj

lemma testBit_setFlag (hlt : ∀ f, index f < 32) (flags : UInt32)
    (present : Bool) (f g : φ) :
    (if present then flags ||| flagBit index g else flags).toNat.testBit (index f) =
      (flags.toNat.testBit (index f) || (decide (f = g) && present)) := by
  cases present with
  | false => simp
  | true =>
    have hsame : (index g = index f) = (f = g) :=
      propext ⟨fun h => (hinj h).symm, fun h => by rw [h]⟩
    rw [if_pos rfl, UInt32.toNat_or, Nat.testBit_or, toNat_flagBit (hlt g), Nat.testBit_two_pow,
      Bool.and_true]
    simp only [hsame]

lemma testBit_foldl (hlt : ∀ f, index f < 32) (all : List φ)
    (present : φ → Bool) (f : φ) (flags : UInt32) :
    (all.foldl (fun flags g => if present g then flags ||| flagBit index g else flags)
      flags).toNat.testBit (index f) =
      (flags.toNat.testBit (index f) || (decide (f ∈ all) && present f)) := by
  induction all generalizing flags with
  | nil => simp
  | cons g all ih =>
    rw [foldl_cons, ih, testBit_setFlag hinj hlt]
    by_cases hfg : f = g
    · subst hfg
      cases present f <;> simp
    · simp [hfg]

lemma hasFlag_setFlags (hlt : ∀ f, index f < 32) {all : List φ}
    (present : φ → Bool) {f : φ} (hf : f ∈ all) :
    hasFlag index (setFlags index all present) f = present f := by
  rw [hasFlag_eq (hlt f), setFlags, testBit_foldl hinj hlt]
  simp [hf]

end

end

/-! ### Enumerations -/

/-- A type with named values, which are numbered from 0 on and stored as a byte. -/
class Enumerated (α : Type) [DecidableEq α] where
  names : List α
  mem_names : ∀ a, a ∈ names
  length_names : names.length ≤ 256

section
variable [DecidableEq α] [Enumerated α]

def nameCode (a : α) : UInt8 := UInt8.ofNat (Enumerated.names.idxOf a)

def nameOf (c : UInt8) : Option α := Enumerated.names[c.toNat]?

lemma nameOf_nameCode (a : α) : nameOf (nameCode a) = some a := by
  have hmem : a ∈ Enumerated.names := Enumerated.mem_names a
  have hlt : Enumerated.names.idxOf a < 256 :=
    (idxOf_lt_length_of_mem hmem).trans_le Enumerated.length_names
  have hcode : (nameCode a).toNat = Enumerated.names.idxOf a := UInt8.toNat_ofNat_of_lt' hlt
  rw [nameOf, hcode, getElem?_idxOf hmem]

end

/-- What a variable of an enumeration type can hold: a named value, or a byte that has no name. -/
inductive EnumValue (α : Type) [DecidableEq α] [Enumerated α] where
  | named (a : α)
  | unnamed (code : UInt8) (h : nameOf (α := α) code = none)

namespace EnumValue
variable [DecidableEq α] [Enumerated α]

def code : EnumValue α → UInt8
  | named a => nameCode a
  | unnamed c _ => c

lemma isSome_of_ne_none {c : UInt8} (h : ¬ nameOf (α := α) c = none) :
    (nameOf (α := α) c).isSome = true := Option.isSome_iff_ne_none.mpr h

def ofCode (c : UInt8) : EnumValue α :=
  if h : nameOf (α := α) c = none then unnamed c h else named ((nameOf c).get (isSome_of_ne_none h))

lemma ofCode_code (v : EnumValue α) : ofCode v.code = v := by
  cases v with
  | named a => simp [ofCode, code, nameOf_nameCode]
  | unnamed c h => simp [ofCode, code, h]

end EnumValue

end NetaAgent.PackedRecord
