import NetaAgent.Decimal
import Mathlib.Data.List.OfFn

/-!
`sha256_hex` over a digest function that is left open: the SHA-256 implementation is the
cryptographic library's. What the agent adds is the rendering of the 32 bytes as 64 lower
case hexadecimal digits.
-/

namespace NetaAgent.Crypto

open Decimal List

/-- The digest of the library, 32 bytes for every text. -/
abbrev Sha256 := Text → Fin 32 → UInt8

def hexByte (b : UInt8) : Text :=
  [Nat.digitChar (b.toNat / 16), Nat.digitChar (b.toNat % 16)]

/-- `finalize_hex`. -/
def finalizeHex (digest : Fin 32 → UInt8) : Text := (List.ofFn digest).flatMap hexByte

def sha256Hex (sha : Sha256) (input : Text) : Text := finalizeHex (sha input)

lemma length_finalizeHex (d : Fin 32 → UInt8) : (finalizeHex d).length = 64 := by
  simp [finalizeHex, hexByte]

lemma hex_of_mem_finalizeHex {d : Fin 32 → UInt8} {c : Char} (h : c ∈ finalizeHex d) :
    ∃ n < 16, c = Nat.digitChar n := by
  simp only [finalizeHex, mem_flatMap, hexByte, mem_cons, not_mem_nil, or_false] at h
  obtain ⟨b, -, rfl | rfl⟩ := h
  · exact ⟨_, by have := b.toNat_lt; omega, rfl⟩
  · exact ⟨_, Nat.mod_lt _ (by omega), rfl⟩

lemma digitChar_inj : ∀ i < 16, ∀ j < 16, Nat.digitChar i = Nat.digitChar j → i = j := by decide

lemma hexByte_inj {a b : UInt8} (h : hexByte a = hexByte b) : a = b := by
  have ha := a.toNat_lt
  have hb := b.toNat_lt
  simp only [hexByte, cons.injEq, and_true] at h
  have hhigh := digitChar_inj _ (by omega) _ (by omega) h.1
  have hlow := digitChar_inj _ (by omega) _ (by omega) h.2
  exact UInt8.toNat_inj.mp (by omega)

lemma flatMap_hexByte_inj {l l' : List UInt8} (h : l.flatMap hexByte = l'.flatMap hexByte) :
    l = l' := by
  induction l generalizing l' with
  | nil =>
    cases l' with
    | nil => rfl
    | cons b l' => simp [hexByte] at h
  | cons a l ih =>
    cases l' with
    | nil => simp [hexByte] at h
    | cons b l' =>
      rw [flatMap_cons, flatMap_cons] at h
      have hpair := append_inj h rfl
      rw [hexByte_inj hpair.1, ih hpair.2]

/-- The digest tells two texts apart: what an injective hash means for these two. -/
def Distinguishes (sha : Sha256) (a b : Text) : Prop := sha a = sha b → a = b

lemma sha256Hex_inj {sha : Sha256} {a b : Text} (hsha : Distinguishes sha a b)
    (h : sha256Hex sha a = sha256Hex sha b) : a = b := hsha (ofFn_injective (flatMap_hexByte_inj h))

lemma toLower_digitChar : ∀ n < 16, (Nat.digitChar n).toLower = Nat.digitChar n := by decide

lemma digitChar_ne_newline : ∀ n < 16, Nat.digitChar n ≠ '\n' := by decide

lemma digitChar_ne_nul : ∀ n < 16, Nat.digitChar n ≠ '\x00' := by decide

end NetaAgent.Crypto
