import NetaAgent.Decimal

/-!
The authority and the host of a URI, after the generic syntax of RFC 3986.

A URI is cut into its components by the delimiters that come first: the scheme ends at the first
colon, the authority after the two slashes at the next slash, question mark or hash. Inside the
authority there may be user information in front and a port behind; what is left is the host, an
address in brackets or a registered name.
-/

namespace NetaAgent.Uri

open Decimal List

variable (c : Char)

def isUnreserved : Bool :=
  c.isAlphanum || c == '-' || c == '.' || c == '_' || c == '~'

def isSubDelim : Bool := "!$&'()*+,;=".toList.contains c

/-- A text of allowed characters and percent-encoded bytes. -/
def encodedBy (allowed : Char → Bool) : Text → Bool
  | [] => true
  | '%' :: a :: b :: r => isHexDigit a && isHexDigit b && encodedBy allowed r
  | c :: r => allowed c && encodedBy allowed r

def regName : Text → Bool := encodedBy fun c => isUnreserved c || isSubDelim c

def userInfo : Text → Bool := encodedBy fun c => isUnreserved c || isSubDelim c || c == ':'

def endsAuthority : Bool := c == '/' || c == '?' || c == '#'

def endsScheme : Bool := c == ':' || endsAuthority c

/-- The text between the two slashes and the next component. -/
def authority (uri : Text) : Option Text :=
  match uri.dropWhile fun c => !endsScheme c with
  | ':' :: '/' :: '/' :: r => some (r.takeWhile fun c => !endsAuthority c)
  | _ => none

def isPort : Text → Bool
  | [] => true
  | c :: r => c == ':' && r.all Char.isDigit

def hostPart (t : Text) : Option Text :=
  match t with
  | '[' :: r =>
    let address := r.takeWhile (· ≠ ']')
    match r.dropWhile (· ≠ ']') with
    | [] => none
    | _ :: port =>
      if address.all (fun c => isUnreserved c || isSubDelim c || c == ':') && isPort port then
        some ('[' :: (address ++ [']']))
      else none
  | t =>
    let name := t.takeWhile (· ≠ ':')
    if regName name && isPort (t.dropWhile (· ≠ ':')) then some name else none

def hostOf (a : Text) : Option Text :=
  if '@' ∈ a then
    if userInfo (a.takeWhile (· ≠ '@')) then hostPart (a.dropWhile (· ≠ '@')).tail else none
  else hostPart a

/-- The host of a URI; nothing if it has none or is not formed as the syntax asks. -/
def host (uri : Text) : Option Text := (authority uri).bind hostOf

/-! ### Characters -/

/-- The characters of a registered name, with the percent sign. -/
def isNameChar : Bool := isUnreserved c || isSubDelim c || c == '%'

lemma isAlphanum_iff : c.isAlphanum = true ↔ (65 ≤ c.toNat ∧ c.toNat ≤ 90) ∨
    (97 ≤ c.toNat ∧ c.toNat ≤ 122) ∨ (48 ≤ c.toNat ∧ c.toNat ≤ 57) := by
  delta Char.isAlphanum Char.isAlpha Char.isUpper Char.isLower Char.isDigit
  simp only [Bool.or_eq_true, Bool.and_eq_true, decide_eq_true_eq, UInt32.le_iff_toNat_le, ge_iff_le]
  rw [or_assoc]
  rfl

variable {c : Char}

lemma isUnreserved_of_isHexDigit (h : isHexDigit c = true) : isUnreserved c = true := by
  rw [isHexDigit_iff] at h
  have halnum : c.isAlphanum = true := (isAlphanum_iff c).mpr (by omega)
  simp [isUnreserved, halnum]

/-- Only letters are changed. -/
lemma eq_of_toLower {d : Char} (hd : d.toNat < 65) (h : c.toLower = d) : c = d := by
  rcases toLower_cases c with hc | hc
  · rw [← hc, h]
  · rw [h] at hc
    omega

/-! ### Registered names -/

lemma nameChar_of_regName {t : Text} (h : regName t = true) : ∀ c ∈ t, isNameChar c = true := by
  have hhex {c : Char} (hc : isHexDigit c = true) : isNameChar c = true := by
    simp [isNameChar, isUnreserved_of_isHexDigit hc]
  unfold regName at h
  fun_induction encodedBy (fun c => isUnreserved c || isSubDelim c) t with
  | case1 => exact fun _ hc => by cases hc
  | case2 a b r ih =>
    simp only [Bool.and_eq_true] at h
    rw [forall_mem_cons, forall_mem_cons, forall_mem_cons]
    exact ⟨by decide, hhex h.1.1, hhex h.1.2, ih h.2⟩
  | case3 c r hpercent ih =>
    simp only [Bool.and_eq_true] at h
    rw [forall_mem_cons]
    exact ⟨by simp only [isNameChar, h.1, Bool.true_or], ih h.2⟩

lemma notMem_of_regName {t : Text} (h : regName t = true) (hc : isNameChar c = false) :
    c ∉ t := fun hm => by
  rw [nameChar_of_regName h c hm] at hc
  cases hc

end NetaAgent.Uri
