import NetaAgent.UpgradeInstruction

/-!
The decoders of chunked bodies.

The download of an upgrade, the client of the rules and the client of the fleet read a body that
comes in chunks in the same loop. They differ in how they read the size of a chunk, and in what
they do with a body that is not well formed: they throw, or they return it as it is.
-/

namespace NetaAgent.Chunked

open Decimal Search Upgrade List

/-! ### Sizes -/

def hexValue (c : Char) : ℕ :=
  if c.isDigit then c.toNat - 48 else if 'a' ≤ c then c.toNat - 87 else c.toNat - 55

def hexNumber (digits : Text) : ℕ := digits.foldl (fun n c => 16 * n + hexValue c) 0

/-- What the digits at the front give in base 16, if there are any and they fit. -/
def readHex (t : Text) : Option ℕ :=
  let digits := t.takeWhile isHexDigit
  if digits = [] ∨ twoPow64 ≤ hexNumber digits then none else some (hexNumber digits)

/-- `std::from_chars`, when it has to read the whole text. -/
def fromCharsHex (t : Text) : Option ℕ := if t.all isHexDigit then readHex t else none

/-- `std::strtoull` passes over `0x` in front of a digit. -/
def skipBase : Text → Text
  | '0' :: x :: c :: r => if (x = 'x' ∨ x = 'X') ∧ isHexDigit c then c :: r else '0' :: x :: c :: r
  | t => t

/-- `std::stoull` in base 16. -/
def stoullHex (t : Text) : Option ℕ :=
  let (negative, r) := takeSign (t.dropWhile isSpace)
  (readHex (skipBase r)).map fun n => if negative then (twoPow64 - n) % twoPow64 else n

/-! ### The loop -/

inductive Fault where
  | line
  | size
  | limit
  | truncated
  | terminator

structure Decoder where
  size : Text → Option ℕ
  limit : Option ℕ := none
  fault : Fault → Except Text Text

/-- The loop of the decoders, at the rest of the body. -/
def Decoder.decode (d : Decoder) (out rest : Text) : Except Text Text :=
  match _h : find "\r\n" rest with
  | none => d.fault .line
  | some lineEnd =>
    match d.size ((rest.take lineEnd).takeWhile (· ≠ ';')) with
    | none => d.fault .size
    | some n =>
      if n = 0 then .ok out
      else if d.limit.any fun max => max - out.length < n then d.fault .limit
      else if (rest.drop (lineEnd + 2)).length < n then d.fault .truncated
      else if "\r\n" <+: (rest.drop (lineEnd + 2)).drop n then
        d.decode (out ++ (rest.drop (lineEnd + 2)).take n) ((rest.drop (lineEnd + 2)).drop (n + 2))
      else d.fault .terminator
  termination_by rest.length
  decreasing_by
    have hline : 2 ≤ (rest.drop lineEnd).length := (prefix_of_find _h).length_le
    simp only [length_drop] at hline ⊢
    omega

def upgradeDecoder (maxBytes : ℕ) : Decoder where
  size t := fromCharsHex (trim t)
  limit := some maxBytes
  fault
    | .line => .error "invalid chunked artifact response"
    | .size => .error "invalid chunk size in artifact response"
    | .limit => .error "upgrade artifact exceeds configured size limit"
    | .truncated => .error "truncated chunked artifact response"
    | .terminator => .error "invalid chunk terminator in artifact response"

/-- `decode_chunked` of the download of an upgrade. -/
def decodeChunked (input : Text) (maxBytes : ℕ) : Except Text Text :=
  (upgradeDecoder maxBytes).decode [] input

variable (body : Text)

def ruleDecoder : Decoder where
  size := stoullHex
  fault
    | .truncated => .error "truncated chunked coordinator response"
    | .terminator => .error "invalid chunked coordinator response"
    | _ => .ok body

/-- `decode_chunked` of the client of the rules. -/
def decodeChunkedRules : Except Text Text := (ruleDecoder body).decode [] body

def fleetDecoder : Decoder where
  size t := if t = [] ∨ t.all isHexDigit = false then none else stoullHex t
  fault _ := .ok body

def decodeChunkedBody : Except Text Text := (fleetDecoder body).decode [] body

/-! ### Encoded bodies -/

/-- A line with a size in hexadecimal digits of either case, and perhaps an extension. -/
def SizeLine (n : ℕ) (line : Text) : Prop :=
  ∃ digits extension, line = digits ++ extension ∧ digits ≠ [] ∧
    (∀ c ∈ digits, isHexDigit c = true) ∧ hexNumber digits = n ∧
    (extension = [] ∨ extension.head? = some ';') ∧ '\r' ∉ extension ∧ '\n' ∉ extension

/-- The text is a chunked body of `b`, with a trailer behind the last chunk. -/
inductive Encodes : Text → Text → Prop
  | last {line : Text} (trailer : Text) (hline : SizeLine 0 line) :
      Encodes [] (line ++ ("\r\n" ++ trailer))
  | chunk {line data b body : Text} (hdata : data ≠ []) (hline : SizeLine data.length line)
      (hbody : Encodes b body) :
      Encodes (data ++ b) (line ++ ("\r\n" ++ (data ++ ("\r\n" ++ body))))

section
variable {digits line out b body r : Text} {n : ℕ} {d : Decoder}

lemma not_mem_of_isHexDigit (hhex : ∀ c ∈ digits, isHexDigit c = true) {c : Char}
    (hc : isHexDigit c = false) : c ∉ digits := by
  intro hmem
  rw [hhex c hmem] at hc
  cases hc

section
variable (hne : digits ≠ []) (hhex : ∀ c ∈ digits, isHexDigit c = true)
  (hlt : hexNumber digits < twoPow64)

include hne hhex hlt

lemma readHex_digits : readHex digits = some (hexNumber digits) := by
  have htake : digits.takeWhile isHexDigit = digits := takeWhile_eq_self_iff.mpr hhex
  simp [readHex, htake, hne, hlt]

lemma stoullHex_digits : stoullHex digits = some (hexNumber digits) := by
  have hx : ∀ c, isHexDigit c = false → c ∉ digits := fun c => not_mem_of_isHexDigit hhex
  obtain ⟨c, r, rfl⟩ := exists_cons_of_ne_nil hne
  have hspace : (c :: r).dropWhile isSpace = c :: r :=
    dropWhile_cons_of_neg (by simp [isSpace_of_isHexDigit (hhex c mem_cons_self)])
  have hsign : takeSign (c :: r) = (false, c :: r) := by
    unfold takeSign
    split
    · next heq => exact absurd (heq ▸ mem_cons_self) (hx '-' (by decide))
    · next heq => exact absurd (heq ▸ mem_cons_self) (hx '+' (by decide))
    · rfl
  have hbase : skipBase (c :: r) = c :: r := by
    unfold skipBase
    split
    · next x _ _ heq =>
      have hmem : x ∈ c :: r := by rw [heq]; simp
      rw [if_neg, heq]
      rintro ⟨rfl | rfl, -⟩
      · exact hx 'x' (by decide) hmem
      · exact hx 'X' (by decide) hmem
    · rfl
  simp only [stoullHex, hspace, hsign, hbase, readHex_digits hne hhex hlt]
  rfl

end

/-- The decoder reads a number in hexadecimal digits as what it is. -/
def Decoder.ReadsSizes (d : Decoder) : Prop :=
  ∀ digits : Text, digits ≠ [] → (∀ c ∈ digits, isHexDigit c = true) →
    hexNumber digits < twoPow64 → d.size digits = some (hexNumber digits)

lemma upgradeDecoder_readsSizes (maxBytes : ℕ) : (upgradeDecoder maxBytes).ReadsSizes := by
  intro digits hne hhex hlt
  have htrim : trim digits = digits :=
    trim_of_not_isSpace fun c hc => isSpace_of_isHexDigit (hhex c hc)
  simp only [upgradeDecoder, htrim, fromCharsHex, all_eq_true.mpr hhex, if_true]
  exact readHex_digits hne hhex hlt

lemma fleetDecoder_readsSizes (body : Text) : (fleetDecoder body).ReadsSizes := by
  intro digits hne hhex hlt
  simp only [fleetDecoder, all_eq_true.mpr hhex, hne, false_or, Bool.true_eq_false, if_false]
  exact stoullHex_digits hne hhex hlt

/-- **One turn of the loop** at a line with a size. -/
lemma decode_line (hd : d.ReadsSizes) (hline : SizeLine n line) (hn : n < twoPow64) :
    d.decode out (line ++ ("\r\n" ++ r)) = if n = 0 then .ok out
      else if d.limit.any fun max => max - out.length < n then d.fault .limit
      else if r.length < n then d.fault .truncated
      else if "\r\n" <+: r.drop n then d.decode (out ++ r.take n) (r.drop (n + 2))
      else d.fault .terminator := by
  obtain ⟨digits, extension, rfl, hne, hhex, rfl, hsemi, hcr, -⟩ := hline
  have hfind : find "\r\n" (digits ++ extension ++ ("\r\n" ++ r)) =
      some (digits ++ extension).length := by
    refine find_append ?_ r
    rw [mem_append, not_or]
    exact ⟨not_mem_of_isHexDigit hhex (by decide), hcr⟩
  have hcut : (digits ++ extension).takeWhile (· ≠ ';') = digits := by
    rw [takeWhile_append_of_pos]
    · rcases hsemi with rfl | hsemi
      · simp
      · obtain ⟨e, rfl⟩ := head?_eq_some_iff.mp hsemi
        simp
    · rintro c hc
      have hne : c ≠ ';' := fun heq => not_mem_of_isHexDigit hhex (by decide) (heq ▸ hc)
      simpa using hne
  have hdrop : (digits ++ extension ++ ("\r\n" ++ r)).drop
      ((digits ++ extension).length + 2) = r := by
    rw [← drop_drop, drop_left]
    rfl
  rw [Decoder.decode]
  split
  · next h => rw [hfind] at h; cases h
  · next lineEnd h =>
    rw [hfind] at h
    cases h
    rw [take_left, hcut, hd digits hne hhex hn, hdrop]

/-- **A well formed body** is decoded to what it encodes. -/
lemma decode_encodes (hd : d.ReadsSizes) (h : Encodes b body) (hb : b.length < twoPow64)
    (hlimit : ∀ max ∈ d.limit, out.length + b.length ≤ max) :
    d.decode out body = .ok (out ++ b) := by
  induction h generalizing out with
  | last trailer hline =>
    rw [decode_line hd hline (by decide), if_pos rfl, append_nil]
  | @chunk line data b body hdata hline hbody ih =>
    rw [length_append] at hb hlimit
    have hpos : data.length ≠ 0 := fun h => hdata (length_eq_zero_iff.mp h)
    have hroom : d.limit.any (fun max => max - out.length < data.length) = false := by
      cases hm : d.limit with
      | none => rfl
      | some max =>
        have := hlimit max hm
        simpa using by omega
    rw [decode_line hd hline (by omega), if_neg hpos, hroom]
    rw [if_neg (by simp), if_neg (by simp), drop_left, if_pos (prefix_append _ _), take_left,
      ← drop_drop, drop_left]
    rw [show (("\r\n" : Text) ++ body).drop 2 = body from rfl,
      ih (by omega) fun max hm => by have := hlimit max hm; rw [length_append]; omega, append_assoc]

/-- A decoder that throws at every fault returns no more than its limit. -/
lemma length_decode {max : ℕ} (hm : d.limit = some max) (hfault : ∀ f t, d.fault f ≠ .ok t)
    (hout : out.length ≤ max) (h : d.decode out body = .ok r) : r.length ≤ max := by
  fun_induction Decoder.decode d out body with
  | case3 => cases h; exact hout
  | case6 out rest lineEnd _ n _ hpos hroom hlong hend ih =>
    refine ih ?_ h
    have hle : n ≤ max - out.length := by simpa [hm] using hroom
    rw [length_append, length_take]
    omega
  | case1 | case2 | case4 | case5 | case7 => exact absurd h (hfault _ _)

end

/-- **The three decoders return what a well formed body encodes**, and the one of the upgrade
never returns more than its limit. -/
theorem chunked_bodies_decoded {b body : Text} (h : Encodes b body) {limit : ℕ}
    (hlimit : limit < twoPow64) (hb : b.length ≤ limit) :
    (decodeChunked body limit = .ok b ∧ decodeChunkedRules body = .ok b ∧
      decodeChunkedBody body = .ok b) ∧
    ∀ input maxBytes r, decodeChunked input maxBytes = .ok r → r.length ≤ maxBytes := by
  have hlt : b.length < twoPow64 := lt_of_le_of_lt hb hlimit
  refine ⟨⟨?_, ?_, ?_⟩, fun input maxBytes r hr => ?_⟩
  · refine decode_encodes (upgradeDecoder_readsSizes limit) h hlt ?_
    rintro max ⟨⟩
    simpa using hb
  · exact decode_encodes (fun _ => stoullHex_digits) h hlt nofun
  · exact decode_encodes (fleetDecoder_readsSizes body) h hlt nofun
  · refine length_decode rfl (fun f t => ?_) (Nat.zero_le _) hr
    cases f <;> exact nofun

/-- The bytes of a chunk may look like the end of a body. -/
theorem chunked_bodies_decoded_sample : decodeChunked ("05;a" ++
    ("\r\n" ++ ("0\r\n\r\n" ++ ("\r\n" ++ ("00" ++ ("\r\n" ++ "t")))))) 5 = .ok "0\r\n\r\n" := by
  have hlast : SizeLine 0 "00" :=
    ⟨"00", [], rfl, by decide, all_eq_true.mp (by decide), rfl, .inl rfl, by decide, by decide⟩
  have hfirst : SizeLine "0\r\n\r\n".toList.length "05;a" :=
    ⟨"05", ";a", rfl, by decide, all_eq_true.mp (by decide), rfl, .inr rfl, by decide, by decide⟩
  exact (chunked_bodies_decoded (.chunk (by decide) hfirst (.last "t" hlast)) (by decide)
    (by decide)).1.1

end NetaAgent.Chunked
