import NetaAgent.NapEnvelope
import NetaAgent.Search

/-!
The JSON objects of the upgrade files: how they are written, and the reader of `upgrade.cpp`.

All the files hold one flat object of strings. The reader decodes the keys it passes and the one
value it is asked for, and skips the other values without decoding them.
-/

namespace NetaAgent.UpgradeJson

open Decimal Search NapEnvelope List

/-! ### Writing -/

def memberText (m : Text × Text) : Text :=
  "\n  \"" ++ (m.1 ++ ("\": \"" ++ (jsonEscape m.2 ++ ['"'])))

def membersText : List (Text × Text) → Text
  | [] => "\n\x7d\n"
  | [m] => memberText m ++ "\n\x7d\n"
  | m :: m' :: ms => memberText m ++ ',' :: membersText (m' :: ms)

def objectText (ms : List (Text × Text)) : Text := '\x7b' :: membersText ms

/-! ### Reading -/

def skipSpace (t : Text) : Text := t.dropWhile isSpace

def unescapeChar (c : Char) : Option Char :=
  if c = '"' ∨ c = '\\' ∨ c = '/' then some c
  else if c = 'b' then some '\x08'
  else if c = 'f' then some '\x0c'
  else if c = 'n' then some '\n'
  else if c = 'r' then some '\r'
  else if c = 't' then some '\t'
  else none

def unsupportedEscape : Text := "unsupported JSON escape"

/-- A string after its opening quote: what it stands for, and the text after its closing quote. -/
def stringBody : Text → Except Text (Text × Text)
  | [] => .error "unterminated JSON string"
  | c :: r =>
    if c = '"' then .ok ([], r)
    else if c = '\\' then
      match r with
      | [] => .error "unterminated JSON escape"
      | e :: r =>
        match unescapeChar e with
        | none => .error unsupportedEscape
        | some d => (stringBody r).map fun p => (d :: p.1, p.2)
    else if c.toNat < 0x20 then .error "control byte in JSON string"
    else (stringBody r).map fun p => (c :: p.1, p.2)

def jsonUnescapeString : Text → Except Text (Text × Text)
  | [] => .error "expected JSON string"
  | c :: r => if c = '"' then stringBody r else .error "expected JSON string"

/-- The text after a value and its comma, or from the bracket that ends the object. -/
def skipValue : (inString escaped : Bool) → (nested : ℕ) → Text → Text
  | _, _, _, [] => []
  | true, true, n, _ :: r => skipValue true false n r
  | true, false, n, c :: r =>
    if c = '\\' then skipValue true true n r
    else if c = '"' then skipValue false false n r
    else skipValue true false n r
  | false, _, n, c :: r =>
    if c = '"' then skipValue true false n r
    else if c = '\x7b' ∨ c = '[' then skipValue false false (n + 1) r
    else if c = '\x7d' ∨ c = ']' then
      if n = 0 then c :: r else skipValue false false (n - 1) r
    else if c = ',' ∧ n = 0 then r
    else skipValue false false n r

/-- The loop over the members. Each turn consumes at least its separator, so the length of the
text is enough fuel. -/
def memberLoop (key : Text) : ℕ → Text → Except Text (Option Text)
  | 0, _ => .error "expected JSON string"
  | fuel + 1, t =>
    let t := skipSpace t
    if t.head? = some '\x7d' then .ok none
    else do
      let (currentKey, r) ← jsonUnescapeString t
      match skipSpace r with
      | [] => .error "expected JSON member separator"
      | c :: r =>
        if c ≠ ':' then .error "expected JSON member separator"
        else
          let r := skipSpace r
          if currentKey = key then
            if "null" <+: r then .ok none
            else (jsonUnescapeString r).map fun p => some p.1
          else memberLoop key fuel (skipValue false false 0 r)

def objectMemberString (object key : Text) : Except Text (Option Text) :=
  match skipSpace object with
  | [] => .error "expected JSON object"
  | c :: r =>
    if c ≠ '\x7b' then .error "expected JSON object"
    else memberLoop key (object.length + 1) r

def requireMember (object key : Text) : Except Text Text := do
  match ← objectMemberString object key with
  | some (c :: v) => .ok (c :: v)
  | _ => .error ("upgrade instruction missing " ++ key)

/-! ### Reading back what was written -/

/-- The characters that come back: `json_escape` writes the other control bytes as `\u` escapes,
which the reader refuses. -/
def Readable (c : Char) : Prop := 0x20 ≤ c.toNat ∨ c = '\n' ∨ c = '\r' ∨ c = '\t'

instance (c : Char) : Decidable (Readable c) := inferInstanceAs (Decidable (_ ∨ _))

def ReadableText (t : Text) : Prop := ∀ c ∈ t, Readable c

-- by going through the text: Mathlib can also enumerate all characters
instance (t : Text) : Decidable (ReadableText t) := List.decidableBAll Readable t

lemma stringBody_quote (r : Text) : stringBody ('"' :: r) = .ok ([], r) := by
  cases r <;> simp [stringBody]

variable {c d : Char}

lemma stringBody_plain (hq : c ≠ '"') (hb : c ≠ '\\') (hc : ¬ c.toNat < 0x20) (r : Text) :
    stringBody (c :: r) = (stringBody r).map fun p => (c :: p.1, p.2) := by
  cases r <;> simp [stringBody, hq, hb, hc]

lemma stringBody_escapeChar (h : Readable c) (r : Text) :
    stringBody (escapeChar c ++ r) = (stringBody r).map fun p => (c :: p.1, p.2) := by
  unfold escapeChar
  split_ifs with h1 h2 h3 h4 h5 h6
  · subst h1; simp [stringBody, unescapeChar]
  · subst h2; simp [stringBody, unescapeChar]
  · subst h3; simp [stringBody, unescapeChar]
  · subst h4; simp [stringBody, unescapeChar]
  · subst h5; simp [stringBody, unescapeChar]
  · rcases h with h | h | h | h
    · omega
    · exact absurd h h3
    · exact absurd h h4
    · exact absurd h h5
  · exact stringBody_plain h2 h1 h6 r

lemma stringBody_escapeChar_unreadable (h : ¬ Readable c) (r : Text) :
    stringBody (escapeChar c ++ r) = .error unsupportedEscape := by
  simp only [Readable, not_or, not_le] at h
  obtain ⟨hlt, hn, hr, ht⟩ := h
  have hb : c ≠ '\\' := by rintro rfl; exact absurd hlt (by decide)
  have hq : c ≠ '"' := by rintro rfl; exact absurd hlt (by decide)
  simp [escapeChar, hb, hq, hn, hr, ht, hlt, stringBody, unescapeChar]

lemma stringBody_jsonEscape (v r : Text) :
    stringBody (jsonEscape v ++ '"' :: r) =
      if ReadableText v then .ok (v, r) else .error unsupportedEscape := by
  induction v with
  | nil => simp [jsonEscape, stringBody_quote, ReadableText]
  | cons c v ih =>
    have hcons : jsonEscape (c :: v) = escapeChar c ++ jsonEscape v := rfl
    have hall : ReadableText (c :: v) ↔ Readable c ∧ ReadableText v := by simp [ReadableText]
    rw [hcons, append_assoc]
    by_cases hc : Readable c
    · rw [stringBody_escapeChar hc, ih]
      by_cases hv : ReadableText v
      · rw [if_pos hv, if_pos (hall.mpr ⟨hc, hv⟩)]; rfl
      · rw [if_neg hv, if_neg fun h => hv (hall.mp h).2]; rfl
    · rw [stringBody_escapeChar_unreadable hc, if_neg fun h => hc (hall.mp h).1]

/-! ### Skipping what was written -/

lemma digitChar_plain {n : ℕ} (h : n < 16) : Nat.digitChar n ≠ '"' ∧ Nat.digitChar n ≠ '\\' := by
  revert n
  decide

lemma skipValue_plain (hq : c ≠ '"') (hb : c ≠ '\\') (n : ℕ) (r : Text) :
    skipValue true false n (c :: r) = skipValue true false n r := by
  simp [skipValue, hq, hb]

lemma skipValue_escapeChar (c : Char) (n : ℕ) (r : Text) :
    skipValue true false n (escapeChar c ++ r) = skipValue true false n r := by
  unfold escapeChar
  split_ifs with h1 h2 h3 h4 h5 h6
  · simp [skipValue]
  · simp [skipValue]
  · simp [skipValue]
  · simp [skipValue]
  · simp [skipValue]
  · obtain ⟨hq, hb⟩ := digitChar_plain (n := c.toNat / 16) (by omega)
    obtain ⟨hq', hb'⟩ := digitChar_plain (n := c.toNat % 16) (by omega)
    simp [skipValue, hq, hb, hq', hb']
  · exact skipValue_plain h2 h1 n r

lemma skipValue_jsonEscape (v : Text) (n : ℕ) (r : Text) :
    skipValue true false n (jsonEscape v ++ '"' :: r) = skipValue false false n r := by
  induction v with
  | nil => simp [jsonEscape, skipValue]
  | cons c v ih =>
    have hcons : jsonEscape (c :: v) = escapeChar c ++ jsonEscape v := rfl
    rw [hcons, append_assoc, skipValue_escapeChar, ih]

/-! ### Looking a member up -/

def PlainKey (k : Text) : Prop := ∀ c ∈ k, c ≠ '"' ∧ c ≠ '\\' ∧ ¬ c.toNat < 0x20

instance (k : Text) : Decidable (PlainKey k) :=
  List.decidableBAll (fun c : Char => c ≠ '"' ∧ c ≠ '\\' ∧ ¬ c.toNat < 0x20) k

variable {k r v r' v' : Text}

lemma stringBody_key (hk : PlainKey k) (r : Text) : stringBody (k ++ '"' :: r) = .ok (k, r) := by
  induction k with
  | nil => exact stringBody_quote r
  | cons c k ih =>
    obtain ⟨hq, hb, hc⟩ := hk c (mem_cons_self ..)
    rw [cons_append, stringBody_plain hq hb hc, ih fun d hd => hk d (mem_cons_of_mem _ hd)]
    rfl

def readValue (v : Text) : Except Text (Option Text) :=
  if ReadableText v then .ok (some v) else .error unsupportedEscape

/-- One turn of the loop, at a written member that `r` follows. -/
lemma memberLoop_member (hk : PlainKey k) (key v r : Text) (fuel : ℕ) :
    memberLoop key (fuel + 1) (memberText (k, v) ++ r) =
      if k = key then readValue v else memberLoop key fuel (skipValue false false 0 r) := by
  have hskip : skipSpace (memberText (k, v) ++ r) =
      '"' :: (k ++ '"' :: (':' :: ' ' :: '"' :: (jsonEscape v ++ '"' :: r))) := by
    simp [memberText, skipSpace, isSpace]
  have hvalue : skipSpace (' ' :: '"' :: (jsonEscape v ++ '"' :: r)) =
      '"' :: (jsonEscape v ++ '"' :: r) := by
    simp [skipSpace, isSpace]
  have hcolon : skipSpace (':' :: ' ' :: '"' :: (jsonEscape v ++ '"' :: r)) =
      ':' :: ' ' :: '"' :: (jsonEscape v ++ '"' :: r) := by
    simp [skipSpace, isSpace]
  have hnull : ¬ "null" <+: '"' :: (jsonEscape v ++ '"' :: r) := by
    simp [cons_prefix_cons]
  rw [memberLoop]
  simp only [hskip, head?_cons, Option.some.injEq, jsonUnescapeString, if_true,
    stringBody_key hk, bind, Except.bind, hcolon, ne_eq, not_true_eq_false, if_false, hvalue, hnull]
  rw [if_neg (by decide)]
  split_ifs with hkey
  · -- the value asked for is decoded
    rw [stringBody_jsonEscape, readValue]
    split_ifs <;> rfl
  · -- any other is skipped to its closing quote
    rw [← skipValue_jsonEscape v 0 r]
    simp [skipValue]

/-- What the reader returns for a key of a written object. -/
def readMember (ms : List (Text × Text)) (key : Text) : Except Text (Option Text) :=
  match ms.lookup key with
  | none => .ok none
  | some v => readValue v

lemma readMember_cons (k v key : Text) (ms : List (Text × Text)) :
    readMember ((k, v) :: ms) key = if k = key then readValue v else readMember ms key := by
  unfold readMember
  by_cases h : k = key
  · subst h; simp
  · have hne : (key == k) = false := beq_eq_false_iff_ne.mpr (Ne.symm h)
    simp [lookup_cons, hne, h]

lemma length_le_membersText (ms : List (Text × Text)) : ms.length ≤ (membersText ms).length := by
  induction ms using membersText.induct with
  | case1 => simp
  | case2 m => simp [membersText]
  | case3 m m' ms ih =>
    simp only [membersText, length_append, length_cons] at ih ⊢
    omega

variable {ms ms' : List (Text × Text)}

lemma memberLoop_members (key : Text) (hk : ∀ m ∈ ms, PlainKey m.1)
    {fuel : ℕ} (hf : ms.length < fuel) :
    memberLoop key fuel (membersText ms) = readMember ms key := by
  have hend : ∀ fuel, memberLoop key (fuel + 1) ['\x7d', '\n'] = .ok none := by
    intro fuel
    simp [memberLoop, skipSpace, isSpace]
  induction ms using membersText.induct generalizing fuel with
  | case1 =>
    obtain ⟨fuel, rfl⟩ : ∃ k, fuel = k + 1 := ⟨fuel - 1, by simp at hf; omega⟩
    simp [membersText, memberLoop, skipSpace, isSpace, readMember]
  | case2 m =>
    obtain ⟨fuel, rfl⟩ : ∃ k, fuel = k + 1 + 1 := ⟨fuel - 2, by simp at hf; omega⟩
    obtain ⟨k, v⟩ := m
    have hplain : PlainKey k := hk (k, v) (mem_cons_self ..)
    have hskip : skipValue false false 0 "\n\x7d\n" = ['\x7d', '\n'] := by decide
    rw [membersText, memberLoop_member hplain, hskip, hend, readMember_cons]
    rfl
  | case3 m m' ms ih =>
    obtain ⟨fuel, rfl⟩ : ∃ k, fuel = k + 1 := ⟨fuel - 1, by simp at hf; omega⟩
    obtain ⟨k, v⟩ := m
    have hplain : PlainKey k := hk (k, v) (mem_cons_self ..)
    have hskip : skipValue false false 0 (',' :: membersText (m' :: ms)) = membersText (m' :: ms) := by
      simp [skipValue]
    rw [membersText, memberLoop_member hplain, hskip,
      ih (fun x hx => hk x (mem_cons_of_mem _ hx)) (by simp at hf ⊢; omega), readMember_cons k v]

/-- A member of a written object is read back, or refused for a control byte in its value. -/
theorem objectMemberString_objectText (hk : ∀ m ∈ ms, PlainKey m.1)
    (key : Text) : objectMemberString (objectText ms) key = readMember ms key := by
  have hskip : skipSpace (objectText ms) = '\x7b' :: membersText ms := by
    simp [objectText, skipSpace, isSpace]
  have hlen : ms.length < (objectText ms).length + 1 := by
    have := length_le_membersText ms
    simp only [objectText, length_cons]
    omega
  simp only [objectMemberString, hskip, ne_eq, not_true_eq_false, if_false]
  exact memberLoop_members key hk hlen

/-! ### A written object determines its members

The reader of `upgrade.cpp` does not show this: it refuses the `\u` escapes. -/

def hexValue (c : Char) : ℕ := if c.isDigit then c.toNat - '0'.toNat else c.toNat - 'a'.toNat + 10

/-- The character a written text begins with, control bytes included. -/
def decodeHead : Text → Option (Char × Text)
  | '\\' :: 'u' :: _ :: _ :: h :: l :: r => some (Char.ofNat (16 * hexValue h + hexValue l), r)
  | '\\' :: e :: r => (unescapeChar e).map (·, r)
  | c :: r => some (c, r)
  | [] => none

lemma hexValue_digitChar {n : ℕ} (h : n < 16) : hexValue (Nat.digitChar n) = n := by
  revert n
  decide

lemma decodeHead_escapeChar (c : Char) (r : Text) :
    decodeHead (escapeChar c ++ r) = some (c, r) := by
  unfold escapeChar
  split_ifs with h1 h2 h3 h4 h5 h6
  · subst h1; simp [decodeHead, unescapeChar]
  · subst h2; simp [decodeHead, unescapeChar]
  · subst h3; simp [decodeHead, unescapeChar]
  · subst h4; simp [decodeHead, unescapeChar]
  · subst h5; simp [decodeHead, unescapeChar]
  · have hc : 16 * (c.toNat / 16) + c.toNat % 16 = c.toNat := by omega
    simp [decodeHead, hexValue_digitChar (show c.toNat / 16 < 16 by omega),
      hexValue_digitChar (show c.toNat % 16 < 16 by omega), hc]
  · simp [decodeHead, h1]

lemma escapeChar_append_inj {x y : Text} (h : escapeChar c ++ x = escapeChar d ++ y) :
    c = d ∧ x = y := by
  have hd := congrArg decodeHead h
  rw [decodeHead_escapeChar, decodeHead_escapeChar] at hd
  simpa using hd

lemma escapeChar_append_ne_quote (c : Char) (x y : Text) : escapeChar c ++ x ≠ '"' :: y := by
  unfold escapeChar
  split_ifs with h1 h2 h3 h4 h5 h6
  case neg => simp [h2]
  all_goals simp

lemma jsonEscape_quote_inj
    (h : jsonEscape v ++ '"' :: r = jsonEscape v' ++ '"' :: r') : v = v' ∧ r = r' := by
  have hcons : ∀ c v, jsonEscape (c :: v) = escapeChar c ++ jsonEscape v := fun _ _ => rfl
  induction v generalizing v' with
  | nil =>
    cases v' with
    | nil => simpa [jsonEscape] using h
    | cons d v' =>
      rw [hcons, append_assoc] at h
      exact absurd h.symm (escapeChar_append_ne_quote d _ _)
  | cons c v ih =>
    cases v' with
    | nil =>
      rw [hcons, append_assoc] at h
      exact absurd h (escapeChar_append_ne_quote c _ _)
    | cons d v' =>
      rw [hcons, hcons, append_assoc, append_assoc] at h
      obtain ⟨rfl, htail⟩ := escapeChar_append_inj h
      obtain ⟨rfl, hr⟩ := ih htail
      exact ⟨rfl, hr⟩

lemma memberText_append_inj
    (h : memberText (k, v) ++ r = memberText (k, v') ++ r') : v = v' ∧ r = r' := by
  simp only [memberText, append_assoc] at h
  exact jsonEscape_quote_inj (by simpa using h)

theorem membersText_inj (hk : ms.map Prod.fst = ms'.map Prod.fst)
    (h : membersText ms = membersText ms') : ms = ms' := by
  induction ms using membersText.induct generalizing ms' with
  | case1 => simpa using hk.symm
  | case2 m =>
    obtain ⟨k, v⟩ := m
    obtain _ | ⟨⟨k', v'⟩, _ | ⟨m'', ms''⟩⟩ := ms'
    · simp at hk
    · obtain rfl : k = k' := by simpa using hk
      obtain ⟨rfl, -⟩ := memberText_append_inj h
      rfl
    · simp at hk
  | case3 m m' ms ih =>
    obtain ⟨k, v⟩ := m
    obtain _ | ⟨⟨k', v'⟩, _ | ⟨m'', ms''⟩⟩ := ms'
    · simp at hk
    · simp at hk
    · simp only [map_cons, cons.injEq] at hk
      obtain ⟨rfl, hk⟩ := hk
      obtain ⟨rfl, htail⟩ := memberText_append_inj h
      rw [ih (by simpa using hk) (cons.inj htail).2]

end NetaAgent.UpgradeJson
