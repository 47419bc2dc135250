import NetaAgent.Decimal

/-!
The texts of JSON values, by the grammar of RFC 8259.

A syntax tree keeps all that is written: the white space between the tokens, and how the characters
of a string and the digits of a number are spelled. Its text is then a function of the tree, and the
well-formed texts are the texts of the trees.
-/

namespace NetaAgent.JsonText

open Decimal List

/-! ### Tokens -/

def isBlank (c : Char) : Bool := c == ' ' || c == '\t' || c == '\n' || c == '\r'

abbrev Blank := { t : Text // t.all isBlank = true }

lemma all_isBlank_replicate (n : ℕ) : (replicate n ' ').all isBlank = true := by
  simp [isBlank]

def Blank.spaces (n : ℕ) : Blank := ⟨List.replicate n ' ', all_isBlank_replicate n⟩

def Blank.none : Blank := .spaces 0

inductive Escape where
  | quote | backslash | slash | backspace | formFeed | lineFeed | carriageReturn | tab
  deriving DecidableEq

def Escape.letter : Escape → Char
  | quote => '"'
  | backslash => '\\'
  | slash => '/'
  | backspace => 'b'
  | formFeed => 'f'
  | lineFeed => 'n'
  | carriageReturn => 'r'
  | tab => 't'

def Escape.meaning : Escape → Char
  | quote => '"'
  | backslash => '\\'
  | slash => '/'
  | backspace => '\x08'
  | formFeed => '\x0c'
  | lineFeed => '\n'
  | carriageReturn => '\r'
  | tab => '\t'

abbrev HexDigit := { c : Char // isHexDigit c = true }

def HexDigit.value (h : HexDigit) : ℕ :=
  if h.1.isDigit then h.1.toNat - 48 else if 'a' ≤ h.1 then h.1.toNat - 87 else h.1.toNat - 55

abbrev PlainChar := { c : Char // 0x20 ≤ c.toNat ∧ c ≠ '"' ∧ c ≠ '\\' }

inductive Piece where
  | plain (c : PlainChar)
  | escape (e : Escape)
  | unicode (a b c d : HexDigit)

def Piece.text : Piece → Text
  | plain c => [c.1]
  | escape e => ['\\', e.letter]
  | unicode a b c d => ['\\', 'u', a.1, b.1, c.1, d.1]

/-- How a character is written in a string, without `\u` escapes: the control bytes that need one
have none. -/
def spellChar (c : Char) : Option Piece :=
  if h : 0x20 ≤ c.toNat ∧ c ≠ '"' ∧ c ≠ '\\' then some (.plain ⟨c, h⟩)
  else
    ([.quote, .backslash, .backspace, .formFeed, .lineFeed, .carriageReturn, .tab].find? fun e =>
      Escape.meaning e = c).map .escape

def spell (t : Text) : List Piece := t.filterMap spellChar

variable (s : List Piece)

def piecesText : Text := s.flatMap Piece.text

def stringText : Text := '"' :: (piecesText s ++ ['"'])

def utf8 (n : ℕ) : Text :=
  if n < 0x80 then [Char.ofNat n]
  else if n < 0x800 then [Char.ofNat (0xc0 + n / 64), Char.ofNat (0x80 + n % 64)]
  else if n < 0x10000 then
    [Char.ofNat (0xe0 + n / 4096), Char.ofNat (0x80 + n / 64 % 64), Char.ofNat (0x80 + n % 64)]
  else
    [Char.ofNat (0xf0 + n / 262144), Char.ofNat (0x80 + n / 4096 % 64),
      Char.ofNat (0x80 + n / 64 % 64), Char.ofNat (0x80 + n % 64)]

def codeUnit (a b c d : HexDigit) : ℕ := ((a.value * 16 + b.value) * 16 + c.value) * 16 + d.value

/-- What a string stands for, byte by byte, with the high surrogate that the escape before it left.
Two escapes that form a surrogate pair are one code point. -/
def decodeFrom : (high : Option ℕ) → List Piece → Text
  | high, [] => high.elim [] utf8
  | high, .plain c :: s => high.elim [] utf8 ++ c.1 :: decodeFrom none s
  | high, .escape e :: s => high.elim [] utf8 ++ e.meaning :: decodeFrom none s
  | high, .unicode a b c d :: s =>
    let unit := codeUnit a b c d
    if 0xd800 ≤ unit ∧ unit < 0xdc00 then high.elim [] utf8 ++ decodeFrom (some unit) s
    else if 0xdc00 ≤ unit ∧ unit < 0xe000 ∧ high.isSome then
      utf8 (0x10000 + (high.getD 0 - 0xd800) * 0x400 + (unit - 0xdc00)) ++ decodeFrom none s
    else high.elim [] utf8 ++ utf8 unit ++ decodeFrom none s

def decode : Text := decodeFrom none s

lemma decode_plain (c : PlainChar) (s : List Piece) :
    decode (.plain c :: s) = c.1 :: decode s := rfl

lemma decode_escape (e : Escape) (s : List Piece) :
    decode (.escape e :: s) = e.meaning :: decode s := rfl

abbrev Digits := { t : Text // t ≠ [] ∧ t.all Char.isDigit = true }

/-- The digits before the decimal point: a zero only if it is the only one. -/
abbrev WholeDigits := { d : Digits // d.1.head? = some '0' → d.1 = ['0'] }

def WholeDigits.ofText (t : Text) : Option WholeDigits :=
  if h : (t ≠ [] ∧ t.all Char.isDigit = true) ∧ (t.head? = some '0' → t = ['0']) then
    some ⟨⟨t, h.1⟩, h.2⟩
  else none

structure Exponent where
  upper : Bool
  /-- The sign, if one is written: whether it is a minus. -/
  sign : Option Bool
  digits : Digits

def Exponent.text (e : Exponent) : Text :=
  (if e.upper then 'E' else 'e') ::
    ((e.sign.elim [] fun minus => [if minus then '-' else '+']) ++ e.digits.1)

structure Number where
  negative : Bool
  whole : WholeDigits
  fraction : Option Digits
  exponent : Option Exponent

def Number.text (n : Number) : Text :=
  (if n.negative then ['-'] else []) ++
    (n.whole.1.1 ++ ((n.fraction.elim [] fun f => '.' :: f.1) ++ n.exponent.elim [] Exponent.text))

def Number.mantissa (n : Number) : ℚ :=
  let digits := n.fraction.elim [] Subtype.val
  (if n.negative then -1 else 1) * ((value (n.whole.1.1 ++ digits) : ℚ) / 10 ^ digits.length)

def Number.value (n : Number) : ℚ :=
  match n.exponent with
  | none => n.mantissa
  | some e =>
    if e.sign = some true then n.mantissa / 10 ^ Decimal.value e.digits.1
    else n.mantissa * 10 ^ Decimal.value e.digits.1

/-! ### Syntax trees -/

inductive Kind where
  | value | items | members

/-- The values, and what stands between the brackets of arrays and objects that are not empty. -/
inductive Syn : Kind → Type where
  | null : Syn .value
  | boolean (b : Bool) : Syn .value
  | number (n : Number) : Syn .value
  | string (s : List Piece) : Syn .value
  | emptyArray (w : Blank) : Syn .value
  | array (items : Syn .items) : Syn .value
  | emptyObject (w : Blank) : Syn .value
  | object (members : Syn .members) : Syn .value
  | lastItem (w : Blank) (v : Syn .value) (w' : Blank) : Syn .items
  | item (w : Blank) (v : Syn .value) (w' : Blank) (rest : Syn .items) : Syn .items
  | lastMember (w : Blank) (key : List Piece) (w₁ w₂ : Blank) (v : Syn .value) (w₃ : Blank) :
      Syn .members
  | member (w : Blank) (key : List Piece) (w₁ w₂ : Blank) (v : Syn .value) (w₃ : Blank)
      (rest : Syn .members) : Syn .members

namespace Syn

def text : {k : Kind} → Syn k → Text
  | _, null => "null"
  | _, boolean true => "true"
  | _, boolean false => "false"
  | _, number n => n.text
  | _, string s => stringText s
  | _, emptyArray w => '[' :: (w.1 ++ [']'])
  | _, array items => '[' :: (items.text ++ [']'])
  | _, emptyObject w => '\x7b' :: (w.1 ++ ['\x7d'])
  | _, object members => '\x7b' :: (members.text ++ ['\x7d'])
  | _, lastItem w v w' => w.1 ++ (v.text ++ w'.1)
  | _, item w v w' rest => w.1 ++ (v.text ++ (w'.1 ++ ',' :: rest.text))
  | _, lastMember w key w₁ w₂ v w₃ =>
    w.1 ++ (stringText key ++ (w₁.1 ++ ':' :: (w₂.1 ++ (v.text ++ w₃.1))))
  | _, member w key w₁ w₂ v w₃ rest =>
    w.1 ++ (stringText key ++ (w₁.1 ++ ':' :: (w₂.1 ++ (v.text ++ (w₃.1 ++ ',' :: rest.text)))))

def isObject : Syn .value → Bool
  | emptyObject _ => true
  | object _ => true
  | _ => false

/-- The members of an object, those of the objects in it apart. -/
def memberList : {k : Kind} → Syn k → List (List Piece × Syn .value)
  | _, object members => members.memberList
  | _, lastMember _ key _ _ v _ => [(key, v)]
  | _, member _ key _ _ v _ rest => (key, v) :: rest.memberList
  | _, _ => []

/-- The members of all objects, at any depth, in the order of the text. -/
def entries : {k : Kind} → Syn k → List (List Piece × Syn .value)
  | _, array items => items.entries
  | _, object members => members.entries
  | _, lastItem _ v _ => v.entries
  | _, item _ v _ rest => v.entries ++ rest.entries
  | _, lastMember _ key _ _ v _ => (key, v) :: v.entries
  | _, member _ key _ _ v _ rest => (key, v) :: (v.entries ++ rest.entries)
  | _, _ => []

def find (v : Syn .value) (name : Text) : Option (Syn .value) :=
  (v.memberList.find? fun m => decode m.1 = name).map Prod.snd

theorem members_induction {motive : Syn .members → Prop}
    (last : ∀ w key w₁ w₂ v w₃, motive (lastMember w key w₁ w₂ v w₃))
    (more : ∀ w key w₁ w₂ v w₃ rest, motive rest → motive (member w key w₁ w₂ v w₃ rest)) :
    (members : Syn .members) → motive members
  | lastMember w key w₁ w₂ v w₃ => last w key w₁ w₂ v w₃
  | member w key w₁ w₂ v w₃ rest =>
    more w key w₁ w₂ v w₃ rest (members_induction last more rest)

/-- An integer without a sign, as it is written; null if it is none. -/
def integer (t : Text) : Syn .value :=
  (WholeDigits.ofText t).elim null fun whole => number ⟨false, whole, none, none⟩

/-- The members of an object, written without white space. -/
def membersOf (m : Text × Syn .value) : List (Text × Syn .value) → Syn .members
  | [] => lastMember .none (spell m.1) .none .none m.2 .none
  | m' :: ms => member .none (spell m.1) .none .none m.2 .none (membersOf m' ms)

def objectOf : List (Text × Syn .value) → Syn .value
  | [] => emptyObject .none
  | m :: ms => object (membersOf m ms)

end Syn

structure Document where
  before : Blank
  value : Syn .value
  after : Blank

def Document.text (d : Document) : Text := d.before.1 ++ (d.value.text ++ d.after.1)

lemma Document.text_object {before after : Blank} (members : Syn .members) :
    Document.text ⟨before, .object members, after⟩ =
      before.1 ++ '\x7b' :: (members.text ++ '\x7d' :: after.1) := by
  simp [Document.text, Syn.text]

/-! ### Characters of the tokens -/

variable {c : Char}

lemma isSpace_of_isBlank (h : isBlank c = true) : isSpace c = true := by
  simp only [isBlank, Bool.or_eq_true, beq_iff_eq] at h
  rcases h with ((rfl | rfl) | rfl) | rfl <;> decide

variable (w : Blank)

lemma Blank.isSpace : ∀ c ∈ w.1, isSpace c = true :=
  fun c hc => isSpace_of_isBlank (all_eq_true.mp w.2 c hc)

lemma Blank.dropWhile (hc : Decimal.isSpace c = false) (r : Text) :
    (w.1 ++ c :: r).dropWhile Decimal.isSpace = c :: r := by
  rw [dropWhile_append_of_pos w.isSpace, dropWhile_cons_of_neg (by simp [hc])]

/-- The characters a scanner outside strings gives a meaning to. -/
def isStructural (c : Char) : Bool :=
  c == '"' || c == '\x7b' || c == '\x7d' || c == '[' || c == ']' || c == ',' || c == ':'

lemma isStructural_of_isBlank (h : isBlank c = true) : isStructural c = false := by
  simp only [isBlank, Bool.or_eq_true, beq_iff_eq] at h
  rcases h with ((rfl | rfl) | rfl) | rfl <;> decide

lemma Blank.plain : ∀ c ∈ w.1, isStructural c = false :=
  fun c hc => isStructural_of_isBlank (all_eq_true.mp w.2 c hc)

lemma isStructural_of_isDigit (h : c.isDigit = true) : isStructural c = false := by
  by_contra hc
  simp only [Bool.not_eq_false, isStructural, Bool.or_eq_true, beq_iff_eq] at hc
  rcases hc with (((((rfl | rfl) | rfl) | rfl) | rfl) | rfl) | rfl <;> revert h <;> decide

lemma Digits.plain (d : Digits) : ∀ c ∈ d.1, isStructural c = false :=
  fun c hc => isStructural_of_isDigit (all_eq_true.mp d.2.2 c hc)

lemma Exponent.plain (e : Exponent) : ∀ c ∈ e.text, isStructural c = false := by
  intro c hc
  simp only [Exponent.text, mem_cons, mem_append] at hc
  rcases hc with rfl | hc | hc
  · cases e.upper <;> decide
  · cases hsign : e.sign with
    | none => simp [hsign] at hc
    | some minus =>
      simp only [hsign, Option.elim_some, mem_singleton] at hc
      subst hc
      cases minus <;> decide
  · exact e.digits.plain c hc

lemma Number.plain (n : Number) : ∀ c ∈ n.text, isStructural c = false := by
  intro c hc
  simp only [Number.text, mem_append] at hc
  rcases hc with hc | hc | hc | hc
  · split at hc
    · rw [mem_singleton.mp hc]; decide
    · cases hc
  · exact n.whole.1.plain c hc
  · cases hf : n.fraction with
    | none => simp [hf] at hc
    | some f =>
      simp only [hf, Option.elim_some, mem_cons] at hc
      rcases hc with rfl | hc
      · decide
      · exact f.plain c hc
  · cases he : n.exponent with
    | none => simp [he] at hc
    | some e => exact e.plain c (by simpa [he] using hc)

lemma HexDigit.ne (h : HexDigit) : h.1 ≠ '"' ∧ h.1 ≠ '\\' := by
  obtain ⟨c, hc⟩ := h
  constructor <;> rintro rfl <;> revert hc <;> decide

/-! ### The first character of a value -/

lemma Syn.head_text (v : Syn .value) : ∃ c r, v.text = c :: r ∧ isSpace c = false ∧
    (v ≠ .null → v.isObject = false → c ≠ 'n' ∧ c ≠ '\x7b') := by
  cases v with
  | null => exact ⟨'n', _, rfl, by decide, fun h => absurd rfl h⟩
  | boolean b =>
    cases b
    · exact ⟨'f', _, rfl, by decide, fun _ _ => by decide⟩
    · exact ⟨'t', _, rfl, by decide, fun _ _ => by decide⟩
  | number n =>
    by_cases hn : n.negative = true
    · exact ⟨'-', _, by simp only [text, Number.text, hn, if_true]; rfl, by decide,
        fun _ _ => by decide⟩
    · obtain ⟨c, r, hw⟩ := exists_cons_of_ne_nil n.whole.1.2.1
      have hdigit : c.isDigit = true :=
        all_eq_true.mp n.whole.1.2.2 c (by rw [hw]; exact mem_cons_self)
      refine ⟨c, _, by simp only [text, Number.text, hn, hw]; rfl, isSpace_of_isDigit hdigit,
        fun _ _ => ⟨?_, ?_⟩⟩
      all_goals
        rintro rfl
        revert hdigit
        decide
  | string s => exact ⟨'"', _, rfl, by decide, fun _ _ => by decide⟩
  | emptyArray | array => exact ⟨'[', _, rfl, by decide, fun _ _ => by decide⟩
  | emptyObject | object => exact ⟨'\x7b', _, rfl, by decide, fun _ h => by cases h⟩

/-! ### Reading the members in turn -/

/-- The result is what `read` gives at the value of the first member with the name, or `absent` if
there is none. -/
def Finds {α : Type} (name : Text) (read : Text → α) (absent : α)
    (members : List (List Piece × Syn .value)) (result : α) : Prop :=
  ((members.find? fun m => decode m.1 = name) = none → result = absent) ∧
    ∀ m, (members.find? fun m => decode m.1 = name) = some m → ∃ r, result = read (m.2.text ++ r)

/-- A property of texts at a depth that brackets and braces raise. -/
structure Scanned (C : ℕ → Text → Prop) : Prop where
  append : ∀ {n t u}, C n t → C n u → C n (t ++ u)
  plain : ∀ {n t}, (∀ c ∈ t, isStructural c = false) → C n t
  string : ∀ {n} s, C n (stringText s)
  colon : ∀ {n}, C n [':']
  comma : ∀ {n}, 0 < n → C n [',']
  array : ∀ {n t}, C (n + 1) t → C n ('[' :: (t ++ [']']))
  object : ∀ {n t}, C (n + 1) t → C n ('\x7b' :: (t ++ ['\x7d']))

/-- The text of a value has it at any depth, that of its items and members inside it. -/
lemma Scanned.tree {C : ℕ → Text → Prop} (h : Scanned C) {k : Kind} (s : Syn k) {n : ℕ}
    (hn : k = .value ∨ 0 < n) : C n s.text := by
  induction s generalizing n with
  | null => exact h.plain (forall_mem_of_all (by decide))
  | boolean b => cases b <;> exact h.plain (forall_mem_of_all (by decide))
  | number m => exact h.plain m.plain
  | string s => exact h.string s
  | emptyArray w => exact h.array (h.plain w.plain)
  | array items ih => exact h.array (ih (.inr n.succ_pos))
  | emptyObject w => exact h.object (h.plain w.plain)
  | object members ih => exact h.object (ih (.inr n.succ_pos))
  | lastItem w v w' ih =>
    exact h.append (h.plain w.plain) (h.append (ih (.inl rfl)) (h.plain w'.plain))
  | item w v w' rest ih ihrest =>
    exact h.append (h.plain w.plain) (h.append (ih (.inl rfl)) (h.append (h.plain w'.plain)
      (h.append (h.comma (hn.resolve_left fun e => by cases e)) (ihrest hn))))
  | lastMember w key w₁ w₂ v w₃ ih =>
    exact h.append (h.plain w.plain) (h.append (h.string key) (h.append (h.plain w₁.plain)
      (h.append h.colon (h.append (h.plain w₂.plain) (h.append (ih (.inl rfl))
        (h.plain w₃.plain))))))
  | member w key w₁ w₂ v w₃ rest ih ihrest =>
    exact h.append (h.plain w.plain) (h.append (h.string key) (h.append (h.plain w₁.plain)
      (h.append h.colon (h.append (h.plain w₂.plain) (h.append (ih (.inl rfl))
        (h.append (h.plain w₃.plain) (h.append (h.comma (hn.resolve_left fun e => by cases e))
          (ihrest hn))))))))

lemma stringText_append (r : Text) :
    stringText s ++ r = '"' :: (piecesText s ++ '"' :: r) := by simp [stringText]

lemma piecesText_cons (p : Piece) (s : List Piece) :
    piecesText (p :: s) = p.text ++ piecesText s := rfl

section Finds
variable {α : Type} {name : Text} {read : Text → α} {absent result : α} {key : List Piece}
  {v : Syn .value} {members : List (List Piece × Syn .value)}

lemma finds_nil : Finds name read absent [] absent := ⟨fun _ => rfl, fun m hm => by cases hm⟩

lemma Finds.here (h : decode key = name) (r : Text) :
    Finds name read absent ((key, v) :: members) (read (v.text ++ r)) := by
  have hfind : ((key, v) :: members).find? (fun m => decode m.1 = name) = some (key, v) := by
    simp [h]
  refine ⟨fun hnone => ?_, fun m hm => ⟨r, ?_⟩⟩
  · rw [hfind] at hnone
    cases hnone
  · rw [hfind] at hm
    cases hm
    rfl

lemma Finds.later (h : decode key ≠ name) (hr : Finds name read absent members result) :
    Finds name read absent ((key, v) :: members) result := by
  have hfind : ((key, v) :: members).find? (fun m => decode m.1 = name) =
      members.find? fun m => decode m.1 = name := by
    simp [h]
  unfold Finds
  rw [hfind]
  exact hr

lemma Finds.missing {value : Syn .value} (h : Finds name read absent value.memberList result)
    (hv : value.find name = none) : result = absent := h.1 (Option.map_eq_none_iff.mp hv)

lemma Finds.value {value v : Syn .value} (h : Finds name read absent value.memberList result)
    (hv : value.find name = some v) : ∃ r, result = read (v.text ++ r) := by
  obtain ⟨m, hm, rfl⟩ := Option.map_eq_some_iff.mp hv
  exact h.2 m hm

end Finds

end NetaAgent.JsonText
