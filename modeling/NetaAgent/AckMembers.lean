import NetaAgent.CoordinatorAck
import NetaAgent.JsonPlaces

/-!
The coordinator's acknowledgement as a JSON object.

The reader does not parse it: it takes the text after the first place of each quoted key. Where that
place is the key of the object's own member, what is read is what the member stands for.
-/

namespace NetaAgent.Acknowledgement

open Decimal Search JsonText List

variable {d : Document} {key : Text}

lemma valueStart_member (hkey : Word key) (h : d.KeyFirst key) :
    ∃ v r, d.value.find key = some v ∧ Bounded r ∧ valueStart d.text key = .ok (v.text ++ r) := by
  obtain ⟨p, v, w₁, w₂, r, hr, hv, hfind, hrest⟩ := h.value hkey
  refine ⟨v, r, hv, hr, ?_⟩
  have hneedle : ['"'] ++ key ++ ['"'] = quoted key := rfl
  have hcolon : find [':'] (w₁.1 ++ ':' :: (w₂.1 ++ (v.text ++ r))) = some w₁.1.length :=
    find_append (fun hc => by cases w₁.plain _ hc) _
  obtain ⟨c, u, htext, hc, -⟩ := v.head_text
  have hspace : (w₂.1 ++ (v.text ++ r)).dropWhile isSpace = v.text ++ r := by
    rw [htext, cons_append]
    exact w₂.dropWhile hc _
  have hdrop : (w₁.1 ++ ':' :: (w₂.1 ++ (v.text ++ r))).drop (w₁.1.length + 1) =
      w₂.1 ++ (v.text ++ r) := by
    rw [← drop_drop, drop_left]
    rfl
  unfold valueStart
  simp only [hneedle, hfind, hrest, hcolon, hdrop, hspace]

/-! ### Strings -/

lemma stringBody_plain {c : Char} (hq : c ≠ '"') (hb : c ≠ '\\') (r : Text) :
    stringBody (c :: r) = (stringBody r).map (c :: ·) := by
  cases r <;> simp [stringBody, hb]

variable {r u x ds key : Text}

lemma decode_of_stringBody {s : List Piece}
    (h : stringBody (piecesText s ++ '"' :: r) = .ok x) : decode s = x := by
  induction s generalizing x with
  | nil =>
    cases h
    rfl
  | cons p s ih =>
    cases p with
    | plain c =>
      change stringBody (c.1 :: (piecesText s ++ '"' :: r)) = .ok x at h
      rw [stringBody_plain c.2.2.1 c.2.2.2] at h
      obtain ⟨y, hy, rfl⟩ := map_eq_ok h
      rw [decode_plain, ih hy]
    | escape e =>
      change stringBody ('\\' :: e.letter :: (piecesText s ++ '"' :: r)) = .ok x at h
      rw [stringBody] at h
      split at h
      next hletter =>
        obtain ⟨y, hy, rfl⟩ := map_eq_ok h
        have hmeaning : e.meaning = e.letter := by
          cases e with
          | quote | backslash | slash => rfl
          | _ => revert hletter; decide
        rw [decode_escape, ih hy, hmeaning]
      · cases h
    | unicode a b c d =>
      change stringBody ('\\' :: 'u' :: _) = .ok x at h
      rw [stringBody, if_neg (by decide)] at h
      cases h

/-- The object's own member is a string with this meaning. -/
def StringMember (d : Document) (key value : Text) : Prop :=
  ∃ s, d.value.find key = some (.string s) ∧ decode s = value

lemma eq_string_of_quote {v : Syn .value} (h : v.text ++ r = '"' :: u) : ∃ s, v = .string s := by
  cases v with
  | string s => exact ⟨s, rfl⟩
  | boolean b => cases b <;> cases h
  | number n =>
    have hquote : '"' ∉ n.text := fun hc => by cases n.plain _ hc
    obtain ⟨c, w, htext, -⟩ := (Syn.number n).head_text
    rw [htext] at h
    cases h
    refine absurd ?_ hquote
    rw [show n.text = '"' :: w from htext]
    exact mem_cons_self
  | _ => cases h

lemma stringValue_member (hkey : Word key) (hplace : d.KeyFirst key)
    (h : stringValue d.text key = .ok x) : StringMember d key x := by
  obtain ⟨v, r, hv, -, hstart⟩ := valueStart_member hkey hplace
  unfold stringValue at h
  rw [hstart] at h
  simp only [bind, Except.bind] at h
  split at h
  next u hu =>
    obtain ⟨s, rfl⟩ := eq_string_of_quote hu
    have hbody : piecesText s ++ '"' :: r = u := by
      simpa [Syn.text, stringText] using hu
    exact ⟨s, hv, decode_of_stringBody (hbody ▸ h)⟩
  · cases h

/-! ### Numbers -/

/-- The object's own member is a number of this value. -/
def NumberMember (d : Document) (key : Text) (n : ℕ) : Prop :=
  ∃ x : Number, d.value.find key = some (.number x) ∧ x.value = n

lemma eq_number_of_digit {v : Syn .value} (h : (v.text ++ r).takeWhile Char.isDigit ≠ []) :
    ∃ n : Number, v = .number n ∧ n.negative = false := by
  cases v with
  | number n =>
    refine ⟨n, rfl, ?_⟩
    by_contra hn
    have hminus : n.negative = true := by simpa using hn
    exact h (by simp [Syn.text, Number.text, hminus, Char.isDigit])
  | boolean b => cases b <;> exact absurd rfl h
  | _ => exact absurd rfl h

lemma isDigit_of_bounded (hr : Bounded r) : r.takeWhile Char.isDigit = [] := by
  cases r with
  | nil => rfl
  | cons c r =>
    have hc : c.isDigit = false := by
      by_contra hd
      rcases hr c rfl with h | h
      · rw [isStructural_of_isDigit (by simpa using hd)] at h
        cases h
      · have hspace := isSpace_of_isBlank h
        rw [isSpace_of_isDigit (by simpa using hd)] at hspace
        cases hspace
    simp [hc]

lemma stoull_digits {n : ℕ} (hds : ∀ c ∈ ds, c.isDigit = true) (h : stoull ds = .ok n) :
    n = value ds := by
  have hdrop : ds.dropWhile isSpace = ds := by
    cases ds with
    | nil => rfl
    | cons c ds => simp [isSpace_of_isDigit (hds c mem_cons_self)]
  have hsign : takeSign ds = (false, ds) := by
    cases ds with
    | nil => rfl
    | cons c ds => exact takeSign_of_isDigit (hds c mem_cons_self) ds
  have htake : ds.takeWhile Char.isDigit = ds := takeWhile_eq_self_iff.mpr hds
  unfold stoull at h
  rw [hdrop, hsign] at h
  simp only [htake, Bool.false_eq_true, if_false] at h
  split_ifs at h
  cases h
  rfl

lemma takeWhile_number {n : Number} (hn : n.negative = false) (hr : Bounded r) :
    (n.text ++ r).takeWhile Char.isDigit = n.whole.1.1 := by
  have hwhole : ∀ c ∈ n.whole.1.1, c.isDigit = true := all_eq_true.mp n.whole.1.2.2
  have hrest : (((n.fraction.elim [] fun f => '.' :: f.1) ++ n.exponent.elim [] Exponent.text) ++
      r).takeWhile Char.isDigit = [] := by
    cases n.fraction with
    | some f => rfl
    | none =>
      cases n.exponent with
      | some e => cases hupper : e.upper <;> simp [Exponent.text, hupper, Char.isDigit]
      | none => exact isDigit_of_bounded hr
  simp only [Number.text, hn, Bool.false_eq_true, if_false, nil_append, append_assoc] at hrest ⊢
  rw [takeWhile_append_of_pos hwhole, hrest, append_nil]

lemma unsignedValue_member (hkey : Word key) (hplace : d.KeyFirst key) {m : ℕ}
    (h : unsignedValue d.text key = .ok m) :
    ∃ n : Number, d.value.find key = some (.number n) ∧ n.negative = false ∧
      value n.whole.1.1 = m := by
  obtain ⟨v, r, hv, hr, hstart⟩ := valueStart_member hkey hplace
  unfold unsignedValue at h
  rw [hstart] at h
  simp only [bind, Except.bind] at h
  split at h
  · cases h
  next hdigits =>
    obtain ⟨n, rfl, hn⟩ := eq_number_of_digit hdigits
    rw [Syn.text, takeWhile_number hn hr] at h
    cases hs : stoull n.whole.1.1 with
    | error e =>
      rw [hs] at h
      cases h
    | ok x =>
      rw [hs] at h
      cases h
      exact ⟨n, hv, hn, (stoull_digits (all_eq_true.mp n.whole.1.2.2) hs).symm⟩

/-! ### The acknowledgement -/

/-- The object's own members are those of an acknowledgement of the attempt. -/
structure Acknowledges (d : Document) (expected : Expected) : Prop where
  protocol : StringMember d "protocol".toList "neta-agent/1".toList
  schemaVersion : NumberMember d "schemaVersion".toList 1
  messageType : StringMember d "messageType".toList "Ack".toList
  ackVersion : NumberMember d "ackVersion".toList 1
  messageId : StringMember d "messageId".toList expected.messageId
  sequence : NumberMember d "sequence".toList expected.sequence
  idempotencyKey : StringMember d "idempotencyKey".toList expected.idempotencyKey
  payloadHash : StringMember d "payloadHash".toList expected.payloadHash
  status : StringMember d "status".toList "ACCEPTED".toList ∨
    StringMember d "status".toList "ALREADY_ACCEPTED".toList

/-- The members that are read as strings, with the values that are accepted. -/
def checkedTexts (expected : Expected) : List (Text × List Text) :=
  [("protocol", ["neta-agent/1".toList]), ("messageType", ["Ack".toList]),
    ("messageId", [expected.messageId]), ("idempotencyKey", [expected.idempotencyKey]),
    ("payloadHash", [expected.payloadHash]),
    ("status", ["ACCEPTED".toList, "ALREADY_ACCEPTED".toList])]

/-- The members that are read as numbers, with what is compared and the value that is accepted. -/
def checkedNumbers (expected : Expected) : List (Text × (ℕ → ℤ) × ℕ) :=
  [("schemaVersion", toInt32, 1), ("ackVersion", toInt32, 1),
    ("sequence", Nat.cast, expected.sequence)]

lemma word_checkedTexts {expected : Expected} {p : Text × List Text}
    (h : p ∈ checkedTexts expected) : Word p.1 := by
  have hall : ((checkedTexts expected).map Prod.fst).all isWord = true := by
    simp only [checkedTexts, map_cons, map_nil]
    decide +kernel
  exact word_of_isWord (all_eq_true.mp hall _ (mem_map_of_mem h))

lemma word_checkedNumbers {expected : Expected} {p : Text × (ℕ → ℤ) × ℕ}
    (h : p ∈ checkedNumbers expected) : Word p.1 := by
  have hall : ((checkedNumbers expected).map Prod.fst).all isWord = true := by
    simp only [checkedNumbers, map_cons, map_nil]
    decide +kernel
  exact word_of_isWord (all_eq_true.mp hall _ (mem_map_of_mem h))

/-- What the checks have seen of an accepted text. -/
lemma reads_of_accepted {t : Text} {expected : Expected}
    (h : (do validateCoordinatorAck (← parseCoordinatorAck t) expected) = .ok ()) :
    (∀ p ∈ checkedTexts expected, ∃ x ∈ p.2, stringValue t p.1 = .ok x) ∧
      ∀ p ∈ checkedNumbers expected, ∃ m, unsignedValue t p.1 = .ok m ∧ p.2.1 m = p.2.2 := by
  obtain ⟨ack, hparse, hvalidate⟩ := bind_eq_ok h
  obtain ⟨hprotocol, hschema, htype, hversion, hid, hsequence, hkey, hhash, hstatus, -⟩ :=
    validateCoordinatorAck_ok hvalidate
  unfold parseCoordinatorAck at hparse
  obtain ⟨protocol, h1, hparse⟩ := bind_eq_ok hparse
  obtain ⟨schemaVersion, h2, hparse⟩ := bind_eq_ok hparse
  obtain ⟨messageType, h3, hparse⟩ := bind_eq_ok hparse
  obtain ⟨version, h4, hparse⟩ := bind_eq_ok hparse
  obtain ⟨messageId, h5, hparse⟩ := bind_eq_ok hparse
  obtain ⟨sequence, h6, hparse⟩ := bind_eq_ok hparse
  obtain ⟨idempotencyKey, h7, hparse⟩ := bind_eq_ok hparse
  obtain ⟨payloadHash, h8, hparse⟩ := bind_eq_ok hparse
  obtain ⟨status, h9, hparse⟩ := bind_eq_ok hparse
  obtain ⟨receivedAt, -, hparse⟩ := bind_eq_ok hparse
  cases hparse
  dsimp only at hprotocol hschema htype hversion hid hsequence hkey hhash hstatus
  subst hprotocol htype hid hsequence hkey hhash
  simp only [checkedTexts, checkedNumbers, forall_mem_cons]
  refine ⟨⟨⟨_, by simp, h1⟩, ⟨_, by simp, h3⟩, ⟨_, by simp, h5⟩, ⟨_, by simp, h7⟩, ⟨_, by simp, h8⟩,
    ⟨status, ?_, h9⟩, fun _ hp => absurd hp not_mem_nil⟩, ⟨_, h2, hschema⟩, ⟨_, h4, hversion⟩,
    ⟨_, h6, rfl⟩, fun _ hp => absurd hp not_mem_nil⟩
  rcases hstatus with rfl | rfl <;> simp

/-- A key that stands nowhere in the text. -/
def Lacks (d : Document) (key : Text) : Prop := find (quoted key) d.text = none

lemma Lacks.valueStart (h : Lacks d key) :
    valueStart d.text key = .error ("coordinator ACK lacks ".toList ++ key) := by
  have hneedle : ['"'] ++ key ++ ['"'] = quoted key := rfl
  unfold Acknowledgement.valueStart
  simp only [hneedle, show find (quoted key) d.text = none from h]

lemma Lacks.string (h : Lacks d key) {x : Text} : stringValue d.text key ≠ .ok x := by
  unfold stringValue
  rw [h.valueStart]
  intro hx
  cases hx

lemma Lacks.number (h : Lacks d key) {m : ℕ} : unsignedValue d.text key ≠ .ok m := by
  unfold unsignedValue
  rw [h.valueStart]
  intro hm
  cases hm

/-- One of the checks fails at the right place: the key stands nowhere, or it is first found at the
object's own member, which is not what is accepted. -/
def Refused (d : Document) (expected : Expected) : Prop :=
  (∃ p ∈ checkedTexts expected,
    Lacks d p.1 ∨ d.KeyFirst p.1 ∧ ∀ x ∈ p.2, ¬ StringMember d p.1 x) ∨
  ∃ p ∈ checkedNumbers expected, Lacks d p.1 ∨ d.KeyFirst p.1 ∧ ∀ n : Number,
    d.value.find p.1 = some (.number n) → n.negative = false → p.2.1 (value n.whole.1.1) ≠ p.2.2

/-- Each checked key is first found at the object's own member, and a number whose whole part is read
as the accepted one is the accepted one. -/
structure Straight (d : Document) (expected : Expected) : Prop where
  texts : ∀ p ∈ checkedTexts expected, d.KeyFirst p.1
  numbers : ∀ p ∈ checkedNumbers expected, d.KeyFirst p.1
  whole : ∀ p ∈ checkedNumbers expected, ∀ n : Number, d.value.find p.1 = some (.number n) →
    n.negative = false → p.2.1 (value n.whole.1.1) = p.2.2 → n.value = p.2.2

def sampleExpected : Expected := ⟨['m'], 7, ['k'], ['h']⟩

/-- An acknowledgement of the sample attempt, with one more member in front. -/
def sampleAck (first : Text × Syn .value) (status : Text) : Document :=
  let text (t : Text) : Syn .value := .string (spell t)
  ⟨.none, .objectOf [first, ("protocol".toList, text "neta-agent/1".toList),
    ("schemaVersion".toList, .integer ['1']), ("messageType".toList, text "Ack".toList),
    ("ackVersion".toList, .integer ['1']), ("messageId".toList, text ['m']),
    ("sequence".toList, .integer ['7']), ("idempotencyKey".toList, text ['k']),
    ("payloadHash".toList, text ['h']), ("status".toList, text status),
    ("receivedAt".toList, text ['t'])], .none⟩

def plainAck : Document := sampleAck ("note".toList, .null) "ACCEPTED".toList

end NetaAgent.Acknowledgement
