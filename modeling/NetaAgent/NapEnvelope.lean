import NetaAgent.Crypto

/-!
The envelope of a reliable NAP message as the dispatcher builds it: message identifiers,
times, JSON escaping, and the text itself.

A text that is stored in the outbox ends at its first NUL. Everything in an envelope that
does not come from the outbox is escaped or made of digits, so an envelope built over texts
without NUL has none.
-/

namespace NetaAgent.NapEnvelope

open Decimal Crypto List

/-! ### Message identifiers -/

variable (bytes : Fin 16 → UInt8)

/-- The random bytes with the version and the variant of the identifier set. -/
def uuidBytes : List UInt8 :=
  ((List.ofFn bytes).set 6 ((bytes 6 &&& 0x0f) ||| 0x40)).set 8 ((bytes 8 &&& 0x3f) ||| 0x80)

/-- `random_uuid`, from the random bytes. -/
def randomUuid : Text :=
  let group (first count : ℕ) := (((uuidBytes bytes).drop first).take count).flatMap hexByte
  group 0 4 ++ ['-'] ++ group 4 2 ++ ['-'] ++ group 6 2 ++ ['-'] ++ group 8 2 ++ ['-'] ++
    group 10 6

/-! ### Times -/

/-- A number in at least `width` digits. -/
def padded (width n : ℕ) : Text := List.replicate (width - (decimal n).length) '0' ++ decimal n

/-- Year, month and day in the Gregorian calendar of a day counted from 1970-01-01. -/
def civilDate (day : ℕ) : ℕ × ℕ × ℕ :=
  -- days since 0000-03-01, in eras of 400 years that start in March
  let z := day + 719468
  let era := z / 146097
  let dayOfEra := z % 146097
  let yearOfEra := (dayOfEra - dayOfEra / 1460 + dayOfEra / 36524 - dayOfEra / 146096) / 365
  let dayOfYear := dayOfEra - (365 * yearOfEra + yearOfEra / 4 - yearOfEra / 100)
  let mp := (5 * dayOfYear + 2) / 153
  let month := if mp < 10 then mp + 3 else mp - 9
  (yearOfEra + era * 400 + if month ≤ 2 then 1 else 0, month,
    dayOfYear - (153 * mp + 2) / 5 + 1)

/-- `iso8601` of nanoseconds since the epoch. -/
def iso8601 (nanoseconds : ℕ) : Text :=
  let milliseconds := nanoseconds / 1000000
  let seconds := milliseconds / 1000
  let (year, month, day) := civilDate (seconds / 86400)
  decimal year ++ ['-'] ++ padded 2 month ++ ['-'] ++ padded 2 day ++ ['T'] ++
    padded 2 (seconds / 3600 % 24) ++ [':'] ++ padded 2 (seconds / 60 % 60) ++ [':'] ++
    padded 2 (seconds % 60) ++ ['.'] ++ padded 3 (milliseconds % 1000) ++ ['Z']

example : iso8601 1709210096789000000 = "2024-02-29T12:34:56.789Z" := by decide

/-! ### JSON -/

def escapeChar (c : Char) : Text :=
  if c = '\\' then "\\\\"
  else if c = '"' then "\\\""
  else if c = '\n' then "\\n"
  else if c = '\r' then "\\r"
  else if c = '\t' then "\\t"
  else if c.toNat < 0x20 then
    "\\u00" ++ [Nat.digitChar (c.toNat / 16), Nat.digitChar (c.toNat % 16)]
  else [c]

def jsonEscape (value : Text) : Text := value.flatMap escapeChar

/-! ### The envelope -/

/-- What `prepare_attempt` puts into an envelope. -/
structure Envelope where
  messageId : Text
  messageType : Text
  agentId : Text
  createdAtNs : ℕ
  expiresAtNs : ℕ
  sequence : ℕ
  idempotencyKey : Text
  payloadHash : Text
  payload : Text
  keyId : Text

/-- The parts of the text, fixed and variable ones in turn. -/
def Envelope.pieces (e : Envelope) : List Text :=
  ["\x7b\"protocol\":\"neta-agent/1\",\"schema_version\":1,\"message_id\":\"", e.messageId,
    "\",\"message_type\":\"", jsonEscape e.messageType,
    "\",\"agent_id\":\"", jsonEscape e.agentId,
    "\",\"created_at\":\"", iso8601 e.createdAtNs,
    "\",\"expires_at\":\"", iso8601 e.expiresAtNs,
    "\",\"sequence\":", decimal e.sequence,
    ",\"correlation_id\":null,\"idempotency_key\":\"", jsonEscape e.idempotencyKey,
    "\",\"payload_hash\":\"", e.payloadHash,
    "\",\"payload\":", e.payload,
    ",\"signature\":\x7b\"algorithm\":\"UNSIGNED-NAP1-DRAFT\",\"key_id\":\"",
    jsonEscape e.keyId, "\",\"value\":\"transport-mtls-only\"\x7d\x7d"]

def Envelope.render (e : Envelope) : Text := e.pieces.flatten

/-! ### No NUL -/

def NulFree (t : Text) : Prop := '\x00' ∉ t

lemma nulFree_append {s t : Text} : NulFree (s ++ t) ↔ NulFree s ∧ NulFree t := by
  simp [NulFree, not_or]

lemma nulFree_decimal (n : ℕ) : NulFree (decimal n) := fun h => by
  have := isDigit_of_mem_decimal h
  simp [Char.isDigit] at this

lemma nulFree_padded (w n : ℕ) : NulFree (padded w n) := by
  refine nulFree_append.mpr ⟨fun h => ?_, nulFree_decimal n⟩
  have := eq_of_mem_replicate h
  revert this
  decide

lemma nulFree_hexByte (b : UInt8) : NulFree (hexByte b) := fun h => by
  have hlt := b.toNat_lt
  simp only [hexByte, mem_cons, not_mem_nil, or_false] at h
  rcases h with h | h
  · exact digitChar_ne_nul _ (by omega) h.symm
  · exact digitChar_ne_nul _ (Nat.mod_lt _ (by omega)) h.symm

lemma nulFree_randomUuid : NulFree (randomUuid bytes) := by
  have hdash : NulFree ['-'] := by unfold NulFree; decide
  have hgroup : ∀ l : List UInt8, NulFree (l.flatMap hexByte) := fun l h => by
    obtain ⟨b, -, hb⟩ := mem_flatMap.mp h
    exact nulFree_hexByte b hb
  simp only [randomUuid, nulFree_append, hgroup, hdash, and_self]

lemma nulFree_iso8601 (ns : ℕ) : NulFree (iso8601 ns) := by
  have h : ∀ c : Char, c ≠ '\x00' → NulFree [c] := fun c hc h => hc (mem_singleton.mp h).symm
  simp only [iso8601, nulFree_append, nulFree_decimal, nulFree_padded, h _ (by decide : '-' ≠ '\x00'),
    h _ (by decide : 'T' ≠ '\x00'), h _ (by decide : ':' ≠ '\x00'), h _ (by decide : '.' ≠ '\x00'),
    h _ (by decide : 'Z' ≠ '\x00'), and_self]

lemma nulFree_escapeChar (c : Char) : NulFree (escapeChar c) := by
  unfold escapeChar NulFree
  split_ifs with h1 h2 h3 h4 h5 h6
  · decide
  · decide
  · decide
  · decide
  · decide
  · intro h
    rcases mem_append.mp h with h | h
    · exact absurd h (by decide)
    · simp only [mem_cons, not_mem_nil, or_false] at h
      rcases h with h | h
      · exact digitChar_ne_nul _ (by omega) h.symm
      · exact digitChar_ne_nul _ (Nat.mod_lt _ (by omega)) h.symm
  · intro h
    rw [mem_singleton] at h
    subst h
    exact h6 (by decide)

lemma nulFree_jsonEscape (t : Text) : NulFree (jsonEscape t) := fun h => by
  obtain ⟨c, -, hc⟩ := mem_flatMap.mp h
  exact nulFree_escapeChar c hc

lemma nulFree_render {e : Envelope} (hid : NulFree e.messageId) (hhash : NulFree e.payloadHash)
    (hpayload : NulFree e.payload) : NulFree e.render := by
  have hfixed : ∀ s : String, s.toList.all (· ≠ '\x00') → NulFree s.toList := fun s hs h => by
    simpa using all_eq_true.mp hs _ h
  have hpieces : ∀ t ∈ e.pieces, NulFree t := by
    simp only [Envelope.pieces, forall_mem_cons, hid, hhash, hpayload, nulFree_jsonEscape,
      nulFree_iso8601, nulFree_decimal, true_and]
    refine ⟨?_, ?_, ?_, ?_, ?_, ?_, ?_, ?_, ?_, ?_, ?_, by simp⟩ <;>
      exact hfixed _ (by decide +kernel)
  intro h
  obtain ⟨t, ht, hmem⟩ := mem_flatten.mp h
  exact hpieces t ht hmem

end NetaAgent.NapEnvelope
