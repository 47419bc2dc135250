import NetaAgent.Crypto
import NetaAgent.FileProgram
import NetaAgent.Search

/-!
The texts of the NAP sequence state: the legacy decimal file and the checksummed record of
a redundant slot.

A record is a header, the sequence in decimal, and the SHA-256 of everything before the
checksum. The parser recomputes the whole record from the sequence it read and compares, so
it accepts exactly the texts the writer produces.
-/

namespace NetaAgent.NapRecord

open Decimal Search Crypto List

/-- The files of the sequence state in the state directory. -/
inductive SequencePath where
  | sequence
  | temporary
  | slot0
  | slot1
  | recovery
  deriving DecidableEq

/-- The text of an exception; where the source ends it with a path, the path is `path`. -/
structure SequenceError where
  message : Text
  path : Option SequencePath
  deriving DecidableEq

def SequenceError.atPath (message : String) (path : SequencePath) : SequenceError :=
  ⟨message.toList, some path⟩

def SequenceError.plain (message : String) : SequenceError := ⟨message.toList, none⟩

abbrev Disk := FileProgram.Files SequencePath Text
abbrev SeqM := FileProgram.Prog SequencePath Text SequenceError

/-- `kMaxLegacySequenceBytes`. -/
def maxLegacySequenceBytes : ℕ := 64
/-- `kMaxSequenceRecordBytes`. -/
def maxSequenceRecordBytes : ℕ := 256
/-- `kRecordHeader`. -/
def recordHeader : Text := "NETA-NAP-SEQUENCE/1\nsequence="
/-- `kChecksumPrefix`. -/
def checksumPrefix : Text := "\nchecksum=sha256:"

/-- `text.back() == c` and `text.pop_back()`. -/
def popBack (c : Char) (text : Text) : Text :=
  if text.getLast? = some c then text.dropLast else text

def parseDecimal (text : Text) (path : SequencePath) : Except SequenceError ℕ :=
  let text := popBack '\r' (popBack '\n' text)
  if text = [] then .error (.atPath "NAP sequence state is malformed: empty value at " path)
  else if maxLegacySequenceBytes < text.length then
    .error (.atPath "NAP sequence state is malformed: value too large at " path)
  else if ¬ text.all Char.isDigit then
    .error (.atPath "NAP sequence state is malformed: non-decimal data at " path)
  else
    match fromChars text with
    | some (value, []) => .ok value
    | _ => .error (.atPath "NAP sequence state is malformed: invalid integer at " path)

variable (sha : Sha256)

def makeRecord (sequence : ℕ) : Text :=
  let body := recordHeader ++ decimal sequence ++ ['\n']
  body ++ "checksum=sha256:" ++ sha256Hex sha body ++ ['\n']

def parseRecord (text : Text) (path : SequencePath) : Except SequenceError ℕ :=
  if text = [] ∨ maxSequenceRecordBytes < text.length then
    .error (.atPath "NAP sequence record is malformed at " path)
  else if '\x00' ∈ text ∨ ¬ recordHeader <+: text then
    .error (.atPath "NAP sequence record has invalid header at " path)
  else
    let rest := text.drop recordHeader.length
    match find checksumPrefix rest with
    | none | some 0 => .error (.atPath "NAP sequence record has invalid structure at " path)
    | some (n + 1) =>
      match parseDecimal (rest.take (n + 1)) path with
      | .error e => .error e
      | .ok sequence =>
        if text = makeRecord sha sequence then .ok sequence
        else .error (.atPath "NAP sequence record checksum or format mismatch at " path)

/-! ### Decimal texts -/

variable {n u v : ℕ}

lemma getLast?_decimal_isDigit {c : Char} (h : (decimal n).getLast? = some c) :
    c.isDigit := isDigit_of_mem_decimal (mem_of_getLast? h)

lemma popBack_decimal {c : Char} (hc : c.isDigit = false) : popBack c (decimal n) = decimal n := by
  unfold popBack
  split
  · next h => rw [getLast?_decimal_isDigit h] at hc; cases hc
  · rfl

lemma popBack_append (c : Char) (t : Text) : popBack c (t ++ [c]) = t := by
  simp [popBack]

variable {t : Text}

lemma parseDecimal_digits (h : n < twoPow64) (path : SequencePath)
    (ht : popBack '\r' (popBack '\n' t) = decimal n) : parseDecimal t path = .ok n := by
  have hall : (decimal n).all Char.isDigit := by
    rw [all_eq_true]; exact fun c hc => isDigit_of_mem_decimal hc
  have hlen := decimal_length_le h
  simp only [parseDecimal, ht, fromChars_decimal h]
  rw [if_neg (decimal_ne_nil n), if_neg (by unfold maxLegacySequenceBytes; omega),
    if_neg (by simp [hall])]

lemma parseDecimal_decimal (h : n < twoPow64) (path : SequencePath) :
    parseDecimal (decimal n) path = .ok n :=
  parseDecimal_digits h path (by rw [popBack_decimal (by decide), popBack_decimal (by decide)])

def decimalLine (n : ℕ) : Text := decimal n ++ ['\n']

lemma parseDecimal_decimalLine (h : n < twoPow64) (path : SequencePath) :
    parseDecimal (decimalLine n) path = .ok n := parseDecimal_digits h path (by
    rw [decimalLine, popBack_append, popBack_decimal (by decide)])

lemma decimalLine_length_le (h : n < twoPow64) : (decimalLine n).length ≤ 21 := by
  have := decimal_length_le h
  simp only [decimalLine, length_append, length_singleton]
  omega

lemma parseDecimal_lt {path : SequencePath} (h : parseDecimal t path = .ok n) : n < twoPow64 := by
  simp only [parseDecimal] at h
  split_ifs at h
  split at h
  · next hv => cases h; exact fromChars_lt hv
  · cases h

/-! ### Records -/

lemma makeRecord_eq (v : ℕ) : makeRecord sha v = recordHeader ++ (decimal v ++ (checksumPrefix ++
      (sha256Hex sha (recordHeader ++ decimal v ++ ['\n']) ++ ['\n']))) := by
  have hc : checksumPrefix = ['\n'] ++ "checksum=sha256:" := by decide
  rw [hc]
  simp only [makeRecord, append_assoc]

lemma makeRecord_length (h : v < twoPow64) : (makeRecord sha v).length ≤ 256 := by
  have hd := decimal_length_le h
  have hh : recordHeader.length = 29 := by decide
  have hc : checksumPrefix.length = 17 := by decide
  have hs := length_finalizeHex (sha (recordHeader ++ decimal v ++ ['\n']))
  rw [makeRecord_eq]
  simp only [length_append, length_singleton, sha256Hex, hh, hc, hs]
  omega

lemma nul_not_mem_makeRecord (v : ℕ) : '\x00' ∉ makeRecord sha v := by
  have hh : '\x00' ∉ recordHeader := by decide
  have hc : '\x00' ∉ checksumPrefix := by decide
  have hd : '\x00' ∉ decimal v := fun h => by
    have := isDigit_of_mem_decimal h
    simp [Char.isDigit] at this
  have hs : '\x00' ∉ sha256Hex sha (recordHeader ++ decimal v ++ ['\n']) := fun h => by
    obtain ⟨n, hn, he⟩ := hex_of_mem_finalizeHex h
    exact digitChar_ne_nul n hn he.symm
  rw [makeRecord_eq]
  simp only [mem_append, mem_singleton, not_or]
  exact ⟨hh, hd, hc, hs, by decide⟩

/-- **Round trip**: the record of a value is read back as that value. -/
theorem parseRecord_makeRecord (h : v < twoPow64) (path : SequencePath) :
    parseRecord sha (makeRecord sha v) path = .ok v := by
  have hpre : recordHeader <+: makeRecord sha v := by
    rw [makeRecord_eq]; exact prefix_append _ _
  have hne : makeRecord sha v ≠ [] := fun he => by
    rw [he] at hpre
    exact absurd (prefix_nil.mp hpre) (by decide)
  have hdig : '\n' ∉ decimal v := fun hm => by
    have := isDigit_of_mem_decimal hm
    simp [Char.isDigit] at this
  -- the digits end where the checksum prefix is found
  have hdrop : (makeRecord sha v).drop recordHeader.length = decimal v ++ (checksumPrefix ++
        (sha256Hex sha (recordHeader ++ decimal v ++ ['\n']) ++ ['\n'])) := by
    rw [makeRecord_eq, drop_left]
  have hfind : find checksumPrefix ((makeRecord sha v).drop recordHeader.length) =
      some (decimal v).length := by
    rw [hdrop]; exact find_append hdig _
  obtain ⟨n, hn⟩ : ∃ n, (decimal v).length = n + 1 :=
    Nat.exists_eq_succ_of_ne_zero (by simpa using decimal_ne_nil v)
  have htake : ((makeRecord sha v).drop recordHeader.length).take (n + 1) = decimal v := by
    rw [hdrop, ← hn, take_left]
  have hlen := makeRecord_length sha h
  unfold parseRecord
  rw [if_neg (by unfold maxSequenceRecordBytes; simp only [hne, false_or]; omega),
    if_neg (by simp [nul_not_mem_makeRecord sha v, hpre])]
  simp only [hfind, hn, htake, parseDecimal_decimal h, if_true]

theorem parseRecord_eq_ok {path : SequencePath}
    (h : parseRecord sha t path = .ok v) : t = makeRecord sha v ∧ v < twoPow64 := by
  simp only [parseRecord] at h
  split_ifs at h
  split at h
  · cases h
  · cases h
  · split at h
    · cases h
    · next hp =>
      split at h
      · next ht => cases h; exact ⟨ht, parseDecimal_lt hp⟩
      · cases h

lemma makeRecord_prefix (h : makeRecord sha u <+: makeRecord sha v) : u = v := by
  obtain ⟨s, hs⟩ := h
  rw [makeRecord_eq, makeRecord_eq] at hs
  simp only [append_assoc] at hs
  have hs' := append_cancel_left hs
  exact (decimal_append_inj (c := '\n') (d := '\n') (by decide) (by decide) hs').1

theorem parseRecord_torn (hpre : t <+: makeRecord sha v)
    (hne : t ≠ makeRecord sha v) (path : SequencePath) :
    ∃ e, parseRecord sha t path = .error e := by
  rcases hp : parseRecord sha t path with e | u
  · exact ⟨e, rfl⟩
  · obtain ⟨ht, -⟩ := parseRecord_eq_ok sha hp
    have huv : u = v := makeRecord_prefix sha (ht ▸ hpre)
    exact absurd (by rw [ht, huv]) hne

/-- **A value has one record.** The record of a value is read back as that value, and no other text
is read as it: none of two texts, and no proper prefix of a record. -/
theorem record_canonical (path : SequencePath) :
    (∀ v < twoPow64, parseRecord sha (makeRecord sha v) path = .ok v) ∧
      (∀ t v, parseRecord sha t path = .ok v → v < twoPow64 ∧ t = makeRecord sha v) ∧
      (∀ t t' v, parseRecord sha t path = .ok v → parseRecord sha t' path = .ok v → t = t') ∧
      ∀ t v, t <+: makeRecord sha v → t ≠ makeRecord sha v →
        ∃ e, parseRecord sha t path = .error e := by
  refine ⟨fun v hv => parseRecord_makeRecord sha hv path, fun t v h => ?_, fun t t' v h h' => ?_,
    fun t v hpre hne => parseRecord_torn sha hpre hne path⟩
  · exact (parseRecord_eq_ok sha h).symm
  · rw [(parseRecord_eq_ok sha h).1, (parseRecord_eq_ok sha h').1]

/-! ### Allocations so far -/

/-- The state directory and the values returned to callers so far, in order. -/
structure World where
  disk : Disk
  returned : List ℕ

namespace World

/-- A call that ended with `r`. -/
def completed (w : World) (r : Except SequenceError ℕ × Disk) : World :=
  match r with
  | (.ok v, f) => ⟨f, w.returned ++ [v]⟩
  | (.error _, f) => ⟨f, w.returned⟩

/-- The values returned are increasing and not above `m`. -/
def UpTo (w : World) (m : ℕ) : Prop := w.returned.Pairwise (· < ·) ∧ ∀ u ∈ w.returned, u ≤ m

lemma upTo_start (f : Disk) : (⟨f, []⟩ : World).UpTo 0 := by simp [UpTo]

lemma UpTo.completed {w : World} {m v : ℕ} (h : w.UpTo m) (hv : m < v) (f : Disk) :
    (w.completed (.ok v, f)).UpTo v := by
  have hlt : ∀ u ∈ w.returned, u < v := fun u hu => (h.2 u hu).trans_lt hv
  refine ⟨pairwise_append.mpr ⟨h.1, pairwise_singleton _ _, ?_⟩, ?_⟩
  · simpa using hlt
  · simpa [World.completed, or_imp, forall_and] using fun u hu => (hlt u hu).le

end World

end NetaAgent.NapRecord
