import NetaAgent.NapRecord
import NetaAgent.Run

/-!
The three allocators that share the file `sequence` on Linux: `next_nap_sequence` of the
outbox dispatcher, the `SequenceSendLease` of the fleet client and `next_sequence` of the
upgrade worker.

The lock serialises them. They differ in how they read the file (strict decimal or
`std::stoull`, a missing or an empty file as an error or as zero), in how they write it (in
place, or a temporary file renamed over it) and in what they do at the last value.
-/

namespace NetaAgent.LinuxSequence

open Decimal NapRecord FileProgram FileProgram.Prog Run

/-- `read_legacy_text` and `parse_decimal`. -/
def napCurrent : Option Text → Except SequenceError ℕ
  | none => .error (.atPath "NAP sequence state is missing: " .sequence)
  | some text =>
    if maxLegacySequenceBytes < text.length then
      .error (.atPath "NAP sequence state is malformed: value too large at " .sequence)
    else parseDecimal text .sequence

variable (w : World) (text : Text)

/-- The exceptions of `std::stoull` carry the name of the function. -/
def stoullOrThrow : Except SequenceError ℕ :=
  match stoull text with
  | .ok v => .ok v
  | .error _ => .error (.plain "stoull")

def leaseCurrent : Option Text → Except SequenceError ℕ
  | none => .ok 0
  | some text => if text = [] then .ok 0 else stoullOrThrow text

def upgradeCurrent : Option Text → Except SequenceError ℕ
  | none => .ok 0
  | some text => stoullOrThrow text

/-- `O_TRUNC` and writing in place. -/
def durableWriteLegacy : SeqM Unit := writeFile .sequence text

/-- `write_file` of the fleet client and `atomic_write` of the upgrade worker. -/
def atomicWrite : SeqM Unit := do
  writeFile .temporary text
  renameFile .temporary .sequence

def nextNapSequence : SeqM ℕ := do
  let current ← lift (napCurrent (← readFile .sequence))
  if current = twoPow64 - 1 then .fail (.atPath "NAP sequence state exhausted at " .sequence)
  else
    let next := current + 1
    durableWriteLegacy (decimalLine next)
    return next

def sequenceSendLease : SeqM ℕ := do
  let current ← lift (leaseCurrent (← readFile .sequence))
  if current = twoPow64 - 1 then .fail (.plain "NAP sequence state is exhausted")
  else
    let sequence := current + 1
    atomicWrite (decimalLine sequence)
    return sequence

/-- `++value` on a `uint64_t` with no check before it. -/
def nextSequence : SeqM ℕ := do
  let value ← lift (upgradeCurrent (← readFile .sequence))
  let value := (value + 1) % twoPow64
  atomicWrite (decimalLine value)
  return value

inductive Allocator where
  | nap
  | lease
  | upgrade
  deriving DecidableEq

namespace Allocator

def body : Allocator → SeqM ℕ
  | nap => nextNapSequence
  | lease => sequenceSendLease
  | upgrade => nextSequence

def current : Allocator → Option Text → Except SequenceError ℕ
  | nap => napCurrent
  | lease => leaseCurrent
  | upgrade => upgradeCurrent

/-- The effects by which the allocator stores a value. -/
def store : Allocator → ℕ → List (Effect SequencePath Text)
  | nap, v => [.write .sequence (decimalLine v)]
  | _, v => [.write .temporary (decimalLine v), .rename .temporary .sequence]

def Wraps (a : Allocator) (f : Disk) : Prop :=
  a = upgrade ∧ a.current (f .sequence) = .ok (twoPow64 - 1)

instance (a : Allocator) (f : Disk) : Decidable (a.Wraps f) :=
  inferInstanceAs (Decidable (_ ∧ _))

end Allocator

variable {f : Disk} {v : ℕ} {c : Option Text}

lemma napCurrent_lt (h : napCurrent c = .ok v) : v < twoPow64 := by
  unfold napCurrent at h
  split at h
  · cases h
  · split at h
    · cases h
    · exact parseDecimal_lt h

lemma stoullOrThrow_lt {t : Text} (h : stoullOrThrow t = .ok v) : v < twoPow64 := by
  unfold stoullOrThrow at h
  split at h
  · next hs => cases h; exact stoull_lt hs
  · cases h

lemma leaseCurrent_lt (h : leaseCurrent c = .ok v) : v < twoPow64 := by
  unfold leaseCurrent at h
  split at h
  · cases h; decide
  · split at h
    · cases h; decide
    · exact stoullOrThrow_lt h

lemma upgradeCurrent_lt (h : upgradeCurrent c = .ok v) : v < twoPow64 := by
  unfold upgradeCurrent at h
  split at h
  · cases h; decide
  · exact stoullOrThrow_lt h

lemma trace_current (read : Option Text → Except SequenceError ℕ) (k : ℕ → SeqM ℕ) :
    (do let current ← lift (read (← readFile .sequence)); k current : SeqM ℕ).trace f =
      match read (f .sequence) with
      | .ok x => (k x).trace f
      | .error e => ([], .error e) := by
  rw [trace_bind (trace_readFile _)]
  simp only [applyAll_nil, List.nil_append]
  rcases hr : read (f .sequence) with e | x <;> rfl

variable (a : Allocator)

/-- What an allocation does: it throws and leaves the files alone, or it stores and returns
one more than what it found, except that `next_sequence` wraps. -/
lemma trace_body (f : Disk) : (∃ e, a.body.trace f = ([], .error e)) ∨
      ∃ v n, a.current (f .sequence) = .ok v ∧ n < twoPow64 ∧ (¬ a.Wraps f → n = v + 1) ∧
        a.body.trace f = (a.store n, .ok n) := by
  cases a with
  | nap =>
    simp only [Allocator.body, nextNapSequence, trace_current, Allocator.current]
    rcases hr : napCurrent (f .sequence) with e | v
    · exact .inl ⟨e, rfl⟩
    · by_cases hmax : v = twoPow64 - 1
      · exact .inl ⟨_, by simp only [hmax, if_true]; rfl⟩
      · have := napCurrent_lt hr
        refine .inr ⟨v, v + 1, rfl, by unfold twoPow64 at *; omega, fun _ => rfl, ?_⟩
        simp only [hmax, if_false]
        rfl
  | lease =>
    simp only [Allocator.body, sequenceSendLease, trace_current, Allocator.current]
    rcases hr : leaseCurrent (f .sequence) with e | v
    · exact .inl ⟨e, rfl⟩
    · by_cases hmax : v = twoPow64 - 1
      · exact .inl ⟨_, by simp only [hmax, if_true]; rfl⟩
      · have := leaseCurrent_lt hr
        refine .inr ⟨v, v + 1, rfl, by unfold twoPow64 at *; omega, fun _ => rfl, ?_⟩
        simp only [hmax, if_false]
        rfl
  | upgrade =>
    simp only [Allocator.body, nextSequence, trace_current, Allocator.current]
    rcases hr : upgradeCurrent (f .sequence) with e | v
    · exact .inl ⟨e, rfl⟩
    · have := upgradeCurrent_lt hr
      refine .inr ⟨v, (v + 1) % twoPow64, rfl, Nat.mod_lt _ (by decide), fun hw => ?_, rfl⟩
      have hne : v ≠ twoPow64 - 1 := fun h => hw ⟨rfl, by rw [← h]; exact hr⟩
      exact Nat.mod_eq_of_lt (by unfold twoPow64 at *; omega)

/-- The text of a value as an allocator leaves it, with or without the end of the line. -/
def Reads (t : Text) (v : ℕ) : Prop := v < twoPow64 ∧ (t = decimal v ∨ t = decimalLine v)

lemma current_of_reads {t : Text} (h : Reads t v) (a : Allocator) : a.current (some t) = .ok v := by
  obtain ⟨hv, ht⟩ := h
  have hlen : ¬ maxLegacySequenceBytes < t.length := by
    have := decimalLine_length_le hv
    have := decimal_length_le hv
    unfold maxLegacySequenceBytes
    rcases ht with rfl | rfl <;> omega
  have hparse : parseDecimal t .sequence = .ok v := by
    rcases ht with rfl | rfl
    · exact parseDecimal_decimal hv _
    · exact parseDecimal_decimalLine hv _
  have hstoull : stoull t = .ok v := by
    rcases ht with rfl | rfl
    · simpa using stoull_decimal hv (List.takeWhile_nil (p := Char.isDigit))
    · exact stoull_decimal hv (by decide)
  have hne : t ≠ [] := by
    rcases ht with rfl | rfl
    · exact decimal_ne_nil v
    · simp [decimalLine]
  cases a with
  | nap => simp [Allocator.current, napCurrent, hlen, hparse]
  | lease => simp [Allocator.current, leaseCurrent, stoullOrThrow, hne, hstoull]
  | upgrade => simp [Allocator.current, upgradeCurrent, stoullOrThrow, hstoull]

/-! ### Runs of allocations with crashes -/

/-- One call of one of the allocators: it completes, or its process crashes at the `n`-th
effect with the file being written left with the torn content, if any. -/
inductive Call where
  | complete (a : Allocator)
  | crash (a : Allocator) (n : ℕ) (torn : Option Text)

def call : Call → World
  | .complete a => w.completed (a.body.exec w.disk)
  | .crash a n torn => { w with disk := a.body.crash n torn w.disk }

/-- A crash inside the in-place write of `next_nap_sequence` leaves all the digits. -/
def KeepsDigits (f : Disk) (n : ℕ) (torn : Option Text) : Prop :=
  a = .nap → n = 0 → ∀ t v, torn = some t → napCurrent (f .sequence) = .ok v →
    t = decimal (v + 1) ∨ t = decimalLine (v + 1)

/-- The steps from which no value is returned a second time. -/
def Sound : Call → Prop
  | .complete a => ¬ a.Wraps w.disk
  | .crash a n torn => ¬ a.Wraps w.disk ∧ KeepsDigits a w.disk n torn

/-- What was returned is increasing, and the file holds a value not below any of it. -/
def Good : Prop :=
  ∃ m, w.UpTo m ∧ (w.returned = [] ∨ ∃ t v, w.disk .sequence = some t ∧ Reads t v ∧ m ≤ v)

lemma applyAll_store (n : ℕ) (f : Disk) :
    applyAll (a.store n) f .sequence = some (decimalLine n) := by
  cases a <;> simp [Allocator.store, Effect.apply]

lemma leave_store (n k : ℕ) (torn : Option Text) (f : Disk)
    (hkeep : a = .nap → k = 0 → ∀ t, torn = some t → t = decimal n ∨ t = decimalLine n) :
    leave (a.store n) k torn f .sequence = f .sequence ∨
      ∃ t, leave (a.store n) k torn f .sequence = some t ∧ (t = decimal n ∨ t = decimalLine n) := by
  cases a with
  | nap =>
    rcases k with _ | k
    · rcases torn with _ | t
      · exact .inl rfl
      · exact .inr ⟨t, by simp [Allocator.store, Effect.tear], hkeep rfl rfl t rfl⟩
    · exact .inr ⟨_, by simp [Allocator.store, Effect.apply], .inr rfl⟩
  | lease | upgrade =>
    -- until the rename only the temporary file changes
    rcases k with _ | _ | k
    · exact .inl (by cases torn <;> simp [Allocator.store, Effect.tear])
    · exact .inl (by cases torn <;> simp [Allocator.store, Effect.apply, Effect.tear])
    · exact .inr ⟨_, by simp [Allocator.store, Effect.apply], .inr rfl⟩

/-- In a good state an allocator finds a value not below anything returned so far. -/
lemma Good.upTo_current {w : World} (h : Good w) {a : Allocator}
    (hcur : a.current (w.disk .sequence) = .ok v) : w.UpTo v := by
  obtain ⟨m, ⟨hpw, hle⟩, hnil | ⟨t, v', hf, hr, hm⟩⟩ := h
  · simp [World.UpTo, hnil]
  · rw [hf, current_of_reads hr] at hcur
    cases hcur
    exact ⟨hpw, fun u hu => (hle u hu).trans hm⟩

lemma Good.call {w : World} (h : Good w) {i : Call} (hi : Sound w i) : Good (call w i) := by
  cases i with
  | complete a =>
    simp only [LinuxSequence.call, Prog.exec]
    rcases trace_body a w.disk with ⟨e, htr⟩ | ⟨v, n, hcur, hn, hnext, htr⟩ <;> rw [htr]
    · exact h
    · obtain rfl := hnext hi
      exact ⟨v + 1, (h.upTo_current hcur).completed (by omega) _,
        .inr ⟨_, v + 1, applyAll_store a _ _, ⟨hn, .inr rfl⟩, le_rfl⟩⟩
  | crash a k torn =>
    obtain ⟨hwrap, hkeep⟩ := hi
    simp only [LinuxSequence.call, Prog.crash]
    rcases trace_body a w.disk with ⟨e, htr⟩ | ⟨v, n, hcur, hn, hnext, htr⟩ <;> rw [htr]
    · simpa only [leave_nil] using h
    · obtain rfl := hnext hwrap
      have hstore := leave_store a (v + 1) k torn w.disk fun ha hk t ht =>
        hkeep ha hk t v ht (by rw [ha] at hcur; exact hcur)
      rcases hstore with hsame | ⟨t, ht, hreads⟩
      · obtain ⟨m, hup, hfile⟩ := h
        exact ⟨m, hup, by simpa only [hsame] using hfile⟩
      · exact ⟨v, h.upTo_current hcur, .inr ⟨t, v + 1, ht, ⟨hn, hreads⟩, by omega⟩⟩

/-- **The three allocators never return a value twice**, in a run where no crash inside the
in-place write loses digits and `next_sequence` is not called on the last value. -/
theorem linux_values_unique (f : Disk) (calls : List Call)
    (h : Along call Sound ⟨f, []⟩ calls) : (run call ⟨f, []⟩ calls).returned.Nodup := by
  obtain ⟨m, ⟨hpw, -⟩, -⟩ : Good (run call ⟨f, []⟩ calls) :=
    inv_run (fun _ _ hs hi => hs.call hi) ⟨0, World.upTo_start f, .inl rfl⟩ h
  exact hpw.imp fun hlt => hlt.ne

/-- A crash of `next_nap_sequence` that has lost only the end of the line. -/
theorem linux_values_unique_kept :
    let f : Disk := fun | .sequence => some "9\n" | _ => none
    let calls := [.complete .lease, .crash .nap 0 (some "11"), .complete .upgrade]
    Along call Sound ⟨f, []⟩ calls ∧ (run call ⟨f, []⟩ calls).returned.Nodup := by
  intro f calls
  have h : Along call Sound ⟨f, []⟩ calls := by
    refine ⟨show ¬ Allocator.Wraps .lease _ by decide, ⟨by decide, ?_⟩,
      show ¬ Allocator.Wraps .upgrade _ by decide, trivial⟩
    rintro - - t v ht hv
    cases ht
    cases hv
    decide
  exact ⟨h, linux_values_unique f calls h⟩

/-- `next_nap_sequence` crashes when it has truncated the file and written nothing yet: the
send lease reads the empty file as zero and returns the value 1 again. -/
theorem linux_value_repeated :
    let f : Disk := fun | .sequence => some "0\n" | _ => none
    let w := run call ⟨f, []⟩ [.complete .lease, .crash .nap 0 (some []), .complete .lease]
    w.returned = [1, 1] ∧ ¬ w.returned.Nodup := by
  decide

end NetaAgent.LinuxSequence
