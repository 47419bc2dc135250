import NetaAgent.NapRecord
import NetaAgent.Run

/-!
The NAP sequence allocator on Windows: two redundant slot files, each holding a checksummed
record, and a legacy decimal file kept as a mirror.

An allocation reads both slots, repairs the one that is not valid from the other, or
migrates the legacy file when there is no slot at all, and then writes the next value to
the slot with the smaller value first. The interprocess lock serialises the calls, so a run
is a sequence of calls, each of which completes or crashes at some effect.
-/

namespace NetaAgent.WindowsSequence

open Decimal Crypto NapRecord FileProgram FileProgram.Prog Run Effect

structure SlotState where
  present : Bool := false
  valid : Bool := false
  value : ℕ := 0
  error : Option SequenceError := none

/-- `read_text_if_exists`, on the content of the file. -/
def boundedText (path : SequencePath) (maxBytes : ℕ) :
    Option Text → Except SequenceError (Option Text)
  | none => .ok none
  | some t =>
    if maxBytes < t.length then
      .error (.atPath "NAP sequence state exceeds maximum size at " path)
    else .ok (some t)

def readTextIfExists (path : SequencePath) (maxBytes : ℕ) : SeqM (Option Text) := do
  lift (boundedText path maxBytes (← readFile path))

/-- The body of `read_slot` and `read_legacy`: whatever throws leaves the slot invalid. -/
def slotState (path : SequencePath) (maxBytes : ℕ)
    (parse : Text → SequencePath → Except SequenceError ℕ) (content : Option Text) :
    SlotState :=
  match boundedText path maxBytes content with
  | .error e => { present := content.isSome, error := some e }
  | .ok none => {}
  | .ok (some t) =>
    match parse t path with
    | .error e => { present := true, error := some e }
    | .ok v => { present := true, valid := true, value := v }

variable (sha : Sha256)

def readSlot (path : SequencePath) : SeqM SlotState := do
  return slotState path maxSequenceRecordBytes (parseRecord sha) (← readFile path)

def readLegacy (path : SequencePath) : SeqM SlotState := do
  return slotState path maxLegacySequenceBytes parseDecimal (← readFile path)

/-- `durable_write_text`: `CREATE_ALWAYS` truncates the file and rewrites it in place. -/
def durableWriteText (path : SequencePath) (text : Text) : SeqM Unit := writeFile path text

def writeSlot (path : SequencePath) (sequence : ℕ) : SeqM Unit := do
  durableWriteText path (makeRecord sha sequence)
  let text ← readTextIfExists path maxSequenceRecordBytes
  match text with
  | none => .fail (.atPath "NAP sequence durable write verification failed at " path)
  | some t =>
    let v ← lift (parseRecord sha t path)
    if v = sequence then return
    else .fail (.atPath "NAP sequence durable write verification failed at " path)

def bestEffortWriteLegacy (sequence : ℕ) : SeqM Unit :=
  durableWriteText .sequence (decimalLine sequence)

/-- `note_recovery`, of which the marker file is the durable part. -/
def noteRecovery (detail : Text) : SeqM Unit := writeFile .recovery (detail ++ ['\n'])

def migratedDetail (current : ℕ) : Text :=
  "Migrated validated legacy NAP sequence " ++ decimal current ++
    " into redundant crash-safe slots"

def recoveredFromSlot0Detail (current : ℕ) : Text :=
  "Recovered NAP sequence state from sequence.0 at " ++ decimal current ++
    " and repaired sequence.1"

def recoveredFromSlot1Detail (current : ℕ) : Text :=
  "Recovered NAP sequence state from sequence.1 at " ++ decimal current ++
    " and repaired sequence.0"

/-- The branches of `next_windows_sequence` up to `current`: migrate, repair or take the
larger slot. -/
def settleSlots (slot0 slot1 : SlotState) : SeqM (SlotState × SlotState × ℕ) := do
  if !slot0.valid && !slot1.valid then
    if slot0.present || slot1.present then
      .fail (.plain "NAP sequence state is unrecoverable: both redundant slots are invalid")
    else
      let legacy ← readLegacy .sequence
      if !legacy.valid then
        match legacy.error with
        | some e => .fail { e with
            message := "NAP sequence state is unrecoverable: " ++ e.message }
        | none => .fail (.plain
            "NAP sequence state is unrecoverable: legacy sequence state is missing")
      else
        let current := legacy.value
        writeSlot sha .slot0 current
        writeSlot sha .slot1 current
        noteRecovery (migratedDetail current)
        return (⟨true, true, current, none⟩, ⟨true, true, current, none⟩, current)
  else if slot0.valid && !slot1.valid then
    let current := slot0.value
    writeSlot sha .slot1 current
    noteRecovery (recoveredFromSlot0Detail current)
    return (slot0, ⟨true, true, current, none⟩, current)
  else if !slot0.valid && slot1.valid then
    let current := slot1.value
    writeSlot sha .slot0 current
    noteRecovery (recoveredFromSlot1Detail current)
    return (⟨true, true, current, none⟩, slot1, current)
  else
    return (slot0, slot1, max slot0.value slot1.value)

def exhausted : SequenceError := .plain "NAP sequence state is exhausted"

/-- The rest of `next_windows_sequence`: the next value goes to the slot with the smaller
value first. -/
def advance (slot0 slot1 : SlotState) (current : ℕ) : SeqM ℕ := do
  if current = twoPow64 - 1 then .fail exhausted
  else
    let next := current + 1
    let firstIsSlot0 := decide (slot0.value ≤ slot1.value)
    let first := if firstIsSlot0 then SequencePath.slot0 else .slot1
    let second := if firstIsSlot0 then SequencePath.slot1 else .slot0
    writeSlot sha first next
    writeSlot sha second next
    bestEffortWriteLegacy next
    return next

def nextWindowsSequence : SeqM ℕ := do
  let slot0 ← readSlot sha .slot0
  let slot1 ← readSlot sha .slot1
  let (slot0, slot1, current) ← settleSlots sha slot0 slot1
  advance sha slot0 slot1 current

def initializeWindowsSequence (initialSequence : ℕ) : SeqM Unit := do
  writeSlot sha .slot0 initialSequence
  writeSlot sha .slot1 initialSequence
  durableWriteText .sequence (decimalLine initialSequence)
  removeFile .recovery

/-! ### What the parts do to the files -/

variable {sha} {f : Disk} {v : ℕ}

/-- The slot `p` holds a valid record of `v`. -/
def SlotHolds (sha : Sha256) (f : Disk) (p : SequencePath) (v : ℕ) : Prop :=
  ∃ t, f p = some t ∧ parseRecord sha t p = .ok v

/-- The slot `p` exists with content that is no record, or does not exist. -/
def SlotInvalid (sha : Sha256) (f : Disk) (p : SequencePath) : Prop :=
  ∀ t v, f p = some t → parseRecord sha t p ≠ .ok v

variable {p q : SequencePath}

lemma SlotHolds.lt (h : SlotHolds sha f p v) : v < twoPow64 := by
  obtain ⟨t, -, ht⟩ := h
  exact (parseRecord_eq_ok sha ht).2

lemma SlotHolds.content (h : SlotHolds sha f p v) : f p = some (makeRecord sha v) := by
  obtain ⟨t, hf, ht⟩ := h
  rw [hf, (parseRecord_eq_ok sha ht).1]

lemma slotHolds_or_invalid (sha : Sha256) (f : Disk) (p : SequencePath) :
    (∃ v, SlotHolds sha f p v) ∨ SlotInvalid sha f p := by
  by_cases h : ∃ v, SlotHolds sha f p v
  · exact .inl h
  · exact .inr fun t v hf ht => h ⟨v, t, hf, ht⟩

lemma slotHolds_write (sha : Sha256) (f : Disk) (hv : v < twoPow64) (p : SequencePath) :
    SlotHolds sha (Function.update f p (some (makeRecord sha v))) p v :=
  ⟨_, by simp, parseRecord_makeRecord sha hv p⟩

lemma slotHolds_update_ne (h : p ≠ q) (c : Option Text) :
    SlotHolds sha (Function.update f q c) p v ↔ SlotHolds sha f p v := by
  simp [SlotHolds, h]

lemma slotState_of_holds (h : SlotHolds sha f p v) :
    slotState p maxSequenceRecordBytes (parseRecord sha) (f p) = ⟨true, true, v, none⟩ := by
  have hlen := makeRecord_length sha h.lt
  simp [slotState, boundedText, h.content, parseRecord_makeRecord sha h.lt,
    maxSequenceRecordBytes, Nat.not_lt.mpr hlen]

lemma slotState_of_invalid (h : SlotInvalid sha f p) :
    (slotState p maxSequenceRecordBytes (parseRecord sha) (f p)).valid = false ∧
      (slotState p maxSequenceRecordBytes (parseRecord sha) (f p)).present = (f p).isSome := by
  unfold slotState boundedText
  rcases hf : f p with _ | t
  · simp
  · by_cases hlen : maxSequenceRecordBytes < t.length
    · simp [hlen]
    · rcases hp : parseRecord sha t p with e | u
      · simp [hlen, hp]
      · exact absurd hp (h t u hf)

lemma trace_writeSlot (hv : v < twoPow64) (p : SequencePath) :
    (writeSlot sha p v).trace f = ([.write p (makeRecord sha v)], .ok ()) := by
  have hlen := makeRecord_length sha hv
  have hread : (readTextIfExists p maxSequenceRecordBytes).trace
      (Function.update f p (some (makeRecord sha v))) = ([], .ok (some (makeRecord sha v))) := by
    unfold readTextIfExists
    rw [trace_bind (trace_readFile p)]
    simp [boundedText, maxSequenceRecordBytes, Nat.not_lt.mpr hlen]
  unfold writeSlot durableWriteText
  rw [trace_bind (trace_writeFile p _)]
  simp only [applyAll_cons, applyAll_nil, apply]
  rw [trace_bind hread]
  simp only [applyAll_nil]
  rw [trace_bind (by rw [trace_lift, parseRecord_makeRecord sha hv])]
  simp

/-- The effects of `advance`. -/
def allocation (sha : Sha256) (a b c : ℕ) : List (Effect SequencePath Text) :=
  if c = twoPow64 - 1 then []
  else
    [.write (if a ≤ b then .slot0 else .slot1) (makeRecord sha (c + 1)),
      .write (if a ≤ b then .slot1 else .slot0) (makeRecord sha (c + 1)),
      .write .sequence (decimalLine (c + 1))]

/-- How an allocation from the current value `c` ends. -/
def outcome (c : ℕ) : Except SequenceError ℕ :=
  if c = twoPow64 - 1 then .error exhausted else .ok (c + 1)

variable {a b c m u : ℕ}

lemma trace_advance {s0 s1 : SlotState} (hc : c < twoPow64) :
    (advance sha s0 s1 c).trace f = (allocation sha s0.value s1.value c, outcome c) := by
  unfold advance allocation outcome
  by_cases hmax : c = twoPow64 - 1
  · simp [hmax]
  · have hn : c + 1 < twoPow64 := by unfold twoPow64 at *; omega
    simp only [hmax, if_false, decide_eq_true_eq]
    rw [trace_bind (trace_writeSlot hn _), trace_bind (trace_writeSlot hn _)]
    unfold bestEffortWriteLegacy durableWriteText
    rw [trace_bind (trace_writeFile _ _)]
    rfl

variable {es : List (Effect SequencePath Text)}

/-- An allocation is the settling of the slots followed by `advance`. -/
lemma trace_next (s0 s1 : SlotState) (hc : c < twoPow64) (h : (settleSlots sha
      (slotState .slot0 maxSequenceRecordBytes (parseRecord sha) (f .slot0))
      (slotState .slot1 maxSequenceRecordBytes (parseRecord sha) (f .slot1))).trace f =
        (es, .ok (s0, s1, c))) :
    (nextWindowsSequence sha).trace f = (es ++ allocation sha s0.value s1.value c, outcome c) := by
  unfold nextWindowsSequence readSlot
  rw [trace_bind (trace_bind (trace_readFile _)), trace_bind (trace_bind (trace_readFile _))]
  simp only [applyAll_nil, trace_pure, List.append_nil, List.nil_append]
  rw [trace_bind h]
  simp only [trace_advance hc]

lemma trace_next_both (h0 : SlotHolds sha f .slot0 a) (h1 : SlotHolds sha f .slot1 b) :
    (nextWindowsSequence sha).trace f = (allocation sha a b (max a b), outcome (max a b)) := by
  have hmax : max a b < twoPow64 := max_lt h0.lt h1.lt
  rw [← List.nil_append (allocation sha a b (max a b))]
  refine trace_next ⟨true, true, a, none⟩ ⟨true, true, b, none⟩ hmax ?_
  rw [slotState_of_holds h0, slotState_of_holds h1]
  rfl

lemma trace_next_left (h0 : SlotHolds sha f .slot0 a) (h1 : SlotInvalid sha f .slot1) :
    (nextWindowsSequence sha).trace f = ([.write .slot1 (makeRecord sha a),
        .write .recovery (recoveredFromSlot0Detail a ++ ['\n'])] ++ allocation sha a a a,
        outcome a) := by
  obtain ⟨hv, -⟩ := slotState_of_invalid h1
  refine trace_next ⟨true, true, a, none⟩ ⟨true, true, a, none⟩ h0.lt ?_
  rw [slotState_of_holds h0]
  simp only [settleSlots, hv, Bool.not_true, Bool.not_false, Bool.and_true, if_true,
    Bool.false_eq_true, if_false]
  rw [trace_bind (trace_writeSlot h0.lt _), noteRecovery, trace_bind (trace_writeFile _ _)]
  rfl

lemma trace_next_right (h0 : SlotInvalid sha f .slot0) (h1 : SlotHolds sha f .slot1 b) :
    (nextWindowsSequence sha).trace f = ([.write .slot0 (makeRecord sha b),
        .write .recovery (recoveredFromSlot1Detail b ++ ['\n'])] ++ allocation sha b b b,
        outcome b) := by
  obtain ⟨hv, -⟩ := slotState_of_invalid h0
  refine trace_next ⟨true, true, b, none⟩ ⟨true, true, b, none⟩ h1.lt ?_
  rw [slotState_of_holds h1]
  simp only [settleSlots, hv, Bool.not_true, Bool.not_false, Bool.and_true, if_true,
    Bool.false_eq_true, if_false, Bool.and_false]
  rw [trace_bind (trace_writeSlot h1.lt _), noteRecovery, trace_bind (trace_writeFile _ _)]
  rfl

/-! ### Crash safety -/

/-- Some valid slot holds a value that is not below `m`. -/
def Safe (sha : Sha256) (m : ℕ) (f : Disk) : Prop :=
  ∃ v, m ≤ v ∧ (SlotHolds sha f .slot0 v ∨ SlotHolds sha f .slot1 v)

lemma slotHolds_iff : SlotHolds sha f p v ↔ f p = some (makeRecord sha v) ∧ v < twoPow64 :=
  ⟨fun h => ⟨h.content, h.lt⟩, fun ⟨h, hv⟩ => ⟨_, h, parseRecord_makeRecord sha hv p⟩⟩

/-- While the effects leave alone a slot with a value not below `m`, whatever a crash does
to the other files is safe. -/
lemma kept_safe (hp : p = .slot0 ∨ p = .slot1) (h : SlotHolds sha f p v) (hm : m ≤ v)
    (hes : ∀ e ∈ es, e.Avoids p) : Kept (Safe sha m) es f := by
  refine (kept_frame h.content hes).mono fun g hg => ⟨v, hm, ?_⟩
  have hg' : SlotHolds sha g p v := slotHolds_iff.mpr ⟨hg, h.lt⟩
  rcases hp with rfl | rfl
  · exact .inl hg'
  · exact .inr hg'

/-- While one slot is rewritten the other holds a value not below `m`: first the larger of
the two values, then the next one. -/
lemma kept_allocation (h0 : SlotHolds sha f .slot0 a) (h1 : SlotHolds sha f .slot1 b)
    (hm : m ≤ max a b) : Kept (Safe sha m) (allocation sha a b (max a b)) f := by
  unfold allocation
  split
  · trivial
  next hmax =>
    have hlt : max a b < twoPow64 := max_lt h0.lt h1.lt
    have hn : max a b + 1 < twoPow64 := by unfold twoPow64 at *; omega
    by_cases hab : a ≤ b
    · -- slot 1 has the larger value, slot 0 is rewritten first
      simp only [hab, if_true]
      exact kept_cons
        (kept_safe (.inr rfl) h1 (by omega) (by simp [Effect.Avoids]))
        (kept_safe (.inl rfl) (slotHolds_write sha f hn .slot0) (by omega)
          (by simp [Effect.Avoids]))
    · -- slot 0 has the larger value, slot 1 is rewritten first
      simp only [hab, if_false]
      exact kept_cons
        (kept_safe (.inl rfl) h0 (by omega) (by simp [Effect.Avoids]))
        (kept_safe (.inr rfl) (slotHolds_write sha f hn .slot1) (by omega)
          (by simp [Effect.Avoids]))

/-- After an allocation that is not exhausted the state is safe for the value returned. -/
lemma safe_allocation (h0 : SlotHolds sha f .slot0 a) (h1 : SlotHolds sha f .slot1 b)
    (hmax : max a b ≠ twoPow64 - 1) :
    Safe sha (max a b + 1) (applyAll (allocation sha a b (max a b)) f) := by
  have hlt : max a b < twoPow64 := max_lt h0.lt h1.lt
  have hn : max a b + 1 < twoPow64 := by unfold twoPow64 at *; omega
  unfold allocation
  simp only [if_neg hmax, applyAll_cons, applyAll_nil, apply]
  refine ⟨max a b + 1, le_rfl, .inl (slotHolds_iff.mpr ⟨?_, hn⟩)⟩
  by_cases hab : a ≤ b
  · simp [hab]
  · simp [hab]

lemma SlotHolds.unique (hv : SlotHolds sha f p v) (hu : SlotHolds sha f p u) : v = u := by
  obtain ⟨t, hf, ht⟩ := hv
  obtain ⟨t', hf', ht'⟩ := hu
  cases hf.symm.trans hf'
  exact Except.ok.inj (ht.symm.trans ht')

lemma SlotInvalid.not_holds (h : SlotInvalid sha f p) :
    ¬ SlotHolds sha f p v := fun ⟨t, hf, ht⟩ => h t v hf ht

/-- One slot `q` is repaired from the other one, `p`, and an allocation follows. -/
lemma repair_spec (marker : Text)
    (hpq : p = .slot0 ∧ q = .slot1 ∨ p = .slot1 ∧ q = .slot0) (h : SlotHolds sha f p v)
    (hm : m ≤ v) :
    Kept (Safe sha m)
        ([.write q (makeRecord sha v), .write .recovery marker] ++ allocation sha v v v) f ∧
      (v ≠ twoPow64 - 1 → Safe sha (v + 1) (applyAll
        ([.write q (makeRecord sha v), .write .recovery marker] ++ allocation sha v v v) f)) := by
  set g := apply (.write .recovery marker) (apply (.write q (makeRecord sha v)) f)
    with hg
  have hp : p = .slot0 ∨ p = .slot1 := by tauto
  have hpr : p ≠ .recovery := by rcases hp with rfl | rfl <;> decide
  have hne : p ≠ q := by rcases hpq with ⟨rfl, rfl⟩ | ⟨rfl, rfl⟩ <;> decide
  -- after the repair both slots hold `v`
  have hslots : SlotHolds sha g .slot0 v ∧ SlotHolds sha g .slot1 v := by
    rw [slotHolds_iff, slotHolds_iff]
    rcases hpq with ⟨rfl, rfl⟩ | ⟨rfl, rfl⟩ <;> simp [hg, apply, h.content, h.lt]
  have hk := kept_allocation (m := m) hslots.1 hslots.2 (by omega)
  have hd := safe_allocation hslots.1 hslots.2
  rw [max_self] at hk hd
  have hq : SlotHolds sha (apply (.write q (makeRecord sha v)) f) p v :=
    (slotHolds_update_ne hne _).mpr h
  exact ⟨kept_cons (kept_safe hp h hm (by simpa [Effect.Avoids] using hne))
    (kept_cons (kept_safe hp hq hm (by simpa [Effect.Avoids] using hpr)) hk), hd⟩

/-- What one allocation does from a safe state: it ends as `outcome c` says for a value `c`
that is not below `m`, every crash on the way is safe, and so is `c + 1` at the end. -/
lemma next_spec (h : Safe sha m f) : ∃ es c,
    (nextWindowsSequence sha).trace f = (es, outcome c) ∧ m ≤ c ∧ Kept (Safe sha m) es f ∧
      (c ≠ twoPow64 - 1 → Safe sha (c + 1) (applyAll es f)) ∧
      (SlotHolds sha f .slot0 c ∨ SlotHolds sha f .slot1 c) := by
  obtain ⟨v, hm, hv⟩ := h
  rcases slotHolds_or_invalid sha f .slot0 with ⟨a, h0⟩ | h0 <;>
    rcases slotHolds_or_invalid sha f .slot1 with ⟨b, h1⟩ | h1
  · -- two valid slots: the larger value
    have hmax : m ≤ max a b := by
      rcases hv with hv | hv
      · cases hv.unique h0; omega
      · cases hv.unique h1; omega
    refine ⟨_, max a b, trace_next_both h0 h1, hmax, kept_allocation h0 h1 hmax,
      safe_allocation h0 h1, ?_⟩
    rcases max_choice a b with hc | hc <;> rw [hc]
    · exact .inl h0
    · exact .inr h1
  · -- slot 1 is repaired from slot 0
    obtain rfl : v = a := (hv.resolve_right h1.not_holds).unique h0
    obtain ⟨hk, hd⟩ := repair_spec _ (.inl ⟨rfl, rfl⟩) h0 hm
    exact ⟨_, v, trace_next_left h0 h1, hm, hk, hd, .inl h0⟩
  · -- slot 0 is repaired from slot 1
    obtain rfl : v = b := (hv.resolve_left h0.not_holds).unique h1
    obtain ⟨hk, hd⟩ := repair_spec _ (.inr ⟨rfl, rfl⟩) h1 hm
    exact ⟨_, v, trace_next_right h0 h1, hm, hk, hd, .inr h1⟩
  · exact absurd hv (by simp [h0.not_holds, h1.not_holds])

/-! ### Runs of allocations with crashes -/

/-- One call: it completes, or the process crashes at the `n`-th effect with the file being
written left with the torn content, if any. -/
inductive Call where
  | complete
  | crash (n : ℕ) (torn : Option Text)

variable (sha) in
def call (w : World) : Call → World
  | .complete => w.completed ((nextWindowsSequence sha).exec w.disk)
  | .crash n torn => { w with disk := (nextWindowsSequence sha).crash n torn w.disk }

/-- Some slot is not below anything returned, and what was returned is increasing. -/
def Good (sha : Sha256) (w : World) : Prop := ∃ m, w.UpTo m ∧ Safe sha m w.disk

lemma Good.call {w : World} (h : Good sha w) (i : Call) : Good sha (call sha w i) := by
  obtain ⟨m, hup, hsafe⟩ := h
  obtain ⟨es, c, htr, hmc, hk, hd, -⟩ := next_spec hsafe
  cases i with
  | crash n torn =>
    refine ⟨m, hup, ?_⟩
    simp only [WindowsSequence.call, Prog.crash, htr]
    exact leave_kept hsafe hk n torn
  | complete =>
    simp only [WindowsSequence.call, Prog.exec, htr]
    by_cases hmax : c = twoPow64 - 1
    · -- an exhausted counter: nothing is returned
      rw [outcome, if_pos hmax]
      exact ⟨m, hup, applyAll_kept hsafe hk⟩
    · rw [outcome, if_neg hmax]
      exact ⟨c + 1, hup.completed (by omega) _, hd hmax⟩

/-- **Allocation on Windows is crash safe.** From two valid slots, or only one, whatever
calls are made and wherever they crash, the values returned are strictly increasing, and the
next allocation returns a value above all of them unless a slot has reached the last
value. -/
theorem windows_values_increase {a : ℕ}
    (h : SlotHolds sha f .slot0 a ∨ SlotHolds sha f .slot1 a) (calls : List Call) :
    let w := run (call sha) ⟨f, []⟩ calls
    w.returned.Pairwise (· < ·) ∧
      ((∃ v, ((nextWindowsSequence sha).exec w.disk).1 = .ok v ∧ ∀ u ∈ w.returned, u < v) ∨
        ((nextWindowsSequence sha).exec w.disk).1 = .error exhausted ∧
          (SlotHolds sha w.disk .slot0 (twoPow64 - 1) ∨
            SlotHolds sha w.disk .slot1 (twoPow64 - 1))) := by
  intro w
  have hstart : Good sha ⟨f, []⟩ := ⟨0, World.upTo_start f, a, by omega, h⟩
  obtain ⟨m, ⟨hpw, hle⟩, hsafe⟩ : Good sha w := inv_run_all (fun _ i h => h.call i) hstart calls
  obtain ⟨es, c, htr, hmc, -, -, hc⟩ := next_spec hsafe
  refine ⟨hpw, ?_⟩
  simp only [Prog.exec, htr]
  by_cases hmax : c = twoPow64 - 1
  · rw [hmax] at hc
    exact .inr ⟨by simp [outcome, hmax], hc⟩
  · refine .inl ⟨c + 1, by simp [outcome, hmax], fun u hu => ?_⟩
    have := hle u hu
    omega

/-- Slots 4 and 5; the first call crashes while it rewrites slot 0. -/
theorem windows_values_increase_torn :
    let sha : Sha256 := fun _ _ => 0
    let f : Disk := fun
      | .slot0 => some (makeRecord sha 4)
      | .slot1 => some (makeRecord sha 5)
      | _ => none
    let w := run (call sha) ⟨f, []⟩ [.crash 0 (some []), .complete, .complete]
    w.returned.Pairwise (· < ·) ∧
      ((∃ v, ((nextWindowsSequence sha).exec w.disk).1 = .ok v ∧ ∀ u ∈ w.returned, u < v) ∨
        ((nextWindowsSequence sha).exec w.disk).1 = .error exhausted ∧
          (SlotHolds sha w.disk .slot0 (twoPow64 - 1) ∨
            SlotHolds sha w.disk .slot1 (twoPow64 - 1))) :=
  windows_values_increase (.inl (slotHolds_iff.mpr ⟨rfl, by decide⟩)) _

end NetaAgent.WindowsSequence
