import NetaAgent.WindowsSequence

/-!
Interrupted set-up of the sequence state on Windows: the migration of a legacy file into the
two slots, and the initialisation of both slots with a given value.

Migration creates the first slot while the second does not exist yet. A crash that leaves a
proper prefix of that first record therefore leaves no valid slot, and since a slot file is
present the legacy file is not read again. Every other crash point, and every crash point of
the initialisation, can be recovered from.
-/

namespace NetaAgent.WindowsSequence

open Decimal Crypto NapRecord FileProgram FileProgram.Prog Effect Prog

variable {sha : Sha256} {f : Disk} {L : ℕ}

/-- The legacy file is valid and holds `L`. -/
def LegacyHolds (f : Disk) (L : ℕ) : Prop :=
  ∃ t, f .sequence = some t ∧ t.length ≤ maxLegacySequenceBytes ∧
    parseDecimal t .sequence = .ok L

lemma LegacyHolds.lt (h : LegacyHolds f L) : L < twoPow64 := by
  obtain ⟨t, -, -, ht⟩ := h
  exact parseDecimal_lt ht

lemma slotState_of_legacy (h : LegacyHolds f L) :
    slotState .sequence maxLegacySequenceBytes parseDecimal (f .sequence) =
      ⟨true, true, L, none⟩ := by
  obtain ⟨t, hf, hlen, ht⟩ := h
  simp [slotState, boundedText, hf, ht, Nat.not_lt.mpr hlen]

def migration (sha : Sha256) (L : ℕ) : List (Effect SequencePath Text) :=
  [.write .slot0 (makeRecord sha L), .write .slot1 (makeRecord sha L),
    .write .recovery (migratedDetail L ++ ['\n'])]

lemma trace_next_migrate (h0 : f .slot0 = none) (h1 : f .slot1 = none) (hL : LegacyHolds f L) :
    (nextWindowsSequence sha).trace f = (migration sha L ++ allocation sha L L L, outcome L) := by
  refine trace_next ⟨true, true, L, none⟩ ⟨true, true, L, none⟩ hL.lt ?_
  have hs : ∀ p, slotState p maxSequenceRecordBytes (parseRecord sha) none = {} := fun _ => rfl
  rw [h0, h1, hs, hs]
  simp only [settleSlots, Bool.not_false, Bool.and_true, if_true, Bool.or_false,
    Bool.false_eq_true, if_false, readLegacy]
  rw [trace_bind (trace_bind (trace_readFile _))]
  simp only [applyAll_nil, trace_pure, List.append_nil, List.nil_append, slotState_of_legacy hL,
    Bool.not_true, Bool.false_eq_true, if_false]
  rw [trace_bind (trace_writeSlot hL.lt _), trace_bind (trace_writeSlot hL.lt _), noteRecovery,
    trace_bind (trace_writeFile _ _)]
  rfl

/-- One slot exists and none is valid: every call fails, and the legacy file is not read. -/
lemma trace_next_unrecoverable (h0 : SlotInvalid sha f .slot0) (h1 : SlotInvalid sha f .slot1)
    (hp : (f .slot0).isSome) : (nextWindowsSequence sha).trace f =
      ([], .error (.plain "NAP sequence state is unrecoverable: both redundant slots are invalid")) := by
  obtain ⟨hv0, hp0⟩ := slotState_of_invalid h0
  obtain ⟨hv1, -⟩ := slotState_of_invalid h1
  unfold nextWindowsSequence readSlot
  rw [trace_bind (trace_bind (trace_readFile _)), trace_bind (trace_bind (trace_readFile _))]
  simp only [applyAll_nil, trace_pure, List.append_nil, List.nil_append]
  refine trace_bind_error ?_
  simp only [settleSlots, hv0, hv1, hp0, hp, Bool.not_false, Bool.and_true, if_true, Bool.true_or,
    trace_fail]

def initialization (sha : Sha256) (L : ℕ) : List (Effect SequencePath Text) :=
  [.write .slot0 (makeRecord sha L), .write .slot1 (makeRecord sha L),
    .write .sequence (decimalLine L), .remove .recovery]

lemma trace_initialize (hL : L < twoPow64) :
    (initializeWindowsSequence sha L).trace f = (initialization sha L, .ok ()) := by
  unfold initializeWindowsSequence
  rw [trace_bind (trace_writeSlot hL _), trace_bind (trace_writeSlot hL _), durableWriteText,
    trace_bind (trace_writeFile _ _)]
  rfl

/-! ### Recovery -/

/-- Running `op` from `g` ends as it does from `f`, with the same sequence state. The
recovery marker, a diagnostic, may read differently. -/
def SameResult {α : Type} (op : SeqM α) (f g : Disk) : Prop :=
  (op.exec g).1 = (op.exec f).1 ∧
    ∀ p ∈ [SequencePath.slot0, .slot1, .sequence], (op.exec g).2 p = (op.exec f).2 p

/-- The state `g` that an interrupted `op` left behind can be recovered from: the next
allocation returns a value above `L`, or `op` can be run again. -/
def Recovers {α : Type} (sha : Sha256) (L : ℕ) (op : SeqM α) (f g : Disk) : Prop :=
  (∃ v, ((nextWindowsSequence sha).exec g).1 = .ok v ∧ L < v) ∨ SameResult op f g

/-- After the first slot is complete the migration is recovered from. With the last value
in the slots there is nothing to return, and a second run says so as the first one does. -/
lemma recovers_of_slot0 {g : Disk} (h0 : f .slot0 = none) (h1 : f .slot1 = none)
    (hL : LegacyHolds f L) (hg0 : SlotHolds sha g .slot0 L)
    (hg1 : SlotHolds sha g .slot1 L ∨ SlotInvalid sha g .slot1)
    (hseq : g .sequence = f .sequence) : Recovers sha L (nextWindowsSequence sha) f g := by
  have hf : (nextWindowsSequence sha).trace f = _ := trace_next_migrate h0 h1 hL
  by_cases hmax : L = twoPow64 - 1
  · right
    have hnil : allocation sha L L L = [] := if_pos hmax
    rcases hg1 with hg1 | hg1
    · have hg := trace_next_both hg0 hg1
      rw [max_self] at hg
      simp [SameResult, exec, hf, hg, hnil, migration, apply, hg0.content, hg1.content, hseq]
    · have hg := trace_next_left hg0 hg1
      simp [SameResult, exec, hf, hg, hnil, migration, apply, hg0.content, hseq]
  · left
    refine ⟨L + 1, ?_, by omega⟩
    have hout : outcome L = .ok (L + 1) := if_neg hmax
    rcases hg1 with hg1 | hg1
    · have hg := trace_next_both hg0 hg1
      rw [max_self] at hg
      simp [exec, hg, hout]
    · simp [exec, trace_next_left hg0 hg1, hout]

lemma slotHolds_or_invalid_of_cut {g : Disk} {p : SequencePath} {t : Text} (hL : L < twoPow64)
    (hg : g p = some t) (ht : t <+: makeRecord sha L) :
    SlotHolds sha g p L ∨ SlotInvalid sha g p := by
  by_cases he : t = makeRecord sha L
  · exact .inl (slotHolds_iff.mpr ⟨by rw [hg, he], hL⟩)
  · right
    intro u v hu hv
    cases hg.symm.trans hu
    obtain ⟨e, hpe⟩ := parseRecord_torn sha ht he p
    cases hpe.symm.trans hv

/-- The migration interrupted in its first write, with a proper prefix left in the slot. -/
lemma not_recovers_torn {t : Text} (h0 : f .slot0 = none) (h1 : f .slot1 = none)
    (hL : LegacyHolds f L) (ht : t <+: makeRecord sha L) (hne : t ≠ makeRecord sha L) :
    ¬ Recovers sha L (nextWindowsSequence sha) f (Function.update f .slot0 (some t)) := by
  have hs0 : SlotInvalid sha (Function.update f .slot0 (some t)) .slot0 := by
    refine (slotHolds_or_invalid_of_cut hL.lt (by simp) ht).resolve_left fun h => hne ?_
    simpa using h.content
  have hs1 : SlotInvalid sha (Function.update f .slot0 (some t)) .slot1 := by
    intro u v hu
    simp [h1] at hu
  have hg := trace_next_unrecoverable hs0 hs1 (by simp)
  have hf : (nextWindowsSequence sha).trace f = _ := trace_next_migrate h0 h1 hL
  rintro (⟨v, hv, -⟩ | ⟨hsame, -⟩)
  · simp [exec, hg] at hv
  · simp only [exec, hg, hf, outcome] at hsame
    split at hsame
    · exact absurd hsame (by decide)
    · cases hsame

lemma recovers_after_first {n : ℕ} {torn : Option Text} (h0 : f .slot0 = none)
    (h1 : f .slot1 = none) (hL : LegacyHolds f L) (hn : n < 2 ∨ n = 2 ∧ torn = none)
    (hpre : PrefixTear (migration sha L) (n + 1) torn) :
    Recovers sha L (nextWindowsSequence sha) f
      (leave (migration sha L ++ allocation sha L L L) (n + 1) torn f) := by
  have hlt := hL.lt
  match n, torn, hn with
  | 0, none, _ =>
    -- only the first slot exists
    refine recovers_of_slot0 h0 h1 hL (slotHolds_iff.mpr ⟨by simp [migration, apply], hlt⟩)
      (.inr fun u v hu => ?_) (by simp [migration, apply])
    simp [migration, apply, h1] at hu
  | 0, some t, _ =>
    have ht : t <+: makeRecord sha L := hpre t .slot1 _ rfl rfl
    exact recovers_of_slot0 h0 h1 hL
      (slotHolds_iff.mpr ⟨by simp [migration, apply, tear], hlt⟩)
      (slotHolds_or_invalid_of_cut hlt (by simp [migration, apply, tear]) ht)
      (by simp [migration, apply, tear])
  | 1, torn, _ =>
    -- both slots are complete, whatever became of the marker
    refine recovers_of_slot0 h0 h1 hL (slotHolds_iff.mpr ⟨?_, hlt⟩)
      (.inl (slotHolds_iff.mpr ⟨?_, hlt⟩)) ?_ <;>
      cases torn <;> simp [migration, apply, tear]
  | 2, none, _ =>
    refine recovers_of_slot0 h0 h1 hL (slotHolds_iff.mpr ⟨?_, hlt⟩)
      (.inl (slotHolds_iff.mpr ⟨?_, hlt⟩)) ?_ <;>
      · unfold allocation
        split <;> simp [migration, apply]

/-- **Interrupted set-up.** A crash in the migration branch, before, inside or after one of
its three writes, can be recovered from exactly when it does not leave a proper prefix of
the first record; a crash in the initialisation always can. -/
theorem interrupted_setup_recovers_iff (sha : Sha256) {L : ℕ} (hL : L < twoPow64) :
    (∀ (f : Disk) (n : ℕ) (torn : Option Text), f .slot0 = none → f .slot1 = none →
      LegacyHolds f L → (n < 3 ∨ n = 3 ∧ torn = none) → PrefixTear (migration sha L) n torn →
      (Recovers sha L (nextWindowsSequence sha) f ((nextWindowsSequence sha).crash n torn f) ↔
        ¬ (n = 0 ∧ ∃ t, torn = some t ∧ t ≠ makeRecord sha L))) ∧
    ∀ (f : Disk) (n : ℕ) (torn : Option Text),
      Recovers sha L (initializeWindowsSequence sha L) f
        ((initializeWindowsSequence sha L).crash n torn f) := by
  constructor
  · intro f n torn h0 h1 hleg hn hpre
    have htr : (nextWindowsSequence sha).trace f = _ := trace_next_migrate h0 h1 hleg
    rw [crash, htr]
    cases n with
    | succ n =>
      exact iff_of_true (recovers_after_first h0 h1 hleg
        (hn.imp (by omega) fun h => ⟨by omega, h.2⟩) hpre) (by simp)
    | zero =>
      rcases torn with _ | t
      · -- nothing has happened yet
        exact iff_of_true (.inr ⟨rfl, fun _ _ => rfl⟩) (by simp)
      · have ht : t <+: makeRecord sha L := hpre t .slot0 _ rfl rfl
        show Recovers sha L _ f (Function.update f .slot0 (some t)) ↔ _
        by_cases he : t = makeRecord sha L
        · refine iff_of_true (recovers_of_slot0 h0 h1 hleg ?_ (.inr fun u v hu => ?_) ?_) ?_
          · exact slotHolds_iff.mpr ⟨by simp [he], hL⟩
          · simp [h1] at hu
          · simp
          · simp [he]
        · exact iff_of_false (not_recovers_torn h0 h1 hleg ht he) (by simp [he])
  · intro f n torn
    right
    simp [SameResult, exec, trace_initialize hL, initialization, apply]

/-- The statement at a legacy file with the value 7. -/
theorem interrupted_setup_recovers_iff_seven :
    let sha : Sha256 := fun _ _ => 0
    let f : Disk := fun | .sequence => some "7\n" | _ => none
    (Recovers sha 7 (nextWindowsSequence sha) f ((nextWindowsSequence sha).crash 1 (some []) f) ↔
        ¬ (1 = 0 ∧ ∃ t, some [] = some t ∧ t ≠ makeRecord sha 7)) ∧
      Recovers sha 7 (initializeWindowsSequence sha 7) f
        ((initializeWindowsSequence sha 7).crash 0 (some []) f) := by
  intro sha f
  have h := interrupted_setup_recovers_iff sha (L := 7) (by decide)
  refine ⟨h.1 f 1 (some []) rfl rfl ⟨_, rfl, by decide, by decide⟩ (by decide) ?_, h.2 f _ _⟩
  rintro u p b hu -
  cases hu
  exact List.nil_prefix

/-- A legacy file with the value 7 and no slots: the migration crashes when it has created
`sequence.0` and written nothing yet. Uninterrupted it returns 8; now every call fails. -/
theorem torn_migration_unrecoverable :
    let sha : Sha256 := fun _ _ => 0
    let f : Disk := fun | .sequence => some "7\n" | _ => none
    ((nextWindowsSequence sha).exec f).1 = .ok 8 ∧
      ((nextWindowsSequence sha).exec ((nextWindowsSequence sha).crash 0 (some []) f)).1 =
        .error (.plain
          "NAP sequence state is unrecoverable: both redundant slots are invalid") ∧
      ¬ Recovers sha 7 (nextWindowsSequence sha) f
        ((nextWindowsSequence sha).crash 0 (some []) f) := by
  intro sha f
  have hok : ((nextWindowsSequence sha).exec f).1 = .ok 8 := by decide
  have herr : ((nextWindowsSequence sha).exec ((nextWindowsSequence sha).crash 0 (some []) f)).1 =
      .error (.plain "NAP sequence state is unrecoverable: both redundant slots are invalid") := by
    decide
  refine ⟨hok, herr, ?_⟩
  rintro (⟨v, hv, -⟩ | ⟨hsame, -⟩)
  · cases herr.symm.trans hv
  · cases herr.symm.trans (hsame.trans hok)

end NetaAgent.WindowsSequence
