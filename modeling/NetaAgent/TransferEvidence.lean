import NetaAgent.HistoryQueries

/-! The transfer counters of a connection, which SQLite compares as signed integers. -/

namespace NetaAgent.TransferEvidence

open Decimal Sql HistoryStore

/-- What is read of a `TcpSnapshot`. -/
structure Snapshot where
  observedNs : ℕ
  bytesSent : Option ℕ
  bytesReceived : Option ℕ
  transferSource : Text
  transferFidelity : EvidenceFidelity

structure Evidence where
  observedNs : ℕ
  bytesSent : ℕ
  bytesReceived : ℕ
  source : Text
  fidelity : Text

/-- The row `observe` inserts, unless it returns before. -/
def Snapshot.row (s : Snapshot) : Option Evidence := do
  let sent ← s.bytesSent
  let received ← s.bytesReceived
  guard (s.transferSource ≠ [])
  some ⟨s.observedNs, sent, received, bindText s.transferSource, s.transferFidelity.toText⟩

def larger (excluded old : ℕ) : ℕ := if int64 excluded > int64 old then excluded else old

/-- `ON CONFLICT(connection_id) DO UPDATE`. -/
def update (excluded old : Evidence) : Evidence :=
  { excluded with
    observedNs := larger excluded.observedNs old.observedNs
    bytesSent := larger excluded.bytesSent old.bytesSent
    bytesReceived := larger excluded.bytesReceived old.bytesReceived }

/-- `observe`, whose statement may fail, and the deletion of a connection. -/
inductive Call where
  | observe (id : ℤ) (sample : Snapshot) (fails : Bool)
  | delete (id : ℤ)

variable (id : ℤ) (x : List Evidence × Option Evidence)

/-- The row of a connection, beside all inserted since its deletion. -/
def step : Call → List Evidence × Option Evidence
  | .observe i s fails =>
    if i = id ∧ ¬ fails then
      s.row.elim x fun new => (x.1 ++ [new], some (x.2.elim new (update new)))
    else x
  | .delete i => if i = id then ([], none) else x

/-- Each counter is the largest that was inserted, and the source that of the last row. -/
def Summary : Prop :=
  (x.2 = none ↔ x.1 = []) ∧ ∀ r ∈ x.2,
    (∀ f ∈ [Evidence.observedNs, Evidence.bytesSent, Evidence.bytesReceived],
      (∃ w ∈ x.1, f w = f r) ∧ ∀ w ∈ x.1, int64 (f w) ≤ int64 (f r)) ∧
    ∃ w ∈ x.1.getLast?, w.source = r.source ∧ w.fidelity = r.fidelity

lemma largest_append {rows : List Evidence} {f : Evidence → ℕ} {new r r' : Evidence}
    (h : (∃ w ∈ rows, f w = f r) ∧ ∀ w ∈ rows, int64 (f w) ≤ int64 (f r))
    (hr : f r' = larger (f new) (f r)) :
    (∃ w ∈ rows ++ [new], f w = f r') ∧ ∀ w ∈ rows ++ [new], int64 (f w) ≤ int64 (f r') := by
  obtain ⟨⟨w, hw, heq⟩, hle⟩ := h
  rw [hr, larger]
  split_ifs with hlarger
  · refine ⟨⟨new, by simp, rfl⟩, fun v hv => ?_⟩
    rcases List.mem_append.mp hv with hv | hv
    · exact (hle v hv).trans hlarger.le
    · rw [List.mem_singleton.mp hv]
  · refine ⟨⟨w, by simp [hw], heq⟩, fun v hv => ?_⟩
    rcases List.mem_append.mp hv with hv | hv
    · exact hle v hv
    · rw [List.mem_singleton.mp hv]
      exact not_lt.mp hlarger

lemma Summary.next (h : Summary x) (c : Call) : Summary (step id x c) := by
  obtain ⟨rows, row⟩ := x
  cases c with
  | observe i s fails =>
    simp only [step]
    split_ifs
    · cases s.row with
      | none => exact h
      | some new =>
        cases row with
        | none =>
          -- the first sample is the whole row
          obtain rfl : rows = [] := h.1.mp rfl
          refine ⟨by simp, ?_⟩
          rintro r ⟨⟩
          exact ⟨fun f _ => ⟨⟨new, by simp, rfl⟩, by simp⟩, new, rfl, rfl, rfl⟩
        | some old =>
          obtain ⟨hlargest, -⟩ := h.2 old rfl
          refine ⟨by simp, ?_⟩
          rintro r ⟨⟩
          refine ⟨fun f hf => largest_append (hlargest f hf) ?_, new, by simp, rfl, rfl⟩
          simp only [List.mem_cons, List.not_mem_nil, or_false] at hf
          rcases hf with rfl | rfl | rfl <;> rfl
    · exact h
  | delete i => grind [step, Summary]

/-- **The counters never go back**, whichever samples are not stored. -/
theorem counters_largest (calls : List Call) : Summary (calls.foldl (step id) ([], none)) :=
  List.foldlRecOn calls _ (by simp [Summary]) fun _ h c _ => h.next id _ c

end NetaAgent.TransferEvidence
