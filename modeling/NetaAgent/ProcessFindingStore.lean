import NetaAgent.HistoryStore
import NetaAgent.ProcessFindingEngine

/-!
`ProcessFindingStore`: the rows of processes and of findings, and the statements on them.

A finding is stored under a key made of its rule and its processes, and under an identifier made
from a digest of the key; both are unique. A repeated finding replaces the evidence of its row,
and is reported again when the evidence root has changed.
-/

namespace NetaAgent.FindingStore

open Decimal Crypto Sql Processes
open HistoryStore (ReportState StoreError)
open List

/-! ### The rows -/

structure InstanceRow where
  processKey : Text
  pid : ℤ := 0
  parentKey : Option Text := none
  parentPid : Option ℤ := none
  startedAtNs : ℕ := 0
  exitedAtNs : Option ℕ := none
  exitCode : Option ℤ := none
  uid : Option ℕ := none
  gid : Option ℕ := none
  sessionId : Option ℕ := none
  userIdentity : Text := []
  integrityLevel : Text := []
  elevated : Option Bool := none
  comm : Text := []
  executablePath : Text := []
  commandLine : Text := []
  workingDirectory : Text := []
  updatedAtNs : ℕ := 0

/-- A column `parent_key` that is null reads as the empty text. -/
structure StoredProcessFinding where
  findingId : Text
  findingKey : Text
  ruleId : Text := []
  rulesetVersion : Text := []
  severity : Text := []
  processKey : Text := []
  parentKey : Text := []
  pid : ℤ := 0
  parentPid : Option ℤ := none
  processImage : Text := []
  parentImage : Text := []
  commandLine : Text := []
  summary : Text := []
  interpretation : Text := []
  evidenceRoot : Text := []
  observedAtNs : ℕ := 0
  firstSeenNs : ℕ := 0
  lastSeenNs : ℕ := 0
  occurrenceCount : ℕ := 1
  reportState : ReportState := .pending
  deriving DecidableEq

/-- The columns of `StoredProcessFinding`, and those that are not read back. -/
structure FindingRow extends StoredProcessFinding where
  lastReportAttemptNs : Option ℕ := none
  reportedAtNs : Option ℕ := none
  deriving DecidableEq

structure Tables where
  instances : Table InstanceRow.processKey
  findings : Table fun r : FindingRow => r.findingId
  unique : (findings.rows.map fun r => r.findingKey).Nodup

def Tables.empty : Tables := ⟨.empty, .empty, nodup_nil⟩

abbrev TablesM := SqlM Tables StoreError

def stableProcessKey (key : ProcessInstanceKey) : Text :=
  let pid := ":pid:" ++ signedDecimal key.pid
  match key.platformKey, key.startTimeNs with
  | some native, _ => "native:" ++ decimal native ++ pid
  | none, some start => "start-ns:" ++ decimal start ++ pid
  | none, none => "unstable" ++ pid

def optionalProcessKey (key : Option ProcessInstanceKey) : Text := key.elim [] stableProcessKey

def severityText : ProcessFindingSeverity → Text
  | .low => "LOW"
  | .medium => "MEDIUM"
  | .high => "HIGH"

/-! ### Rows of processes -/

variable (sha : Sha256) (finding : Processes.ProcessFinding) (node : ProcessNode)

/-- The values that `upsert_process` binds. -/
def instanceRow : InstanceRow where
  processKey := bindText (stableProcessKey node.key)
  pid := node.key.pid
  parentKey := node.parent.map fun p => bindText (stableProcessKey p)
  parentPid := node.parentPid
  startedAtNs := node.startedAtNs
  exitedAtNs := node.exitedAtNs
  exitCode := node.exitCode
  uid := node.uid
  gid := node.gid
  sessionId := node.sessionId
  userIdentity := bindText node.userIdentity
  integrityLevel := bindText node.integrityLevel
  elevated := node.elevated
  comm := bindText node.comm
  executablePath := bindText node.executablePath
  commandLine := bindText node.commandLine
  workingDirectory := bindText node.workingDirectory
  updatedAtNs := node.exitedAtNs.getD node.startedAtNs

/-- The row after the update: the key, the pid and the start are kept. -/
def InstanceRow.renewed (excluded row : InstanceRow) : InstanceRow :=
  { excluded with processKey := row.processKey, pid := row.pid, startedAtNs := row.startedAtNs }

lemma InstanceRow.renewed_key (excluded row : InstanceRow) :
    (excluded.renewed row).processKey = row.processKey := rfl

def Tables.putInstance (row : InstanceRow) (db : Tables) : Tables :=
  { db with instances := db.instances.upsert row row.renewed row.renewed_key }

def upsertProcess : TablesM Unit :=
  modify fun db => db.putInstance (instanceRow node)

def Tables.hasInstance (db : Tables) (processKey : Text) : Bool :=
  db.instances.rows.any fun r => r.processKey = processKey

variable {db db' : Tables}

lemma Tables.hasInstance_iff {k : Text} :
    db.hasInstance k = true ↔ ∃ r ∈ db.instances, r.processKey = k := by
  simp [Tables.hasInstance, Table.mem_def]

lemma Tables.hasInstance_putInstance_of {row : InstanceRow} {k : Text}
    (h : db.hasInstance k = true) : (db.putInstance row).hasInstance k = true := by
  obtain ⟨r, hr, rfl⟩ := hasInstance_iff.mp h
  exact hasInstance_iff.mpr (Table.exists_mem_upsert hr)

lemma Tables.hasInstance_putInstance_self {row : InstanceRow} :
    (db.putInstance row).hasInstance row.processKey = true := hasInstance_iff.mpr Table.upsert_self

/-! ### Rows of findings -/

section Rows
variable (sha : Sha256) (finding : Processes.ProcessFinding)

def findingKey : Text :=
  finding.ruleId ++ '|' :: stableProcessKey finding.process ++
    '|' :: optionalProcessKey finding.parent

def findingId : Text :=
  "FINDING-PROC-" ++ (sha256Hex sha (findingKey finding)).take 24

def evidenceText : Text :=
  finding.ruleId ++ '|' :: finding.rulesetVersion ++ '|' :: stableProcessKey finding.process ++
    '|' :: optionalProcessKey finding.parent ++ '|' :: finding.processImage ++
    '|' :: finding.parentImage ++ '|' :: finding.commandLine ++ '|' :: decimal finding.observedAtNs

def evidenceRoot : Text := "sha256:" ++ sha256Hex sha (evidenceText finding)

/-- The values that `upsert_finding` binds. -/
def findingRow : FindingRow where
  findingId := bindText (findingId sha finding)
  findingKey := bindText (findingKey finding)
  ruleId := bindText finding.ruleId
  rulesetVersion := bindText finding.rulesetVersion
  severity := severityText finding.severity
  processKey := bindText (stableProcessKey finding.process)
  parentKey := bindText (optionalProcessKey finding.parent)
  pid := finding.process.pid
  parentPid := finding.parent.map ProcessInstanceKey.pid
  processImage := bindText finding.processImage
  parentImage := bindText finding.parentImage
  commandLine := bindText finding.commandLine
  summary := bindText finding.summary
  interpretation := bindText finding.interpretation
  evidenceRoot := bindText (evidenceRoot sha finding)
  observedAtNs := finding.observedAtNs
  firstSeenNs := finding.observedAtNs
  lastSeenNs := finding.observedAtNs

end Rows

def FindingRow.repeated (excluded row : FindingRow) : FindingRow :=
  { row with
    severity := excluded.severity
    processImage := excluded.processImage
    parentImage := excluded.parentImage
    commandLine := excluded.commandLine
    summary := excluded.summary
    interpretation := excluded.interpretation
    evidenceRoot := excluded.evidenceRoot
    observedAtNs := excluded.observedAtNs
    lastSeenNs := excluded.lastSeenNs
    occurrenceCount := row.occurrenceCount + 1
    reportState := if row.evidenceRoot ≠ excluded.evidenceRoot then .pending else row.reportState }

lemma FindingRow.repeated_id (excluded row : FindingRow) :
    (excluded.repeated row).findingId = row.findingId := rfl

lemma FindingRow.repeated_key (excluded row : FindingRow) :
    (excluded.repeated row).findingKey = row.findingKey := rfl

variable {f : FindingRow → FindingRow}

lemma unique_update {t : Table fun r : FindingRow => r.findingId} {p : FindingRow → Bool}
    (hid : ∀ r, (f r).findingId = r.findingId)
    (hkey : ∀ r, (f r).findingKey = r.findingKey) (h : (t.rows.map fun r => r.findingKey).Nodup) :
    ((t.update p f hid).rows.map fun r => r.findingKey).Nodup := by
  have hkeys : ((t.update p f hid).rows.map fun r => r.findingKey) =
      t.rows.map fun r => r.findingKey := by
    simp only [Table.update, map_map]
    refine map_congr_left fun r _ => ?_
    by_cases hp : p r <;> simp [hp, hkey]
  rw [hkeys]
  exact h

def Tables.updateFindings (db : Tables) (p : FindingRow → Bool) (f : FindingRow → FindingRow)
    (hid : ∀ r, (f r).findingId = r.findingId) (hkey : ∀ r, (f r).findingKey = r.findingKey) :
    Tables where
  instances := db.instances
  findings := db.findings.update p f hid
  unique := unique_update hid hkey db.unique

lemma nodup_append_new {α κ : Type} {f : α → κ} {l : List α} {a : α} (h : (l.map f).Nodup)
    (ha : f a ∉ l.map f) : ((l ++ [a]).map f).Nodup := by
  rw [map_append, map_singleton]
  exact h.append (nodup_singleton _) (disjoint_singleton.mpr ha)

variable {r' row : FindingRow}

lemma Tables.nodup_findings (h : row.findingId ∉ db.findings.rows.map fun r => r.findingId) :
    ((db.findings.rows ++ [row]).map fun r => r.findingId).Nodup :=
  nodup_append_new db.findings.nodup h

lemma Tables.unique_findings (h : row.findingKey ∉ db.findings.rows.map fun r => r.findingKey) :
    ((db.findings.rows ++ [row]).map fun r => r.findingKey).Nodup := nodup_append_new db.unique h

section Upsert

local instance lawfulBEq_text : LawfulBEq Text := inferInstance

/-- The statement of `upsert_finding`. -/
def Tables.putFinding (row : FindingRow) (db : Tables) : Except StoreError Tables :=
  if hkey : row.findingKey ∈ db.findings.rows.map fun r => r.findingKey then
    .ok (db.updateFindings (fun r => r.findingKey = row.findingKey) row.repeated row.repeated_id
      row.repeated_key)
  else if hid : row.findingId ∈ db.findings.rows.map fun r => r.findingId then
    .error (.failed "UNIQUE constraint failed: process_findings_ms5.finding_id")
  else if db.hasInstance row.processKey then
    .ok {
      instances := db.instances
      findings := ⟨db.findings.rows ++ [row], Tables.nodup_findings hid⟩
      unique := Tables.unique_findings hkey }
  else .error .foreignKey

end Upsert

def Tables.findFinding (db : Tables) (key : Text) : Option FindingRow :=
  db.findings.rows.find? fun r => r.findingKey = key

def insertFinding : TablesM Unit :=
  statement fun _ db => (db.putFinding (findingRow sha finding)).map fun db => ((), db)

def selectFinding : TablesM StoredProcessFinding :=
  statement fun _ db =>
    match db.findFinding (bindText (findingKey finding)) with
    | some row => .ok (row.toStoredProcessFinding, db)
    | none => .error (.failed "no more rows available")

def upsertFinding : TablesM StoredProcessFinding := do
  insertFinding sha finding
  selectFinding finding

/-- What the statement can do: it repeats the row of the key, or it adds a row under new keys for
a process that has its row. -/
lemma Tables.putFinding_ok (h : db.putFinding row = .ok db') :
    db'.instances = db.instances ∧ ((∃ r ∈ db.findings, r.findingKey = row.findingKey) ∧
        (∀ r', r' ∈ db'.findings ↔
          ∃ r ∈ db.findings, (if r.findingKey = row.findingKey then row.repeated r else r) = r') ∨
      (∀ r ∈ db.findings, r.findingKey ≠ row.findingKey ∧ r.findingId ≠ row.findingId) ∧
        db.hasInstance row.processKey = true ∧
        ∀ r', r' ∈ db'.findings ↔ r' ∈ db.findings ∨ r' = row) := by
  unfold putFinding at h
  split at h
  · next hkey =>
    cases h
    obtain ⟨r, hr, hrk⟩ := mem_map.mp hkey
    refine ⟨rfl, .inl ⟨⟨r, hr, hrk⟩, fun r' => ?_⟩⟩
    simp [updateFindings]
  · next hkey =>
    split at h
    · cases h
    next hid =>
    split at h
    · next hinstance =>
      cases h
      refine ⟨rfl, .inr ⟨fun r hr => ⟨fun hk => ?_, fun hi => ?_⟩, hinstance, fun r' => ?_⟩⟩
      · exact hkey (mem_map.mpr ⟨r, hr, hk⟩)
      · exact hid (mem_map.mpr ⟨r, hr, hi⟩)
      · simp [Table.mem_def]
    · cases h

lemma Tables.putFinding_error {e : StoreError} (h : db.putFinding row = .error e) :
    (∀ r ∈ db.findings, r.findingKey ≠ row.findingKey) ∧
      ((∃ r ∈ db.findings, r.findingId = row.findingId) ∨
        db.hasInstance row.processKey = false) := by
  unfold putFinding at h
  split at h
  · cases h
  next hkey =>
  refine ⟨fun r hr hk => hkey (mem_map.mpr ⟨r, hr, hk⟩), ?_⟩
  split at h
  · next hid =>
    obtain ⟨r, hr, hrid⟩ := mem_map.mp hid
    exact .inl ⟨r, hr, hrid⟩
  · split at h
    · cases h
    · next hinstance => exact .inr (by simpa using hinstance)

/-! ### Reports -/

def seenEarlier (a b : FindingRow) : Bool := int64 a.lastSeenNs ≤ int64 b.lastSeenNs

/-- A finding that waits for its report, and was not tried too recently. -/
def FindingRow.due (cutoff : ℕ) (row : FindingRow) : Bool :=
  row.reportState = .pending && row.lastReportAttemptNs.all fun t => int64 t ≤ int64 cutoff

def pendingForReport (limit nowNs retryAfterNs : ℕ) : TablesM (List StoredProcessFinding) :=
  scan fun tie db =>
    (pickMany seenEarlier tie limit
      (db.findings.rows.filter (FindingRow.due (nowNs - retryAfterNs)))).map
      FindingRow.toStoredProcessFinding

variable (findingId : Text)

def Tables.mark (f : FindingRow → FindingRow)
    (hid : ∀ r, (f r).findingId = r.findingId) (hkey : ∀ r, (f r).findingKey = r.findingKey)
    (db : Tables) : Tables :=
  db.updateFindings (fun r => r.findingId = bindText findingId) f hid hkey

def FindingRow.attempted (nowNs : ℕ) (row : FindingRow) : FindingRow :=
  { row with lastReportAttemptNs := some nowNs }

variable (nowNs : ℕ)

lemma FindingRow.attempted_id (row : FindingRow) :
    (row.attempted nowNs).findingId = row.findingId := rfl

lemma FindingRow.attempted_key (row : FindingRow) :
    (row.attempted nowNs).findingKey = row.findingKey := rfl

def markReportAttempt (nowNs : ℕ) : TablesM Unit :=
  modify (Tables.mark findingId (FindingRow.attempted nowNs) (FindingRow.attempted_id nowNs)
    (FindingRow.attempted_key nowNs))

def FindingRow.reportedAt (row : FindingRow) : FindingRow :=
  { row with
    reportState := .reported
    reportedAtNs := some nowNs
    lastReportAttemptNs := some nowNs }

lemma FindingRow.reportedAt_id (row : FindingRow) :
    (row.reportedAt nowNs).findingId = row.findingId := rfl

lemma FindingRow.reportedAt_key (row : FindingRow) :
    (row.reportedAt nowNs).findingKey = row.findingKey := rfl

def markReported (nowNs : ℕ) : TablesM Unit :=
  modify (Tables.mark findingId (FindingRow.reportedAt nowNs) (FindingRow.reportedAt_id nowNs)
    (FindingRow.reportedAt_key nowNs))

lemma Tables.mem_mark {id : Text}
    {hid : ∀ r, (f r).findingId = r.findingId} {hkey : ∀ r, (f r).findingKey = r.findingKey}
    : r' ∈ (db.mark id f hid hkey).findings ↔
      ∃ r ∈ db.findings, (if r.findingId = bindText id then f r else r) = r' := by
  simp [mark, updateFindings]

end NetaAgent.FindingStore
