import NetaAgent.ProcessFindingStore
import NetaAgent.Run
import NetaAgent.Verdict

/-!
`ProcessFindingRuntime::report_pending` of several processes on one database, beside
`upsert_finding`.

A report reads the findings that wait, and then, for each of them, marks the attempt, submits the
announcement, and marks the row as reported. The row is marked by its identifier, whatever
evidence it has by then. `Undisturbed` says that no finding is stored with new evidence between
the reading of its row and that mark.
-/

namespace NetaAgent.FindingStore

open Decimal Crypto Sql Processes Run
open HistoryStore (ReportState StoreError)
open List Function

structure FindingAnnouncementInput where
  findingId : Text
  findingKey : Text
  host : Text
  port : ℕ
  transport : Text
  subjectType : Text
  subjectId : Text
  subjectPid : Option ℤ
  subjectParentPid : Option ℤ
  subjectImage : Text
  subjectParentImage : Text
  subjectCommandLine : Text
  severity : Text
  ruleId : Text
  ruleSetId : Text
  ruleSetVersion : Text
  interpretation : Text
  changes : List Text
  performanceVerdict : Text
  trustVerdict : Text
  evidenceRoot : Text

def change (label : String) (value : Text) : List Text :=
  if value = [] then [] else [label.toList ++ value]

def announcement (finding : StoredProcessFinding) : FindingAnnouncementInput where
  findingId := finding.findingId
  findingKey := finding.findingKey
  host := "process:" ++ finding.processKey
  port := 1
  transport := "process"
  subjectType := "PROCESS"
  subjectId := finding.processKey
  subjectPid := some finding.pid
  subjectParentPid := finding.parentPid
  subjectImage := finding.processImage
  subjectParentImage := finding.parentImage
  subjectCommandLine := finding.commandLine
  severity := finding.severity
  ruleId := finding.ruleId
  ruleSetId := "neta-default"
  ruleSetVersion := finding.rulesetVersion
  interpretation := finding.interpretation
  changes :=
    ["Rule: " ++ finding.ruleId, "Severity: " ++ finding.severity,
      "Ruleset: " ++ finding.rulesetVersion,
      "Process PID: " ++ signedDecimal finding.pid] ++
    (finding.parentPid.map fun pid => "Parent PID: " ++ signedDecimal pid).toList ++
    [finding.summary] ++
    change "Interpretation: " finding.interpretation ++
    change "Process image: " finding.processImage ++
    change "Parent image: " finding.parentImage ++
    change "Command: " finding.commandLine
  performanceVerdict := "UNKNOWN"
  trustVerdict := "UNVERIFIED"
  evidenceRoot := finding.evidenceRoot

/-! ### A report -/

structure ProcessFindingReportResult where
  considered : ℕ := 0
  announced : ℕ := 0
  failed : ℕ := 0

variable (r : ProcessFindingReportResult)

def ProcessFindingReportResult.consider :
    ProcessFindingReportResult := { r with considered := r.considered + 1 }

def ProcessFindingReportResult.announce :
    ProcessFindingReportResult := { r with announced := r.announced + 1 }

def ProcessFindingReportResult.fail :
    ProcessFindingReportResult := { r with failed := r.failed + 1 }

/-- A call of `report_pending`, before each of its operations; the findings that are left are in
memory. The artifact evidence, which comes last, is in other tables. -/
inductive Reporting where
  | idle
  | reading (currentNs : ℕ)
  | attempting (currentNs : ℕ) (result : ProcessFindingReportResult)
      (rest : List StoredProcessFinding)
  | submitting (currentNs : ℕ) (result : ProcessFindingReportResult)
      (finding : StoredProcessFinding) (rest : List StoredProcessFinding)
  | marking (currentNs : ℕ) (result : ProcessFindingReportResult)
      (finding : StoredProcessFinding) (rest : List StoredProcessFinding)
  | returned (result : ProcessFindingReportResult)
  | threw (e : StoreError)

/-- What `submit_finding` comes to. -/
inductive Submission where
  | acknowledged
  | retained
  | threw
  deriving DecidableEq

structure Env where
  oracle : Oracle StoreError
  nowNs : ℕ
  submission : Submission

def retryAfterNs : ℕ := 60000000000

def Reporting.step (env : Env) (db : Tables) : Reporting → Tables × Reporting
  | .reading currentNs =>
    match exec (pendingForReport 32 currentNs retryAfterNs) env.oracle db with
    | (.ok rows, db) => (db, .attempting currentNs {} rows)
    | (.error e, db) => (db, .threw e)
  | .attempting _ result [] => (db, .returned result)
  | .attempting currentNs result (finding :: rest) =>
    match exec (markReportAttempt finding.findingId currentNs) env.oracle db with
    | (.ok (), db) => (db, .submitting currentNs result.consider finding rest)
    | (.error e, db) => (db, .threw e)
  | .submitting currentNs result finding rest =>
    match env.submission with
    | .acknowledged => (db, .marking currentNs result finding rest)
    | _ => (db, .attempting currentNs result.fail rest)
  | .marking currentNs result finding rest =>
    match exec (markReported finding.findingId env.nowNs) env.oracle db with
    | (.ok (), db) => (db, .attempting currentNs result.announce rest)
    | (.error _, db) => (db, .attempting currentNs result.fail rest)
  | c => (db, c)

/-- The announcement that the operation submits and sees acknowledged. -/
def Reporting.acknowledges (env : Env) : Reporting → List FindingAnnouncementInput
  | .submitting _ _ finding _ =>
    if env.submission = .acknowledged then [announcement finding] else []
  | _ => []

/-- The findings that were read and are not dealt with yet. -/
def Reporting.held : Reporting → List StoredProcessFinding
  | .attempting _ _ rest => rest
  | .submitting _ _ finding rest | .marking _ _ finding rest => finding :: rest
  | _ => []

/-! ### Processes on one database -/

/-- `acknowledged` is the history of the announcements for which `submit_finding` returned that
they were acknowledged. -/
structure Reports where
  db : Tables
  reporters : ℕ → Reporting
  acknowledged : List FindingAnnouncementInput

/-- Process `p` does something. The second statement of `upsert_finding` only reads. -/
inductive ReportAction where
  | upsertProcess (oracle : Oracle StoreError) (node : ProcessNode)
  | upsertFinding (oracle : Oracle StoreError) (finding : Processes.ProcessFinding)
  | report (p currentNs : ℕ)
  | proceed (p : ℕ) (env : Env)

namespace Reports

def initial : Reports := ⟨.empty, fun _ => .idle, []⟩

variable (sha : Sha256) (w : Reports)

def step : ReportAction → Reports
  | .upsertProcess o node => { w with db := (exec (upsertProcess node) o w.db).2 }
  | .upsertFinding o finding => { w with db := (exec (upsertFinding sha finding) o w.db).2 }
  | .report p currentNs =>
    { w with reporters := Function.update w.reporters p (.reading currentNs) }
  | .proceed p env =>
    let after := (w.reporters p).step env w.db
    { db := after.1
      reporters := Function.update w.reporters p after.2
      acknowledged := (w.reporters p).acknowledges env ++ w.acknowledged }

/-- A finding that is stored does not change the evidence of a row that a report has read and has
not dealt with yet. -/
def Undisturbed : ReportAction → Prop
  | .upsertFinding _ finding =>
    ∀ p, ∀ x ∈ (w.reporters p).held, ∀ r ∈ w.db.findings,
      r.findingKey = bindText (findingKey finding) → r.findingId = x.findingId →
        r.evidenceRoot = bindText (evidenceRoot sha finding)
  | _ => True

/-- The evidence of the finding was announced and acknowledged. -/
def Acknowledged (id root : Text) : Prop :=
  ∃ a ∈ w.acknowledged, a.findingId = id ∧ a.evidenceRoot = root

structure Faithful (w : Reports) : Prop where
  bound : ∀ r ∈ w.db.findings, bindText r.findingId = r.findingId
  reported : ∀ r ∈ w.db.findings, r.reportState = .reported → w.Acknowledged r.findingId r.evidenceRoot
  held : ∀ p, ∀ x ∈ (w.reporters p).held,
    ∃ r ∈ w.db.findings, r.findingId = x.findingId ∧ r.evidenceRoot = x.evidenceRoot
  marking : ∀ p t result x rest, w.reporters p = .marking t result x rest →
    w.Acknowledged x.findingId x.evidenceRoot

end Reports

/-! ### What the operations do to the rows -/

lemma modify_cases {D ε : Type} (f : D → D) (o : Oracle ε) (db : D) :
    exec (Sql.modify f) o db = (.ok (), f db) ∨ ∃ e, exec (Sql.modify f) o db = (.error e, db) := by
  unfold exec Sql.modify statement
  simp only
  cases o.fails 0 with
  | none => exact .inl rfl
  | some x => exact .inr ⟨x.error, rfl⟩

/-- The rows of `db`, of which the one under `marked` may have become reported. -/
structure Marks (marked : Option Text) (db db' : Tables) : Prop where
  forth : ∀ r ∈ db.findings, ∃ r' ∈ db'.findings,
    r'.findingId = r.findingId ∧ r'.evidenceRoot = r.evidenceRoot
  back : ∀ r' ∈ db'.findings, ∃ r ∈ db.findings,
    r'.findingId = r.findingId ∧ r'.evidenceRoot = r.evidenceRoot ∧
      (r'.reportState = .reported → r.reportState = .reported ∨ marked = some r.findingId)

lemma Marks.refl (marked : Option Text) (db : Tables) : Marks marked db db where
  forth r hr := ⟨r, hr, rfl, rfl⟩
  back r hr := ⟨r, hr, rfl, rfl, .inl⟩

lemma marks_mark {db : Tables} {id : Text} {f : FindingRow → FindingRow} {marked : Option Text}
    (hid : ∀ r, (f r).findingId = r.findingId) (hkey : ∀ r, (f r).findingKey = r.findingKey)
    (hroot : ∀ r, (f r).evidenceRoot = r.evidenceRoot)
    (hstate : ∀ r, r.findingId = bindText id → (f r).reportState = .reported →
      r.reportState = .reported ∨ marked = some r.findingId) :
    Marks marked db (db.mark id f hid hkey) where
  forth r hr := by
    refine ⟨_, Tables.mem_mark.mpr ⟨r, hr, rfl⟩, ?_⟩
    split
    · exact ⟨hid r, hroot r⟩
    · exact ⟨rfl, rfl⟩
  back r' hr' := by
    obtain ⟨r, hr, rfl⟩ := Tables.mem_mark.mp hr'
    refine ⟨r, hr, ?_⟩
    split
    · next h => exact ⟨hid r, hroot r, hstate r h⟩
    · exact ⟨rfl, rfl, .inl⟩

lemma marks_attempt (id : Text) (now : ℕ) (o : Oracle StoreError) (db : Tables) :
    Marks none db (exec (markReportAttempt id now) o db).2 := by
  unfold markReportAttempt
  rcases modify_cases _ o db with h | ⟨e, h⟩
  · rw [h]
    exact marks_mark _ (FindingRow.attempted_key now) (fun _ => rfl) fun _ _ => .inl
  · rw [h]
    exact .refl none db

lemma marks_reported (id : Text) (now : ℕ) (o : Oracle StoreError) (db : Tables) :
    Marks (some (bindText id)) db (exec (markReported id now) o db).2 := by
  unfold markReported
  rcases modify_cases _ o db with h | ⟨e, h⟩
  · rw [h]
    exact marks_mark _ (FindingRow.reportedAt_key now) (fun _ => rfl) fun r hr _ =>
       .inr (congrArg some hr.symm)
  · rw [h]
    exact .refl _ db

def Reporting.marked : Reporting → Option Text
  | .marking _ _ finding _ => some (bindText finding.findingId)
  | _ => none

section Operations
variable {env : Env} {db : Tables} {c : Reporting}

lemma pendingForReport_cases (limit now retry : ℕ) (o : Oracle StoreError) (db : Tables) :
    (exec (pendingForReport limit now retry) o db).2 = db ∧
      ∀ rows, (exec (pendingForReport limit now retry) o db).1 = .ok rows →
        ∀ x ∈ rows, ∃ r ∈ db.findings, r.toStoredProcessFinding = x := by
  have hscan : Triple (fun _ : StoreError => True) (· = db) (pendingForReport limit now retry)
      (fun rows db' => db' = db ∧ ∀ x ∈ rows, ∃ r ∈ db.findings, r.toStoredProcessFinding = x)
      fun _ db' => db' = db := by
    refine Triple.scan ?_ fun _ _ _ h => h
    rintro tie _ n rfl
    refine ⟨rfl, fun x hx => ?_⟩
    obtain ⟨r, hr, rfl⟩ := mem_map.mp (mem_of_mem_take hx)
    exact ⟨r, (mem_filter.mp (pickMany_subset hr)).1, rfl⟩
  rcases hscan.exec (o := o) (fun _ _ _ => trivial) rfl with ⟨rows, hr, hdb, hrows⟩ | ⟨e, hr, hdb⟩
  · refine ⟨hdb, fun rows' h => ?_⟩
    rw [hr] at h
    cases h
    exact hrows
  · refine ⟨hdb, fun rows' h => ?_⟩
    rw [hr] at h
    cases h

lemma Reporting.step_marks : Marks c.marked db (c.step env db).1 := by
  cases c with
  | idle | returned result | threw e => exact .refl _ db
  | reading t =>
    have hmarks : Marks none db (exec (pendingForReport 32 t retryAfterNs) env.oracle db).2 := by
      rw [(pendingForReport_cases 32 t retryAfterNs env.oracle db).1]
      exact .refl none db
    simp only [step]
    split <;> rename_i h <;> rw [h] at hmarks <;> exact hmarks
  | attempting t result rest =>
    cases rest with
    | nil => exact .refl _ db
    | cons x =>
      have hmarks := marks_attempt x.findingId t env.oracle db
      simp only [step]
      split <;> rename_i h <;> rw [h] at hmarks <;> exact hmarks
  | submitting =>
    simp only [step]
    split <;> exact .refl _ db
  | marking t result x =>
    have hmarks := marks_reported x.findingId env.nowNs env.oracle db
    simp only [step]
    split <;> rename_i h <;> rw [h] at hmarks <;> exact hmarks

variable {x : StoredProcessFinding}

lemma Reporting.step_held (hx : x ∈ (c.step env db).2.held) :
    x ∈ c.held ∨ ∃ r ∈ db.findings, r.toStoredProcessFinding = x := by
  cases c with
  | idle | returned result | threw e => exact .inl hx
  | reading t =>
    have hrows := (pendingForReport_cases 32 t retryAfterNs env.oracle db).2
    simp only [step] at hx
    split at hx
    · next h =>
      rw [h] at hrows
      exact .inr (hrows _ rfl x hx)
    · cases hx
  | attempting t result rest =>
    cases rest with
    | nil => cases hx
    | cons =>
      simp only [step] at hx
      split at hx
      · exact .inl hx
      · cases hx
  | submitting t result y =>
    simp only [step] at hx
    split at hx
    · exact .inl hx
    · exact .inl (mem_cons_of_mem y hx)
  | marking t result y =>
    simp only [step] at hx
    split at hx <;> exact .inl (mem_cons_of_mem y hx)

lemma Reporting.step_marking {t : ℕ} {result : ProcessFindingReportResult} {rest : List StoredProcessFinding}
    (h : (c.step env db).2 = .marking t result x rest) : announcement x ∈ c.acknowledges env := by
  cases c with
  | idle | returned result | threw e => cases h
  | attempting t result rest =>
    cases rest with
    | nil => cases h
    | cons =>
      simp only [step] at h
      split at h <;> cases h
  | submitting =>
    simp only [step] at h
    split at h
    · next hs =>
      cases h
      simp [acknowledges, hs]
    · cases h
  | reading | marking =>
    simp only [step] at h
    split at h <;> cases h

end Operations

namespace Reports

variable {sha : Sha256} {w : Reports}

/-! ### The steps keep the invariant -/

lemma faithful_initial : initial.Faithful where
  bound r hr := absurd hr (Table.not_mem_empty r)
  reported r hr := absurd hr (Table.not_mem_empty r)
  held _ _ hx := absurd hx not_mem_nil
  marking _ _ _ _ _ h := by cases h

lemma Acknowledged.mono {l : List FindingAnnouncementInput} {id root : Text} {db : Tables}
    {reporters : ℕ → Reporting} (h : w.Acknowledged id root) :
    Acknowledged ⟨db, reporters, l ++ w.acknowledged⟩ id root := by
  obtain ⟨a, ha, hid, hroot⟩ := h
  exact ⟨a, mem_append_right l ha, hid, hroot⟩

lemma Faithful.proceed (h : w.Faithful) (p : ℕ) (env : Env) :
    (w.step sha (.proceed p env)).Faithful := by
  have hmarks : Marks (w.reporters p).marked w.db ((w.reporters p).step env w.db).1 :=
    Reporting.step_marks
  -- what is held is still there
  have hkept : ∀ x : StoredProcessFinding,
      (∃ r ∈ w.db.findings, r.findingId = x.findingId ∧ r.evidenceRoot = x.evidenceRoot) →
      ∃ r ∈ ((w.reporters p).step env w.db).1.findings,
        r.findingId = x.findingId ∧ r.evidenceRoot = x.evidenceRoot := by
    rintro x ⟨r, hr, hid, hroot⟩
    obtain ⟨r', hr', hid', hroot'⟩ := hmarks.forth r hr
    exact ⟨r', hr', hid'.trans hid, hroot'.trans hroot⟩
  refine ⟨fun r' hr' => ?_, fun r' hr' hstate => ?_, fun q x hx => ?_, fun q t result x rest hq => ?_⟩
  · obtain ⟨r, hr, hid, -⟩ := hmarks.back r' hr'
    rw [hid]
    exact h.bound r hr
  · obtain ⟨r, hr, hid, hroot, hreported⟩ := hmarks.back r' hr'
    rw [hid, hroot]
    rcases hreported hstate with hreported | hmarked
    · exact (h.reported r hr hreported).mono
    -- the row that is marked is the one that was announced
    cases hc : w.reporters p with
    | marking t result x rest =>
      rw [hc] at hmarked
      obtain ⟨r₀, hr₀, hid₀, hroot₀⟩ := h.held p x (by rw [hc]; exact mem_cons_self)
      have hx : bindText x.findingId = r.findingId := Option.some.inj hmarked
      have hsame : r₀ = r := by
        refine Table.eq_of_key_eq hr₀ hr (?_ : r₀.findingId = r.findingId)
        rw [← hx, ← hid₀]
        exact (h.bound r₀ hr₀).symm
      rw [← hsame, hid₀, hroot₀]
      exact (h.marking p t result x rest hc).mono
    | _ => rw [hc] at hmarked; cases hmarked
  · refine hkept x ?_
    by_cases hqp : q = p
    · subst hqp
      simp only [step, update_self] at hx
      rcases Reporting.step_held hx with hx | ⟨r, hr, rfl⟩
      · exact h.held q x hx
      · exact ⟨r, hr, rfl, rfl⟩
    · simp only [step, update_of_ne hqp] at hx
      exact h.held q x hx
  · by_cases hqp : q = p
    · subst hqp
      simp only [step, update_self] at hq
      exact ⟨announcement x, mem_append_left _ (Reporting.step_marking hq), rfl, rfl⟩
    · simp only [step, update_of_ne hqp] at hq
      exact (h.marking q t result x rest hq).mono

lemma Faithful.report (h : w.Faithful) (p currentNs : ℕ) :
    (w.step sha (.report p currentNs)).Faithful := by
  refine ⟨h.bound, h.reported, fun q x hx => ?_, fun q t result x rest hq => ?_⟩
  · by_cases hqp : q = p
    · subst hqp
      simp only [step, update_self] at hx
      cases hx
    · simp only [step, update_of_ne hqp] at hx
      exact h.held q x hx
  · by_cases hqp : q = p
    · subst hqp
      simp only [step, update_self] at hq
      cases hq
    · simp only [step, update_of_ne hqp] at hq
      exact h.marking q t result x rest hq

lemma Faithful.upsertProcess (h : w.Faithful) (o : Oracle StoreError) (node : ProcessNode) :
    (w.step sha (.upsertProcess o node)).Faithful := by
  have hsame : (exec (FindingStore.upsertProcess node) o w.db).2.findings = w.db.findings := by
    unfold FindingStore.upsertProcess
    rcases modify_cases _ o w.db with he | ⟨e, he⟩
    · rw [he]
      rfl
    · rw [he]
  refine ⟨fun r hr => h.bound r (hsame ▸ hr), fun r hr => h.reported r (hsame ▸ hr),
    fun p x hx => ?_, h.marking⟩
  obtain ⟨r, hr, hx⟩ := h.held p x hx
  exact ⟨r, hsame ▸ hr, hx⟩

end Reports

lemma upsertFinding_cases (sha : Sha256) (finding : Processes.ProcessFinding)
    (o : Oracle StoreError) (db : Tables) :
    (exec (upsertFinding sha finding) o db).2 = db ∨
      db.putFinding (findingRow sha finding) = .ok (exec (upsertFinding sha finding) o db).2 := by
  have htriple : Triple (fun _ : StoreError => True) (· = db) (upsertFinding sha finding)
      (fun _ db' => db' = db ∨ db.putFinding (findingRow sha finding) = .ok db')
      fun _ db' => db' = db ∨ db.putFinding (findingRow sha finding) = .ok db' := by
    refine Triple.bind (Q := fun _ db' => db.putFinding (findingRow sha finding) = .ok db')
      (Triple.statement ?_ (fun _ _ _ h _ => .inl h) fun _ _ _ h => .inl h) fun _ => ?_
    · rintro _ d _ d' rfl h
      cases hput : d.putFinding (findingRow sha finding) with
      | error =>
        rw [hput] at h
        cases h
      | ok =>
        rw [hput] at h
        cases h
        rfl
    · refine Triple.statement ?_ (fun _ _ _ h _ => .inr h) fun _ _ _ h => .inr h
      intro _ d row d' hd h
      split at h
      · cases h
        exact .inr hd
      · cases h
  rcases htriple.exec (o := o) (fun _ _ _ => trivial) rfl with ⟨_, -, h⟩ | ⟨_, -, h⟩ <;> exact h

namespace Reports

variable {sha : Sha256} {w : Reports}

lemma Faithful.upsertFinding (h : w.Faithful) {o : Oracle StoreError}
    {finding : Processes.ProcessFinding} (hu : w.Undisturbed sha (.upsertFinding o finding)) :
    (w.step sha (.upsertFinding o finding)).Faithful := by
  rcases upsertFinding_cases sha finding o w.db with hsame | hput
  · simp only [step, hsame]
    exact h
  obtain ⟨-, ⟨-, hmem⟩ | ⟨hnew, -, hmem⟩⟩ := Tables.putFinding_ok hput
  · refine ⟨fun r' hr' => ?_, fun r' hr' hstate => ?_, fun p x hx => ?_, h.marking⟩
    · obtain ⟨r, hr, rfl⟩ := (hmem r').mp hr'
      split
      · exact h.bound r hr
      · exact h.bound r hr
    · obtain ⟨r, hr, rfl⟩ := (hmem r').mp hr'
      split at hstate
      · -- a finding that stays reported has the evidence it had
        next hkey =>
        rw [if_pos hkey]
        simp only [FindingRow.repeated] at hstate ⊢
        split at hstate
        · cases hstate
        · next hroot =>
          rw [← not_not.mp hroot]
          exact h.reported r hr hstate
      · next hkey =>
        rw [if_neg hkey]
        exact h.reported r hr hstate
    · obtain ⟨r, hr, hid, hroot⟩ := h.held p x hx
      refine ⟨_, (hmem _).mpr ⟨r, hr, rfl⟩, ?_⟩
      split
      · next hkey => exact ⟨hid, (hu p x hx r hr hkey hid).symm.trans hroot⟩
      · exact ⟨hid, hroot⟩
  · refine ⟨fun r' hr' => ?_, fun r' hr' hstate => ?_, fun p x hx => ?_, h.marking⟩
    · rcases (hmem r').mp hr' with hr | rfl
      · exact h.bound r' hr
      · exact bindText_bindText _
    · rcases (hmem r').mp hr' with hr | rfl
      · exact h.reported r' hr hstate
      · cases hstate
    · obtain ⟨r, hr, hx⟩ := h.held p x hx
      exact ⟨r, (hmem r).mpr (.inl hr), hx⟩

lemma Faithful.step (h : w.Faithful) {a : ReportAction} (ha : w.Undisturbed sha a) :
    (w.step sha a).Faithful := by
  cases a with
  | upsertProcess o node => exact h.upsertProcess o node
  | upsertFinding => exact h.upsertFinding ha
  | report p currentNs => exact h.report p currentNs
  | proceed p env => exact h.proceed p env

/-- **A reported finding was announced**: in every run in which no finding is stored with new
evidence between the reading of its row by a report and the mark of that report, the evidence of
every reported finding is one for which `submit_finding` returned that it was acknowledged. -/
theorem reported_evidence_acknowledged {actions : List ReportAction}
    (h : Along (Reports.step sha) (Undisturbed sha) initial actions) {r : FindingRow}
    (hr : r ∈ (run (Reports.step sha) initial actions).db.findings)
    (hreported : r.reportState = .reported) :
    ∃ a ∈ (run (Reports.step sha) initial actions).acknowledged,
      a.findingId = r.findingId ∧ a.evidenceRoot = r.evidenceRoot :=
  (inv_run (fun _ _ hw ha => hw.step ha) faithful_initial h).reported r hr hreported

/-! ### A process and its finding -/

def sampleKey : ProcessInstanceKey := { pid := 5, startTimeNs := some 7 }

def sampleFinding (observedAtNs : ℕ) : Processes.ProcessFinding where
  kind := .execFromTransientPath
  severity := .low
  ruleId := ['R']
  rulesetVersion := []
  observedAtNs := observedAtNs
  process := sampleKey
  parent := none
  processImage := []
  parentImage := []
  commandLine := []
  summary := []
  interpretation := []

def sampleEnv : Env := ⟨⟨fun _ => none, fun _ _ => 0⟩, 101, .acknowledged⟩

variable (between : List ReportAction)

/-- The finding is stored, and a report reads it, marks the attempt and submits it; then come
`between`, and the mark. -/
def sampleReport : List ReportAction :=
  [.upsertProcess sampleEnv.oracle { key := sampleKey },
    .upsertFinding sampleEnv.oracle (sampleFinding 1), .report 0 100, .proceed 0 sampleEnv,
    .proceed 0 sampleEnv, .proceed 0 sampleEnv] ++ between ++ [.proceed 0 sampleEnv]

def sampleEnd : Reports :=
  run (Reports.step Verdict.sampleMachine.sha) initial (sampleReport between)

theorem reported_evidence_acknowledged_once :
    ∃ r ∈ (sampleEnd []).db.findings, r.reportState = .reported ∧
      ∃ a ∈ (sampleEnd []).acknowledged,
        a.findingId = r.findingId ∧ a.evidenceRoot = r.evidenceRoot := by
  have hany : ((sampleEnd []).db.findings.rows.any fun r => r.reportState = .reported) = true := by
    decide +kernel
  obtain ⟨r, hr, hstate⟩ := any_eq_true.mp hany
  have hreported : r.reportState = .reported := of_decide_eq_true hstate
  refine ⟨r, hr, hreported, reported_evidence_acknowledged ?_ hr hreported⟩
  refine ⟨trivial, fun p x hx => absurd hx not_mem_nil, trivial, trivial, trivial, trivial,
    trivial, trivial⟩

/-- The finding is stored again, with new evidence, after the announcement was acknowledged: it is
marked as reported, and its evidence was never announced. -/
theorem reported_evidence_replaced :
    ∃ r ∈ (sampleEnd [.upsertFinding sampleEnv.oracle (sampleFinding 2)]).db.findings,
      r.reportState = .reported ∧
      ∀ a ∈ (sampleEnd [.upsertFinding sampleEnv.oracle (sampleFinding 2)]).acknowledged,
        a.evidenceRoot ≠ r.evidenceRoot := by
  have hany : ((sampleEnd [.upsertFinding sampleEnv.oracle (sampleFinding 2)]).db.findings.rows.any
      fun r => decide (r.reportState = .reported ∧
        ∀ a ∈ (sampleEnd [.upsertFinding sampleEnv.oracle (sampleFinding 2)]).acknowledged,
          a.evidenceRoot ≠ r.evidenceRoot)) = true := by
    decide +kernel
  obtain ⟨r, hr, h⟩ := any_eq_true.mp hany
  exact ⟨r, hr, of_decide_eq_true h⟩

end Reports

end NetaAgent.FindingStore
