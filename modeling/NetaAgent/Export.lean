import NetaAgent.BaselineHistory
import NetaAgent.HistoryEffects

/-!
`export_data`: what an export reads of a connection.

Route and lifecycle events are read with the rest and are not written.
-/

namespace NetaAgent.Assurance

open Decimal Crypto Sql Observation HistoryStore TlsSession Verdict Rules

variable (a : Archive) (id : ℕ)

/-- `verdict_for_connection`. -/
def Archive.verdictFor : Option AssuranceVerdict :=
  (a.verdicts.find id).map fun r => boundVerdict r.verdict

def Archive.baselineWithHash (hash : Text) : Option Baseline :=
  (a.history.baselines.rows.find? fun b => b.sha256 = bindText hash).map Baseline.read

/-- The TLS observation of the verdict, or else the one the connection is linked to. -/
def Archive.tlsLink : Option ℕ :=
  ((a.verdicts.find id).bind VerdictRow.tlsObservationId).orElse fun _ =>
    (a.history.connectionTls.find id).map ConnectionTls.tlsObservationId

def Archive.tlsObservation (tlsId : ℕ) : Option TlsObservation :=
  (a.history.tlsObservations.find tlsId).map fun r => r.observation.bound

/-- What `export_data` returns. -/
structure ExportData where
  connection : ConnectionSummary
  samples : List TcpSnapshot
  verdict : Option AssuranceVerdict
  baseline : Option Baseline
  tls : Option TlsObservation

def exportedBaseline (verdict : Option AssuranceVerdict) : ArchiveM (Option Baseline) :=
  match verdict with
  | none => return none
  | some v =>
    if v.baselineHash = [] then return none
    else lookup fun _ (a : Archive) => a.baselineWithHash v.baselineHash

def exportedTls : ArchiveM (Option TlsObservation) := do
  match ← lookup fun _ (a : Archive) => a.tlsLink id with
  | none => return none
  | some tlsId => lookup fun _ (a : Archive) => a.tlsObservation tlsId

def exportData : ArchiveM ExportData := do
  match ← lookup fun _ (a : Archive) => a.history.connection id with
  | none => fail "connection not found"
  | some connection =>
    let samples ← samplesForConnection id
    let _ ← scan fun _ (_ : Archive) => ([] : List Unit)
    let _ ← lookup fun _ (_ : Archive) => (none : Option Unit)
    let verdict ← lookup fun _ (a : Archive) => a.verdictFor id
    let baseline ← exportedBaseline verdict
    let tls ← exportedTls id
    return ⟨connection, samples, verdict, baseline, tls⟩

end NetaAgent.Assurance
