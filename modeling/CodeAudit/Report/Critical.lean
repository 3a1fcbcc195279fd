/-
  CodeAudit.Report.Critical
  ─────────────────────────
  **THE MOST SERIOUS FINDINGS OF A REPORT.**

  Findings of severity critical come first, then those of severity high, each
  in the order of the report; all others are left out.
-/
import CodeAudit.Data.Operations

namespace CodeAudit.Report

open CodeAudit.Data

/-- The findings of a report with their files, in order.  `visit` is applied
to each as it is reached. -/
def visitFindings {α : Type} (report : Value) (visit : String → Value → Except Failure α) :
    Except Failure (List α) := do
  let files ← (← report.field "detailed_report").entries
  let found ← files.mapM fun (file, findings) => do
    (← findings.items).mapM (visit file)
  .ok found.flatten

/-- A finding as a serious one: its entry, when its severity is critical or
high. -/
def seriousEntry (file : String) (finding : Value) : Except Failure (Option Value) := do
  let severity ← finding.field "severity"
  if severity.isText "critical" || severity.isText "high" then
    let line ← finding.field "line"
    let type ← finding.field "type"
    let message ← finding.field "message"
    let recommendation ← finding.fieldOr "recommendation" (.text "")
    .ok (some (.dict [("file", .text file), ("line", line), ("type", type), ("severity", severity),
      ("description", message), ("recommendation", recommendation)]))
  else .ok none

/-- Whether an entry is critical. -/
def isCritical (entry : Value) : Bool :=
  match entry.field "severity" with
  | .ok s => s.isText "critical"
  | .error _ => false

/-- The place of an entry among the others: critical ones come first. -/
def urgency (entry : Value) : Nat := if isCritical entry then 0 else 1

/-- Entries by urgency; those of one urgency stay in their order. -/
def criticalFirst (entries : List Value) : List Value :=
  entries.mergeSort fun a b => urgency a ≤ urgency b

/-- The most serious findings of a report. -/
def criticalFindings (report : Value) : Except Failure (List Value) := do
  let found ← visitFindings report seriousEntry
  .ok (criticalFirst (found.filterMap id))

end CodeAudit.Report
