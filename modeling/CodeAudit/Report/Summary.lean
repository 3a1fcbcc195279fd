/-
  CodeAudit.Report.Summary
  ────────────────────────
  **SUMMARIES OF A REPORT FOR AN ADVISER.**

  The findings and the advice of a report in short lines, and the question
  that is put to an adviser about them.
-/
import CodeAudit.Report.Critical

namespace CodeAudit.Report

open CodeAudit.Data

/-- The last component of a path. -/
def baseName (path : String) : String := String.ofList (Text.afterLast '/' path.toList)

/-- Lines joined, or a text when there are none. -/
def linesOr (otherwise : String) (lines : List String) : String :=
  if lines.isEmpty then otherwise else Text.joinWith "\n" lines

/-- A finding in one line. -/
def findingLine (file : String) (finding : Value) : Except Failure String := do
  let line ← finding.fieldOr "line" (.text "?")
  let type ← finding.fieldOr "type" (.text "?")
  let severity ← finding.fieldOr "severity" (.text "?")
  let message ← finding.fieldOr "message" (.text "")
  .ok ("- Fichier : " ++ baseName file ++ ", ligne " ++ line.display ++ ", type : " ++ type.display
    ++ ", gravité : " ++ severity.display ++ ", message : " ++ message.display)

/-- The findings of a report in short. -/
def findingSummary (report : Value) : Except Failure String := do
  let lines ← visitFindings report findingLine
  .ok (linesOr "Aucune faille critique détectée." lines)

/-- A piece of advice in short. -/
def adviceLine (advice : Value) : Except Failure String := do
  let metric ← advice.fieldOr "metric" (.text "")
  let severity ← (← advice.fieldOr "severity" (.text "")).capitals
  let text ← advice.fieldOr "recommendation" (.text "")
  let value ← advice.fieldOr "value" (.text "")
  .ok (metric.display ++ " (" ++ severity ++ ") : " ++ text.display ++ "\n[Valeur actuelle : "
    ++ value.display ++ "]")

/-- The advice of a report in short. -/
def adviceSummary (report : Value) : Except Failure String := do
  let metrics ← report.fieldOr "summary_metrics" (.dict [])
  let advice ← (← metrics.fieldOr "recommendations" (.list [])).items
  let lines ← advice.mapM adviceLine
  .ok (linesOr "Aucune métrique critique à signaler." lines)

/-- The question put to an adviser about two summaries. -/
def question (findings metrics : String) : String :=
  "Voici un résumé des failles de sécurité et de qualité détectées dans un projet Python :\n"
    ++ findings
    ++ "\n\nVoici un résumé des métriques globales du projet et des recommandations associées :\n"
    ++ metrics
    ++ "\n\nDonne-moi des recommandations détaillées, concrètes et adaptées à ce contexte, en français, pour améliorer la sécurité ET la qualité du code par rapport à ces deux résumés. Structure la réponse en points clairs, en séparant bien les recommandations sur les failles et celles sur les métriques."

end CodeAudit.Report
