/-
  CodeAudit.Report.Plain
  ──────────────────────
  **THE PLAIN REPORT.**

  Global figures, the advice on metrics, the findings file by file, and the
  metrics.
-/
import CodeAudit.Audit.Metrics
import CodeAudit.Text.Blank

namespace CodeAudit.Report

open CodeAudit.Data CodeAudit.Audit

/-- The lines of a piece of advice. -/
def adviceLines (advice : Value) : Except Failure (List String) := do
  let severity ← (← advice.field "severity").capitals
  let metric ← advice.field "metric"
  let value ← advice.field "value"
  let text ← advice.field "recommendation"
  .ok ["\n- [" ++ severity ++ "] " ++ metric.display ++ " = " ++ value.display,
    "  Recommandation: " ++ text.display]

/-- The lines of the advice that metrics hold, if they hold any. -/
def allAdviceLines (metrics : Value) : Except Failure (List String) := do
  if ← metrics.contains "recommendations" then
    let advice ← (← metrics.field "recommendations").items
    .ok (← advice.mapM adviceLines).flatten
  else .ok []

/-- The lines of a finding. -/
def findingLines (finding : Value) : Except Failure (List String) := do
  let line ← finding.field "line"
  let type ← finding.field "type"
  let message ← finding.field "message"
  let severity ← (← finding.field "severity").capitals
  let recommendation ← finding.field "recommendation"
  let excerpt ← if ← finding.contains "code_excerpt" then do
      let code ← finding.field "code_excerpt"
      pure ["      Code: " ++ code.display]
    else pure []
  .ok (["    * Ligne " ++ line.display ++ ": [" ++ type.display ++ "] " ++ message.display,
    "      Gravité: " ++ severity, "      Recommandation: " ++ recommendation.display] ++ excerpt)

/-- The lines of a file with its findings. -/
def fileLines (file : String) (findings : Value) : Except Failure (List String) := do
  let head := "\nFichier: " ++ file
  if findings.truthy then
    let lines ← (← findings.items).mapM findingLines
    .ok ([head, "  - Problèmes détectés:"] ++ lines.flatten)
  else .ok [head, "  - Statut: Aucun problème détecté"]

/-- The metrics that the report ends with: label, key, and what follows. -/
def metricLabels : List (String × String × String) :=
  [("Complexité cyclomatique totale: ", Counter.cyclomatic.key, ""),
   ("Nombre de branches: ", Counter.branches.key, ""),
   ("Profondeur d'héritage max: ", depthKey, ""),
   ("Nombre de classes: ", Counter.classes.key, ""),
   ("Total fonctions: ", Counter.functions.key, ""),
   ("Longueur moyenne des fonctions: ", averageLinesKey, " lignes"),
   ("Paramètres moyens par fonction: ", averageParametersKey, ""),
   ("Lignes de code effectif: ", Counter.codeLines.key, ""),
   ("Lignes de commentaires: ", Counter.commentLines.key, ""),
   ("Violations Pylint: ", Counter.lint.key, ""),
   ("Dépendances vulnérables: ", Counter.vulnerableDependencies.key, ""),
   ("Variables sensibles: ", Counter.sensitiveVariables.key, ""),
   ("Injections SQL potentielles: ", Counter.sqlInjections.key, ""),
   ("XSS potentiels: ", Counter.crossSiteScripting.key, "")]

/-- The lines of the metrics. -/
def metricLines (metrics : Value) : Except Failure (List String) :=
  metricLabels.mapM fun (label, key, tail) => do
    let v ← metrics.field key
    .ok (label ++ v.display ++ tail)

/-- The lines of the plain report. -/
def plainLines (report : Value) : Except Failure (List String) := do
  let name ← report.field "project_name"
  let files ← report.field "files_analyzed"
  let affected ← report.field "files_with_issues"
  let total ← report.field "total_issues"
  let metrics ← report.field "summary_metrics"
  let advice ← allAdviceLines metrics
  let details ← (← report.field "detailed_report").entries
  let fileLines ← details.mapM fun (file, findings) => fileLines file findings
  let metricLines ← metricLines metrics
  .ok (["*** Rapport d'Analyse de Sécurité et Qualité ***",
      "Projet: " ++ name.display,
      "Fichiers analysés: " ++ files.display,
      "Fichiers avec problèmes: " ++ affected.display,
      "Total des problèmes détectés: " ++ total.display ++ "\n",
      "=== Recommandations Globales ==="]
    ++ advice ++ ["\n=== Détails par Fichier ==="] ++ fileLines.flatten
    ++ ["\n=== Métriques Globales ==="] ++ metricLines)

/-- The plain report. -/
def plain (report : Value) : Except Failure String :=
  (plainLines report).map (Text.joinWith "\n")

end CodeAudit.Report
