/-
  CodeAudit.Report.Enriched
  ─────────────────────────
  **THE ENRICHED REPORT.**

  Six sections: overview, security, quality, serious findings, measures, plan
  of action.  They are gathered first and written afterwards, so that a
  report gathered elsewhere can be written too.
-/
import CodeAudit.Report.Assessment
import CodeAudit.Report.Critical

namespace CodeAudit.Report

open CodeAudit.Data CodeAudit.Audit

/-! ## §1. The sections. -/

/-- The topics of security that metrics raise. -/
def securityTopics (scripting : Amount) (metrics : Value) : Except Failure (List Value) :=
  raised (Topic.security scripting) metrics

/-- The topics of quality that metrics raise. -/
def qualityTopics (metrics : Value) : Except Failure (List Value) := raised Topic.quality metrics

/-- The measures that a report asks for. -/
def measures (report : Value) : Except Failure (List Value) := do
  let metrics ← report.field "summary_metrics"
  let found ← opened Measure.gate metrics Measure.all
  .ok (found.map Measure.toValue)

/-- Whether something has to be done at once. -/
def isUrgent (metrics : Value) : Except Failure Bool := do
  if ← (Gate.nonzero .sqlInjections).opens metrics then .ok true
  else (Gate.nonzero .crossSiteScripting).opens metrics

/-- The plan of action of a report. -/
def actionPlan (report : Value) : Except Failure (List Value) := do
  let metrics ← report.field "summary_metrics"
  let urgent ← isUrgent metrics
  .ok (((if urgent then [Phase.immediate] else []) ++ [Phase.soon, Phase.lasting]).map
    Phase.toValue)

/-! ## §2. Writing. -/

/-- A line for each item of a list. -/
def bulletLines (items : Value) : Except Failure (List Value) := do
  .ok ((← items.items).map fun v => .text ("- " ++ v.display))

/-- The lines of a topic after its head. -/
def topicLines (item : Value) : Except Failure (List Value) := do
  let description ← item.field "description"
  let recommendations ← bulletLines (← item.field "recommendations")
  let resources ← bulletLines (← item.field "resources")
  .ok ([.text ("**Description**: " ++ description.display), .text "**Recommandations**:"]
    ++ recommendations ++ [.text "**Ressources**:"] ++ resources ++ [.text ""])

/-- The lines of a topic of security. -/
def securityLines (item : Value) : Except Failure (List Value) := do
  let issue ← item.field "issue"
  let count ← item.field "count"
  let severity ← item.field "severity"
  let rest ← topicLines item
  .ok (.text ("### " ++ issue.display ++ " (" ++ count.display ++ " occurrences, Severity: "
    ++ severity.display) :: rest)

/-- The lines of a topic of quality. -/
def qualityLines (item : Value) : Except Failure (List Value) := do
  let issue ← item.field "issue"
  let value ← item.field "value"
  let severity ← item.field "severity"
  let rest ← topicLines item
  .ok (.text ("### " ++ issue.display ++ " (Valeur: " ++ value.display ++ ", Severity: "
    ++ severity.display) :: rest)

/-- The row of a serious finding. -/
def criticalRow (issue : Value) : Except Failure Value := do
  let file ← issue.field "file"
  let line ← issue.field "line"
  let type ← issue.field "type"
  let severity ← issue.field "severity"
  let description ← issue.field "description"
  .ok (.text ("| " ++ file.display ++ " | " ++ line.display ++ " | " ++ type.display ++ " | "
    ++ severity.display ++ " | " ++ description.display ++ " |"))

/-- The table of serious findings, if there are any. -/
def criticalLines (issues : Value) : Except Failure (List Value) := do
  if issues.truthy then
    let rows ← (← issues.items).mapM criticalRow
    .ok ([.text "\n## Problèmes Critiques par Fichier\n",
      .text "| Fichier | Ligne | Type | Sévérité | Description |",
      .text "|---------|-------|------|----------|-------------|"] ++ rows)
  else .ok []

/-- The lines of a measure. -/
def measureLines (m : Value) : Except Failure (List Value) := do
  let action ← m.field "action"
  let priority ← m.field "priority"
  let steps ← bulletLines (← m.field "steps")
  let time ← m.field "estimated_time"
  .ok ([.text ("### " ++ action.display ++ " (Priorité: " ++ priority.display ++ ")"),
    .text "**Étapes**:"] ++ steps
    ++ [.text ("**Temps estimé**: " ++ time.display), .text ""])

/-- The lines of a phase. -/
def phaseLines (p : Value) : Except Failure (List Value) := do
  let phase ← p.field "phase"
  let timeline ← p.field "timeline"
  let owner ← p.field "owner"
  let actions ← bulletLines (← p.field "actions")
  .ok ([.text ("### " ++ phase.display ++ " (" ++ timeline.display ++ ")"),
    .text ("**Responsable**: " ++ owner.display), .text "**Actions**:"] ++ actions ++ [.text ""])

/-- The lines of all items of a section. -/
def sectionLines (lines : Value → Except Failure (List Value)) (items : Value) :
    Except Failure (List Value) := do
  .ok (← (← items.items).mapM lines).flatten

/-- The lines of the sections of an enriched report. -/
def enrichedLines (sections : Value) : Except Failure (List Value) := do
  let overview ← sections.field "overview"
  let security ← sectionLines securityLines (← sections.field "security_analysis")
  let quality ← sectionLines qualityLines (← sections.field "code_quality_analysis")
  let critical ← criticalLines (← sections.field "critical_issues")
  let measures ← sectionLines measureLines (← sections.field "detailed_recommendations")
  let phases ← sectionLines phaseLines (← sections.field "action_plan")
  .ok ([.text "# Rapport d'Analyse de Sécurité et Qualité Amélioré\n", overview,
      .text "\n## Analyse de Sécurité Détailée\n"] ++ security
    ++ [.text "\n## Analyse de Qualité de Code\n"] ++ quality ++ critical
    ++ [.text "\n## Recommandations Détaillées\n"] ++ measures
    ++ [.text "\n## Plan d'Action Priorisé\n"] ++ phases)

/-- Write the sections of an enriched report. -/
def writeEnriched (sections : Value) : Except Failure String := do
  joinLines (← enrichedLines sections)

/-- Gather the sections of an enriched report. -/
def gatherEnriched (scripting : Amount) (report : Value) : Except Failure Value := do
  let metrics ← report.field "summary_metrics"
  let overview ← overview report metrics
  let security ← securityTopics scripting metrics
  let quality ← qualityTopics metrics
  let critical ← criticalFindings report
  let measures ← measures report
  let plan ← actionPlan report
  .ok (.dict [("overview", .text overview), ("security_analysis", .list security),
    ("code_quality_analysis", .list quality), ("critical_issues", .list critical),
    ("detailed_recommendations", .list measures), ("action_plan", .list plan)])

/-- The enriched report. -/
def enriched (scripting : Amount) (report : Value) : Except Failure String := do
  writeEnriched (← gatherEnriched scripting report)

end CodeAudit.Report
