/-
  CodeAudit.Report.Assistant
  ──────────────────────────
  **AN ASSISTANT THAT COMMENTS ON FINDINGS.**

  The assistant is sent short prompts and its replies are cut short.  A reply
  that fails, is no text, or does not come at all is replaced by a fixed
  sentence.  Replies are taken from a script, one per prompt.  An attempt that
  fails would be repeated.
-/
import CodeAudit.Audit.Services
import CodeAudit.Report.Enriched

namespace CodeAudit.Report

open CodeAudit.Data CodeAudit.Audit

/-! ## §1. Conversations. -/

/-- A conversation: the replies to come and the prompts sent. -/
structure Conversation where
  replies : List AdviserReply
  prompts : List String

/-- A task in a conversation; what was sent before a failure stays sent. -/
abbrev Chat := ExceptT Failure (StateM Conversation)

/-- The number of characters of a prompt that are sent. -/
def promptLimit : Nat := 150

/-- The number of characters of a reply that are kept. -/
def replyLimit : Nat := 100

/-- The first characters of a text. -/
def cut (limit : Nat) (s : String) : String := String.ofList (s.toList.take limit)

/-- What stands for a reply that cannot be used. -/
def unusable : String := "Erreur API - réponse tronquée"

/-- Send a prompt and take the next reply, which has to be a text. -/
def ask (prompt : String) : Chat String := do
  let c ← get
  set (⟨c.replies.drop 1, c.prompts ++ [cut promptLimit prompt]⟩ : Conversation)
  match c.replies.head? with
  | some (.answers v) =>
      match v.wording? with
      | some w => return cut replyLimit w.shown
      | none => throw (.noFields v.kindName)
  | some (.fails reason) => throw (.brokenDown reason)
  | none => throw (.brokenDown "")

/-- Send a prompt; whatever fails, something is answered. -/
def attempt (prompt : String) : Chat String :=
  tryCatch (ask prompt) fun _ => return unusable

/-- Repeat a task that fails, at most so many times. -/
def retrying {α : Type} (task : Chat α) : Nat → Chat α
  | 0 => task
  | times + 1 => tryCatch task fun _ => retrying task times

/-- Send a prompt, and once more should the attempt fail. -/
def consult (prompt : String) : Chat String := retrying (attempt prompt) 1

/-- Send what may be no text; that is not sent. -/
def consultValue (v : Value) : Chat String :=
  match v.wording? with
  | some w => consult w.shown
  | none => return unusable

/-- A computation that may fail. -/
def Chat.ofExcept {α : Type} : Except Failure α → Chat α
  | .ok a => return a
  | .error e => throw e

/-! ## §2. Findings, metrics, summary. -/

/-- The first two items of a list, or characters of a text. -/
def firstTwo (v : Value) : Except Failure (List Value) :=
  match v with
  | .dict _ => .error (.noKey "slice")
  | .list _ | .text _ | .torn _ => (v.items).map (·.take 2)
  | _ => .error (.noFields v.kindName)

/-- The prompt about a finding. -/
def findingPrompt (finding : Value) : Except Failure String := do
  let type ← finding.field "type"
  .ok ("Problème " ++ type.display ++ " - solution en 5 mots max")

/-- Comment on a finding. -/
def commentFinding (finding : Value) : Chat String := do
  let prompt ← Chat.ofExcept (findingPrompt finding)
  consult prompt

/-- Comment on the first two findings of a file. -/
def commentFile (findings : Value) : Chat (List String) := do
  let findings ← Chat.ofExcept (firstTwo findings)
  findings.mapM commentFinding

/-- Comment on the findings of every file; the first five comments are kept. -/
def commentFindings (report : Value) : Chat (List String) := do
  let files ← Chat.ofExcept ((report.field "detailed_report").bind Value.entries)
  let comments ← files.mapM fun file => commentFile file.2
  return comments.flatten.take 5

/-- The metrics that are commented on when they pass a bound. -/
def commentedMetrics : List Gate :=
  [⟨Counter.cyclomatic.key, 30⟩, ⟨averageLinesKey, 20⟩, ⟨depthKey, 3⟩, ⟨Counter.lint.key, 20⟩]

/-- Comment on a metric, when it passes its bound and there is a comment. -/
def commentMetric (metrics : Value) (g : Gate) : Chat (Option Value) := do
  if ← Chat.ofExcept (g.opens metrics) then
    let value ← Chat.ofExcept (g.value metrics)
    let comment ← consult ("Analyse qualité en 1 ligne: " ++ g.key)
    if comment.isEmpty then return none
    else return some (.dict [("metric", .text g.key), ("value", value),
      ("threshold", .int g.bound), ("llm_analysis", .text comment)])
  else return none

/-- Comment on metrics. -/
def commentMetrics (metrics : Value) : Chat (List Value) := do
  return (← commentedMetrics.mapM (commentMetric metrics)).filterMap id

/-- Sum up a report in a line. -/
def summarise (report : Value) : Chat String := do
  let files ← Chat.ofExcept (report.field "files_analyzed")
  let total ← Chat.ofExcept (report.field "total_issues")
  consult ("Résume en 1 ligne: " ++ files.display ++ " fichiers, " ++ total.display ++ " problèmes")

/-- The commented report.  Its only section is the one on security. -/
def commented (report : Value) : Chat String := do
  let comments ← commentFindings report
  Chat.ofExcept (writeEnriched (.dict [("security_analysis", texts comments)]))

/-! ## §3. Texts. -/

/-- Cut a text at every occurrence of a mark that is not empty, from left to
right.  The number says how much of an occurrence is still to be passed over. -/
def cutAtMark (mark : List Char) : Nat → List Char → List (List Char)
  | _, [] => [[]]
  | pending + 1, _ :: rest => cutAtMark mark pending rest
  | 0, c :: rest =>
      if Text.startsWith mark (c :: rest) then [] :: cutAtMark mark (mark.length - 1) rest
      else (cutAtMark mark 0 rest).modifyHead (c :: ·)

/-- The pieces of a text between the occurrences of a mark. -/
def piecesAt (mark text : List Char) : List (List Char) := cutAtMark mark 0 text

/-- The heading of a solution in a comment. -/
def solutionHeading : String := "Solution recommandée:"

/-- The heading of the references in a comment. -/
def referencesHeading : String := "Références"

/-- The solution that a comment recommends: what follows the last heading for
it and precedes the references; the whole comment without such a heading. -/
def solution (comment : String) : String :=
  let pieces := piecesAt solutionHeading.toList comment.toList
  match pieces.getLast? with
  | some last =>
      if 1 < pieces.length then
        String.ofList (((piecesAt referencesHeading.toList last).head?).getD [])
      else comment
  | none => comment

/-- The solution in a value that has to be a text. -/
def solutionOf (v : Value) : Except Failure String :=
  match v.wording? with
  | some w => .ok (solution w.shown)
  | none => .error (.noMethod v.kindName "split")

/-! ## §4. A report of comments. -/

/-- The lines of a commented finding. -/
def commentedFindingLines (f : Value) : Except Failure (List Value) := do
  let type ← f.field "type"
  let line ← f.field "line"
  let file ← f.field "file"
  let comment ← f.field "llm_analysis"
  let recommendation ← f.field "recommendation"
  .ok [.text ("### " ++ type.display ++ " (Ligne " ++ line.display ++ ")"),
    .text ("**Fichier**: " ++ file.display), .text ("**Analyse IA**:\n" ++ comment.display),
    .text ("**Recommandation**: " ++ recommendation.display), .text ""]

/-- The lines of a commented metric. -/
def commentedMetricLines (m : Value) : Except Failure (List Value) := do
  let metric ← m.field "metric"
  let value ← m.field "value"
  let threshold ← m.field "threshold"
  let comment ← m.field "llm_analysis"
  .ok [.text ("### " ++ metric.display ++ " (Valeur: " ++ value.display ++ " > Seuil: "
      ++ threshold.display ++ ")"),
    .text ("**Analyse IA**:\n" ++ comment.display), .text ""]

/-- Write a report of comments. -/
def writeComments (sections : Value) : Except Failure String := do
  let summary ← sections.field "executive_summary"
  let findings ← sectionLines commentedFindingLines (← sections.field "security_analysis")
  let metrics ← sectionLines commentedMetricLines (← sections.field "quality_analysis")
  joinLines ([.text "# Rapport d'Analyse Amélioré par IA\n", .text "## Résumé Exécutif\n",
      if summary.truthy then summary else .text "Non disponible",
      .text "\n## Analyse Approfondie des Vulnérabilités\n"] ++ findings
    ++ [.text "\n## Analyse des Métriques de Qualité\n"] ++ metrics)

end CodeAudit.Report
