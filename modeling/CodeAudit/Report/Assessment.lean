/-
  CodeAudit.Report.Assessment
  ───────────────────────────
  **THE OVERALL VIEW OF A PROJECT.**

  A grade, the strengths and the areas to improve, all read off the metrics,
  and the overview that puts them together.
-/
import CodeAudit.Report.Topic

namespace CodeAudit.Report

open CodeAudit.Data CodeAudit.Audit CodeAudit.Number

/-! ## §1. Grades. -/

/-- The grade of a project, from sound to dangerous. -/
inductive Grade where
  | green
  | yellow
  | orange
  | red
  deriving DecidableEq, Repr

/-- How serious a grade is. -/
def Grade.rank : Grade → Nat
  | .green => 0
  | .yellow => 1
  | .orange => 2
  | .red => 3

/-- The wording of a grade. -/
def Grade.text : Grade → String
  | .green => "🟢 Projet relativement sain - Aucune vulnérabilité critique détectée, quelques améliorations possibles."
  | .yellow => "🟡 Projet avec problèmes importants - Pas de vulnérabilités critiques mais des problèmes de sécurité ou de qualité notables."
  | .orange => "🟠 Projet à risque modéré - Certaines vulnérabilités critiques présentes nécessitant correction."
  | .red => "🔴 Projet à haut risque - Plusieurs vulnérabilités critiques détectées nécessitant une attention immédiate."

/-- The grade of a project: by its critical holes first, then by exposed
secrets and complexity. -/
def grade (metrics : Value) : Except Failure Grade := do
  let sql ← metrics.field Counter.sqlInjections.key
  let scripting ← metrics.field Counter.crossSiteScripting.key
  let both ← sql.add scripting
  let dependencies ← metrics.field Counter.vulnerableDependencies.key
  let critical ← both.add dependencies
  if ← critical.above 5 then .ok .red
  else if ← critical.above 0 then .ok .orange
  else if ← (Gate.nonzero .sensitiveVariables).opens metrics then .ok .yellow
  else if ← (Gate.mk Counter.cyclomatic.key 50).opens metrics then .ok .yellow
  else .ok .green

/-! ## §2. Strengths. -/

/-- What makes a metric good. -/
inductive Test where
  | isZero
  | under (bound : Int)
  deriving DecidableEq, Repr

/-- Whether a value passes. -/
def Test.passes (t : Test) (v : Value) : Except Failure Bool :=
  match t with
  | .isZero => .ok (v.equals 0)
  | .under bound => v.under bound

/-- A strength: a metric, what makes it good, and its wording. -/
structure Strength where
  key : String
  test : Test
  text : String

/-- All strengths. -/
def Strength.all : List Strength :=
  [⟨Counter.sqlInjections.key, .isZero, "Aucune injection SQL détectée"⟩,
   ⟨Counter.crossSiteScripting.key, .isZero, "Aucune vulnérabilité XSS détectée"⟩,
   ⟨Counter.vulnerableDependencies.key, .isZero, "Aucune dépendance vulnérable identifiée"⟩,
   ⟨Counter.cyclomatic.key, .under 30, "Complexité cyclomatique globale raisonnable"⟩,
   ⟨Counter.lint.key, .under 20,
    "Bon respect des standards de codage (peu de violations Pylint)"⟩]

/-- The strengths of a project. -/
def strengths (metrics : Value) : Except Failure (List Strength) :=
  Strength.all.filterM fun s => do
    let v ← metrics.field s.key
    s.test.passes v

/-- Points on lines of their own, or a text when there are none. -/
def points (otherwise : String) (lines : List String) : String :=
  if lines.isEmpty then otherwise else Text.joinWith "\n- " lines

/-- The strengths of a project in words. -/
def strengthsText (metrics : Value) : Except Failure String := do
  let found ← strengths metrics
  .ok (points "Aucun point fort particulier identifié" (found.map (·.text)))

/-! ## §3. Areas to improve. -/

/-- An area to improve; its wording may name the value of its metric. -/
structure Area where
  gate : Gate
  text : String → String

/-- All areas. -/
def Area.all : List Area :=
  [⟨.nonzero .sqlInjections, (· ++ " injections SQL potentielles")⟩,
   ⟨.nonzero .crossSiteScripting, (· ++ " vulnérabilités XSS potentielles")⟩,
   ⟨.nonzero .sensitiveVariables, (· ++ " variables sensibles exposées")⟩,
   ⟨⟨Counter.cyclomatic.key, 50⟩, fun _ => "Complexité cyclomatique élevée"⟩,
   ⟨⟨Counter.lint.key, 50⟩, fun _ => "Nombre important de violations de style"⟩]

/-- The areas to improve, in words. -/
def areasText (metrics : Value) : Except Failure String := do
  let found ← opened Area.gate metrics Area.all
  let lines ← found.mapM fun a => (a.gate.value metrics).map fun v => a.text v.display
  .ok (points "Le projet est globalement bien structuré" lines)

/-! ## §4. The overview. -/

/-- A share as a percentage with one place. -/
def percentage (share : Binary64) : String := (share.mul (.ofInt 100)).fixed 1

/-- The overview of a report with metrics. -/
def overview (report metrics : Value) : Except Failure String := do
  let name ← report.field "project_name"
  let files ← report.field "files_analyzed"
  let affected ← report.field "files_with_issues"
  let share ← affected.divide files
  let total ← report.field "total_issues"
  let grade ← grade metrics
  let strengths ← strengthsText metrics
  let areas ← areasText metrics
  .ok (Text.joinWith "\n" [
    "## Aperçu du Projet: " ++ name.display,
    "- **Fichiers analysés**: " ++ files.display,
    "- **Fichiers avec problèmes**: " ++ affected.display ++ " (" ++ percentage share ++ "%)",
    "- **Problèmes totaux**: " ++ total.display,
    "",
    "### Évaluation Globale:",
    grade.text,
    "",
    "### Points Forts:",
    "- " ++ strengths,
    "",
    "### Principaux Domaines à Améliorer:",
    "- " ++ areas])

end CodeAudit.Report
