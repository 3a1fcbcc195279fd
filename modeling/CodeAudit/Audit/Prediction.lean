/-
  CodeAudit.Audit.Prediction
  ──────────────────────────
  **PREDICTING FAULTS FROM METRICS.**

  A model is handed a row of features, which are metrics in a fixed order; a
  metric that is missing counts as zero.
-/
import CodeAudit.Audit.Services

namespace CodeAudit.Audit

open CodeAudit.Data

/-- The features in the order of the model. -/
def featureNames : List String :=
  [Counter.cyclomatic.key, Counter.branches.key, depthKey, Counter.classes.key, averageLinesKey,
   averageParametersKey, Counter.codeLines.key, Counter.commentLines.key, Counter.duplicates.key,
   Counter.lint.key, Counter.hints.key, Counter.sensitiveVariables.key, Counter.sqlInjections.key,
   Counter.crossSiteScripting.key, Counter.tokenProtection.key, Counter.vulnerableDependencies.key,
   Counter.exposedKeys.key, Counter.encryption.key, Counter.authorization.key,
   Counter.decorators.key, Counter.endpoints.key]

/-- The row of features of metrics. -/
def featuresOf (m : Metrics) : Features :=
  featureNames.map fun name => (name, (Dict.get? m name).getD (.int 0))

/-- The wording of a prediction. -/
def predictionText : ModelReply → String
  | .fails reason => "Erreur prédiction ML: " ++ reason
  | .predicts v => if v.equals 1 then "Défaut logiciel détecté" else "Aucun défaut logiciel détecté"

end CodeAudit.Audit
