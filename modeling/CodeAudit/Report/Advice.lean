/-
  CodeAudit.Report.Advice
  ───────────────────────
  **ADVICE ON METRICS.**

  Each rule looks at one metric.  The first of its levels whose bound the
  metric passes gives the advice; a rule may also have something to say when
  no bound is passed.  Advice is gathered rule by rule, and what was gathered
  before a rule fails is kept.
-/
import CodeAudit.Audit.Finding
import CodeAudit.Audit.Metrics

namespace CodeAudit.Report

open CodeAudit.Data CodeAudit.Audit

/-! ## §1. Rules. -/

/-- A piece of advice on a metric. -/
structure Advice where
  metric : String
  value : Value
  severity : Severity
  text : String

/-- A piece of advice as an entry of a report. -/
def Advice.toValue (a : Advice) : Value :=
  .dict [("metric", .text a.metric), ("value", a.value), ("severity", .text a.severity.word),
    ("recommendation", .text a.text)]

/-- A bound, and the advice when it is passed; a text may name the value. -/
structure Level where
  bound : Int
  severity : Severity
  text : String → String

/-- A rule about one metric. -/
structure AdviceRule where
  metric : String
  /-- The levels, highest bound first. -/
  levels : List Level
  /-- What is said when no bound is passed. -/
  otherwise : Option String

/-- The first level whose bound a value passes. -/
def firstPassed (v : Value) : List Level → Except Failure (Option Level)
  | [] => .ok none
  | l :: rest => do
      if ← v.above l.bound then .ok (some l) else firstPassed v rest

/-- What a rule says about metrics. -/
def AdviceRule.advise (r : AdviceRule) (metrics : Metrics) : Except Failure (Option Advice) := do
  let v ← metrics.get r.metric
  match ← firstPassed v r.levels with
  | some l => .ok (some ⟨r.metric, v, l.severity, l.text v.display⟩)
  | none => .ok (r.otherwise.map fun text => ⟨r.metric, v, .low, text⟩)

/-! ## §2. The rules. -/

namespace AdviceRule

/-- Cyclomatic complexity. -/
def complexity : AdviceRule where
  metric := Counter.cyclomatic.key
  levels :=
    [⟨50, .high, fun _ => "Refactorisez immédiatement ces fonctions très complexes. Divisez-les en sous-fonctions plus petites."⟩,
     ⟨30, .medium, fun _ => "Considérez de refactoriser les fonctions complexes pour améliorer la maintenabilité."⟩]
  otherwise := some "La complexité cyclomatique est acceptable."

/-- The number of branches. -/
def branches : AdviceRule where
  metric := Counter.branches.key
  levels :=
    [⟨40, .high, fun _ => "Le code a trop de branches, ce qui augmente le risque d'erreurs. Refactorisez pour réduire la complexité."⟩,
     ⟨20, .medium, fun _ => "Trop de branches peuvent rendre le code difficile à suivre. Considérez de simplifier la logique."⟩]
  otherwise := some "Nombre de branches acceptable."

/-- The depth of inheritance. -/
def inheritance : AdviceRule where
  metric := depthKey
  levels :=
    [⟨4, .high, fun _ => "Profondeur d'héritage excessive. Considérez d'utiliser la composition plutôt que l'héritage."⟩,
     ⟨2, .medium, fun _ => "Profondeur d'héritage modérée. Évitez d'aller plus profond pour maintenir la lisibilité."⟩]
  otherwise := some "Profondeur d'héritage raisonnable."

/-- The average length of functions. -/
def functionLength : AdviceRule where
  metric := averageLinesKey
  levels :=
    [⟨30, .high, fun _ => "Les fonctions sont trop longues en moyenne. Essayez de respecter la règle des 20 lignes maximum par fonction."⟩,
     ⟨20, .medium, fun _ => "Certaines fonctions sont trop longues. Considérez de les diviser en sous-fonctions."⟩]
  otherwise := none

/-- Violations of the style guide. -/
def style : AdviceRule where
  metric := Counter.lint.key
  levels :=
    [⟨50, .high, fun _ => "Nombre élevé de violations de style. Effectuez une révision complète du code selon les standards PEP 8."⟩,
     ⟨20, .medium, fun _ => "Nombre modéré de violations de style. Améliorez la qualité du code en corrigeant ces problèmes."⟩]
  otherwise := none

/-- Variables that hold secrets. -/
def sensitiveVariables : AdviceRule where
  metric := Counter.sensitiveVariables.key
  levels :=
    [⟨0, .high, fun n => n ++ " variables sensibles détectées. Utilisez des variables d'environnement ou un gestionnaire de secrets comme Vault."⟩]
  otherwise := none

/-- Queries built from variable parts. -/
def sqlInjections : AdviceRule where
  metric := Counter.sqlInjections.key
  levels :=
    [⟨0, .critical, fun n => n ++ " injections SQL potentielles détectées. Utilisez toujours des requêtes paramétrées ou un ORM."⟩]
  otherwise := none

/-- Scripts injected into pages. -/
def crossSiteScripting : AdviceRule where
  metric := Counter.crossSiteScripting.key
  levels :=
    [⟨0, .high, fun n => n ++ " vulnérabilités XSS potentielles. Échappez toujours les entrées utilisateur avec des filtres appropriés."⟩]
  otherwise := none

/-- All rules in order. -/
def all : List AdviceRule :=
  [.complexity, .branches, .inheritance, .functionLength, .style, .sensitiveVariables,
   .sqlInjections, .crossSiteScripting]

end AdviceRule

/-! ## §3. Gathering. -/

/-- Advice gathered, and why gathering ended early if it did. -/
structure Gathered where
  advice : List Advice
  failure : Option Failure

/-- What rules say about metrics, up to the first that fails. -/
def gather (metrics : Metrics) : List AdviceRule → Gathered
  | [] => ⟨[], none⟩
  | r :: rest =>
      match r.advise metrics with
      | .error f => ⟨[], some f⟩
      | .ok found =>
          let more := gather metrics rest
          ⟨found.toList ++ more.advice, more.failure⟩

/-- The key under which metrics keep the advice on them. -/
def adviceKey : String := "recommendations"

/-- Metrics with the advice on them, and the failure if there was one. -/
def withAdvice (metrics : Metrics) : Metrics × Option Failure :=
  let empty := Dict.put metrics adviceKey (.list [])
  let g := gather empty AdviceRule.all
  (Dict.put metrics adviceKey (.list (g.advice.map Advice.toValue)), g.failure)

end CodeAudit.Report
