/-
  CodeAudit.Audit.Metrics
  ───────────────────────
  **COUNTERS AND METRICS.**

  The metrics of an audit are a dictionary.  It starts with one entry per
  counter, all zero; an audit adds to them, and some metrics are derived at
  the end.  A metric that comes from outside may be missing or hold anything,
  so adding can fail.
-/
import CodeAudit.Data.Operations
import CodeAudit.Source.Complexity
import CodeAudit.Source.Lines

namespace CodeAudit.Audit

open CodeAudit.Data CodeAudit.Source

/-! ## §1. Counters. -/

/-- What is counted. -/
inductive Counter where
  | cyclomatic
  | branches
  | classes
  | functions
  | functionLines
  | parameters
  | codeLines
  | commentLines
  | lint
  | hints
  | sensitiveVariables
  | sqlInjections
  | crossSiteScripting
  | tokenProtection
  | vulnerableDependencies
  | exposedKeys
  | encryption
  | authorization
  | decorators
  | endpoints
  | duplicates
  deriving DecidableEq, Repr

/-- The key of a counter. -/
def Counter.key : Counter → String
  | .cyclomatic => "complexite_cyclomatique"
  | .branches => "nombre_branches"
  | .classes => "nombre_classes"
  | .functions => "total_fonctions"
  | .functionLines => "total_lignes_fonctions"
  | .parameters => "total_parametres"
  | .codeLines => "lignes_code_effectif"
  | .commentLines => "lignes_commentaires"
  | .lint => "violations_pylint"
  | .hints => "annotations_type"
  | .sensitiveVariables => "variables_sensibles"
  | .sqlInjections => "injections_sql"
  | .crossSiteScripting => "xss_potentiels"
  | .tokenProtection => "csrf_protection"
  | .vulnerableDependencies => "dependances_vulnerables"
  | .exposedKeys => "api_key_exposure"
  | .encryption => "encryption_usage"
  | .authorization => "authorization_checks"
  | .decorators => "decorators_used"
  | .endpoints => "http_endpoints"
  | .duplicates => "code_duplique"

/-- The counters in the order of the metrics. -/
def Counter.all : List Counter :=
  [.cyclomatic, .branches, .classes, .functions, .functionLines, .parameters, .codeLines,
   .commentLines, .lint, .hints, .sensitiveVariables, .sqlInjections, .crossSiteScripting,
   .tokenProtection, .vulnerableDependencies, .exposedKeys, .encryption, .authorization,
   .decorators, .endpoints, .duplicates]

/-- The key of the greatest inheritance depth. -/
def depthKey : String := "profondeur_heritage"

/-- The key of the average number of lines of a function. -/
def averageLinesKey : String := "longueur_moyenne_fonctions"

/-- The key of the average number of parameters of a function. -/
def averageParametersKey : String := "parametres_moyens_par_fonction"

/-! ## §2. Adding. -/

/-- A dictionary of metrics. -/
abbrev Metrics := Dict

namespace Metrics

/-- All counters at zero. -/
def zero : Metrics := Counter.all.map fun c => (c.key, .int 0)

/-- All counters and derived metrics at zero. -/
def allZero : Metrics :=
  zero ++ [(depthKey, .int 0), (averageLinesKey, .int 0), (averageParametersKey, .int 0)]

/-- The value of a metric. -/
def get (m : Metrics) (key : String) : Except Failure Value := Value.field (.dict m) key

/-- Add a whole number in place to a value. -/
def increase (v : Value) (n : Int) : Except Failure Value :=
  match v with
  | .text _ | .torn _ => .error (.noJoin "str" "int")
  | .list _ => .error (.noItems "int")
  | v =>
      match v.numeral? with
      | some _ => v.add (.int n)
      | none => .error (.noOperation "+=" v.kindName "int")

/-- Add to a counter. -/
def count (m : Metrics) (c : Counter) (n : Int) : Except Failure Metrics := do
  let old ← m.get c.key
  let new ← increase old n
  .ok (Dict.put m c.key new)

/-- Add to several counters, in order. -/
def countAll (m : Metrics) (counts : List (Counter × Int)) : Except Failure Metrics :=
  counts.foldlM (fun m (c, n) => m.count c n) m

end Metrics

/-! ## §3. What a tree adds. -/

/-- What the blocks of a tree add to the counters, in order. -/
def complexityCounts (tree : Node) : List (Counter × Int) :=
  tree.complexities.flatMap fun (c : Nat) => [(.cyclomatic, (c : Int)), (.branches, (c : Int) - 1)]


/-- The hint of a parameter. -/
def hasHint : Node → Bool
  | .parameter _ _ hint => hint.isSome
  | _ => false

/-- What a node of a tree adds to the counters, in order. -/
def structuralCounts : Node → List (Counter × Int)
  | .classDef _ _ _ _ _ _ => [(.classes, 1)]
  | .function line endLine false _ parameters _ decorators returns =>
      let regular := match parameters with
        | .signature _ regular _ _ _ _ _ => regular
        | _ => []
      [(.functions, 1), (.functionLines, (endLine : Int) - line + 1), (.parameters, regular.length)]
        ++ (regular.filter hasHint).map (fun _ => (Counter.hints, (1 : Int)))
        ++ (if returns.isSome then [(Counter.hints, (1 : Int))] else [])
        ++ [(Counter.decorators, (decorators.length : Int))]
  | .annotated _ _ _ _ => [(.hints, 1)]
  | _ => []

/-- What the lines of a text add to the counters, in order. -/
def lineCounts (c : Lines.Count) : List (Counter × Int) :=
  [(.codeLines, c.lines), (.commentLines, c.comments)]

end CodeAudit.Audit
