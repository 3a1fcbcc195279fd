/-
  CodeAudit.Site.Sheet
  ────────────────────
  **A REPORT AS A PAGE SHOWS IT.**

  A kept report is loosely typed: an audit's, a test suite's, or whatever was
  put there.  `Reading` takes it apart into what the page is about, and
  `Sheet` into what is printed on it; both fail where the report does not have
  the shape that they need.
-/
import CodeAudit.Site.Html
import CodeAudit.Site.Markup

namespace CodeAudit.Site

open CodeAudit.Data CodeAudit.Site.Html
open CodeAudit.Text (Wording)

/-! ## §1. Findings by severity. -/

/-- Whether two values are the same key. -/
def sameKey (a b : Value) : Bool :=
  match a.numeral?, b.numeral? with
  | some x, some y => x.eq y
  | none, none =>
      match a, b with
      | .null, .null => true
      | _, _ => a.wording?.isSome && a.wording? == b.wording?
  | _, _ => false

/-- Findings under keys, each with its file. -/
abbrev Groups := List (Value × List (String × Value))

/-- Add a finding under a key; a new key comes last. -/
def Groups.add (groups : Groups) (key : Value) (entry : String × Value) : Groups :=
  if groups.any (sameKey ·.1 key) then
    groups.map fun g => if sameKey g.1 key then (g.1, g.2 ++ [entry]) else g
  else groups ++ [(key, [entry])]

/-- A value as a key. -/
def keyOf (v : Value) : Except Failure Value :=
  match v with
  | .list _ | .dict _ => .error (.noKey v.kindName)
  | v => .ok v

/-- The findings of the files, by severity. -/
def bySeverity (files : Dict) : Except Failure Groups :=
  files.foldlM (fun groups (file, findings) => do
    (← findings.items).foldlM (fun groups finding => do
      let key ← keyOf (← finding.field "severity")
      return groups.add key (file, finding)) groups) []

/-! ## §2. Readings. -/

/-- What the page of a report is about. -/
structure Reading where
  report : Value
  metrics : Value
  files : Dict
  recommendations : Value
  /-- The words of the adviser as HTML. -/
  adviser : Option Wording
  groups : Groups

/-- The words of an adviser as HTML. -/
def adviserHtml (v : Value) : Except Failure Wording :=
  match v.wording? with
  | some w => .ok (Markup.htmlOf w)
  | none => .error (.noMethod v.kindName "strip")

/-- Read a report. -/
def Reading.of (report : Value) : Except Failure Reading := do
  let words ← report.fieldOr "llm_recommendations" .null
  let adviser ← if words.truthy then (adviserHtml words).map some else .ok none
  let metrics ← report.fieldOr "summary_metrics" (.dict [])
  let files ← (← report.fieldOr "detailed_report" (.dict [])).entries
  let recommendations ← metrics.fieldOr "recommendations" (.list [])
  let groups ← bySeverity files
  return { report, metrics, files, recommendations, adviser, groups }

/-! ## §3. Sheets. -/

/-- A file on a page. -/
structure FileRow where
  path : Value
  /-- Whether something was found in it. -/
  flagged : Bool
  findings : List Value

/-- What is printed on the page of a report. -/
structure Sheet where
  filesAnalyzed : Option Value
  filesWithIssues : Option Value
  complexity : Option Value
  violations : Option Value
  prediction : Option Value
  files : List FileRow
  /-- Whether there is advice on the metrics. -/
  advised : Bool
  advice : List Value
  /-- The words of the adviser as HTML. -/
  adviser : Option Wording
  /-- The advice in place of the adviser's words. -/
  standardAdvice : List Value
  adviceError : Option Value

/-- Whether a fault is predicted: the words of the prediction mention one. -/
def Sheet.predictsFault (s : Sheet) : Bool :=
  match s.prediction with
  | none => false
  | some v => v.truthy && Text.occursIn "défaut".toList (Text.lower v.display).toList

/-- A file with its findings. -/
def FileRow.of (path findings : Value) : Except Failure FileRow := do
  return ⟨path, findings.truthy, ← listed (some findings)⟩

/-- The files of a report.  An entry called `items` among them hides the others:
what it holds is listed as pairs. -/
def fileRows (files : Dict) : Except Failure (List FileRow) :=
  match Dict.get? files "items" with
  | some v => do
      (← listed (some v)).mapM fun item => do
        let (path, findings) ← pairOf item
        FileRow.of path findings
  | none => files.mapM fun (path, findings) => FileRow.of (.text path) findings

/-- Lay out a reading. -/
def Reading.sheet (r : Reading) : Except Failure Sheet := do
  let files ← fileRows r.files
  let advised := r.recommendations.truthy
  let advice ← if advised then listed (some r.recommendations) else .ok []
  let standardAdvice ←
    if r.adviser.isSome then .ok [] else listed (part? r.metrics "recommendations")
  return {
    filesAnalyzed := part? r.report "files_analyzed"
    filesWithIssues := part? r.report "files_with_issues"
    complexity := part? r.metrics "complexite_cyclomatique"
    violations := part? r.metrics "violations_pylint"
    prediction := part? r.metrics "ml_prediction"
    files, advised, advice, adviser := r.adviser, standardAdvice
    adviceError := part? r.report "llm_error" }

end CodeAudit.Site
