/-
  CodeAudit.Audit.Project
  ───────────────────────
  **THE AUDIT OF A PROJECT.**

  The modules of a project are audited as its folder is walked.  Their findings
  go to the report, their counters add up to metrics; then dependencies are
  looked at, the derived metrics are computed and advice is given.  A full
  audit also has a model predict faults and asks an adviser.

  An auditor keeps its report from one project to the next.
-/
import CodeAudit.Audit.Dependencies
import CodeAudit.Audit.Folder
import CodeAudit.Audit.Prediction
import CodeAudit.Report.Advice
import CodeAudit.Report.Plain
import CodeAudit.Report.Summary
import CodeAudit.Report.Topic

namespace CodeAudit.Audit

open CodeAudit.Data CodeAudit.Source CodeAudit.Report

/-! ## §1. Modules. -/

/-- Whether a file is audited: its name ends as a module's does. -/
def isModuleName (name : String) : Bool := Text.startsWith "yp.".toList name.toList.reverse

/-- A path inside a directory. -/
def joinPath (directory path : String) : String :=
  if directory.isEmpty || Text.startsWith ['/'] directory.toList.reverse then directory ++ path
  else directory ++ "/" ++ path

/-- The modules of a project in the order in which they are walked, with their full
paths. -/
def modulesOf (directory : String) (folder : Folder) : List (String × List UInt8) :=
  (folder.files.filter fun f => isModuleName f.path).map fun f =>
    (joinPath directory f.path, f.content)

/-! ## §2. All files. -/

/-- What auditing several files gives: metrics, heritage, and the findings file
by file. -/
structure Survey where
  metrics : Metrics
  heritage : Heritage
  findings : List (String × List Finding)

/-- Audit one more file. -/
def Survey.add (k : Keywords) (lint : String → LintReply) (s : Survey)
    (file : String × List UInt8) : Survey :=
  let l := auditFile k (lint file.1) file.2 s.metrics s.heritage
  ⟨l.metrics, l.heritage, s.findings ++ [(file.1, l.findings)]⟩

/-- Audit files, one after the other. -/
def survey (k : Keywords) (lint : String → LintReply) (files : List (String × List UInt8)) :
    Survey :=
  files.foldl (Survey.add k lint) ⟨Metrics.zero, [], []⟩

/-! ## §3. Derived metrics. -/

/-- The average of a counter per function, to two places; zero without
functions. -/
def average (m : Metrics) (c : Counter) : Value :=
  match m.get Counter.functions.key, m.get c.key with
  | .ok functions, .ok total =>
      match functions.above 0, total.divide functions with
      | .ok true, .ok q => .real (q.roundTo 2)
      | _, _ => .int 0
  | _, _ => .int 0

/-- Add the derived metrics. -/
def withDerived (m : Metrics) (h : Heritage) : Metrics :=
  let m := Dict.put m depthKey (.int h.deepest)
  let m := Dict.put m averageLinesKey (average m .functionLines)
  Dict.put m averageParametersKey (average m .parameters)

/-! ## §4. Auditors. -/

/-- Which parts an audit has. -/
structure Edition where
  /-- How the topic of injected scripts shows its metric. -/
  scripting : Amount
  /-- Whether faults are predicted and an adviser is asked. -/
  assisted : Bool

/-- The full audit. -/
def Edition.full : Edition := ⟨.hidden, true⟩

/-- The audit without prediction and adviser. -/
def Edition.basic : Edition := ⟨.count, false⟩

/-- Only an assisted audit can do some things; another one lacks the method. -/
def Edition.require (e : Edition) (method : String) : Except Failure Unit :=
  if e.assisted then .ok () else .error (.noMethod "SecurityAnalyzer" method)

/-- An auditor: its words and its report so far. -/
structure Auditor where
  keywords : Keywords
  report : Dict

/-- A report about nothing. -/
def emptyReport : Dict :=
  [("project_name", .text ""), ("files_analyzed", .int 0), ("files_with_issues", .int 0),
   ("total_issues", .int 0), ("detailed_report", .dict []), ("summary_metrics", .dict [])]

/-- A new auditor. -/
def Auditor.new : Auditor := ⟨.standard, emptyReport⟩

/-! ## §5. The steps of an audit. -/

/-- What changes during an audit. -/
structure Desk where
  report : Dict
  trace : Trace

/-- A task at the desk; what it did before a failure stays done. -/
abbrev Task := ExceptT Failure (StateM Desk)

namespace Task

/-- Read an entry of the report. -/
def entry (key : String) : Task Value := do
  let desk ← get
  match Value.field (.dict desk.report) key with
  | .ok v => return v
  | .error e => throw e

/-- Write an entry of the report. -/
def write (key : String) (v : Value) : Task Unit :=
  modify fun desk => { desk with report := Dict.put desk.report key v }

/-- Raise an entry of the report. -/
def raise (key : String) (n : Int) : Task Unit := do
  match Metrics.increase (← entry key) n with
  | .ok v => write key v
  | .error e => throw e

/-- Change the trace. -/
def log (f : Trace → Trace) : Task Unit := modify fun desk => { desk with trace := f desk.trace }

/-- A computation that may fail. -/
def ofExcept {α : Type} : Except Failure α → Task α
  | .ok a => return a
  | .error e => throw e

end Task

/-- Add findings to those of a file. -/
def extend (details : Value) (file : String) (findings : List Finding) : Except Failure Value := do
  let entries ← match details with
    | .dict es => .ok es
    | v => .error (.noFields v.kindName)
  match (Dict.get? entries file).getD (.list []) with
  | .list old => .ok (.dict (Dict.put entries file (.list (old ++ findings.map Finding.toValue))))
  | v => .error (.noMethod v.kindName "extend")

/-- Enter the findings of a file in the report. -/
def enterFile (file : String) (findings : List Finding) : Task Unit := do
  Task.raise "files_analyzed" 1
  if !findings.isEmpty then
    Task.raise "files_with_issues" 1
    Task.raise "total_issues" findings.length
    let details ← Task.entry "detailed_report"
    let details ← Task.ofExcept (extend details file findings)
    Task.write "detailed_report" details

/-- Look at the dependencies, and give back the metrics. -/
def enterDependencies (reply : ScannerReply) (m : Metrics) : Task Metrics := do
  let details := match ← Task.entry "detailed_report" with
    | .dict es => es
    | _ => []
  let r := takeScan reply m details
  Task.write "detailed_report" (.dict r.details)
  match r.fault with
  | some fault => Task.log (·.print (faultLine fault))
  | none => pure ()
  return r.metrics

/-- Have the model predict, and give back its words. -/
def enterPrediction (reply : ModelReply) (m : Metrics) : Task String := do
  Task.log (·.feed (featuresOf m))
  return predictionText reply

/-- The answer of an adviser to a question: a text that is not empty, or
nothing. -/
def adviceOf : AdviserReply → Value
  | .fails _ => .null
  | .answers v => if v.truthy then v else .null

/-- Ask the adviser about the report.  A report that cannot be summarised is
noted in it. -/
def enterAdvice (reply : AdviserReply) : Task Unit := do
  let report := Value.dict (← get).report
  match findingSummary report, adviceSummary report with
  | .ok findings, .ok advice =>
      Task.log (·.ask (question findings advice))
      Task.write "llm_recommendations" (adviceOf reply)
  | .error e, _ | .ok _, .error e =>
      Task.write "llm_recommendations" .null
      Task.write "llm_error" (.text e.message)

/-- Conclude an audit: the derived metrics and the advice on them, and in an
assisted audit a prediction and the words of an adviser. -/
def conclude (edition : Edition) (services : Services) (m : Metrics) (h : Heritage) :
    Task Unit := do
  let (m, failure) := withAdvice (withDerived m h)
  match failure with
  | some e => throw e
  | none => pure ()
  if edition.assisted then
    let prediction ← enterPrediction services.model m
    Task.write "summary_metrics" (.dict (Dict.put m "ml_prediction" (.text prediction)))
    enterAdvice services.adviser
  else
    Task.write "summary_metrics" (.dict m)

/-- Audit modules, in the order in which they are handed in. -/
def auditModules (edition : Edition) (k : Keywords) (services : Services) (directory : String)
    (modules : List (String × List UInt8)) : Task Unit := do
  Task.write "project_name" (.text (baseName directory))
  let s := survey k services.lint modules
  for (file, findings) in s.findings do
    enterFile file findings
  let m ← enterDependencies services.scanner s.metrics
  conclude edition services m s.heritage

/-- Audit a project: its modules as they are walked. -/
def auditProject (edition : Edition) (k : Keywords) (services : Services) (directory : String)
    (folder : Folder) : Task Unit :=
  auditModules edition k services directory (modulesOf directory folder)

/-- Run a task of an auditor: its outcome, the auditor afterwards, and the
trace. -/
def Auditor.perform {α : Type} (a : Auditor) (task : Task α) : Except Failure α × Auditor × Trace :=
  let (outcome, desk) := (task.run).run ⟨a.report, .empty⟩
  (outcome, { a with report := desk.report }, desk.trace)

/-- Audit a project. -/
def Auditor.audit (a : Auditor) (edition : Edition) (services : Services) (directory : String)
    (folder : Folder) : Except Failure Unit × Auditor × Trace :=
  a.perform (auditProject edition a.keywords services directory folder)

/-! ## §6. Parts of an audit on their own. -/

/-- Write the plain report of what has been entered so far. -/
def plainReport : Task String := do
  Task.ofExcept (plain (.dict (← get).report))

/-- The findings of a report in short, in an assisted audit. -/
def summariseFindings (e : Edition) (report : Value) : Except Failure String := do
  e.require "summarize_issues"
  findingSummary report

/-- The advice of a report in short, in an assisted audit. -/
def summariseAdvice (e : Edition) (report : Value) : Except Failure String := do
  e.require "summarize_metrics"
  adviceSummary report

/-- Have the model predict from metrics, in an assisted audit. -/
def predict (e : Edition) (reply : ModelReply) (m : Metrics) : Task String := do
  Task.ofExcept (e.require "predict_vulnerability")
  enterPrediction reply m

/-- Ask an adviser about two summaries. -/
def askAdviser (reply : AdviserReply) (findings metrics : Value) : Task Value := do
  Task.log (·.ask (question findings.display metrics.display))
  match reply with
  | .answers v => return v
  | .fails _ => return .null

/-- Replace the metrics of the report by others with advice on them. -/
def adviseOn (m : Metrics) : Task Value := do
  let (m, failure) := withAdvice m
  Task.write "summary_metrics" (.dict m)
  match failure with
  | some e => throw e
  | none => Task.ofExcept (m.get adviceKey)

end CodeAudit.Audit
