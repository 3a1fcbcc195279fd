/-
  CodeAudit.Audit.Console
  ───────────────────────
  **AN AUDIT AT THE CONSOLE.**

  Audits one project without assistance, prints the plain report, tries a
  commented report, and lets the model predict faults.
-/
import CodeAudit.Audit.Project
import CodeAudit.Report.Assistant
import CodeAudit.Report.Plain

namespace CodeAudit.Audit

open CodeAudit.Data CodeAudit.Report

/-- The directory that is audited when none is named. -/
def defaultDirectory : String :=
  "C:/Users/hp/Desktop/Projets Django/Gestion-Travaux/gestion_travaux/travaux"

/-- What the console needs of others besides the services of an audit. -/
structure ConsoleServices where
  services : Services
  /-- The replies of the assistant. -/
  assistant : List AdviserReply
  /-- The names of the features that the model knows. -/
  modelFeatures : List String

/-- The outcome of a run: what was printed and asked, and why it ended early. -/
structure ConsoleRun where
  trace : Trace
  failure : Option Failure

/-- Names as a printed list. -/
def printedNames (names : List String) : String := (texts names).display

/-- The lines about the prediction. -/
def predictionLines (modelFeatures : List String) : ModelReply → List String
  | .predicts v =>
      ["\n*** Résultat de la Prédiction ***",
       if v.equals 1 then "Défaut logiciel détecté (defaut_present = 1)"
       else "Aucun défaut logiciel détecté (defaut_present = 0)"]
  | .fails reason =>
      ["\nErreur lors de la prédiction: " ++ reason,
       "Colonnes du DataFrame: " ++ printedNames featureNames,
       "Features attendues par le modèle: " ++ printedNames modelFeatures]

/-- The commented report, or the line that says why there is none, with the
prompts that were sent. -/
def commentedOrReason (report : Value) (replies : List AdviserReply) : String × List String :=
  match ((commented report).run).run ⟨replies, []⟩ with
  | (.ok text, c) => (text, c.prompts)
  | (.error e, c) => ("Échec de génération du rapport IA: " ++ e.message, c.prompts)

/-- Audit a project at the console. -/
def consoleRun (s : ConsoleServices) (directory : String) (folder : Folder) : ConsoleRun :=
  let (outcome, auditor, audit) := Auditor.new.audit .basic s.services directory folder
  let trace := { audit with printed := "Analyse en cours...\n" ++ audit.printed }
  match outcome with
  | .error e => ⟨trace, some e⟩
  | .ok () =>
      let report := Value.dict auditor.report
      let trace := trace.print "\n=== RAPPORT DE BASE ==="
      match plain report with
      | .error e => ⟨trace, some e⟩
      | .ok text =>
          let trace := (trace.print text).print "\n=== RAPPORT AVANCÉ (IA) ==="
          let (line, prompts) := commentedOrReason report s.assistant
          let trace := { trace.print line with prompts := trace.prompts ++ prompts }
          let metrics := match Dict.get? auditor.report "summary_metrics" with
            | some (.dict m) => m
            | _ => []
          let trace := (trace.print "\nVérification des colonnes:").print (printedNames featureNames)
          let trace := trace.feed (featuresOf metrics)
          ⟨(predictionLines s.modelFeatures s.services.model).foldl Trace.print trace, none⟩

end CodeAudit.Audit
