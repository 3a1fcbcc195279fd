/-
  CodeAudit.Audit.Dependencies
  ────────────────────────────
  **VULNERABLE DEPENDENCIES.**

  The scanner prints a list of holes in the data format.  Their number becomes
  a metric, and each hole is added to the findings of every file.  Entries are
  taken one by one, each for all files; the first that is no dictionary ends
  the work.
-/
import CodeAudit.Audit.Services
import CodeAudit.Data.Json.Reader

namespace CodeAudit.Audit

open CodeAudit.Data
open CodeAudit.Text (Wording)

/-- The text of a field of a hole, empty when it is absent. -/
def holeText (hole : Value) (key : String) : Except Failure Wording := do
  .ok (← hole.fieldOr key (.text "")).wording

/-- The finding about a hole. -/
def holeFinding (hole : Value) : Except Failure Finding := do
  let package ← holeText hole "package_name"
  let spec ← holeText hole "vulnerable_spec"
  let advisory ← holeText hole "advisory"
  let version ← holeText hole "analyzed_version"
  .ok { category := .vulnerableDependency
        line := none
        message := package ++ " " ++ spec ++ ": " ++ advisory
        recommendation := some ("Mettez à jour vers " ++ version ++ " ou plus récent.")
        excerpt := none
        subtype := none }

/-- The findings of files, as a report holds them. -/
abbrev Details := Dict

/-- Add a finding to a list of findings. -/
def addFinding (findings : Value) (f : Finding) : Except Failure Value :=
  match findings with
  | .list xs => .ok (.list (xs ++ [f.toValue]))
  | v => .error (.noMethod v.kindName "append")

/-- Add a hole to the findings of every file, as far as that goes. -/
def addHole (hole : Value) : Details → Details × Option Failure
  | [] => ([], none)
  | (file, findings) :: rest =>
      let added := match findings with
        | .list _ => (holeFinding hole).bind (addFinding findings)
        | v => .error (.noMethod v.kindName "append")
      match added with
      | .error e => ((file, findings) :: rest, some e)
      | .ok new =>
          let (rest, failure) := addHole hole rest
          ((file, new) :: rest, failure)

/-- Add holes one by one, up to the first that fails. -/
def addHoles (details : Details) : List Value → Details × Option Failure
  | [] => (details, none)
  | hole :: rest =>
      match addHole hole details with
      | (details, some e) => (details, some e)
      | (details, none) => addHoles details rest

/-- Why the work on dependencies ended early. -/
inductive DependencyFault where
  | scanner (reason : String)
  | format (fault : Json.Fault) (text : List Char)
  | data (failure : Failure)

/-- The wording of such a fault. -/
def DependencyFault.message : DependencyFault → String
  | .scanner reason => reason
  | .format fault text => fault.message text
  | .data failure => failure.message

/-- Metrics and findings, and the fault if there was one. -/
structure DependencyResult where
  metrics : Metrics
  details : Details
  fault : Option DependencyFault

/-- Take over a printed list of holes. -/
def takeHoles (holes : Value) (m : Metrics) (details : Details) : DependencyResult :=
  match holes.length with
  | .error e => ⟨m, details, some (.data e)⟩
  | .ok n =>
      let m := Dict.put m Counter.vulnerableDependencies.key (.int n)
      let items := (holes.items.toOption).getD []
      let (details, failure) := addHoles details items
      ⟨m, details, failure.map .data⟩

/-- Take over the reply of the scanner.  A code other than 0 and 1 is ignored. -/
def takeScan (reply : ScannerReply) (m : Metrics) (details : Details) : DependencyResult :=
  match reply with
  | .fails reason => ⟨m, details, some (.scanner reason)⟩
  | .ends code output =>
      if code = 0 ∨ code = 1 then
        let text := output.toList
        if text.isEmpty then takeHoles (.list []) m details
        else match Json.read text with
          | .error fault => ⟨m, details, some (.format fault text)⟩
          | .ok holes => takeHoles holes m details
      else ⟨m, details, none⟩

/-- The line that is printed about a fault. -/
def faultLine (f : DependencyFault) : String :=
  "Erreur lors de l'analyse des dépendances: " ++ f.message

end CodeAudit.Audit
