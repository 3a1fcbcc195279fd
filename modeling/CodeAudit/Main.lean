/-
  CodeAudit.Main
  ──────────────
  **THE COMMAND LINE.**

  The arguments are the modules to audit, which are taken by name.  No outside
  service is at hand, so the linter reports nothing, the scanner is absent, and
  neither the model nor the assistant answers.
-/
import CodeAudit.Audit.Console

namespace CodeAudit

open CodeAudit.Audit

/-- No service at hand. -/
def alone : ConsoleServices where
  services :=
    { lint := fun _ => .messages 0
      scanner := .absent
      model := .fails "no model"
      adviser := .fails "offline" }
  assistant := []
  modelFeatures := []

/-- Read the named files. -/
def readFiles (paths : List String) : IO (List SourceFile) :=
  paths.mapM fun (path : String) => do
    let bytes ← IO.FS.readBinFile path
    return ⟨path, bytes.toList⟩

end CodeAudit

/-- Audit the named modules and print the reports. -/
def main (arguments : List String) : IO UInt32 := do
  let files ← CodeAudit.readFiles arguments
  let folder := CodeAudit.Audit.Folder.written .byName files
  let run := CodeAudit.Audit.consoleRun CodeAudit.alone CodeAudit.Audit.defaultDirectory folder
  IO.print run.trace.printed
  match run.failure with
  | none => return 0
  | some failure =>
      IO.eprintln (failure.kind ++ ": " ++ failure.message)
      return 1
