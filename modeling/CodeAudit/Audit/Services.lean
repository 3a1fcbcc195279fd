/-
  CodeAudit.Audit.Services
  ────────────────────────
  **WHAT AN AUDIT ASKS OF OTHERS.**

  A linter, a scanner of dependencies, a model that predicts faults, and an
  adviser that answers in words.  Their replies are data here; what an audit
  has asked and printed is kept in a `Trace`.
-/
import CodeAudit.Audit.File

namespace CodeAudit.Audit

open CodeAudit.Data

/-! ## §1. Replies. -/

/-- The reply of the scanner of dependencies. -/
inductive ScannerReply where
  /-- It does not start. -/
  | fails (reason : String)
  /-- It ends with a code and prints a text. -/
  | ends (code : Int) (output : String)

/-- The reply of a scanner that is not installed. -/
def ScannerReply.absent : ScannerReply :=
  .fails "[Errno 2] No such file or directory: 'safety'"

/-- The reply of the model. -/
inductive ModelReply where
  | fails (reason : String)
  | predicts (value : Value)

/-- The reply of an adviser: a text or null, or a breakdown. -/
inductive AdviserReply where
  | fails (reason : String)
  | answers (text : Value)

/-- The replies of all services. -/
structure Services where
  lint : String → LintReply
  scanner : ScannerReply
  model : ModelReply
  adviser : AdviserReply

/-! ## §2. Traces. -/

/-- A row of features, by name. -/
abbrev Features := List (String × Value)

/-- What has been printed and asked so far. -/
structure Trace where
  printed : String
  /-- The questions put to advisers. -/
  prompts : List String
  /-- The rows handed to the model. -/
  features : List Features

namespace Trace

/-- Nothing yet. -/
def empty : Trace := ⟨"", [], []⟩

/-- Print a line. -/
def print (t : Trace) (line : String) : Trace := { t with printed := t.printed ++ line ++ "\n" }

/-- Put a question. -/
def ask (t : Trace) (prompt : String) : Trace := { t with prompts := t.prompts ++ [prompt] }

/-- Hand a row to the model. -/
def feed (t : Trace) (row : Features) : Trace := { t with features := t.features ++ [row] }

end Trace

end CodeAudit.Audit
