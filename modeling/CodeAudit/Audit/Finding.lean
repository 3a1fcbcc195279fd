/-
  CodeAudit.Audit.Finding
  ───────────────────────
  **WHAT AN AUDIT REPORTS.**

  A finding has a category, which fixes its title and its severity, the line
  it is about, and the texts that explain it.  `Finding.toDict` is its form in
  a report.
-/
import CodeAudit.Data.Value

namespace CodeAudit.Audit

open CodeAudit.Data
open CodeAudit.Text (Wording)

/-! ## §1. Categories. -/

/-- How serious a finding is. -/
inductive Severity where
  | critical
  | high
  | medium
  | low
  | info
  deriving DecidableEq, Repr

/-- The word for a severity. -/
def Severity.word : Severity → String
  | .critical => "critical"
  | .high => "high"
  | .medium => "medium"
  | .low => "low"
  | .info => "info"

/-- What a finding is about. -/
inductive Category where
  /-- A variable whose name speaks of a secret. -/
  | sensitiveVariable
  /-- A query built from variable parts. -/
  | sqlInjection
  /-- A variable handed to a page unescaped. -/
  | crossSiteScripting
  /-- A call of a known cipher. -/
  | encryption
  /-- A state change without a token. -/
  | missingToken
  /-- Sensitive data behind a condition that checks no right. -/
  | missingAuthorization
  /-- A request handled without validation. -/
  | missingValidation
  /-- A dependency with a known hole. -/
  | vulnerableDependency
  /-- A file that could not be audited to its end. -/
  | failure
  deriving DecidableEq, Repr

/-- The title of a category. -/
def Category.title : Category → String
  | .sensitiveVariable => "Variable sensible"
  | .sqlInjection => "Injection SQL potentielle"
  | .crossSiteScripting => "XSS potentiel"
  | .encryption => "Utilisation de chiffrement"
  | .missingToken => "Protection CSRF manquante"
  | .missingAuthorization => "Contrôle d'autorisation manquant"
  | .missingValidation => "Validation d'entrée manquante"
  | .vulnerableDependency => "Dépendance vulnérable"
  | .failure => "Erreur d'analyse"

/-- The severity of a category. -/
def Category.severity : Category → Severity
  | .sqlInjection => .critical
  | .encryption => .info
  | .missingValidation => .medium
  | _ => .high

/-! ## §2. Findings. -/

/-- A finding. -/
structure Finding where
  category : Category
  /-- The line it is about; none when it is about no line. -/
  line : Option Nat
  message : Wording
  recommendation : Option Wording
  /-- The line itself, stripped. -/
  excerpt : Option String
  /-- A closer description. -/
  subtype : Option String
  deriving DecidableEq, Repr

namespace Finding

/-- The severity of a finding. -/
def severity (f : Finding) : Severity := f.category.severity

/-- The entry of a text that may be absent. -/
def optionalEntry (key : String) : Option Wording → Dict
  | some w => [(key, .ofWording w)]
  | none => []

/-- A finding as an entry of a report. -/
def toDict (f : Finding) : Dict :=
  [("line", match f.line with
      | some n => .int n
      | none => .text "N/A"),
   ("type", .text f.category.title),
   ("message", .ofWording f.message),
   ("severity", .text f.severity.word)]
    ++ optionalEntry "recommendation" f.recommendation
    ++ optionalEntry "code_excerpt" (f.excerpt.map .whole)
    ++ optionalEntry "subtype" (f.subtype.map .whole)

/-- A finding as a value. -/
def toValue (f : Finding) : Value := .dict f.toDict

/-- A finding about a line of the source. -/
def onLine (category : Category) (line : Nat) (excerpt message recommendation : String) : Finding :=
  ⟨category, some line, .whole message, some (.whole recommendation), some excerpt, none⟩

/-- The finding that a file could not be audited to its end. -/
def failed (reason : String) : Finding :=
  ⟨.failure, none, .whole ("Impossible d'analyser le fichier: " ++ reason), none, none, none⟩

end Finding

end CodeAudit.Audit
