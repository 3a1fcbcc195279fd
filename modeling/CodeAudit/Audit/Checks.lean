/-
  CodeAudit.Audit.Checks
  ──────────────────────
  **THE CHECKS OF A NODE.**

  Each check looks at one node of a tree, some of them also at what is below
  it, and reports what it finds.  The checks are syntactic: a name is judged
  by its spelling and a call by the spelling of what is called.
-/
import CodeAudit.Audit.Finding
import CodeAudit.Data.Failure
import CodeAudit.Source.Walk
import CodeAudit.Text.Blank
import CodeAudit.Text.Case

namespace CodeAudit.Audit

open CodeAudit.Data CodeAudit.Source

/-! ## §1. Words. -/

/-- The words that the checks look for. -/
structure Keywords where
  /-- Parts of names that speak of secrets. -/
  sensitive : List String
  /-- Known ciphers. -/
  encryption : List String
  /-- Methods that run a query. -/
  sql : List String
  /-- Methods that make a page. -/
  pages : List String

/-- The usual words. -/
def Keywords.standard : Keywords where
  sensitive := ["password", "secret", "token", "key", "api_key", "access_token", "secret_key"]
  encryption := ["cryptography.fernet.Fernet", "hashlib.sha256", "hashlib.md5",
    "pycryptodome.Cipher", "pycryptodome.Encrypt", "pycryptodome.Decrypt"]
  sql := ["execute", "executemany", "raw"]
  pages := ["render", "render_to_string", "HttpResponse"]

/-! ## §2. Questions about nodes. -/

/-- The name of the attribute that a node calls. -/
def calledAttribute? : Node → Option String
  | .call _ (.attr _ _ name) _ _ => some name
  | _ => none

/-- The plain name that a node calls. -/
def calledName? : Node → Option String
  | .call _ (.ident _ id) _ _ => some id
  | _ => none

/-- Whether a node calls an attribute with one of some names. -/
def callsAttribute (names : List String) (n : Node) : Bool :=
  (calledAttribute? n).any names.contains

/-- Whether a node calls a plain name among some. -/
def callsName (names : List String) (n : Node) : Bool := (calledName? n).any names.contains

/-- Whether a node reads an attribute with one of some names. -/
def readsAttribute (names : List String) : Node → Bool
  | .attr _ _ name => names.contains name
  | _ => false

/-- Whether a right is checked somewhere in a tree. -/
def checksAuthorization (n : Node) : Bool :=
  n.walk.any (callsAttribute ["has_permission", "has_role", "is_authenticated"])

/-- Whether an input is validated somewhere in a tree. -/
def validatesInput (n : Node) : Bool := n.walk.any (callsName ["validate", "clean", "sanitize"])

/-- Whether a decorator protects against forged requests. -/
def isTokenProtection (decorator : Node) : Bool :=
  match decorator with
  | .ident _ id => id == "csrf_protect"
  | _ => callsName ["csrf_protect"] decorator

/-- The spelling by which a called function is known: its name, its attribute,
or both when the attribute is one of a plain name. -/
def calleeSpelling : Node → String
  | .attr _ (.ident _ id) name => id ++ "." ++ name
  | .attr _ _ name => name
  | .ident _ id => id
  | _ => ""

/-! ## §3. Lines of the source. -/

/-- The lines of the source. -/
abbrev SourceLines := Array (List Char)

/-- The lines of a text. -/
def SourceLines.of (text : List Char) : SourceLines := (Text.splitLines text).toArray

/-- A line, stripped.  A line that the text does not have is a failure. -/
def SourceLines.excerpt (lines : SourceLines) (line : Nat) : Except Failure String :=
  match lines[line - 1]? with
  | some cs => .ok (String.ofList (Text.trim cs))
  | none => .error .beyondEnd

/-! ## §4. The checks. -/

/-- The same finding about one line, as often as it was made. -/
def findings (lines : SourceLines) (line : Nat) (made : List (String → Finding)) :
    Except Failure (List Finding) :=
  made.mapM fun make => (lines.excerpt line).map make

/-- The finding about a variable whose name speaks of a secret. -/
def sensitiveFinding (line : Nat) (name excerpt : String) : Finding :=
  let exposed := Text.occursIn "api_key".toList name.toList
    || Text.occursIn "access_token".toList name.toList
  { category := .sensitiveVariable
    line := some line
    message := .whole ("Variable sensible détectée: '" ++ name ++ "'")
    recommendation := some (.whole ("Utilisez des variables d'environnement ou un gestionnaire "
      ++ "de secrets."
      ++ if exposed then " Considérez l'utilisation d'un service de gestion des secrets." else ""))
    excerpt := some excerpt
    subtype := if exposed then some "Exposition de clé API" else none }

/-- Assignments to names that speak of secrets. -/
def checkSensitive (k : Keywords) (lines : SourceLines) : Node → Except Failure (List Finding)
  | .assign line targets _ =>
      let names := (targets.filterMap fun
        | .ident _ id => some (Text.lower id)
        | _ => none).filter fun name =>
          k.sensitive.any fun word => Text.occursIn word.toList name.toList
      findings lines line (names.map fun name => sensitiveFinding line name)
  | _ => .ok []

/-- Queries built from variable parts. -/
def checkSql (k : Keywords) (lines : SourceLines) : Node → Except Failure (List Finding)
  | .call line (.attr _ _ name) arguments _ =>
      let suspects := if k.sql.contains name then arguments.filter fun
        | .binary _ _ _ | .ident _ _ => true
        | _ => false else []
      findings lines line (suspects.map fun _ excerpt =>
        .onLine .sqlInjection line excerpt "Construction dynamique de requête SQL détectée"
          "Utilisez des requêtes paramétrées ou un ORM.")
  | _ => .ok []

/-- Variables handed to a page unescaped. -/
def checkPages (k : Keywords) (lines : SourceLines) : Node → Except Failure (List Finding)
  | .call line (.attr _ _ name) arguments _ =>
      let suspects := if k.pages.contains name then arguments.filter fun
        | .ident _ _ => true
        | _ => false else []
      findings lines line (suspects.map fun _ excerpt =>
        .onLine .crossSiteScripting line excerpt
          "Données non échappées passées à une fonction de rendu"
          "Échappez toujours les entrées utilisateur avec des filtres appropriés.")
  | _ => .ok []

/-- Calls of known ciphers. -/
def checkEncryption (k : Keywords) (lines : SourceLines) : Node → Except Failure (List Finding)
  | .call line callee _ _ =>
      let name := calleeSpelling callee
      findings lines line (if k.encryption.contains name then
        [fun excerpt => .onLine .encryption line excerpt
          ("Fonction de chiffrement utilisée: " ++ name)
          "Vérifiez que l'implémentation est correcte et utilise des algorithmes forts."] else [])
  | _ => .ok []

/-- Functions that change state without protection against forged requests. -/
def checkToken (lines : SourceLines) (n : Node) : Except Failure (List Finding) :=
  match n with
  | .function line _ false _ _ _ decorators _ =>
      findings lines line (
        if !decorators.any isTokenProtection && n.walk.any (callsAttribute ["post", "put", "delete"])
        then [fun excerpt => .onLine .missingToken line excerpt
          "Point de terminaison modifiant l'état sans protection CSRF"
          "Ajoutez @csrf_protect ou utilisez @require_POST avec csrf_token."] else [])
  | _ => .ok []

/-- The finding about a branch that reaches sensitive data without checking a right. -/
def unauthorizedFinding (line : Nat) (excerpt : String) : Finding :=
  .onLine .missingAuthorization line excerpt
    "Accès à des données sensibles sans vérification d'autorisation explicite"
    "Implémentez des vérifications d'autorisation explicites avant d'accéder aux données."

/-- Look for a node of a branch that reaches sensitive data.  The first one
decides: it is found unless the branch checks a right, and the nodes behind it
are not looked at. -/
def firstAccess (branch : Node) : List Node → List (String → Finding)
  | [] => []
  | n :: rest =>
      if readsAttribute ["user", "request"] n then
        if checksAuthorization branch then [] else [unauthorizedFinding branch.line]
      else firstAccess branch rest

/-- Branches that reach sensitive data without checking a right.  A branch on a
permission needs no look at its nodes. -/
def checkAuthorization (lines : SourceLines) (n : Node) : Except Failure (List Finding) :=
  match n with
  | .branch line test _ _ =>
      findings lines line (
        if callsAttribute ["has_permission"] test then [] else firstAccess n n.walk)
  | _ => .ok []

/-- The regular parameters of a function. -/
def regularParameters : Node → List Node
  | .signature _ regular _ _ _ _ _ => regular
  | _ => []

/-- The name of a parameter. -/
def parameterName? : Node → Option String
  | .parameter _ name _ => some name
  | _ => none

/-- Functions that handle a request without validating it. -/
def checkEndpoints (lines : SourceLines) (n : Node) : Except Failure (List Finding) :=
  match n with
  | .function line _ false _ parameters _ decorators _ =>
      let verbs := (decorators.filterMap calledAttribute?).filter
        ["get", "post", "put", "delete", "patch"].contains
      let requests := (regularParameters parameters).filter fun p =>
        (parameterName? p).any ["request", "query_params"].contains
      findings lines line (
        if validatesInput n then []
        else verbs.flatMap fun verb => requests.map fun _ excerpt =>
          .onLine .missingValidation line excerpt
            ("Point de terminaison " ++ Text.upper verb ++ " sans validation des entrées")
            "Validez et nettoyez toutes les entrées utilisateur.")
  | _ => .ok []

/-! ## §5. All checks. -/

/-- The checks. -/
inductive Check where
  | sensitive
  | sql
  | pages
  | encryption
  | token
  | authorization
  | endpoints
  deriving DecidableEq, Repr

/-- The checks in the order in which a node is checked. -/
def Check.all : List Check :=
  [.sensitive, .sql, .pages, .encryption, .token, .authorization, .endpoints]

/-- What a check finds at a node. -/
def Check.run (c : Check) (k : Keywords) (lines : SourceLines) (n : Node) :
    Except Failure (List Finding) :=
  match c with
  | .sensitive => checkSensitive k lines n
  | .sql => checkSql k lines n
  | .pages => checkPages k lines n
  | .encryption => checkEncryption k lines n
  | .token => checkToken lines n
  | .authorization => checkAuthorization lines n
  | .endpoints => checkEndpoints lines n

/-- What a check finds in a tree. -/
def Check.runAll (c : Check) (k : Keywords) (lines : SourceLines) (tree : Node) :
    Except Failure (List Finding) :=
  (tree.walk.mapM (c.run k lines)).map List.flatten

end CodeAudit.Audit
