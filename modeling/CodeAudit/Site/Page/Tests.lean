/-
  CodeAudit.Site.Page.Tests
  ─────────────────────────
  **A TEST SUITE.**

  The test suite that was written for a project.
-/
import CodeAudit.Site.Page.Layout
import CodeAudit.Site.State

namespace CodeAudit.Site.Page.Tests

open CodeAudit.Site.Html CodeAudit.Site
open CodeAudit.Text (Wording)

/-- What precedes the suite. -/
def heading (p : Project) : String :=
  lines
    ["", "<div class=\"container mt-5\">", "", "    <div class=\"text-center mb-4\">",
     "        <h2 class=\"text-primary\"> Tests Automatisés Générés</h2>",
     "        <p class=\"text-muted\">Projet : <strong>" ++ escape p.name ++ "</strong></p>",
     "    </div>", "", "    <div class=\"alert alert-info\" role=\"alert\">",
     "        Ces tests ont été générés automatiquement. Vous pouvez :", "        <ul>",
     "            <li>Les <strong>copier</strong> dans votre environnement de test "
      ++ "Python</li>",
     "            <li>Les <strong>exporter</strong> au format fichier</li>",
     "            <li>Les <strong>exécuter</strong> avec <code>pytest</code></li>",
     "        </ul>", "    </div>", "", "    <div class=\"card shadow-sm\">",
     "        <div class=\"card-header bg-dark text-white d-flex "
      ++ "justify-content-between align-items-center\">",
     "            <h5 class=\"mb-0\">Code des tests générés</h5>",
     "            <button class=\"btn btn-light btn-sm\" onclick=\"copyToClipboard()\">",
     "                <i class=\"bi bi-clipboard\"></i> Copier", "            </button>",
     "        </div>", "        <div class=\"card-body\">"]

/-- What follows it. -/
def ending : String :=
  lines
    ["        </div>", "    </div>", "", "</div>", "", "<!-- Script de copie -->", "<script>",
     "function copyToClipboard() \x7b",
     "    const text = document.getElementById(\"testCodeBlock\").innerText;",
     "    navigator.clipboard.writeText(text).then(function() \x7b",
     "        alert(\"Code copié avec succès !\");", "    \x7d, function(err) \x7b",
     "        alert(\" Une erreur est survenue lors de la copie.\");", "    \x7d);", "\x7d",
     "</script>", ""]

/-- The content of the page. -/
def content (p : Project) (suite : Wording) : Wording :=
  loosely
    [heading p,
     "            <pre id=\"testCodeBlock\" class=\"p-3 bg-light rounded border\" "
      ++ "style=\"white-space:pre-wrap;\">" ++ escaped suite ++ "</pre>",
     ending]

/-- The page. -/
def html (p : Project) (suite : Wording) : Wording :=
  Layout.page "Tests générés - CodeClean" true (content p suite)

end CodeAudit.Site.Page.Tests
