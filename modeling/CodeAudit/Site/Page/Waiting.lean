/-
  CodeAudit.Site.Page.Waiting
  ───────────────────────────
  **WAITING FOR AN AUDIT.**

  A page that asks for the status of a project until it has been audited.
-/
import CodeAudit.Site.Page.Layout
import CodeAudit.Site.State

namespace CodeAudit.Site.Page.Waiting

open CodeAudit.Site.Html CodeAudit.Site
open CodeAudit.Text (Wording)

/-- The content of the page. -/
def content (p : Project) : String :=
  lines
    ["", "<div class=\"text-center my-5\">", "    <h2 class=\"mb-4\">",
     "        Analyse du projet en cours", "    </h2>", "",
     "    <div class=\"card shadow-sm border-0 p-4 mx-auto\" style=\"max-width: "
      ++ "600px;\">",
     "        <h5 class=\"card-title text-primary mb-3\">",
     "            Projet : <strong>" ++ escape p.name ++ "</strong>", "        </h5>",
     "        <p class=\"text-muted mb-4\">",
     "            Veuillez patienter pendant que CodeClean analyse votre code. Cette "
      ++ "opération peut prendre quelques instants.",
     "        </p>", "", "        <div class=\"progress\" style=\"height: 25px;\">",
     "            <div class=\"progress-bar progress-bar-striped progress-bar-animated "
      ++ "bg-success\"",
     "                 role=\"progressbar\" style=\"width: 100%;\">",
     "                Analyse en cours...", "            </div>", "        </div>", "",
     "        <div class=\"mt-4\">",
     "            <div class=\"spinner-border text-primary\" role=\"status\"></div>",
     "            <p class=\"mt-3 text-secondary\">Chargement... Merci de patienter</p>",
     "            <p id=\"current-file\" class=\"mt-2 text-info\" "
      ++ "style=\"font-weight:bold;\"></p>",
     "        </div>", "    </div>", "</div>", "", "<script>",
     "    // Vérification périodique de l’état d’analyse",
     "    function checkAnalysisStatus() \x7b",
     "        fetch(\"" ++ (Route.status p.id).path ++ "\")",
     "            .then(response => response.json())", "            .then(data => \x7b",
     "                // Affiche le nom du fichier en cours",
     "                if (data.current_file) \x7b",
     "                    document.getElementById('current-file').textContent = "
      ++ "\"Fichier en cours : \" + data.current_file;",
     "                \x7d else \x7b",
     "                    document.getElementById('current-file').textContent = \"\";",
     "                \x7d", "                if (data.completed) \x7b",
     "                    window.location.href = \"" ++ (Route.report p.id).path ++ "\";",
     "                \x7d else \x7b",
     "                    setTimeout(checkAnalysisStatus, 3000);", "                \x7d",
     "            \x7d);", "    \x7d", "", "    // Lancer la vérification au bout de 2 secondes",
     "    setTimeout(checkAnalysisStatus, 2000);", "</script>", ""]

/-- The page. -/
def html (p : Project) : Wording :=
  Layout.page "Analyse en cours - CodeClean" true (content p)

end CodeAudit.Site.Page.Waiting
