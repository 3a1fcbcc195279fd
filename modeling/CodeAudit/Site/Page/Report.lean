/-
  CodeAudit.Site.Page.Report
  ──────────────────────────
  **THE REPORT ON A PROJECT.**

  The metrics, the findings file by file, the prediction, and advice: the words
  of the adviser, or the standard advice without them.
-/
import CodeAudit.Site.Page.Layout
import CodeAudit.Site.Sheet
import CodeAudit.Site.State

namespace CodeAudit.Site.Page.Report

open CodeAudit.Site.Html CodeAudit.Site CodeAudit.Data
open CodeAudit.Text (Wording)

/-- The advice on a finding. -/
def findingAdvice (v : Value) : Wording :=
  loosely
    ["", "                                            <div class=\"text-muted small\">",
     "                                                <em>Recommandation :</em> "
      ++ shown (part? v "recommendation"),
     "                                            </div>",
     "                                        "]

/-- The entry of a finding. -/
def findingEntry (v : Value) : Wording :=
  loosely
    ["", "                                    <li>",
     "                                        <strong>Ligne " ++ shown (part? v "line")
      ++ ":</strong>",
     "                                        [<span class=\"text-uppercase\">"
      ++ shown (part? v "type") ++ "</span>] " ++ shown (part? v "message"),
     "                                        "
      ++ (if holds (part? v "recommendation") then findingAdvice v else ""),
     "                                    </li>", "                                "]

/-- The findings of a file. -/
def findingList (f : FileRow) : Wording :=
  loosely
    ["",
     "                            <span class=\"badge bg-danger\">"
      ++ toString f.findings.length ++ " problème" ++ plural f.findings.length ++ "</span>",
     "                            <ul class=\"mt-2\">",
     "                                " ++ Wording.join (f.findings.map findingEntry),
     "                            </ul>", "                        "]

/-- In place of findings. -/
def noFindings : String :=
  lines
    ["", "                             Aucun problème détecté", "                        "]

/-- The entry of a file. -/
def fileEntry (f : FileRow) : Wording :=
  loosely
    ["",
     "                    <li class=\"list-group-item "
      ++ (if f.flagged then "list-group-item-warning" else "list-group-item-success") ++ "\">",
     "                        <strong>" ++ shown (some f.path) ++ "</strong>",
     "                        " ++ (if f.flagged then findingList f else noFindings),
     "                    </li>", "                "]

/-- The entry of an advice. -/
def adviceEntry (v : Value) : Wording :=
  loosely
    ["", "                    <li class=\"list-group-item\">",
     "                        <strong>" ++ shown (part? v "metric") ++ "</strong> ("
      ++ capitals (part? v "severity") ++ ") :",
     "                        " ++ shown (part? v "recommendation"),
     "                        <span class=\"text-muted small d-block\">[Valeur actuelle "
      ++ ": " ++ shown (part? v "value") ++ "]</span>",
     "                    </li>", "                "]

/-- The advice on the metrics. -/
def adviceCard (s : Sheet) : Wording :=
  loosely
    ["", "    <div class=\"card shadow-sm mb-5\">",
     "        <div class=\"card-header bg-info text-white\">",
     "            <h5 class=\"mb-0\">Recommandations Globales</h5>", "        </div>",
     "        <div class=\"card-body\">", "            <ul class=\"list-group\">",
     "                " ++ Wording.join (s.advice.map adviceEntry), "            </ul>",
     "        </div>", "    </div>", "    "]

/-- The advice of the adviser. -/
def adviserCard (advice : Wording) : Wording :=
  loosely
    ["", "    <div class=\"card mb-4 shadow-sm\">",
     "        <div class=\"card-header bg-primary text-white\">",
     "            <h4 class=\"mb-0\"> Recommandations avancées</h4>", "        </div>",
     "        <div class=\"card-body\">", "            <div class=\"recommendation-markdown\">",
     "                " ++ advice, "            </div>", "        </div>", "    </div>", "    "]

/-- The short entry of an advice. -/
def standardEntry (v : Value) : Wording :=
  loosely
    ["", "                    <li class=\"list-group-item\">",
     "                        <i class=\"bi bi-check-circle text-success\"></i> "
      ++ shown (part? v "recommendation"),
     "                    </li>", "                "]

/-- The standard advice. -/
def standardCard (s : Sheet) : Wording :=
  loosely
    ["", "    <div class=\"card mb-4 shadow-sm\">",
     "        <div class=\"card-header bg-secondary text-white\">",
     "            <h4 class=\"mb-0\">Recommandations prédéfinies</h4>", "        </div>",
     "        <div class=\"card-body\">",
     "            <ul class=\"list-group list-group-flush\">",
     "                " ++ Wording.join (s.standardAdvice.map standardEntry), "            </ul>",
     "        </div>", "    </div>", "    "]

/-- The advice of the adviser, or the standard advice. -/
def adviserPart (s : Sheet) : Wording :=
  match s.adviser with
  | some advice => adviserCard advice
  | none => standardCard s

/-- Why there is no advice of the adviser. -/
def adviceWarning (s : Sheet) : Wording :=
  loosely
    ["", "        <div class=\"alert alert-warning\">",
     "            Erreur lors de la génération des recommandations avancées : "
      ++ shown s.adviceError,
     "        </div>", "    "]

/-- The title of the page. -/
def heading (p : Project) : String :=
  lines
    ["", "<div class=\"container mt-5\">", "", "    <div class=\"text-center mb-4\">",
     "        <h2 class=\"text-primary\">Rapport d'analyse</h2>",
     "        <p class=\"text-muted\">Projet <strong>" ++ escape p.name
      ++ "</strong>, analysé le " ++ p.submitted.text ++ "</p>",
     "    </div>", ""]

/-- The figures of the project. -/
def metricsCard (s : Sheet) : Wording :=
  loosely
    ["    <!-- Métriques Globales -->", "    <div class=\"card shadow-sm mb-5\">",
     "        <div class=\"card-header bg-primary text-white\">",
     "            <h5 class=\"mb-0\">Métriques globales</h5>", "        </div>",
     "        <div class=\"card-body\">", "            <div class=\"row\">",
     "                <div class=\"col-md-6\">", "                    <ul class=\"list-group\">",
     "                        <li class=\"list-group-item\"><i class=\"bi "
      ++ "bi-file-earmark-code\"></i> Fichiers analysés : <strong>" ++ shown s.filesAnalyzed
      ++ "</strong></li>",
     "                        <li class=\"list-group-item\"><i class=\"bi "
      ++ "bi-exclamation-triangle\"></i> Fichiers avec problèmes : <strong>"
      ++ shown s.filesWithIssues ++ "</strong></li>",
     "                        <li class=\"list-group-item\"><i class=\"bi "
      ++ "bi-graph-up\"></i> Complexité cyclomatique : <strong>" ++ shown s.complexity
      ++ "</strong></li>",
     "                    </ul>", "                </div>",
     "                <div class=\"col-md-6\">", "                    <ul class=\"list-group\">",
     "                        <li class=\"list-group-item\"><i class=\"bi bi-bug\"></i> "
      ++ "Violations Pylint : <strong>" ++ shown s.violations ++ "</strong></li>",
     "                    </ul>", "                </div>", "            </div>",
     "        </div>", "    </div>", ""]

/-- The files with their findings. -/
def filesCard (s : Sheet) : Wording :=
  loosely
    ["    <!-- Détails par fichier -->", "    <div class=\"card shadow-sm mb-5\">",
     "        <div class=\"card-header bg-secondary text-white\">",
     "            <h5 class=\"mb-0\"> Détails par fichier</h5>", "        </div>",
     "        <div class=\"card-body\">", "            <ul class=\"list-group\">",
     "                " ++ Wording.join (s.files.map fileEntry), "            </ul>",
     "        </div>", "    </div>", ""]

/-- The prediction. -/
def predictionCard (s : Sheet) : Wording :=
  loosely
    ["    <!-- Prédiction ML -->", "    <div class=\"card shadow-sm mb-4\">",
     "        <div class=\"card-body\">",
     "            <h5><i class=\"bi bi-cpu-fill\"></i> Prédiction du modèle ML :</h5>",
     "            <p class=\"" ++ (if s.predictsFault then "text-danger" else "text-success")
      ++ "\">",
     "                " ++ shown s.prediction, "            </p>", "        </div>", "    </div>",
     ""]

/-- The advice on the metrics, and that of the adviser. -/
def advicePart (s : Sheet) : Wording :=
  loosely
    ["    <!-- Recommandations globales -->",
     "    " ++ (if s.advised then adviceCard s else ""), "",
     "    <!-- Recommandations personnalisées ou prédéfinies -->", "    " ++ adviserPart s, "",
     "", "    " ++ (if holds s.adviceError then adviceWarning s else ""), ""]

/-- The end of the content, with a style sheet for the adviser's words. -/
def ending : String :=
  lines
    ["</div>", "", "<style>", "    .recommendation-markdown h3 \x7b", "        color: #0d6efd;",
     "        margin-top: 1rem;", "    \x7d", "    .recommendation-markdown ul \x7b",
     "        padding-left: 1.2rem;", "    \x7d", "    .recommendation-markdown li \x7b",
     "        margin-bottom: 0.5rem;", "    \x7d", "    .recommendation-markdown code \x7b",
     "        background-color: #f0f0f0;", "        padding: 2px 6px;",
     "        border-radius: 4px;", "        font-family: monospace;", "    \x7d", "</style>", "",
     ""]

/-- The content of the page. -/
def content (p : Project) (s : Sheet) : Wording :=
  loosely [heading p, metricsCard s, filesCard s, predictionCard s, advicePart s, ending]

/-- The page. -/
def html (p : Project) (s : Sheet) : Wording :=
  Layout.page "Rapport d'analyse - CodeClean" true (content p s)

end CodeAudit.Site.Page.Report
