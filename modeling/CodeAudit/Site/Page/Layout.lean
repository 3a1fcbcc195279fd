/-
  CodeAudit.Site.Page.Layout
  ──────────────────────────
  **WHAT ALL PAGES SHARE.**

  The frame around the content of a page: head, menu and foot.
-/
import CodeAudit.Site.Html
import CodeAudit.Site.Route

namespace CodeAudit.Site.Page.Layout

open CodeAudit.Site.Html CodeAudit.Site
open CodeAudit.Text (Wording)

/-- The title of a page that has none of its own. -/
def standardTitle : String := "CodeClean - Analyse & Sécurité"

/-- The style sheet of all pages. -/
def styles : String :=
  lines
    ["", "    <style>", "        body \x7b", "            background-color: #f8f9fa;",
     "        \x7d", "", "        .navbar-brand \x7b", "            font-weight: bold;",
     "            font-size: 1.3rem;", "            color: #0d6efd !important;", "        \x7d",
     "", "        .nav-link.active \x7b", "            font-weight: bold;",
     "            color: #0d6efd !important;", "        \x7d", "", "        footer \x7b",
     "            margin-top: 50px;", "            padding: 20px 0;",
     "            background-color: #f1f1f1;", "            text-align: center;",
     "            font-size: 0.9rem;", "        \x7d", "    </style>", "    "]

/-- The scripts of all pages. -/
def scripts : String :=
  lines
    ["", "    <!-- JS supplémentaires ici -->", "    "]

/-- The menu at the top. -/
def menu : String :=
  lines
    ["",
     "    <nav class=\"navbar navbar-expand-lg navbar-light bg-white border-bottom "
      ++ "shadow-sm mb-4\">",
     "        <div class=\"container\">",
     "            <a class=\"navbar-brand\" href=\"" ++ Route.upload.path
      ++ "\">🛡️ CodeClean</a>",
     "            <button class=\"navbar-toggler\" type=\"button\" "
      ++ "data-bs-toggle=\"collapse\" data-bs-target=\"#navbarNav\">",
     "                <span class=\"navbar-toggler-icon\"></span>", "            </button>",
     "            <div class=\"collapse navbar-collapse\" id=\"navbarNav\">",
     "                <ul class=\"navbar-nav ms-auto\">",
     "                    <li class=\"nav-item\"><a class=\"nav-link\" href=\""
      ++ Route.home.path ++ "\">Accueil</a></li>",
     "                    <li class=\"nav-item\"><a class=\"nav-link\" href=\""
      ++ Route.upload.path ++ "\">Analyser un",
     "                            projet</a></li>", "                    <li class=\"nav-item\">",
     "                        <form method=\"post\" action=\"" ++ Route.logout.path ++ "\">",
     "                            " ++ tokenField,
     "                            <button type=\"submit\" class=\"nav-link btn btn-sm "
      ++ "btn-outline-danger\"",
     "                                style=\"border: none; background: none;\">",
     "                                Déconnexion", "                            </button>",
     "                        </form>", "                    </li>", "                </ul>",
     "            </div>", "        </div>", "    </nav>", "    "]

/-- What precedes the content of a page. -/
def opening (title : String) (navigation : Bool) : String :=
  lines
    ["<!DOCTYPE html>", "<html lang=\"fr\">", "", "<head>", "    <meta charset=\"UTF-8\">",
     "    <title>" ++ title ++ "</title>",
     "    <meta name=\"viewport\" content=\"width=device-width, initial-scale=1\">", "",
     "    <!-- Favicon -->",
     "    <link rel=\"icon\" "
      ++ "href=\"https://cdn-icons-png.flaticon.com/512/3524/3524659.png\" "
      ++ "type=\"image/png\">",
     "", "    <!-- Bootstrap CSS -->",
     "    <link "
      ++ "href=\"https://cdn.jsdelivr.net/npm/bootstrap@5.3.0/dist/css/bootstrap.min.css\" "
      ++ "rel=\"stylesheet\">",
     "", "    <!-- Custom styles -->", "    " ++ styles, "</head>", "", "<body>", "",
     "    <!-- Navigation -->", "    " ++ (if navigation then menu else ""), "", "",
     "    <!-- Contenu principal -->", "    <div class=\"container\">"]

/-- What follows the content of a page. -/
def closing : String :=
  lines
    ["    </div>", "", "    <!-- Pied de page -->", "    <footer>",
     "        <div class=\"container\">",
     "            &copy; " ++ "" ++ " CodeClean · Analyse du code Python · Made with by",
     "            <strong>CodeClean</strong>", "        </div>", "    </footer>", "",
     "    <!-- Bootstrap JS -->",
     "    <script "
      ++ "src=\"https://cdn.jsdelivr.net/npm/bootstrap@5.3.0/dist/js/bootstrap.bundle.min.js\"></script>",
     "", "    " ++ scripts, "</body>", "", "</html>"]

/-- A page with the given title and content, with or without the menu. -/
def page (title : String) (navigation : Bool) (content : Wording) : Wording :=
  loosely [opening title navigation, "        " ++ content, closing]

end CodeAudit.Site.Page.Layout
