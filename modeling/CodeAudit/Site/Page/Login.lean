/-
  CodeAudit.Site.Page.Login
  ─────────────────────────
  **SIGNING IN.**

  The form for the name and the password of a user.  This page has no menu.
-/
import CodeAudit.Site.Page.Layout

namespace CodeAudit.Site.Page.Login

open CodeAudit.Site.Html CodeAudit.Site
open CodeAudit.Text (Wording)

/-- What is said after a failed attempt. -/
def warning : String :=
  lines
    ["", "                    <div class=\"alert alert-danger\">",
     "                        Nom d'utilisateur ou mot de passe incorrect.",
     "                    </div>", "                    "]

/-- The content of the page. -/
def content (failed : Bool) : String :=
  lines
    ["", "<div class=\"container mt-5\">", "    <div class=\"row justify-content-center\">",
     "        <div class=\"col-md-6 col-lg-5\">", "            <div class=\"card shadow\">",
     "                <div class=\"card-header text-white bg-primary text-center\">",
     "                    <h4>Connexion à CodeClean</h4>", "                </div>",
     "                <div class=\"card-body\">", "",
     "                    " ++ (if failed then warning else ""), "",
     "                    <form method=\"post\" novalidate>",
     "                        " ++ tokenField, "                        <div class=\"mb-3\">",
     "                            <label for=\"id_username\" class=\"form-label\">Nom "
      ++ "d'utilisateur</label>",
     "                            <input type=\"text\" name=\"username\" "
      ++ "class=\"form-control\" id=\"id_username\" required autofocus>",
     "                        </div>", "                        <div class=\"mb-3\">",
     "                            <label for=\"id_password\" class=\"form-label\">Mot "
      ++ "de passe</label>",
     "                            <input type=\"password\" name=\"password\" "
      ++ "class=\"form-control\" id=\"id_password\" required>",
     "                        </div>",
     "                        <button type=\"submit\" class=\"btn btn-success "
      ++ "w-100\">Se connecter</button>",
     "                    </form>", "                </div>",
     "                <div class=\"card-footer text-center text-muted\">",
     "                    <small>Vous avez oublié votre mot de passe ? <a href=\""
      ++ Route.register.path ++ "\">Créer un",
     "                            compte</a></small>", "                </div>",
     "            </div>", "        </div>", "    </div>", "</div>", ""]

/-- The page, after a failed attempt or not. -/
def html (failed : Bool) : Wording :=
  Layout.page "Connexion - CodeClean" false (content failed)

end CodeAudit.Site.Page.Login
