/-
  CodeAudit.Site.Page.Home
  ────────────────────────
  **THE VISITOR'S PROJECTS.**

  A greeting, the projects in pages of ten, and links to the other pages.
-/
import CodeAudit.Site.Page.Layout
import CodeAudit.Site.Paging
import CodeAudit.Site.State

namespace CodeAudit.Site.Page.Home

open CodeAudit.Site.Html CodeAudit.Site
open CodeAudit.Text (Wording)

/-- What can be done with a project that has been audited. -/
def doneLinks (p : Project) : String :=
  lines
    ["",
     "                        <a href=\"" ++ (Route.report p.id).path
      ++ "\" class=\"btn btn-sm btn-success\">Voir le rapport</a>",
     "                        <a href=\"" ++ (Route.download p.id).path
      ++ "\" class=\"btn btn-sm btn-outline-primary ms-2\">Télécharger</a>",
     "                    "]

/-- What can be done with another project. -/
def waitingLink (p : Project) : String :=
  lines
    ["",
     "                        <a href=\"" ++ (Route.results p.id).path
      ++ "\" class=\"btn btn-sm btn-warning\">Analyse en cours</a>",
     "                    "]

/-- The row of a project. -/
def row (p : Project) : String :=
  lines
    ["", "            <tr>", "                <td>" ++ escape p.name ++ "</td>",
     "                <td>" ++ p.submitted.text ++ "</td>", "                <td>",
     "                    " ++ (if p.completed then doneLinks p else waitingLink p),
     "                </td>", "            </tr>", "        "]

/-- The row that says there is no project. -/
def noRows : String :=
  lines
    ["", "            <tr>",
     "                <td colspan=\"3\" class=\"text-center\">Aucun projet soumis pour "
      ++ "le moment.</td>",
     "            </tr>", "        "]

/-- The link to the page before. -/
def previousLink (s : Slice Project) : String :=
  lines
    ["", "                <li class=\"page-item\">",
     "                    <a class=\"page-link\" href=\"?page=" ++ toString (s.page - 1)
      ++ "\">Précédent</a>",
     "                </li>", "            "]

/-- In place of a link to the page before. -/
def noPrevious : String :=
  lines
    ["", "                <li class=\"page-item disabled\">",
     "                    <span class=\"page-link\">Précédent</span>", "                </li>",
     "            "]

/-- The entry of the page that is shown. -/
def shownEntry (n : Nat) : String :=
  lines
    ["", "                    <li class=\"page-item active\">",
     "                        <span class=\"page-link\">" ++ toString n ++ "</span>",
     "                    </li>", "                "]

/-- The entry of another page. -/
def otherEntry (n : Nat) : String :=
  lines
    ["", "                    <li class=\"page-item\">",
     "                        <a class=\"page-link\" href=\"?page=" ++ toString n ++ "\">"
      ++ toString n ++ "</a>",
     "                    </li>", "                "]

/-- The entry of a page in the list of pages. -/
def pageEntry (shown n : Nat) : String :=
  lines
    ["", "                " ++ (if shown == n then shownEntry n else otherEntry n),
     "            "]

/-- The link to the page after. -/
def nextLink (s : Slice Project) : String :=
  lines
    ["", "                <li class=\"page-item\">",
     "                    <a class=\"page-link\" href=\"?page=" ++ toString (s.page + 1)
      ++ "\">Suivant</a>",
     "                </li>", "            "]

/-- In place of a link to the page after. -/
def noNext : String :=
  lines
    ["", "                <li class=\"page-item disabled\">",
     "                    <span class=\"page-link\">Suivant</span>", "                </li>",
     "            "]

/-- The content of the page. -/
def content (user : String) (s : Slice Project) : String :=
  lines
    ["", "<div class=\"my-5\">", "    <h2 class=\"mb-4\">Bienvenue, " ++ escape user ++ " !</h2>",
     "    <div class=\"alert alert-info\">",
     "        <strong>Nombre de projets soumis :</strong> " ++ toString s.total, "    </div>",
     "    <h4 class=\"mt-4\">Vos projets</h4>", "    <table class=\"table table-hover mt-3\">",
     "        <thead>", "            <tr>", "                <th>Nom du projet</th>",
     "                <th>Date de soumission</th>", "                <th>Actions</th>",
     "            </tr>", "        </thead>", "        <tbody>",
     "        " ++ (if s.items.isEmpty then noRows else String.join (s.items.map row)),
     "        </tbody>", "    </table>", "", "    <!-- Pagination -->",
     "    <nav aria-label=\"Pagination\">",
     "        <ul class=\"pagination justify-content-center\">",
     "            " ++ (if s.hasPrevious then previousLink s else noPrevious), "",
     "            " ++ String.join ((List.range' 1 s.pages).map (pageEntry s.page)), "",
     "            " ++ (if s.hasNext then nextLink s else noNext), "        </ul>", "    </nav>",
     "</div>", ""]

/-- The page. -/
def html (user : String) (s : Slice Project) : Wording :=
  Layout.page Layout.standardTitle true (content user s)

end CodeAudit.Site.Page.Home
