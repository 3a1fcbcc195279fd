/-
  CodeAudit.Site.Page.Register
  ────────────────────────────
  **OPENING AN ACCOUNT.**

  The form for a new account.  A field that was complained of says so, and the
  posted name is shown again; passwords are not.
-/
import CodeAudit.Site.Complaint
import CodeAudit.Site.Page.Layout

namespace CodeAudit.Site.Page.Register

open CodeAudit.Site.Html CodeAudit.Site
open CodeAudit.Text (Wording)

/-- The form: the posted name, and what was found wrong. -/
structure Form where
  name : String
  complaints : Complaints

/-- A field of the form. -/
structure Field where
  name : String
  label : String
  /-- The attributes in front of those that say whether something is wrong. -/
  attributes : String
  help : String

/-- The field for the name. -/
def nameField (posted : String) : Field where
  name := "username"
  label := "Username:"
  attributes :=
    "type=\"text\" name=\"username\""
      ++ (if posted.isEmpty then "" else " value=\"" ++ escape posted ++ "\"")
      ++ " maxlength=\"150\" autocapitalize=\"none\" autocomplete=\"username\" autofocus required"
  help := "Required. 150 characters or fewer. Letters, digits and @/./+/-/_ only."

/-- The field for the password. -/
def passwordField : Field where
  name := "password1"
  label := "Password:"
  attributes := "type=\"password\" name=\"password1\" autocomplete=\"new-password\" required"
  help :=
    "<ul><li>Your password can’t be too similar to your other personal information.</li>"
      ++ "<li>Your password must contain at least 8 characters.</li>"
      ++ "<li>Your password can’t be a commonly used password.</li>"
      ++ "<li>Your password can’t be entirely numeric.</li></ul>"

/-- The field for the repeated password. -/
def againField : Field where
  name := "password2"
  label := "Password confirmation:"
  attributes := "type=\"password\" name=\"password2\" autocomplete=\"new-password\" required"
  help := "Enter the same password as before, for verification."

/-- What is wrong with a field. -/
def complaintList (cs : List Complaint) : String :=
  if cs.isEmpty then ""
  else
    "<ul class=\"errorlist\">"
      ++ String.join (cs.map fun c => "<li>" ++ escape c.message ++ "</li>") ++ "</ul>"

/-- A field with its complaints. -/
def paragraph (complaints : Complaints) (isLast : Bool) (f : Field) : String :=
  let wrong := (complaints.lookup f.name).getD []
  let invalid := if wrong.isEmpty then "" else " aria-invalid=\"true\""
  let id := "id_" ++ f.name
  lines
    (["", "  " ++ complaintList wrong, "  <p>",
      "    <label for=\"" ++ id ++ "\">" ++ f.label ++ "</label>",
      "    <input " ++ f.attributes ++ invalid ++ " aria-describedby=\"" ++ id
        ++ "_helptext\" id=\"" ++ id ++ "\">",
      "    ",
      "      <span class=\"helptext\" id=\"" ++ id ++ "_helptext\">" ++ f.help ++ "</span>",
      "    ", "    "]
      ++ (if isLast then ["      ", "    "] else []) ++ ["  </p>", ""])

/-- All fields. -/
def form (f : Form) : String :=
  Text.strip (paragraph f.complaints false (nameField f.name)
    ++ paragraph f.complaints false passwordField ++ paragraph f.complaints true againField)

/-- The content of the page. -/
def content (f : Form) : String :=
  lines
    ["", "<div class=\"container mt-5\" style=\"max-width: 500px;\">",
     "    <h2 class=\"mb-4 text-center\">Créer un compte</h2>", "    <form method=\"post\">",
     "        " ++ tokenField, "        " ++ form f,
     "        <button type=\"submit\" class=\"btn btn-primary "
      ++ "w-100\">S'inscrire</button>",
     "    </form>", "    <div class=\"mt-3 text-center\">",
     "        <a href=\"" ++ Route.login.path ++ "\">Déjà un compte ? Se connecter</a>",
     "    </div>", "</div>", ""]

/-- The page. -/
def html (f : Form) : Wording := Layout.page Layout.standardTitle true (content f)

end CodeAudit.Site.Page.Register
