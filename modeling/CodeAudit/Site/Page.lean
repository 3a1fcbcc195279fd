/-
  CodeAudit.Site.Page
  ───────────────────
  **PAGES.**

  A page is what it is about; `Page.html` writes it out, and fails when it is
  about a report that cannot be laid out.  What is written may be torn.
-/
import CodeAudit.Site.Page.Home
import CodeAudit.Site.Page.Login
import CodeAudit.Site.Page.Register
import CodeAudit.Site.Page.Report
import CodeAudit.Site.Page.Tests
import CodeAudit.Site.Page.Upload
import CodeAudit.Site.Page.Waiting

namespace CodeAudit.Site

open CodeAudit.Data
open CodeAudit.Text (Wording)

/-- A page.  A form that was not posted has no list of complaints. -/
inductive Page where
  /-- The projects of a user. -/
  | home (user : String) (projects : Slice Project)
  | upload (complaints : Option Complaints)
  | report (project : Project) (reading : Reading)
  | tests (project : Project) (suite : Wording)
  | waiting (project : Project)
  | login (complaints : Option Complaints)
  /-- Opening an account, with the name that was posted. -/
  | register (name : String) (complaints : Option Complaints)

/-- A page as HTML. -/
def Page.html : Page → Except Failure Wording
  | home user projects => .ok (Page.Home.html user projects)
  | upload _ => .ok Page.Upload.html
  | report project reading => do return Page.Report.html project (← reading.sheet)
  | tests project suite => .ok (Page.Tests.html project suite)
  | waiting project => .ok (Page.Waiting.html project)
  | login complaints => .ok (Page.Login.html complaints.isSome)
  | register name complaints => .ok (Page.Register.html ⟨name, complaints.getD []⟩)

end CodeAudit.Site
