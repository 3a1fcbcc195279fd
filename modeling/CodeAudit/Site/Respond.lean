/-
  CodeAudit.Site.Respond
  ──────────────────────
  **ANSWERING REQUESTS.**

  A request is answered from the state alone.  What it does to the state comes
  with the response as a list of changes.  All pages but the ones about
  accounts need a visitor who is signed in, and everything about a project is
  looked up among the visitor's own.
-/
import CodeAudit.Audit.Project
import CodeAudit.Audit.TestSuite
import CodeAudit.Data.Json.Writer
import CodeAudit.Site.Account
import CodeAudit.Site.Page
import CodeAudit.Site.Submission

namespace CodeAudit.Site

open CodeAudit.Data CodeAudit.Audit
open CodeAudit.Text (Gap Wording)

/-! ## §1. Requests and responses. -/

/-- How a request is made. -/
inductive Method where
  | get
  | post
  deriving DecidableEq, Repr

/-- A request. -/
structure Request where
  method : Method
  /-- The name of the host that it is sent to. -/
  host : String
  address : Address
  /-- The fields of the posted form. -/
  fields : List (String × String)
  files : List SentFile

/-- A posted field. -/
def Request.field? (r : Request) (name : String) : Option String := r.fields.lookup name

/-- Why a request breaks down. -/
inductive Mishap where
  /-- The visitor has no project with this number. -/
  | noProject
  /-- A header would hold a line break. -/
  | brokenHeader (value : String)
  /-- What would be sent is torn. -/
  | unsendable (gap : Gap)
  /-- Data does not have the shape that is needed. -/
  | data (f : Failure)

/-- The class of a mishap. -/
def Mishap.kind : Mishap → String
  | noProject => "DoesNotExist"
  | brokenHeader _ => "BadHeaderError"
  | unsendable _ => "UnicodeEncodeError"
  | data f => f.kind

/-- The wording of a mishap. -/
def Mishap.message : Mishap → String
  | noProject => "ProjectAnalysis matching query does not exist."
  | brokenHeader value => "Header values can't contain newlines (got " ++ Text.quoted value ++ ")"
  | unsendable gap => gap.message
  | data f => f.message

/-- A response. -/
inductive Response where
  /-- Go on to another address, for good or this time only. -/
  | redirect (forGood : Bool) (location : String)
  /-- There is no such page. -/
  | unknown
  /-- Not in this way. -/
  | refused
  /-- There is nothing yet; in words. -/
  | missing (words : String)
  /-- Data for a program. -/
  | data (text : String)
  /-- Data to be kept in a file. -/
  | attachment (header : String) (text : String)
  | page (page : Page) (html : String)
  | failure (m : Mishap)

/-- What comes of a request. -/
structure Outcome where
  changes : List Change
  response : Response
  trace : Trace

/-- A response without changes. -/
def Outcome.only (r : Response) : Outcome := ⟨[], r, .empty⟩

/-- Go on to a page of the site. -/
def goTo (r : Route) : Response := .redirect false r.path

/-- A text as it is sent, with so many more characters in front. -/
def sendable (ahead : Nat) : Wording → Except Mishap String
  | .whole s => .ok s
  | .torn t => .error (.unsendable ⟨ahead + t.gap.position, t.gap.halves⟩)

/-- Show a page.  The token in its menu stands before all else that can be torn. -/
def present (p : Page) : Response :=
  match p.html with
  | .ok html =>
      match sendable Html.tokenExcess html with
      | .ok html => .page p html
      | .error m => .failure m
  | .error f => .failure (.data f)

/-! ## §2. Projects. -/

/-- What the site asks of others: the services of an audit, and a disk to put files on. -/
structure Surroundings extends Services where
  disk : Disk

/-- The directory in which the files of a project are audited. -/
def auditDirectory : String := "upload"

/-- The files of a project under the names that they were sent with. -/
def Project.sources (p : Project) : List SourceFile := p.files.map fun f => ⟨f.name, f.content⟩

/-- The files of a project, written into one directory. -/
def Project.folder (p : Project) (disk : Disk) : Folder := .written disk p.sources

/-- The entries of that directory, as they are listed. -/
def Project.entries (p : Project) (disk : Disk) : List (String × Entry) :=
  (p.folder disk).files.map SourceFile.entry

/-- Audit a project: the outcome, the report, and the trace. -/
def Project.audit (p : Project) (services : Surroundings) : Except Failure Value × Trace :=
  let (outcome, auditor, trace) :=
    Auditor.new.audit .full services.toServices auditDirectory (p.folder services.disk)
  (outcome.map fun _ => .dict auditor.report, trace)

/-- Audit a project unless that has been done, and go to the report. -/
def analyze (services : Surroundings) (p : Project) : Outcome :=
  if p.completed then .only (goTo (.report p.id))
  else
    match p.audit services with
    | (.ok report, trace) =>
        ⟨[.setReport p.id report, .complete p.id], goTo (.report p.id), trace⟩
    | (.error f, trace) => ⟨[], .failure (.data f), trace⟩

/-- Write a test suite, keep it as the report, and show it. -/
def writeTests (services : Surroundings) (p : Project) : Outcome :=
  let suite := testSuite (p.entries services.disk)
  ⟨[.setReport p.id (.dict [("tests_report", .ofWording suite)])], present (.tests p suite), .empty⟩

/-- Show the report on a project; one that has not been audited is audited first. -/
def showReport (p : Project) : Outcome :=
  .only <|
    if p.completed then
      match Reading.of p.report with
      | .ok reading => present (.report p reading)
      | .error f => .failure (.data f)
    else goTo (.analyze p.id)

/-- How far the audit of a project is. -/
def showStatus (p : Project) : Outcome :=
  let current := match p.current with
    | some name => Value.text name
    | none => Value.null
  .only (.data (Json.write Json.oneLine
    (.dict [("completed", .bool p.completed), ("current_file", current)])).shown)

/-- Audit a project behind a waiting page.  The page does not tell when the audit
fails. -/
def wait (services : Surroundings) (p : Project) : Outcome :=
  if p.completed then .only (goTo (.report p.id))
  else
    let (outcome, trace) := p.audit services
    let looking := p.files.map fun f => Change.setCurrent p.id (some f.name)
    let done := match outcome with
      | .ok report => [.setReport p.id report, .complete p.id, .setCurrent p.id none]
      | .error _ => []
    ⟨looking ++ done, present (.waiting p), trace⟩

/-- Whether a header can be written as it is. -/
def fitsHeader (value : String) : Bool := value.toList.all fun c => c.toNat < 0x100

/-- The value of a header; characters that do not fit are encoded, line breaks
are refused. -/
def headerValue (value : String) : Except Mishap String :=
  if value.toList.any fun c => c == '\n' || c == '\r' then .error (.brokenHeader value)
  else if fitsHeader value then .ok value
  else .ok ("=?utf-8?b?" ++ String.ofList (Text.base64 (Text.Utf8.encode value)) ++ "?=")

/-- The report on a project as a file. -/
def download (p : Project) : Outcome :=
  .only <|
    if !p.completed || !p.report.truthy then .missing "Rapport non disponible."
    else
      match sendable 0 (Json.write Json.indented p.report), headerValue
          ("attachment; filename=rapport_" ++ p.name ++ "_" ++ toString p.id ++ ".json") with
      | .ok text, .ok header => .attachment header text
      | .error m, _ | .ok _, .error m => .failure m

/-! ## §3. Pages of a visitor. -/

/-- The projects of the visitor. -/
def home (s : State) (visitor : User) (a : Address) : Outcome :=
  .only (present (.home visitor.name (Slice.of (s.projectsOf visitor.id) (a.parameter? "page"))))

/-- What is said after a submission. -/
def thanks : String := "Fichiers uploadés avec succès!"

/-- Where a submission leads. -/
def Wish.route (project : Nat) : Wish → Route
  | audit => .results project
  | tests => .tests project

/-- The submission in a request. -/
def Request.submission (r : Request) : Submission :=
  ⟨r.field? "project_name", r.field? "action", r.files.filterMap SentFile.received?⟩

/-- Hand in a project. -/
def upload (s : State) (visitor : User) (r : Request) : Outcome :=
  match r.method with
  | .get => .only (present (.upload none))
  | .post =>
      match r.submission.check with
      | .ok a =>
          ⟨[.addProject visitor.id a.name a.files, .tell thanks],
            goTo (a.wish.route s.nextProject), .empty⟩
      | .error cs => .only (present (.upload (some cs)))

/-- Something about a project of the visitor. -/
def withProject (s : State) (visitor : User) (id : Nat) (view : Project → Outcome) : Outcome :=
  match s.project? visitor.id id with
  | some p => view p
  | none => .only (.failure .noProject)

/-- A page that needs a visitor. -/
def visit (services : Surroundings) (s : State) (visitor : User) (r : Request) : Route → Outcome
  | .upload => upload s visitor r
  | .analyze id => withProject s visitor id (analyze services)
  | .report id => withProject s visitor id showReport
  | .status id => withProject s visitor id showStatus
  | .tests id => withProject s visitor id (writeTests services)
  | .results id => withProject s visitor id (wait services)
  | .download id => withProject s visitor id download
  | _ => home s visitor r.address

/-! ## §4. Accounts. -/

/-- Open an account and sign in. -/
def register (s : State) (r : Request) : Outcome :=
  match r.method with
  | .get => .only (present (.register "" none))
  | .post =>
      let name := (r.field? "username").getD ""
      let form : Registration :=
        ⟨name, (r.field? "password1").getD "", (r.field? "password2").getD ""⟩
      match form.check s with
      | .ok a => ⟨[.addUser a.name a.password, .signIn s.nextUser], goTo .home, .empty⟩
      | .error cs => .only (present (.register (Text.strip name) (some cs)))

/-- Where the visitor wants to go on to, if that is on the site. -/
def Request.next? (r : Request) : Option String :=
  let wanted := match r.field? "next" with
    | some next => some next
    | none => r.address.parameter? "next"
  wanted.filter (isSafeAddress r.host)

/-- Go on to where the visitor wants, or to a page. -/
def Request.goOn (r : Request) (otherwise : Route) : Response :=
  match r.next? with
  | some next => .redirect false (asciiAddress next)
  | none => goTo otherwise

/-- Sign in. -/
def login (s : State) (r : Request) : Outcome :=
  match r.method with
  | .get => .only (present (.login none))
  | .post =>
      match Credentials.check s ⟨(r.field? "username").getD "", (r.field? "password").getD ""⟩ with
      | .ok user => ⟨[.signIn user.id], r.goOn .home, .empty⟩
      | .error cs => .only (present (.login (some cs)))

/-- Sign out. -/
def logout (r : Request) : Outcome :=
  match r.method with
  | .get => .only .refused
  | .post => ⟨[.signOut], r.goOn .login, .empty⟩

/-! ## §5. Requests. -/

/-- Send a visitor who is not signed in to the page for that, and back here
afterwards. -/
def askToSignIn (a : Address) : Outcome :=
  let here := String.ofList (Text.percentEncode ['/'] (Text.Utf8.encode (a.text "")))
  ⟨[.signOut], .redirect false (Route.login.path ++ "?next=" ++ here), .empty⟩

/-- Answer a request for a page. -/
def respondAt (services : Surroundings) (s : State) (r : Request) : Route → Outcome
  | .register => register s r
  | .login => login s r
  | .logout => logout r
  | route =>
      match s.visitor? with
      | some visitor => visit services s visitor r route
      | none => askToSignIn r.address

/-- Answer a request.  A path that only lacks its last slash is sent on. -/
def respond (services : Surroundings) (s : State) (r : Request) : Outcome :=
  match Route.ofPath? r.address.path with
  | some route => respondAt services s r route
  | none =>
      if (Route.ofPath? (r.address.path ++ ['/'])).isSome then
        .only (.redirect true (r.address.text "/"))
      else .only .unknown

/-- The state after a request. -/
def State.after (s : State) (o : Outcome) : State := s.applyAll o.changes

end CodeAudit.Site
