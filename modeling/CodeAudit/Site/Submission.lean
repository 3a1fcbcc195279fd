/-
  CodeAudit.Site.Submission
  ─────────────────────────
  **HANDING IN A PROJECT.**

  A project is handed in with a name, the wish for an audit or for a test
  suite, and files.  Each field is checked on its own, and a submission is
  accepted when no field has a complaint.
-/
import CodeAudit.Site.Complaint
import CodeAudit.Site.Upload

namespace CodeAudit.Site

/-! ## §1. Submissions. -/

/-- What is wanted of a project. -/
inductive Wish where
  | audit
  | tests
  deriving DecidableEq, Repr

/-- How a form spells a wish. -/
def Wish.code : Wish → String
  | audit => "analysis"
  | tests => "tests"

/-- The wish that a form spells. -/
def Wish.ofCode? (code : String) : Option Wish :=
  [Wish.audit, Wish.tests].find? (·.code == code)

/-- A submission as it is sent. -/
structure Submission where
  name : Option String
  wish : Option String
  files : List SentFile

/-- A submission that was accepted. -/
structure Accepted where
  name : String
  wish : Wish
  files : List SentFile

/-- How a project is called together with its owner. -/
def projectTitle (name owner : String) : String := name ++ " - " ++ owner

/-! ## §2. Fields. -/

/-- The longest name of a project. -/
def projectNameLimit : Nat := 255

/-- Check the name of a project; blanks around it do not count. -/
def checkProjectName (given : Option String) : Checked String :=
  checkText (some projectNameLimit) (Text.strip (given.getD ""))

/-- Check one file. -/
def checkFile (f : SentFile) : Checked SentFile :=
  if f.content.isEmpty then .error [.emptyFile] else .ok f

/-- Check a file that may be missing. -/
def checkOneFile : Option SentFile → Checked SentFile
  | none => .error [.required]
  | some f => checkFile f

/-- Check all files; the first bad one is complained of. -/
def checkEachFile (files : List SentFile) : Checked (List SentFile) := files.mapM checkFile

/-- Check the files of a project: none is empty, and all are modules. -/
def checkFiles (files : List SentFile) : Checked (List SentFile) := do
  let files ← checkEachFile files
  if files.all SentFile.isModule then .ok files else .error [.notModule]

/-- Check a wish. -/
def checkWish (given : Option String) : Checked Wish :=
  match given with
  | none | some "" => .error [.required]
  | some code =>
      match Wish.ofCode? code with
      | some w => .ok w
      | none => .error [.noChoice code]

/-! ## §3. The whole form. -/

/-- Check a submission. -/
def Submission.check (s : Submission) : Except Complaints Accepted :=
  match checkProjectName s.name, checkFiles s.files, checkWish s.wish with
  | .ok name, .ok files, .ok wish => .ok ⟨name, wish, files⟩
  | name, files, wish =>
      .error (name.complaints "project_name" ++ files.complaints "files"
        ++ wish.complaints "action")

end CodeAudit.Site
