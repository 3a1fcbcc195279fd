/-
  CodeAudit.Site.Route
  ────────────────────
  **THE PAGES OF THE SITE.**

  Each page has a path; the pages about a project have its number in it.
-/
import CodeAudit.Site.Address

namespace CodeAudit.Site

/-- A page of the site, or something that can be done there. -/
inductive Route where
  /-- The visitor's projects. -/
  | home
  /-- Hand in a project. -/
  | upload
  /-- Audit a project and go to its report. -/
  | analyze (project : Nat)
  /-- The report on a project. -/
  | report (project : Nat)
  /-- How far the audit of a project is. -/
  | status (project : Nat)
  /-- Write a test suite for a project. -/
  | tests (project : Nat)
  /-- Audit a project and show a waiting page. -/
  | results (project : Nat)
  /-- The report on a project as a file. -/
  | download (project : Nat)
  /-- Open an account. -/
  | register
  | login
  | logout
  deriving DecidableEq, Repr

namespace Route

/-- The path of a page. -/
def path : Route → String
  | home => "/"
  | upload => "/upload/"
  | analyze n => "/analyze/" ++ toString n ++ "/"
  | report n => "/view_report/" ++ toString n ++ "/"
  | status n => "/get_analysis_status/" ++ toString n ++ "/"
  | tests n => "/generate_tests/" ++ toString n ++ "/"
  | results n => "/results/" ++ toString n ++ "/"
  | download n => "/download_report/" ++ toString n ++ "/"
  | register => "/register/"
  | login => "/accounts/login/"
  | logout => "/accounts/logout/"

/-- The most digits that a number may have. -/
def digitLimit : Nat := 4300

/-- The number of a project in a path: decimal digits, zeros in front allowed. -/
def number? (digits : String) : Option Nat :=
  let cs := digits.toList
  if cs.isEmpty || !cs.all Text.isAsciiDigit || digitLimit < cs.length then none
  else some (cs.foldl (fun n c => 10 * n + (c.toNat - '0'.toNat)) 0)

/-- The page with the given path. -/
def ofPath? (path : List Char) : Option Route :=
  match (Text.cutAt (· == '/') path).map String.ofList with
  | ["", ""] => some home
  | ["", "upload", ""] => some upload
  | ["", "analyze", n, ""] => (number? n).map analyze
  | ["", "view_report", n, ""] => (number? n).map report
  | ["", "get_analysis_status", n, ""] => (number? n).map status
  | ["", "generate_tests", n, ""] => (number? n).map tests
  | ["", "results", n, ""] => (number? n).map results
  | ["", "download_report", n, ""] => (number? n).map download
  | ["", "register", ""] => some register
  | ["", "accounts", "login", ""] => some login
  | ["", "accounts", "logout", ""] => some logout
  | _ => none

/-- The page that is only open to a visitor who is signed in. -/
def isPrivate : Route → Bool
  | register | login | logout => false
  | _ => true

end Route

end CodeAudit.Site
