/-
  CodeAudit.Site.Account
  ──────────────────────
  **ACCOUNTS.**

  Opening an account and signing in.  A user name is taken without blanks
  around it and with compatible characters made equal; two names that differ
  in the case of ASCII letters only are taken for one.  A password must be
  given twice and must not be weak.
-/
import CodeAudit.Site.Complaint
import CodeAudit.Site.State
import CodeAudit.Text.Case
import CodeAudit.Text.Classes
import CodeAudit.Text.Compatibility

namespace CodeAudit.Site

open CodeAudit.Text

/-! ## §1. Names. -/

/-- The longest user name. -/
def userNameLimit : Nat := 150

/-- A user name as it is kept; one that is too long stays as it is. -/
def userName (given : String) : String :=
  let name := strip given
  if userNameLimit < name.length then name else compatible name

/-- A character of user names. -/
def isUserNameChar (c : Char) : Bool :=
  isWord c || c == '.' || c == '@' || c == '+' || c == '-'

/-- Whether two names differ in the case of ASCII letters at most. -/
def sameName (a b : String) : Bool := a.map Char.toLower == b.map Char.toLower

/-- Whether a user name is taken. -/
def State.isTaken (s : State) (name : String) : Bool := s.users.any fun u => sameName u.name name

/-! ## §2. Passwords. -/

/-- How many characters two texts share, each as often as both have it. -/
def sharedCount (a b : List Char) : Nat :=
  match a with
  | [] => 0
  | c :: rest => if b.contains c then sharedCount rest (b.erase c) + 1 else sharedCount rest b

/-- Whether a password is like a part of a name: they share seven tenths of their
characters, and the password is less than ten times as long. -/
def isLike (password part : List Char) : Bool :=
  password.length < 10 * part.length
    && 7 * (password.length + part.length) ≤ 20 * sharedCount password part

/-- The parts of a name between other characters than those of words, and the
whole. -/
def nameParts (name : List Char) : List (List Char) :=
  cutAt (!isWord ·) name ++ [name]

/-- The complaints about a password for an account of the given name. -/
def passwordComplaints (name : Option String) (password : String) : List Complaint :=
  let secret := (lower password).toList
  let like := match name with
    | none => []
    | some n =>
        if (nameParts (lower n).toList).any (isLike secret) then [Complaint.passwordLikeName] else []
  let short :=
    if password.length < Complaint.passwordLeast then [Complaint.passwordShort] else []
  let numeric := if password.toList.all isDigit then [Complaint.passwordNumeric] else []
  like ++ short ++ numeric

/-! ## §3. Opening an account. -/

/-- A request for an account. -/
structure Registration where
  name : String
  password : String
  again : String

/-- An account to be opened. -/
structure Account where
  name : String
  password : String

/-- Check the name of an account on its own. -/
def Registration.checkName (r : Registration) : Checked String :=
  checkText (some userNameLimit) (userName r.name)

/-- Check the name among those of the site. -/
def Registration.checkNameAt (s : State) (r : Registration) : Checked String := do
  let name ← r.checkName
  if s.isTaken name then .error [.nameTaken]
  else if name.toList.all isUserNameChar then .ok name
  else .error [.badName]

/-- The name that the password is compared with: none if it cannot be had. -/
def Registration.nameAt? (s : State) (r : Registration) : Option String :=
  match r.checkName with
  | .ok name => if s.isTaken name then none else some name
  | .error _ => none

/-- Check the repeated password. -/
def Registration.checkAgain (s : State) (r : Registration) : Checked String := do
  let again ← checkText none r.again
  match checkText none r.password with
  | .ok password => if password != again then .error [.passwordsDiffer]
  | .error _ => pure ()
  match passwordComplaints (r.nameAt? s) again with
  | [] => .ok again
  | cs => .error cs

/-- Check a request for an account. -/
def Registration.check (s : State) (r : Registration) : Except Complaints Account :=
  match r.checkNameAt s, checkText none r.password, r.checkAgain s with
  | .ok name, .ok password, .ok _ => .ok ⟨name, password⟩
  | name, password, again =>
      .error (name.complaints "username" ++ password.complaints "password1"
        ++ again.complaints "password2")

/-! ## §4. Signing in. -/

/-- A request to sign in. -/
structure Credentials where
  name : String
  password : String

/-- The user who signs in. -/
def Credentials.check (s : State) (c : Credentials) : Except Complaints User :=
  match checkText none (userName c.name), checkText none c.password with
  | .ok name, .ok password =>
      match s.userNamed? name with
      | some user =>
          if user.password == password then .ok user else .error [("__all__", [.unknownUser])]
      | none => .error [("__all__", [.unknownUser])]
  | name, password =>
      .error (name.complaints "username" ++ password.complaints "password")

end CodeAudit.Site
