/-
  CodeAudit.Site.Complaint
  ────────────────────────
  **WHAT A FORM FINDS WRONG.**

  A complaint is a cause; its code and its wording follow from the cause.  A
  form collects the complaints of its fields, each field under its name.
-/

namespace CodeAudit.Site

/-- Why an input is not accepted. -/
inductive Complaint where
  /-- Nothing was given. -/
  | required
  /-- A text is longer than allowed. -/
  | tooLong (limit length : Nat)
  /-- A text holds the null character. -/
  | nullCharacter
  /-- The text is none of the choices. -/
  | noChoice (given : String)
  /-- A file holds nothing. -/
  | emptyFile
  /-- A file is no module. -/
  | notModule
  /-- No user has this name and password. -/
  | unknownUser
  /-- The user name is taken. -/
  | nameTaken
  /-- The user name has characters that are not allowed. -/
  | badName
  /-- The two passwords differ. -/
  | passwordsDiffer
  /-- The password is like the user name. -/
  | passwordLikeName
  /-- The password is too short. -/
  | passwordShort
  /-- The password is all digits. -/
  | passwordNumeric
  deriving DecidableEq, Repr

namespace Complaint

/-- The least length of a password. -/
def passwordLeast : Nat := 8

/-- The code of a complaint; the site's own complaint has none. -/
def code : Complaint → String
  | required => "required"
  | tooLong _ _ => "max_length"
  | nullCharacter => "null_characters_not_allowed"
  | noChoice _ => "invalid_choice"
  | emptyFile => "empty"
  | notModule => ""
  | unknownUser => "invalid_login"
  | nameTaken => "unique"
  | badName => "invalid"
  | passwordsDiffer => "password_mismatch"
  | passwordLikeName => "password_too_similar"
  | passwordShort => "password_too_short"
  | passwordNumeric => "password_entirely_numeric"

/-- The wording of a complaint. -/
def message : Complaint → String
  | required => "This field is required."
  | tooLong limit length =>
      "Ensure this value has at most " ++ toString limit ++ " characters (it has "
        ++ toString length ++ ")."
  | nullCharacter => "Null characters are not allowed."
  | noChoice given =>
      "Select a valid choice. " ++ given ++ " is not one of the available choices."
  | emptyFile => "The submitted file is empty."
  | notModule => "Seuls les fichiers Python (.py) sont acceptés"
  | unknownUser =>
      "Please enter a correct username and password. Note that both fields may be case-sensitive."
  | nameTaken => "A user with that username already exists."
  | badName =>
      "Enter a valid username. This value may contain only letters, numbers, and @/./+/-/_ characters."
  | passwordsDiffer => "The two password fields didn’t match."
  | passwordLikeName => "The password is too similar to the username."
  | passwordShort =>
      "This password is too short. It must contain at least " ++ toString passwordLeast
        ++ " characters."
  | passwordNumeric => "This password is entirely numeric."

end Complaint

/-- The complaints of a form, by field. -/
abbrev Complaints := List (String × List Complaint)

/-- What a field accepts, or its complaints. -/
abbrev Checked (α : Type) := Except (List Complaint) α

/-- The complaints of a field under its name; nothing if it has none. -/
def Checked.complaints {α : Type} (field : String) : Checked α → Complaints
  | .ok _ => []
  | .error [] => []
  | .error cs => [(field, cs)]

/-- A text that has to be there: not empty, not beyond the limit, and without
null characters. -/
def checkText (limit : Option Nat) (text : String) : Checked String :=
  if text.isEmpty then .error [.required]
  else
    let long := match limit with
      | some n => if n < text.length then [Complaint.tooLong n text.length] else []
      | none => []
    let null := if text.toList.contains '\x00' then [Complaint.nullCharacter] else []
    match long ++ null with
    | [] => .ok text
    | cs => .error cs

end CodeAudit.Site
