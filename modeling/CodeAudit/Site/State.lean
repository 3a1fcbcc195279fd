/-
  CodeAudit.Site.State
  ────────────────────
  **WHAT THE SITE KEEPS.**

  Users, projects with their files and reports, and what a browser carries:
  who is signed in, and the messages shown so far.  Everything that a request
  does to the state is a list of `Change`s, so what a request can touch is
  read off its changes.
-/
import CodeAudit.Data.Value
import CodeAudit.Site.Moment
import CodeAudit.Site.Upload

namespace CodeAudit.Site

open CodeAudit.Data

/-! ## §1. Records. -/

/-- A user of the site. -/
structure User where
  id : Nat
  name : String
  password : String
  deriving DecidableEq

/-- A project that was handed in. -/
structure Project where
  id : Nat
  /-- The user it belongs to. -/
  owner : Nat
  name : String
  submitted : Moment
  /-- Whether it has been audited. -/
  completed : Bool
  /-- What is kept about it; null at first. -/
  report : Value
  /-- The file that is being looked at. -/
  current : Option String
  files : List StoredFile

/-- A visitor who is signed in, up to a point in time. -/
structure Session where
  user : Nat
  ends : Nat
  deriving DecidableEq

/-- The state of the site, with the browser that it is seen through. -/
structure State where
  users : List User
  projects : List Project
  /-- The number of the next project; numbers are not used again. -/
  nextProject : Nat
  /-- The key of the next stored file. -/
  nextFile : Nat
  session : Option Session
  messages : List String
  now : Moment

/-- A site without users and projects. -/
def State.empty (now : Moment) : State := ⟨[], [], 1, 1, none, [], now⟩

/-! ## §2. Looking. -/

namespace State

/-- The user with the given number. -/
def user? (s : State) (id : Nat) : Option User := s.users.find? (·.id == id)

/-- The user with the given name. -/
def userNamed? (s : State) (name : String) : Option User := s.users.find? (·.name == name)

/-- Whoever is signed in, unless the session is over. -/
def visitor? (s : State) : Option User :=
  match s.session with
  | none => none
  | some session => if s.now.seconds < session.ends then s.user? session.user else none

/-- The projects of a user, the newest first. -/
def projectsOf (s : State) (user : Nat) : List Project :=
  (s.projects.filter (·.owner == user)).reverse

/-- The project of a user with the given number. -/
def project? (s : State) (user id : Nat) : Option Project :=
  s.projects.find? fun p => p.owner == user && p.id == id

/-- The number of the next user. -/
def nextUser (s : State) : Nat := s.users.length + 1

end State

/-! ## §3. Changes. -/

/-- How long a visitor stays signed in: two weeks, in seconds. -/
def sessionLength : Nat := 14 * 86400

/-- Something that a request does to the state. -/
inductive Change where
  /-- A new user. -/
  | addUser (name password : String)
  /-- A new project of a user, with files. -/
  | addProject (owner : Nat) (name : String) (files : List SentFile)
  /-- A file of a project is looked at, or none any more. -/
  | setCurrent (project : Nat) (file : Option String)
  /-- A report on a project is kept, in place of the one before. -/
  | setReport (project : Nat) (report : Value)
  /-- A project has been audited. -/
  | complete (project : Nat)
  /-- A user signs in. -/
  | signIn (user : Nat)
  /-- Whoever is signed in is so no longer. -/
  | signOut
  /-- A message for the visitor. -/
  | tell (message : String)

namespace State

/-- Change the project with the given number. -/
def edit (s : State) (id : Nat) (f : Project → Project) : State :=
  { s with projects := s.projects.map fun p => if p.id == id then f p else p }

/-- Add a project with the next number. -/
def add (s : State) (p : Project) : State :=
  { s with projects := s.projects ++ [{ p with id := s.nextProject, submitted := s.now }]
           nextProject := s.nextProject + 1
           nextFile := s.nextFile + p.files.length }

/-- What a change does. -/
def apply (s : State) : Change → State
  | .addUser name password => { s with users := s.users ++ [⟨s.nextUser, name, password⟩] }
  | .addProject owner name files =>
      s.add ⟨s.nextProject, owner, name, s.now, false, .null, none,
        storeFiles owner s.nextFile files⟩
  | .setCurrent id file => s.edit id fun p => { p with current := file }
  | .setReport id report => s.edit id fun p => { p with report := report }
  | .complete id => s.edit id fun p => { p with completed := true }
  | .signIn user => { s with session := some ⟨user, s.now.seconds + sessionLength⟩ }
  | .signOut => { s with session := none }
  | .tell message => { s with messages := s.messages ++ [message] }

/-- What changes do, one after the other. -/
def applyAll (s : State) (changes : List Change) : State := changes.foldl apply s

/-- Remove a project. -/
def remove (s : State) (id : Nat) : State :=
  { s with projects := s.projects.filter (·.id != id) }

/-- A browser without memory: nobody is signed in, and no messages are shown. -/
def forget (s : State) : State := { s with session := none, messages := [] }

end State

end CodeAudit.Site
