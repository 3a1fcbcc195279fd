/-
  CodeAudit.Proofs.Site.Traffic
  ─────────────────────────────
  **MANY BROWSERS AT ONE SITE.**

  A state shows the site through one browser.  Here any number of browsers
  take turns: each carries who is signed in there and what it was told, and
  all of them share the users, the projects and the files.  A call is a
  request with what it does not choose itself: the browser it comes from, the
  time, what the services reply meanwhile, and how the disk lists files.

    • `World.step` — one call is answered,
    • `World.run` — calls are answered one after the other,
    • `World.run_keeps` — what every call keeps is kept by every run,
    • `respond_visit`, `respond_project`, `respond_anonymous` — the answer to a
      request for a page that needs a visitor.
-/
import CodeAudit.Site.Respond
import Mathlib.Logic.Function.Basic

namespace CodeAudit.Site

open CodeAudit.Audit

/-! ## §1. Worlds. -/

/-- What a browser carries from one request to the next. -/
structure Browser where
  session : Option Session
  messages : List String

/-- The site, and the browsers that visit it.  Of `site`, the session, the messages
and the time are those of the last request. -/
structure World where
  site : State
  browsers : Nat → Browser

/-- A request with its circumstances. -/
structure Call where
  /-- The browser that it comes from. -/
  browser : Nat
  now : Moment
  /-- What the services reply while it is answered, and how files are listed. -/
  services : Surroundings
  request : Request

/-- The page that a call asks for. -/
def Call.route? (c : Call) : Option Route := Route.ofPath? c.request.address.path

namespace World

/-- A site without users and projects, and browsers in which nobody is signed in. -/
def start (now : Moment) : World := ⟨.empty now, fun _ => ⟨none, []⟩⟩

/-- The site as the browser of a call sees it. -/
def seen (w : World) (c : Call) : State :=
  { w.site with
    session := (w.browsers c.browser).session
    messages := (w.browsers c.browser).messages
    now := c.now }

/-- Who makes a call, if somebody is signed in. -/
def visitor? (w : World) (c : Call) : Option User := (w.seen c).visitor?

/-- What comes of a call. -/
def answer (w : World) (c : Call) : Outcome := respond c.services (w.seen c) c.request

/-- The state after a call, as its browser sees it. -/
def afterwards (w : World) (c : Call) : State := (w.seen c).after (w.answer c)

/-- The world after a call. -/
def step (w : World) (c : Call) : World where
  site := w.afterwards c
  browsers := Function.update w.browsers c.browser
    ⟨(w.afterwards c).session, (w.afterwards c).messages⟩

/-- The world after calls, one after the other. -/
def run (w : World) (calls : List Call) : World := calls.foldl step w

/-! ## §2. Runs. -/

@[simp] theorem run_nil (w : World) : w.run [] = w := rfl

@[simp] theorem run_cons (w : World) (c : Call) (rest : List Call) :
    w.run (c :: rest) = (w.step c).run rest := rfl

theorem run_append (w : World) (calls more : List Call) :
    w.run (calls ++ more) = (w.run calls).run more := by
  unfold run
  rw [List.foldl_append]

/-- **What every call keeps, every run keeps**, where `Q` is what is known of the
calls. -/
theorem run_keeps {P : World → Prop} {Q : Call → Prop}
    (hstep : ∀ w c, Q c → P w → P (w.step c)) {w : World} (hw : P w) {calls : List Call}
    (hcalls : ∀ c ∈ calls, Q c) : P (w.run calls) := by
  induction calls generalizing w with
  | nil => exact hw
  | cons c rest ih =>
      obtain ⟨hc, hrest⟩ := List.forall_mem_cons.mp hcalls
      rw [run_cons]
      exact ih (hstep w c hc hw) hrest

end World

/-! ## §3. Pages that need a visitor. -/

namespace Route

/-- The number of the project that a page is about. -/
def project? : Route → Option Nat
  | analyze n | report n | status n | tests n | results n | download n => some n
  | _ => none

/-- What a page about a project makes of it. -/
def view (services : Surroundings) : Route → Project → Outcome
  | analyze _ => Site.analyze services
  | report _ => showReport
  | status _ => showStatus
  | tests _ => writeTests services
  | results _ => wait services
  | download _ => Site.download
  | _ => fun _ => .only .unknown

/-- A page about a project needs a visitor. -/
theorem isPrivate_of_project {route : Route} {id : Nat} (h : route.project? = some id) :
    route.isPrivate = true := by
  cases route with
  | home | upload | register | login | logout => cases h
  | _ => rfl

end Route

section

variable (services : Surroundings) (s : State) (r : Request)

/-- A page that a visitor who is signed in asks for. -/
theorem respond_visit {route : Route} {visitor : User}
    (hroute : Route.ofPath? r.address.path = some route) (hprivate : route.isPrivate = true)
    (hvisitor : s.visitor? = some visitor) :
    respond services s r = visit services s visitor r route := by
  unfold respond
  rw [hroute]
  show respondAt services s r route = _
  cases route with
  | register | login | logout => cases hprivate
  | _ =>
      unfold respondAt
      rw [hvisitor]

/-- A page about a project shows the one that is found among the visitor's own, and
looks at nothing else. -/
theorem respond_project {route : Route} {id : Nat} {visitor : User}
    (hroute : Route.ofPath? r.address.path = some route) (hproject : route.project? = some id)
    (hvisitor : s.visitor? = some visitor) :
    respond services s r = withProject s visitor id (route.view services) := by
  rw [respond_visit services s r hroute (Route.isPrivate_of_project hproject) hvisitor]
  cases route with
  | home | upload | register | login | logout => cases hproject
  | _ =>
      cases hproject
      rfl

/-- A page that needs a visitor, asked for by nobody. -/
theorem respond_anonymous {route : Route} (hroute : Route.ofPath? r.address.path = some route)
    (hprivate : route.isPrivate = true) (hnone : s.visitor? = none) :
    respond services s r = askToSignIn r.address := by
  unfold respond
  rw [hroute]
  show respondAt services s r route = _
  cases route with
  | register | login | logout => cases hprivate
  | _ =>
      unfold respondAt
      rw [hnone]

end

/-! ## §4. Plain calls. -/

/-- The time of plain calls. -/
def openingTime : Moment := ⟨2024, 1, 2, 3, 4, 5⟩

namespace Call

/-- A call at that time, while no service can be reached and files are listed as they
were written. -/
def offline (browser : Nat) (method : Method) (target : String) (fields : List (String × String))
    (files : List SentFile) : Call where
  browser := browser
  now := openingTime
  services := ⟨⟨fun _ => .fails "", .absent, .fails "", .fails ""⟩, .asWritten⟩
  request := ⟨method, "localhost", .read target, fields, files⟩

/-- A page is asked for. -/
def visit (browser : Nat) (target : String) : Call := offline browser .get target [] []

/-- An account is asked for. -/
def signUp (browser : Nat) (name : String) : Call :=
  offline browser .post "/register/"
    [("username", name), ("password1", "open sesame"), ("password2", "open sesame")] []

/-- A project is handed in. -/
def handIn (browser : Nat) (files : List SentFile) : Call :=
  offline browser .post "/upload/" [("project_name", "p"), ("action", "analysis")] files

end Call

/-- What is shown of the only project is shown of one that is there. -/
theorem exists_of_only {α : Type} {projects : List Project} {shown : Project → α} {a : α}
    (h : projects.map shown = [a]) : ∃ p ∈ projects, shown p = a := by
  refine List.mem_map.mp ?_
  rw [h]
  exact List.mem_singleton_self a

end CodeAudit.Site
