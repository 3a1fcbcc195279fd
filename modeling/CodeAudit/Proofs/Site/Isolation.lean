/-
  CodeAudit.Proofs.Site.Isolation
  ───────────────────────────────
  **USERS ARE KEPT APART.**

  All users share one site, and each sees and changes only what is theirs.
  What a request writes goes through a project that was looked up among those
  of the visitor; what it reads of the projects is the list of the visitor's
  own.  So others cannot be disturbed, and what others have cannot be seen.

    • `Effect.projectsOf` — a request leaves the projects of others,
    • `respond_hidden` — a number of somebody else's project is as good as
      none,
    • `respond_alike` — what a visitor sees depends on the visitor's own,
    • `World.answer_elsewhere` — so it is not disturbed by a run of others,
    • `visitors_isolated` — all of it, in every world that calls lead to.
-/
import CodeAudit.Proofs.Site.Effects

namespace CodeAudit.Site

open CodeAudit.Data CodeAudit.Audit

/-! ## §1. Writing. -/

/-- A map that leaves what a test selects, and makes nothing that it selects. -/
theorem filter_map_of_fixed {α : Type} {q : α → Bool} {g : α → α} {xs : List α}
    (hkept : ∀ x ∈ xs, q x = true → g x = x) (hother : ∀ x ∈ xs, q x = false → q (g x) = false) :
    (xs.map g).filter q = xs.filter q := by
  induction xs with
  | nil => rfl
  | cons x rest ih =>
      have hrest := ih (fun y hy => hkept y (List.mem_cons_of_mem _ hy))
        (fun y hy => hother y (List.mem_cons_of_mem _ hy))
      rw [List.map_cons, List.filter_cons, List.filter_cons, hrest]
      cases hx : q x with
      | true => rw [hkept x List.mem_cons_self hx, hx]
      | false =>
          rw [hother x List.mem_cons_self hx]
          rfl

section

variable {services : Surroundings} {r : Request} {s t : State}

/-- Editing a project leaves the projects of other owners. -/
theorem Orderly.projectsOf_edit (h : Orderly s) {p : Project} (hp : p ∈ s.projects)
    {f : Project → Project} (hf : (f p).owner = p.owner) {owner : Nat} (hne : p.owner ≠ owner) :
    (s.edit p.id f).projectsOf owner = s.projectsOf owner := by
  unfold State.projectsOf State.edit
  congr 1
  refine filter_map_of_fixed ?_ ?_
  · intro x hx howner
    have hid : x.id ≠ p.id := by
      intro hid
      rw [h.eq_of_id hx hp hid] at howner
      exact hne (by simpa using howner)
    simp [hid]
  · intro x hx howner
    by_cases hid : x.id = p.id
    · rw [h.eq_of_id hx hp hid]
      simpa [hf] using hne
    · simpa [hid] using howner

/-- **A request leaves the projects of everybody but the visitor**, with their
reports and their files: none is changed, made or removed. -/
theorem Effect.projectsOf (he : Effect services r s t) (h : Orderly s) {owner : Nat}
    (hother : s.visitor?.map (·.id) ≠ some owner) : t.projectsOf owner = s.projectsOf owner := by
  cases he with
  | session session => rfl
  | account name password session => rfl
  | @submission visitor a hvisitor haccepted =>
      have hne : (visitor.id == owner) = false := by simpa [hvisitor] using hother
      have hnew : [s.handedIn visitor.id a].filter (fun p => p.owner == owner) = [] :=
        List.filter_cons_of_neg (by simp [State.handedIn, hne])
      show ((s.projects ++ [s.handedIn visitor.id a]).filter fun p => p.owner == owner).reverse = _
      rw [List.filter_append, hnew, List.append_nil]
      rfl
  | @audit visitor p waited hvisitor hp hopen =>
      obtain ⟨hmem, howner, -⟩ := State.project?_some hp
      have hne : p.owner ≠ owner := by simpa [hvisitor, howner] using hother
      exact h.projectsOf_edit hmem rfl hne
  | @tests visitor p hvisitor hp hroute =>
      obtain ⟨hmem, howner, -⟩ := State.project?_some hp
      have hne : p.owner ≠ owner := by simpa [hvisitor, howner] using hother
      exact h.projectsOf_edit hmem rfl hne

/-- Without a visitor no project is touched. -/
theorem Effect.projects_of_anonymous (he : Effect services r s t) (hnone : s.visitor? = none) :
    t.projects = s.projects := by
  cases he with
  | session session => rfl
  | account name password session => rfl
  | submission hvisitor _ => rw [hnone] at hvisitor; cases hvisitor
  | audit _ hvisitor _ _ => rw [hnone] at hvisitor; cases hvisitor
  | tests hvisitor _ _ => rw [hnone] at hvisitor; cases hvisitor

/-- Users stay who they are. -/
theorem Effect.user? (he : Effect services r s t) {id : Nat} {u : User}
    (hu : s.user? id = some u) : t.user? id = some u := by
  cases he with
  | session session => exact hu
  | account name password session =>
      show (s.users ++ [_]).find? _ = some u
      rw [List.find?_append, show s.users.find? (·.id == id) = some u from hu]
      rfl
  | submission _ _ => exact hu
  | audit _ _ _ _ => exact hu
  | tests _ _ _ => exact hu

end

/-! ## §2. Reading. -/

section

variable (services : Surroundings) (s : State) (r : Request)

/-- **A number under which the visitor has no project is refused**, in the same way
whatever the page. -/
theorem respond_hidden {route : Route} {id : Nat} {visitor : User}
    (hroute : Route.ofPath? r.address.path = some route) (hproject : route.project? = some id)
    (hvisitor : s.visitor? = some visitor) (hnone : s.project? visitor.id id = none) :
    respond services s r = .only (.failure .noProject) := by
  rw [respond_project services s r hroute hproject hvisitor]
  unfold withProject
  rw [hnone]

/-- A project is found among the projects of its owner. -/
theorem State.project?_eq (owner id : Nat) :
    s.project? owner id = (s.projectsOf owner).reverse.find? (·.id == id) := by
  unfold State.project? State.projectsOf
  rw [List.reverse_reverse, List.find?_filter]
  simp only [Bool.decide_and, Bool.decide_eq_true]

/-- **What a visitor sees depends on the visitor's own projects only**: on the list of
them at home, and on the project that a page is about. -/
theorem respond_alike {t : State} {route : Route} {visitor : User}
    (hroute : Route.ofPath? r.address.path = some route)
    (howned : route = .home ∨ route.project?.isSome)
    (hs : s.visitor? = some visitor) (ht : t.visitor? = some visitor)
    (hsame : t.projectsOf visitor.id = s.projectsOf visitor.id) :
    respond services t r = respond services s r := by
  rcases howned with rfl | hsome
  · rw [respond_visit services s r hroute rfl hs, respond_visit services t r hroute rfl ht]
    show home t visitor r.address = home s visitor r.address
    unfold home
    rw [hsame]
  · obtain ⟨id, hproject⟩ := Option.isSome_iff_exists.mp hsome
    rw [respond_project services s r hroute hproject hs,
      respond_project services t r hroute hproject ht]
    unfold withProject
    rw [State.project?_eq, State.project?_eq, hsame]

end

/-! ## §3. Runs of others. -/

namespace World

/-- Calls from other browsers, made by others or by nobody. -/
def Elsewhere (w : World) (browser user : Nat) : List Call → Prop
  | [] => True
  | c :: rest =>
      c.browser ≠ browser ∧ (w.visitor? c).map (·.id) ≠ some user
        ∧ (w.step c).Elsewhere browser user rest

/-- Step: a call from another browser leaves a visitor signed in. -/
theorem visitor?_step {w : World} {c d : Call} {u : User} (hd : d.browser ≠ c.browser)
    (hu : w.visitor? c = some u) : (w.step d).visitor? c = some u := by
  have hbrowser : (w.step d).browsers c.browser = w.browsers c.browser :=
    Function.update_of_ne (Ne.symm hd) _ _
  unfold visitor? State.visitor? at hu ⊢
  have hsession : ((w.step d).seen c).session = (w.seen c).session := by
    show ((w.step d).browsers c.browser).session = _
    rw [hbrowser]
    rfl
  rw [hsession]
  cases hs : (w.seen c).session with
  | none => rw [hs] at hu; cases hu
  | some session =>
      rw [hs] at hu
      simp only at hu ⊢
      -- The time is that of the call, so only the users might have changed.
      split at hu
      · rename_i htime
        have hlater : ((w.step d).seen c).now.seconds < session.ends := htime
        rw [if_pos hlater]
        exact (w.effect_step d).user? hu
      · cases hu

/-- **Run: what others do elsewhere leaves a visitor signed in, and the visitor's
projects as they are.** -/
theorem run_elsewhere {w : World} (h : Orderly w.site) {c : Call} {u : User}
    (hu : w.visitor? c = some u) {calls : List Call} (hcalls : w.Elsewhere c.browser u.id calls) :
    (w.run calls).visitor? c = some u ∧
      (w.run calls).site.projectsOf u.id = w.site.projectsOf u.id := by
  induction calls generalizing w with
  | nil => exact ⟨hu, rfl⟩
  | cons d rest ih =>
      obtain ⟨hbrowser, hother, hrest⟩ := hcalls
      obtain ⟨hvisitor, hprojects⟩ := ih (orderly_step h d) (visitor?_step hbrowser hu) hrest
      rw [run_cons]
      refine ⟨hvisitor, ?_⟩
      rw [hprojects]
      exact (w.effect_step d).projectsOf (orderly_seen h d) hother

/-- What happens elsewhere leaves the answers to a visitor. -/
theorem answer_elsewhere {w : World} (h : Orderly w.site) {c : Call} {u : User} {route : Route}
    (hu : w.visitor? c = some u) (hroute : c.route? = some route)
    (howned : route = .home ∨ route.project?.isSome) {calls : List Call}
    (hcalls : w.Elsewhere c.browser u.id calls) : (w.run calls).answer c = w.answer c := by
  obtain ⟨hvisitor, hprojects⟩ := run_elsewhere h hu hcalls
  exact respond_alike c.services (w.seen c) c.request hroute howned hu hvisitor hprojects

end World

/-! ## §4. Isolation. -/

/-- Users are kept apart in a world, whatever is called for next. -/
structure Isolated (w : World) : Prop where
  /-- A user is known by a number. -/
  numbered : (w.site.users.map (·.id)).Nodup
  /-- No project, report or file of anybody but the visitor is changed, made or
  removed. -/
  others : ∀ (c : Call) (owner : Nat), (w.visitor? c).map (·.id) ≠ some owner →
    (w.step c).site.projectsOf owner = w.site.projectsOf owner
  /-- Without a visitor, a page that needs one leads to the page for signing in, and
  no project is touched. -/
  anonymous : ∀ (c : Call) (route : Route), w.visitor? c = none → c.route? = some route →
    route.isPrivate = true →
      (∃ here, (w.answer c).response = .redirect false (Route.login.path ++ "?next=" ++ here)) ∧
        (w.step c).site.projects = w.site.projects
  /-- The number of another's project is refused as one that no project has, and
  nothing changes. -/
  refused : ∀ (c : Call) (u : User) (route : Route) (id : Nat), w.visitor? c = some u →
    c.route? = some route → route.project? = some id →
    (∃ p ∈ w.site.projects, p.id = id ∧ p.owner ≠ u.id) ∨ (∀ p ∈ w.site.projects, p.id ≠ id) →
      w.answer c = .only (.failure .noProject) ∧ w.afterwards c = w.seen c
  /-- Two worlds in which a visitor has the same projects answer the visitor alike. -/
  alike : ∀ (v : World) (c d : Call) (u : User) (route : Route),
    w.visitor? c = some u → v.visitor? d = some u →
    v.site.projectsOf u.id = w.site.projectsOf u.id →
    d.request = c.request → d.services = c.services → c.route? = some route →
    route = .home ∨ route.project?.isSome → v.answer d = w.answer c
  /-- What others do elsewhere meanwhile is not seen in the answers. -/
  undisturbed : ∀ (c : Call) (u : User) (route : Route) (calls : List Call),
    w.visitor? c = some u → c.route? = some route → route = .home ∨ route.project?.isSome →
    w.Elsewhere c.browser u.id calls → (w.run calls).answer c = w.answer c

/-- The number of another's project finds nothing. -/
theorem Orderly.project?_foreign {s : State} (h : Orderly s) {p : Project} (hp : p ∈ s.projects)
    {owner : Nat} (hne : p.owner ≠ owner) : s.project? owner p.id = none := by
  refine List.find?_eq_none.mpr fun q hq hfound => ?_
  simp only [Bool.and_eq_true, beq_iff_eq] at hfound
  rw [h.eq_of_id hq hp hfound.2] at hfound
  exact hne hfound.1

/-- **In every world that calls lead to, users are kept apart.** -/
theorem visitors_isolated (now : Moment) (calls : List Call) :
    Isolated ((World.start now).run calls) := by
  have horderly := World.orderly_run now calls
  generalize (World.start now).run calls = w at horderly ⊢
  refine ⟨horderly.nodup_users, ?_, ?_, ?_, ?_, ?_⟩
  · intro c owner hother
    exact (w.effect_step c).projectsOf (World.orderly_seen horderly c) hother
  · intro c route hnone hroute hprivate
    have hanswer : w.answer c = askToSignIn c.request.address :=
      respond_anonymous c.services _ c.request hroute hprivate hnone
    rw [hanswer]
    exact ⟨⟨_, rfl⟩, (w.effect_step c).projects_of_anonymous hnone⟩
  · intro c u route id hu hroute hproject hid
    have hnone : (w.seen c).project? u.id id = none := by
      rcases hid with ⟨p, hp, rfl, hne⟩ | hnobody
      · exact (World.orderly_seen horderly c).project?_foreign hp hne
      · exact List.find?_eq_none.mpr fun p hp hfound => by
          simp only [Bool.and_eq_true, beq_iff_eq] at hfound
          exact hnobody p hp hfound.2
    have hanswer : w.answer c = .only (.failure .noProject) :=
      respond_hidden c.services _ c.request hroute hproject hu hnone
    refine ⟨hanswer, ?_⟩
    unfold World.afterwards
    rw [hanswer]
    rfl
  · intro v c d u route hu hv hsame hrequest hservices hroute howned
    unfold World.answer
    rw [hrequest, hservices]
    exact respond_alike c.services (w.seen c) c.request hroute howned hu hv hsame
  · intro c u route calls hu hroute howned helsewhere
    exact World.answer_elsewhere horderly hu hroute howned helsewhere

/-- Two visitors open accounts, and the first hands in a project. -/
def twoVisitorsRun : List Call :=
  [.signUp 0 "ann", .handIn 0 [⟨"a.py", [0x31]⟩], .signUp 1 "bob"]

/-- The second visitor is refused the project of the first, which is there. -/
theorem visitors_isolated_refused :
    ∃ p ∈ ((World.start openingTime).run twoVisitorsRun).site.projects, p.id = 1 ∧ p.owner = 1 ∧
      (((World.start openingTime).run twoVisitorsRun).visitor? (.visit 1 "/view_report/1/")).map
        (·.id) = some 2 ∧
      ((World.start openingTime).run twoVisitorsRun).answer (.visit 1 "/view_report/1/")
        = .only (.failure .noProject) := by
  have hprojects : ((World.start openingTime).run twoVisitorsRun).site.projects.map
      (fun p => (p.id, p.owner)) = [(1, 1)] := by decide +kernel
  have hvisitor : (((World.start openingTime).run twoVisitorsRun).visitor?
      (.visit 1 "/view_report/1/")).map (·.id) = some 2 := by decide +kernel
  have hroute : (Call.visit 1 "/view_report/1/").route? = some (.report 1) := by decide +kernel
  obtain ⟨p, hp, hfields⟩ := exists_of_only hprojects
  simp only [Prod.mk.injEq] at hfields
  obtain ⟨hid, howner⟩ := hfields
  obtain ⟨u, hu, huser⟩ := Option.map_eq_some_iff.mp hvisitor
  have hforeign : p.owner ≠ u.id := by
    rw [howner, huser]
    decide
  exact ⟨p, hp, hid, howner, hvisitor, ((visitors_isolated openingTime twoVisitorsRun).refused _ u _
    1 hu hroute rfl (.inl ⟨p, hp, hid, hforeign⟩)).1⟩

end CodeAudit.Site
